import BookmarkViews.View.Cycles
import BookmarkViews.View.Definition
import BookmarkViews.Yaml.Reading

/-!
Registries: the views that queries may refer to, in the order they were added.

No two views of a registry have one name. Loading a document adds all of its views
or none.
-/

namespace BookmarkViews

/-- The names of views, in order. -/
def View.names (views : List View) : List String :=
  views.map View.name

/-- Views by name. -/
structure Registry where
  views : List View
  distinct : (View.names views).Nodup

namespace Registry

def empty : Registry := ⟨[], by simp [View.names]⟩

instance : Inhabited Registry := ⟨empty⟩

def names (r : Registry) : List String :=
  View.names r.views

def find? (r : Registry) (name : String) : Option View :=
  r.views.find? (·.name == name)

def contains (r : Registry) (name : String) : Bool :=
  r.views.any (·.name == name)

def size (r : Registry) : Nat :=
  r.views.length

theorem contains_iff {r : Registry} {name : String} :
    r.contains name = true ↔ name ∈ r.names := by
  simp [contains, names, View.names]

/-- A new name at the end keeps the names distinct. -/
theorem distinct_append {r : Registry} {v : View} (h : r.contains v.name = false) :
    (View.names (r.views ++ [v])).Nodup := by
  have hv : v.name ∉ r.names := fun m => by simp [contains_iff.2 m] at h
  simp only [View.names, List.map_append, List.map_cons, List.map_nil]
  rw [List.nodup_append]
  exact ⟨r.distinct, by simp, fun a ha b hb => by
    simp at hb; exact fun e => hv (by rw [← hb, ← e]; exact ha)⟩

/-- Overwriting a view keeps all names. -/
theorem names_overwrite (views : List View) (v : View) :
    View.names (views.map fun w => if w.name = v.name then v else w) = View.names views := by
  simp only [View.names, List.map_map]
  apply List.map_congr_left
  intro w _
  by_cases h : w.name = v.name <;> simp [h]

/-- Add a view under a new name. -/
def register (r : Registry) (v : View) : Except ViewError Registry :=
  if h : r.contains v.name = false then .ok ⟨r.views ++ [v], distinct_append h⟩
  else .error (.duplicate v.name)

/-- Add a view, or put it in the place of the one with its name. -/
def replace (r : Registry) (v : View) : Registry :=
  if h : r.contains v.name = false then ⟨r.views ++ [v], distinct_append h⟩
  else
    ⟨r.views.map fun w => if w.name = v.name then v else w, by
      rw [names_overwrite]; exact r.distinct⟩

/-- Take a view away. -/
def remove (r : Registry) (name : String) : Registry :=
  ⟨r.views.filter (·.name != name),
    List.Nodup.sublist (List.Sublist.map _ List.filter_sublist) r.distinct⟩

/-- The views that a registered view refers to. -/
def dependencies (r : Registry) (name : String) : List String :=
  ((r.find? name).map View.references).getD []

/-- What the views of a list refer to. -/
def referencesOf (views : List View) : ReferenceGraph :=
  views.map fun v => (v.name, v.references)

/-- The registered views on a cycle or leading to one. -/
def cycleMembers (r : Registry) : List String :=
  (referencesOf r.views).cycleMembers

/-- Check that the registered views do not refer to each other in a circle. -/
def checkCycles (r : Registry) : Except ViewError Unit :=
  if r.cycleMembers.isEmpty then .ok () else .error (.cycle r.cycleMembers)

/-! ### Loading documents -/

/-- The name of the view that a key of a document gives. -/
def viewName? (key : Node) : Except ViewError String :=
  match (key.scalarText?.map Text.trimmed).filter (!·.isEmpty) with
  | some name => .ok name
  | none => .error (.definition "<document>" .viewName)

variable [PatternEngine]

/-- Read the entries of a document after the views already read from it. -/
def readEntries? (r : Registry) (read : List View) :
    List (Node × Node) → Except ViewError (List View)
  | [] => .ok read
  | (key, definition) :: rest => do
    let name ← viewName? key
    if r.contains name || read.any (·.name == name) then .error (.duplicate name)
    let v ← View.ofNode? name definition
    readEntries? r (read ++ [v]) rest

/-- Read the views of a document. -/
def readDocument? (r : Registry) : Node → Except ViewError (List View)
  | .null => .ok []
  | .mapping entries => readEntries? r [] entries
  | _ => .error (.definition "<document>" .documentForm)

/-- The first reference of a view to a name that is not known. -/
def unknownReference? (known : List String) (v : View) : Option ViewError :=
  (v.references.find? fun name => !known.contains name).map (.unresolved v.name)

/-- Check that new views refer only to known views. -/
def checkReferences (r : Registry) (views : List View) : Except ViewError Unit :=
  match views.findSome? (unknownReference? (r.names ++ View.names views)) with
  | some e => .error e
  | none => .ok ()

/-- Check that new views close no circle. -/
def checkNewCycles (r : Registry) (views : List View) : Except ViewError Unit :=
  let members := (referencesOf (r.views ++ views)).cycleMembers
  if members.isEmpty then .ok () else .error (.cycle members)

/-- The views of a document that may be added. A strict load also refuses references
to unknown views. A document that holds nothing adds nothing. -/
def newViews? (r : Registry) (strict : Bool) : Node → Except ViewError (List View)
  | .null => .ok []
  | document => do
    let views ← readDocument? r document
    if strict then checkReferences r views
    checkNewCycles r views
    return views

/-- Add views one after another up to the first that is refused; the views before it
stay. -/
def registerAll : List View → Registry → Except ViewError Unit × Registry
  | [], r => (.ok (), r)
  | v :: rest, r =>
    match r.register v with
    | .ok r => registerAll rest r
    | .error e => (.error e, r)

/-- Load a document into a registry: the views it defines or why it is refused, and
the registry afterwards. -/
def loadInto (strict : Bool) (document : Node) (r : Registry) :
    Except ViewError (List View) × Registry :=
  match r.newViews? strict document with
  | .error e => (.error e, r)
  | .ok views =>
    match registerAll views r with
    | (.ok (), r) => (.ok views, r)
    | (.error e, r) => (.error e, r)

/-- Load a document: the views it defines, and the registry with them added. -/
def load (r : Registry) (strict : Bool) (document : Node) :
    Except ViewError (List View × Registry) :=
  match loadInto strict document r with
  | (.ok views, r) => .ok (views, r)
  | (.error e, _) => .error e

/-- Load the text of a document. -/
def loadText (r : Registry) (strict : Bool) (text : String) :
    Except ViewError (List View × Registry) :=
  match Yaml.node? text with
  | some document => r.load strict document
  | none => .error .notYaml

end Registry

end BookmarkViews
