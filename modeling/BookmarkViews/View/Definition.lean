import BookmarkViews.View.Check

/-!
Views written as document values: a mapping from clauses to their contents.

Reading has two steps. `Definition.ofNode?` sorts the entries by clause and checks
the kinds of the plain clauses; `View.ofNode?` reads the contents and checks the
view as a whole.
-/

namespace BookmarkViews

variable [PatternEngine]

/-- The clauses of a definition. -/
inductive Clause where
  | description
  | entity
  | source
  | filter
  | sort
  | limit
  | offset
  | group
  | compute
  | having
  | exclude
  | union
  | intersect
  | params
deriving DecidableEq, Repr

namespace Clause

def list : List Clause :=
  [.description, .entity, .source, .filter, .sort, .limit, .offset, .group, .compute, .having,
    .exclude, .union, .intersect, .params]

def key : Clause → String
  | .description => "description"
  | .entity => "entity"
  | .source => "from"
  | .filter => "filter"
  | .sort => "sort"
  | .limit => "limit"
  | .offset => "offset"
  | .group => "group"
  | .compute => "compute"
  | .having => "having"
  | .exclude => "exclude"
  | .union => "union"
  | .intersect => "intersect"
  | .params => "params"

/-- The other key of a clause. -/
def otherKey? : Clause → Option String
  | .source => some "base"
  | .filter => some "where"
  | .sort => some "order"
  | .group => some "group_by"
  | _ => none

/-- The clause of a key. -/
def ofKey? (key : String) : Option Clause :=
  list.find? fun c => c.key == key || c.otherKey? == some key

end Clause

/-- The clauses of one definition, their contents not read yet. -/
structure Definition where
  description : Option String := none
  entity : Option String := none
  source : Option String := none
  limit : Option Int := none
  offset : Option Int := none
  /-- The clauses whose contents are document values. -/
  contents : List (Clause × Node) := []

namespace Definition

/-- A text, or nothing for null. -/
def text? : Node → Except DefinitionFault (Option String)
  | .null => .ok none
  | n =>
    match n.untagged with
    | .text s => .ok (some s)
    | _ => .error (.wrongType (.ofNode n) "a string")

/-- An integer of 64 bits, or nothing for null. -/
def int? : Node → Except DefinitionFault (Option Int)
  | .null => .ok none
  | n =>
    match n.untagged with
    | .number (.int i) =>
      if Decimal.fits64 i then .ok (some i) else .error (.outOfRange (.ofNode n) "i64")
    | _ => .error (.wrongType (.ofNode n) "i64")

/-- The clause that a key names. -/
def clause? (key : Node) : Except DefinitionFault Clause :=
  match key.untagged with
  | .text s =>
    match Clause.ofKey? s with
    | some c => .ok c
    | none => .error (.unknownKey s)
  | _ => .error (.wrongType (.ofNode key) "field identifier")

/-- Set the content of one clause. -/
def set? (d : Definition) (value : Node) : Clause → Except DefinitionFault Definition
  | .description => (text? value).map ({ d with description := · })
  | .entity => (text? value).map ({ d with entity := · })
  | .source => (text? value).map ({ d with source := · })
  | .limit => (int? value).map ({ d with limit := · })
  | .offset => (int? value).map ({ d with offset := · })
  | c =>
    if value = .null then .ok d else .ok { d with contents := d.contents ++ [(c, value)] }

/-- Sort entries by clause; `seen` lists the clauses met before. -/
def ofEntries? (d : Definition) (seen : List Clause) :
    List (Node × Node) → Except DefinitionFault Definition
  | [] => .ok d
  | (key, value) :: rest => do
    let c ← clause? key
    if seen.contains c then .error (.repeatedKey c.key)
    let d ← d.set? value c
    ofEntries? d (c :: seen) rest

/-- The clauses of a definition. Null is a definition without clauses. -/
def ofNode? (n : Node) : Except DefinitionFault Definition :=
  match n.untagged with
  | .null => .ok {}
  | .mapping entries => ofEntries? {} [] entries
  | _ => .error (.wrongType (.ofNode n) "struct QueryDefinition")

/-- The content of a clause that is a document value. -/
def content? (d : Definition) (c : Clause) : Option Node :=
  Keyed.get? d.contents c

end Definition

/-! ### Contents of clauses -/

namespace Node

/-- The text of a scalar that is not null. -/
def scalarText? : Node → Option String
  | .text s => some s
  | .number n => some n.yamlText
  | .bool b => some (if b then "true" else "false")
  | _ => none

end Node

namespace View

/-- A text, or a list of texts; blanks around them do not count. -/
def texts? (view key : String) (n : Node) : Except ViewError (List String) :=
  let text? (n : Node) : Except ViewError String :=
    match n.scalarText? with
    | some s => .ok (Text.trimmed s)
    | none => .error (.definition view (.notTexts key))
  match n with
  | .null => .ok []
  | .sequence items => items.mapM text?
  | n => (text? n).map fun s => [s]

/-- The mappings that a clause of conditions lists. -/
def blocks? (view key : String) : Node → Except ViewError (List (List (Node × Node)))
  | .null => .ok []
  | .mapping entries => .ok [entries]
  | .sequence items => items.mapM fun
    | .mapping entries => .ok entries
    | _ => .error (.definition view (.entriesNotMappings key))
  | _ => .error (.definition view (.notMappings key))

/-- The requirement of one entry. -/
def requirement? (view : String) (entry : Node × Node) : Except ViewError Requirement :=
  let field := entry.1.scalarText?.getD entry.1.structure
  let read : Except Malformed Requirement := do
    let path ← FieldPath.read? field
    let draft ← Draft.ofNode? entry.2
    return ⟨path, draft⟩
  read.mapError (.condition view field)

/-- The requirements of a clause of conditions. -/
def requirements? (view key : String) : Option Node → Except ViewError (List Requirement)
  | none => .ok []
  | some n => do
    let blocks ← blocks? view key n
    blocks.flatten.mapM (requirement? view)

/-- The sort keys of one text. -/
def sortKeys? (view clause : String) : Except ViewError (List SortKey) :=
  (SortKey.readAll? clause).mapError (.sort view clause)

/-- The sort keys of a clause. -/
def sort? (view : String) : Option Node → Except ViewError (List SortKey)
  | none => .ok []
  | some n => do
    let clauses ← texts? view "sort" n
    let keys ← clauses.mapM (sortKeys? view)
    return keys.flatten

/-- A count of rows. -/
def count? (view key : String) (n : Int) : Except ViewError Nat :=
  if n < 0 then .error (.definition view (.negative key n)) else .ok n.toNat

/-- The parts of a text between commas that are not empty. -/
def commaParts (s : String) : List String :=
  ParamType.commaItems s

/-- The fields of a grouping. -/
def groupBy? (view : String) : Option Node → Except ViewError (List FieldPath)
  | none => .ok []
  | some n => do
    let fields ← texts? view "group" n
    (fields.flatMap commaParts).mapM fun field =>
      (FieldPath.read? field).mapError fun m => .definition view (.groupField m)

/-- The aggregate of a text, with a name of its own or the default one. -/
def aggregate? (view : String) (name : Option String) (text : String) :
    Except ViewError Aggregate := do
  let (fn, field) ← (Aggregate.read? text).mapError fun fault =>
    .compute view text (.unreadable fault)
  return ⟨name.getD (Aggregate.defaultName fn field), fn, field⟩

/-- The text of a part of a compute clause. -/
def computeText? (view : String) (n : Node) : Except ViewError String :=
  match n.scalarText? with
  | some s => .ok s
  | none => .error (.compute view n.structure .notText)

/-- The aggregate of an entry. -/
def namedAggregate? (view : String) (entry : Node × Node) : Except ViewError Aggregate := do
  let name ← computeText? view entry.1
  let text ← computeText? view entry.2
  aggregate? view (some name) text

/-- The aggregate of an item of a list. -/
def aggregateItem? (view : String) : Node → Except ViewError Aggregate
  | .text s => aggregate? view none s
  | .mapping [entry] => namedAggregate? view entry
  | n => .error (.compute view n.structure .notText)

/-- The aggregates of a clause. -/
def compute? (view : String) : Option Node → Except ViewError (List Aggregate)
  | none | some .null => .ok []
  | some (.text s) => (commaParts s).mapM (aggregate? view none)
  | some (.mapping entries) => entries.mapM (namedAggregate? view)
  | some (.sequence items) => items.mapM (aggregateItem? view)
  | some n => .error (.compute view n.structure .notText)

/-- The names of views in a clause. -/
def references? (view key : String) : Option Node → Except ViewError (List String)
  | none => .ok []
  | some n => texts? view key n

end View

/-! ### Declarations of parameters -/

namespace ParamSpec

/-- A declaration under construction. -/
structure Declared where
  type : Option ParamType := none
  default : Option Value := none
  description : Option String := none
  choices : List String := []

/-- The type that a node names. -/
def type? (n : Node) : Except DeclarationFault ParamType :=
  match n.untagged.text? with
  | none => .error .typeNotText
  | some s =>
    match ParamType.ofName? s with
    | some type => .ok type
    | none => .error (.unknownType s)

/-- The choices that a node lists. -/
def choices? : Node → Except DeclarationFault (List String)
  | .sequence items => items.mapM fun n =>
    match n.scalarText? with
    | some s => .ok s
    | none => .error .choicesNotScalars
  | _ => .error .choicesNotList

/-- The value of a default. -/
def default? (n : Node) : Except DeclarationFault Value :=
  n.toValue?.mapError .unnamedKey

/-- Add one entry of a declaration. -/
def addEntry? (d : Declared) (entry : Node × Node) : Except DeclarationFault Declared :=
  match entry.1.untagged.text?.getD "" with
  | "type" => (type? entry.2).map ({ d with type := some · })
  | "default" => (default? entry.2).map ({ d with default := some · })
  | "description" => .ok { d with description := entry.2.scalarText? }
  | "choices" => (choices? entry.2).map ({ d with choices := · })
  | other => .error (.unknownKey other)

/-- The declaration with the type that was given or that the default shows. -/
def ofDeclared (d : Declared) : ParamSpec :=
  { type := d.type.getD ((d.default.map ParamType.ofDefault).getD .text)
    default := d.default
    description := d.description
    choices := d.choices }

/-- The declaration that a document value writes: the name of a type, a default,
or a mapping of both and more. -/
def ofNode? : Node → Except DeclarationFault ParamSpec
  | .null => .ok (required .text)
  | .text s =>
    match ParamType.ofName? s with
    | some type => .ok (required type)
    | none => .ok (withDefault (.text s))
  | .mapping entries => (entries.foldlM addEntry? {}).map ofDeclared
  | n => (default? n).map withDefault

end ParamSpec

namespace View

/-- The declaration of one entry. -/
def param? (view : String) (entry : Node × Node) : Except ViewError (String × ParamSpec) :=
  match entry.1.scalarText? with
  | none => .error (.param view "?" .namesNotTexts)
  | some name =>
    match ParamSpec.ofNode? entry.2 with
    | .ok spec => .ok (name, spec)
    | .error fault => .error (.param view name fault)

/-- The declarations of a clause. -/
def params? (view : String) : Option Node → Except ViewError (List (String × ParamSpec))
  | none | some .null => .ok []
  | some (.sequence items) => do
    let names ← items.mapM fun n =>
      match n.scalarText? with
      | some name => .ok name
      | none => .error (.param view "?" .entriesNotNames)
    return Keyed.ofEntries (names.map fun name => (name, ParamSpec.required .text))
  | some (.mapping entries) => (entries.mapM (param? view)).map Keyed.ofEntries
  | some _ => .error (.param view "?" .form)

/-! ### Whole definitions -/

/-- The entity that a definition names. -/
def entity? (view : String) : Option String → Except ViewError (Option Entity)
  | none => .ok none
  | some s =>
    match Entity.ofName? s with
    | some e => .ok (some e)
    | none => .error (.unknownEntity view s)

/-- The entity and the source of a definition. The last part tells whether the
entity was given as the source alone. -/
def source? (view : String) (d : Definition) (entity : Option Entity) :
    Except ViewError (Option Entity × Option String × Bool) :=
  match d.source with
  | none => .ok (entity, none, false)
  | some s =>
    match Entity.ofName? s with
    | some e =>
      if entity.any (· != e) then .error (.definition view (.fromConflict s (d.entity.getD "")))
      else .ok (some e, none, d.entity.isNone)
    | none =>
      let name := Text.trimmed s
      if name.isEmpty then .error (.definition view .emptyFrom)
      else .ok (entity, some name, false)

/-- Bookmarks named as the source of statistics are rows to read, not the result. -/
def settleEntity (fromSource : Bool) (v : View) : View :=
  if fromSource && v.entity = some .bookmark && v.isAggregate then { v with entity := none } else v

/-- The view of the clauses of a definition. -/
def ofDefinition? (name : String) (d : Definition) : Except ViewError View := do
  let named ← entity? name d.entity
  let (entity, source, fromSource) ← source? name d named
  let filters ← requirements? name "filter" (d.content? .filter)
  let having ← requirements? name "having" (d.content? .having)
  let exclude ← requirements? name "exclude" (d.content? .exclude)
  let sort ← sort? name (d.content? .sort)
  let limit ← d.limit.mapM (count? name "limit")
  let offset ← d.offset.mapM (count? name "offset")
  let groupBy ← groupBy? name (d.content? .group)
  let compute ← compute? name (d.content? .compute)
  let union ← references? name "union" (d.content? .union)
  let intersect ← references? name "intersect" (d.content? .intersect)
  let params ← params? name (d.content? .params)
  let v : View :=
    { name, description := d.description, entity, source, filters, sort, limit
      offset := offset.getD 0, groupBy, compute, having, exclude, union, intersect, params }
  (v.settleEntity fromSource).checked?

/-- The view of a name that a document value defines. -/
def ofNode? (name : String) (n : Node) : Except ViewError View := do
  let d ← (Definition.ofNode? n).mapError (.definition name)
  ofDefinition? name d

end View

end BookmarkViews
