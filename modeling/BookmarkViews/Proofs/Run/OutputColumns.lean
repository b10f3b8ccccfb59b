import BookmarkViews.Pattern.Standard
import BookmarkViews.Proofs.Run.GroupedRows
import BookmarkViews.Proofs.Run.Preparation
import BookmarkViews.Proofs.Value.FieldPaths
import Mathlib

/-!
Whether a grouping writes over its own columns.

A view is refused when a column that it computes has the name of another one or of a field
that it groups by (`View.check`). The count that a grouping gets when it computes nothing is
added later, with the shape, and is not compared with the fields. So the columns of a checked
view are distinct, and its rows keep the keys of their groups, unless it groups by a field
`count` and computes nothing (`View.CountsOverField`); then the added count stands in the
place of the field (`Grouping.output_columns`).
-/

namespace BookmarkViews

/-! ### Checked views -/

namespace View

/-- An aggregate without a fault has a name that is new. -/
theorem aggregateFault?_eq_none {groups seen : List String} {a : Aggregate}
    (h : aggregateFault? groups seen a = none) : a.name ∉ seen ∧ a.name ∉ groups := by
  unfold aggregateFault? at h
  split_ifs at h with _ _ repeated ofGroup
  exact ⟨by simpa using repeated, by simpa using ofGroup⟩

/-- Aggregates that pass have distinct names, none of them that of a field. -/
theorem checkAggregates_eq_ok {view : String} {groups seen : List String}
    {aggregates : List Aggregate} (h : checkAggregates view groups seen aggregates = .ok ()) :
    (aggregates.map Aggregate.name).Nodup ∧
      ∀ name ∈ aggregates.map Aggregate.name, name ∉ seen ∧ name ∉ groups := by
  induction aggregates generalizing seen with
  | nil => exact ⟨List.nodup_nil, fun name mem => nomatch mem⟩
  | cons a rest ih =>
    unfold checkAggregates at h
    split at h
    · exact nomatch h
    · next sound =>
      obtain ⟨distinct, apart⟩ := ih h
      refine ⟨List.nodup_cons.mpr ⟨fun mem => (apart _ mem).1 List.mem_cons_self, distinct⟩, ?_⟩
      refine List.forall_mem_cons.mpr ⟨aggregateFault?_eq_none sound, fun name mem => ?_⟩
      exact ⟨fun old => (apart name mem).1 (List.mem_cons_of_mem _ old), (apart name mem).2⟩

/-- Fields that pass are distinct. -/
theorem checkGroups_eq_ok {view : String} {seen fields : List FieldPath}
    (h : checkGroups view seen fields = .ok ()) : fields.Nodup ∧ ∀ g ∈ fields, g ∉ seen := by
  induction fields generalizing seen with
  | nil => exact ⟨List.nodup_nil, fun g mem => nomatch mem⟩
  | cons g rest ih =>
    unfold checkGroups at h
    split_ifs at h with old
    obtain ⟨distinct, new⟩ := ih h
    refine ⟨List.nodup_cons.mpr ⟨fun mem => new g mem List.mem_cons_self, distinct⟩, ?_⟩
    refine List.forall_mem_cons.mpr ⟨by simpa using old, fun g' mem old => ?_⟩
    exact new g' mem (List.mem_cons_of_mem _ old)

/-- A view groups by a field `count` and computes nothing but the count that is added. -/
def CountsOverField (v : View) : Prop :=
  v.compute = [] ∧ "count" ∈ v.groupBy.map FieldPath.text

variable {v : View}

/-- The columns of a checked view are distinct unless it counts over a field. -/
theorem nodup_columns_iff [PatternEngine] (checked : v.check = .ok ())
    (written : ∀ g ∈ v.groupBy, ∃ text, FieldPath.read? text = .ok g) :
    (Grouping.columns v.groupBy (Shape.effectiveCompute v)).Nodup ↔ ¬ v.CountsOverField := by
  obtain ⟨-, -, checked⟩ := bind_eq_ok.mp checked
  obtain ⟨⟨⟩, aggregates, checked⟩ := bind_eq_ok.mp checked
  obtain ⟨⟨⟩, groups, -⟩ := bind_eq_ok.mp checked
  obtain ⟨names, apart⟩ := checkAggregates_eq_ok aggregates
  have fields : (v.groupBy.map FieldPath.text).Nodup := by
    refine (checkGroups_eq_ok groups).1.map_on fun g mem g' mem' same => ?_
    obtain ⟨text, read⟩ := written g mem
    obtain ⟨text', read'⟩ := written g' mem'
    exact FieldPath.text_inj read read' same
  rw [Grouping.columns, List.nodup_append', and_iff_right fields]
  unfold Shape.effectiveCompute CountsOverField
  by_cases silent : v.compute = []
  · simp [silent, Aggregate.count]
  · rw [if_neg (by simpa using silent)]
    have disjoint : (v.groupBy.map FieldPath.text).Disjoint (v.compute.map Aggregate.name) :=
      fun name field computed => (apart name computed).2 field
    exact iff_of_true ⟨names, disjoint⟩ fun counted => silent counted.1

end View

/-- The columns that a grouping computes are those that the view asks for. -/
theorem Shape.compute_of_resolve {v : View} {shapeOf : String → Option Shape} {shape : Shape}
    (resolved : resolve v shapeOf = .ok shape) (aggregates : shape.isAggregate = true) :
    shape.compute = effectiveCompute v := by
  rw [eq_ofView_of_resolve resolved] at aggregates ⊢
  unfold ofView at aggregates ⊢
  dsimp only at aggregates ⊢
  split_ifs at aggregates ⊢
  · rfl
  · exact nomatch aggregates

namespace Grouping

open List (Forall₂)

variable {v : View} {shapeOf : String → Option Shape} {shape : Shape}

/-- A count that is added over a field takes its place. -/
theorem rowOf_countsOverField (counted : v.CountsOverField) (input : Schema)
    (g : List Value × List Row) :
    Keyed.get? (rowOf v.groupBy (Shape.effectiveCompute v) input g) "count" =
      some (.ofInt g.2.length) := by
  have compute : Shape.effectiveCompute v = [.count "count"] := by
    rw [Shape.effectiveCompute, counted.1]
    rfl
  rw [rowOf, compute, List.map_singleton, Keyed.insertAll, List.foldl_cons, List.foldl_nil,
    Keyed.get?_insert]
  exact if_pos rfl

/-- **A grouping writes over a key only where it counts over a field.** The columns of a
checked view are distinct unless it counts over a field. Then every row has the columns of
the fields, with the key of its group, and those that are computed, and rows of different
groups differ in a column of the fields. Of a view that counts over a field the column
`count` holds the sizes of the groups. -/
theorem output_columns [PatternEngine] (checked : v.check = .ok ())
    (written : ∀ g ∈ v.groupBy, ∃ text, FieldPath.read? text = .ok g)
    (resolved : Shape.resolve v shapeOf = .ok shape) (aggregates : shape.isAggregate = true) :
    ((columns v.groupBy shape.compute).Nodup ↔ ¬ v.CountsOverField) ∧
      (¬ v.CountsOverField → ∀ rows,
        Forall₂ (Summarizes v.groupBy shape.compute) (groups v.groupBy rows)
            (aggregate v.groupBy shape.compute shape.input rows) ∧
          (aggregate v.groupBy shape.compute shape.input rows).Pairwise fun row row' =>
            ∃ field ∈ v.groupBy, Keyed.get? row field.text ≠ Keyed.get? row' field.text) ∧
      (v.CountsOverField → ∀ rows,
        Forall₂ (fun g row => Keyed.get? row "count" = some (.ofInt g.2.length))
          (groups v.groupBy rows) (aggregate v.groupBy shape.compute shape.input rows)) := by
  rw [Shape.compute_of_resolve resolved aggregates]
  have distinct := v.nodup_columns_iff checked written
  refine ⟨distinct, fun apart rows => ?_, fun counted rows => ?_⟩
  · have distinct := distinct.mpr apart
    exact ⟨aggregate_summarizes distinct shape.input rows,
      pairwise_aggregate distinct shape.input rows⟩
  · rw [aggregate, List.forall₂_map_right_iff, List.forall₂_same]
    exact fun g _ => rowOf_countsOverField counted shape.input g

/-- Tags by how often they are used, with the given columns computed. -/
def bySize (compute : List Aggregate) : View :=
  { name := "sizes", source := some "labels", groupBy := [⟨"count", []⟩], compute }

/-- The shapes of the views that are known: there is one, and it lists tags. -/
def shapeOfLabels (name : String) : Option Shape :=
  if name = "labels" then some ⟨.tag, .of .tag, .of .tag, []⟩ else none

/-- The shape of tags by how often they are used, with one column computed. -/
def shapeBySize (a : Aggregate) : Shape :=
  { entity := .stats, input := .of .tag,
    output := ((Schema.of .stats).withColumn "count" (some .int)).withColumn a.name (some .int),
    compute := [a] }

/-- Three tags, two of them used as often. -/
def labels : List Row :=
  [("a", 3), ("b", 1), ("c", 3)].map fun label =>
    [("name", .text label.1), ("count", .ofInt label.2)]

open StandardPatterns

/-- A count with a name of its own leaves the sizes alone. -/
theorem output_columns_named :
    (bySize [.count "n"]).check = .ok () ∧
      FieldPath.read? "count" = .ok ⟨"count", []⟩ ∧
      Shape.resolve (bySize [.count "n"]) shapeOfLabels = .ok (shapeBySize (.count "n")) ∧
      (columns [⟨"count", []⟩] [.count "n"]).Nodup ∧
      Forall₂ (Summarizes [⟨"count", []⟩] [.count "n"]) (groups [⟨"count", []⟩] labels)
        [[("count", .ofInt 3), ("n", .ofInt 2)], [("count", .ofInt 1), ("n", .ofInt 1)]] := by
  have checked : (bySize [.count "n"]).check = .ok () := by cbv
  have read : FieldPath.read? "count" = .ok ⟨"count", []⟩ := by decide +kernel
  have resolved : Shape.resolve (bySize [.count "n"]) shapeOfLabels =
      .ok (shapeBySize (.count "n")) := by cbv
  have apart : ¬ (bySize [.count "n"]).CountsOverField :=
    fun counted => List.cons_ne_nil _ _ counted.1
  have written : ∀ g ∈ (bySize [.count "n"]).groupBy, ∃ text, FieldPath.read? text = .ok g :=
    List.forall_mem_singleton.mpr ⟨_, read⟩
  obtain ⟨distinct, summaries, -⟩ := output_columns checked written resolved rfl
  have rows : aggregate [⟨"count", []⟩] [.count "n"] (.of .tag) labels =
      [[("count", .ofInt 3), ("n", .ofInt 2)], [("count", .ofInt 1), ("n", .ofInt 1)]] := by cbv
  exact ⟨checked, read, resolved, distinct.mpr apart, rows ▸ (summaries apart labels).1⟩

/-- **The count that is added takes the place of a field of its name.** The view passes all
checks, but its columns are not distinct, and the sizes by which it groups are lost: two
groups have one row. -/
theorem count_over_field :
    (bySize []).check = .ok () ∧
      FieldPath.read? "count" = .ok ⟨"count", []⟩ ∧
      Shape.resolve (bySize []) shapeOfLabels = .ok (shapeBySize (.count "count")) ∧
      (shapeBySize (.count "count")).checkFields (bySize []) = .ok () ∧
      (shapeBySize (.count "count")).isAggregate = true ∧
      ¬ (columns (bySize []).groupBy (shapeBySize (.count "count")).compute).Nodup ∧
      (groups (bySize []).groupBy (labels.take 2)).map (·.1) = [[.ofInt 3], [.ofInt 1]] ∧
      aggregate (bySize []).groupBy (shapeBySize (.count "count")).compute
          (shapeBySize (.count "count")).input (labels.take 2) =
        [[("count", .ofInt 1)], [("count", .ofInt 1)]] := by
  exact ⟨by cbv, by decide +kernel, by cbv, by cbv, rfl, by decide, by cbv, by cbv⟩

end Grouping

end BookmarkViews
