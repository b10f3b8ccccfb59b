import BookmarkViews.Field
import BookmarkViews.Proofs.Text.Trimming
import Mathlib.Data.List.Basic

/-!
Paths and their texts.

A path that was read has segments without dots, so its text tells it from others
(`FieldPath.text_inj`). A `Plain` path, whose segments have no blank either, is read back from
its text (`FieldPath.read?_text`), and what is read of a text without blanks is plain.
-/

namespace BookmarkViews

/-- The characters of a joined text are those of its pieces and of what stands between. -/
theorem forall_mem_intercalate {P : Char → Prop} {between : List Char} {pieces : List (List Char)}
    (inBetween : ∀ c ∈ between, P c) (inPieces : ∀ piece ∈ pieces, ∀ c ∈ piece, P c) :
    ∀ c ∈ between.intercalate pieces, P c := by
  induction pieces with
  | nil => simp
  | cons piece rest ih =>
    obtain ⟨first, later⟩ := List.forall_mem_cons.mp inPieces
    cases rest with
    | nil => simpa using first
    | cons next rest =>
      rw [List.intercalate_cons_cons]
      intro c mem
      rcases List.mem_append.mp mem with mem | mem
      · rcases List.mem_append.mp mem with mem | mem
        · exact first c mem
        · exact inBetween c mem
      · exact ih later c mem

namespace FieldPath

variable {p q : FieldPath} {text text' : String}

/-- Blanks around the text of a path do not count. -/
theorem read?_trimmed (text : String) : read? (Text.trimmed text) = read? text := by
  simp only [read?, Text.trimmed, String.toList_ofList, Text.trim_trim]

/-- What the segments of a path are that was read: the trimmed pieces between the dots, none
of them empty. -/
theorem segments_of_read? (read : read? text = .ok p) :
    p.segments = ((Text.trim text.toList).splitOn '.').map
        (fun part => String.ofList (Text.trim part)) ∧ ∀ segment ∈ p.segments, segment ≠ "" := by
  unfold read? at read
  dsimp only at read
  split_ifs at read with _ filled
  split at read
  · next head inner segments =>
    obtain rfl := Except.ok.inj read
    refine ⟨segments.symm, fun segment mem empty => filled ?_⟩
    rw [segments]
    exact List.any_eq_true.mpr ⟨segment, mem, String.isEmpty_iff.mpr empty⟩
  · exact nomatch read

/-- No segment of a path that was read has a dot. -/
theorem notMem_of_read? (read : read? text = .ok p) :
    ∀ segment ∈ p.segments, '.' ∉ segment.toList := by
  rw [(segments_of_read? read).1]
  refine List.forall_mem_map.mpr fun part cut dot => ?_
  rw [String.toList_ofList] at dot
  rw [List.splitOn_eq_splitOnP] at cut
  have other := Text.not_of_mem_splitOnP cut '.' ((Text.trim_sublist part).subset dot)
  exact nomatch other

theorem toList_text (p : FieldPath) :
    p.text.toList = ['.'].intercalate (p.segments.map String.toList) := by
  rw [text, String.toList_intercalate]
  rfl

/-- The text of a path is cut into its segments again. -/
theorem splitOn_text (noDot : ∀ segment ∈ p.segments, '.' ∉ segment.toList) :
    p.text.toList.splitOn '.' = p.segments.map String.toList := by
  rw [toList_text]
  exact List.splitOn_intercalate '.' (List.forall_mem_map.mpr noDot) (List.cons_ne_nil _ _)

/-- Paths that were read have columns of their own. -/
theorem text_inj (read : read? text = .ok p) (read' : read? text' = .ok q)
    (same : p.text = q.text) : p = q := by
  have segments : p.segments.map String.toList = q.segments.map String.toList := by
    rw [← splitOn_text (notMem_of_read? read), ← splitOn_text (notMem_of_read? read'), same]
  obtain ⟨head, inner⟩ := p
  obtain ⟨head', inner'⟩ := q
  have injective : Function.Injective String.toList := fun _ _ => String.toList_inj.mp
  obtain ⟨rfl, rfl⟩ := List.cons.inj (injective.list_map segments)
  rfl

/-! ### Plain paths -/

/-- A path of one word: no segment is empty or has a blank, a comma or a dot. -/
def Plain (p : FieldPath) : Prop :=
  ∀ segment ∈ p.segments, segment ≠ "" ∧
    ∀ c ∈ segment.toList, Text.isBlank c = false ∧ c ≠ ',' ∧ c ≠ '.'

instance : DecidablePred Plain := fun p =>
  decidable_of_iff (p.segments.all fun segment => !segment.isEmpty &&
    segment.toList.all fun c => !Text.isBlank c && c != ',' && c != '.') <| by
    simp [Plain, and_assoc]

theorem Plain.notMem_dot (plain : p.Plain) : ∀ segment ∈ p.segments, '.' ∉ segment.toList :=
  fun segment mem dot => ((plain segment mem).2 '.' dot).2.2 rfl

/-- The text of a plain path is one word without commas. -/
theorem Plain.forall_mem_text (plain : p.Plain) :
    ∀ c ∈ p.text.toList, Text.isBlank c = false ∧ c ≠ ',' := by
  rw [toList_text]
  apply forall_mem_intercalate
  · intro c mem
    rw [List.mem_singleton.mp mem]
    exact ⟨rfl, by decide⟩
  · intro piece listed c inside
    obtain ⟨segment, mem, rfl⟩ := List.mem_map.mp listed
    obtain ⟨-, each⟩ := plain segment mem
    exact ⟨(each c inside).1, (each c inside).2.1⟩

theorem Plain.text_ne_nil (plain : p.Plain) : p.text.toList ≠ [] := by
  intro empty
  have pieces := splitOn_text plain.notMem_dot
  rw [empty, segments, List.map_cons] at pieces
  have head := (List.cons.inj pieces).1
  exact (plain p.head List.mem_cons_self).1 (String.toList_eq_nil_iff.mp head.symm)

/-- **A plain path is read from its own text.** -/
theorem Plain.read?_text (plain : p.Plain) : read? p.text = .ok p := by
  have solid : Text.Solid p.text.toList := fun c mem => (plain.forall_mem_text c mem).1
  have segments : (p.text.toList.splitOn '.').map (fun part => String.ofList (Text.trim part)) =
      p.segments := by
    rw [splitOn_text plain.notMem_dot, List.map_map]
    refine (List.map_congr_left fun segment mem => ?_).trans (List.map_id _)
    have solid : Text.Solid segment.toList := fun c inside => ((plain segment mem).2 c inside).1
    rw [Function.comp_apply, (Text.tight_of_solid solid).trim_eq, String.ofList_toList, id]
  have filled : p.segments.any String.isEmpty = false := by
    apply List.any_eq_false.mpr
    intro segment mem empty
    exact (plain segment mem).1 (String.isEmpty_iff.mp empty)
  unfold read?
  dsimp only
  rw [(Text.tight_of_solid solid).trim_eq, segments, filled,
    if_neg (by simpa using plain.text_ne_nil)]
  rfl

/-- What is read of a word without commas is plain. -/
theorem plain_of_read? (read : read? text = .ok p) (solid : Text.Solid text.toList)
    (noComma : ',' ∉ text.toList) : p.Plain := by
  obtain ⟨segments, filled⟩ := segments_of_read? read
  intro segment mem
  refine ⟨filled segment mem, fun c inside => ?_⟩
  have noDot : c ≠ '.' := by
    rintro rfl
    exact notMem_of_read? read segment mem inside
  rw [segments] at mem
  obtain ⟨part, cut, rfl⟩ := List.mem_map.mp mem
  rw [String.toList_ofList] at inside
  have inPart : c ∈ part := (Text.trim_sublist part).subset inside
  rw [List.splitOn_eq_splitOnP] at cut
  have whole : c ∈ text.toList :=
    (Text.trim_sublist text.toList).subset ((Text.sublist_of_mem_splitOnP cut).subset inPart)
  refine ⟨solid c whole, ?_, noDot⟩
  rintro rfl
  exact noComma whole

end FieldPath

end BookmarkViews
