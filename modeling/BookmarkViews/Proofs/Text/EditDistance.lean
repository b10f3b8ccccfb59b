import BookmarkViews.Text.EditDistance
import Mathlib.Data.List.Infix
import Mathlib.Data.List.TakeDrop
import Mathlib.Order.Bounds.Basic
import Mathlib.Order.MinMax
import Mathlib.Order.Nat

/-!
The edit distance is the least number of edits.

An edit inserts one character, deletes one or puts one in the place of another, anywhere in
a text (`Edit`), and `Edits n` makes `n` of them one after another. The laws of a distance
hold of such sequences at once: they can be undone and put one behind the other.

Between the rows and the sequences stands `gap`, the minimum over what becomes of the first
characters of two texts. An edit changes it by one at most (`gap_le_of_edit`), so no
sequence is shorter than it. Row `i` holds it for every leading part of the second text, the
parts read backwards because rows grow at their ends (`rowOf_eq`).
-/

namespace BookmarkViews.Text

/-! ### Edits -/

/-- One character inserted, deleted or put in the place of another. -/
inductive Edit : List Char → List Char → Prop where
  | insert (lead rest : List Char) (c : Char) : Edit (lead ++ rest) (lead ++ c :: rest)
  | delete (lead rest : List Char) (c : Char) : Edit (lead ++ c :: rest) (lead ++ rest)
  | substitute (lead rest : List Char) (c d : Char) : Edit (lead ++ c :: rest) (lead ++ d :: rest)

/-- So many edits, one after another. -/
inductive Edits : Nat → List Char → List Char → Prop where
  | none (a : List Char) : Edits 0 a a
  | step {n : Nat} {a b c : List Char} (first : Edit a b) (rest : Edits n b c) : Edits (n + 1) a c

variable {a b c : List Char} {m n : Nat}

namespace Edit

theorem symm (h : Edit a b) : Edit b a := by
  cases h with
  | insert lead rest c => exact .delete lead rest c
  | delete lead rest c => exact .insert lead rest c
  | substitute lead rest c d => exact .substitute lead rest d c

theorem cons (c : Char) (h : Edit a b) : Edit (c :: a) (c :: b) := by
  cases h with
  | insert lead rest d => exact .insert (c :: lead) rest d
  | delete lead rest d => exact .delete (c :: lead) rest d
  | substitute lead rest d e => exact .substitute (c :: lead) rest d e

theorem reverse (h : Edit a b) : Edit a.reverse b.reverse := by
  cases h with
  | insert lead rest c => simpa using Edit.insert rest.reverse lead.reverse c
  | delete lead rest c => simpa using Edit.delete rest.reverse lead.reverse c
  | substitute lead rest c d => simpa using Edit.substitute rest.reverse lead.reverse c d

end Edit

namespace Edits

theorem trans (h : Edits m a b) (h' : Edits n b c) : Edits (m + n) a c := by
  induction h with
  | none a => simpa using h'
  | step first _ ih =>
    rw [Nat.add_right_comm]
    exact .step first (ih h')

theorem single (h : Edit a b) : Edits 1 a b :=
  .step h (.none b)

theorem symm (h : Edits n a b) : Edits n b a := by
  induction h with
  | none a => exact .none a
  | step first _ ih => exact ih.trans (single first.symm)

theorem cons (d : Char) (h : Edits n a b) : Edits n (d :: a) (d :: b) := by
  induction h with
  | none a => exact .none (d :: a)
  | step first _ ih => exact .step (first.cons d) ih

theorem reverse (h : Edits n a b) : Edits n a.reverse b.reverse := by
  induction h with
  | none a => exact .none a.reverse
  | step first _ ih => exact .step first.reverse ih

theorem reverse_iff : Edits n a.reverse b.reverse ↔ Edits n a b := by
  refine ⟨fun h => ?_, reverse⟩
  have back := h.reverse
  rwa [List.reverse_reverse, List.reverse_reverse] at back

theorem zero_iff : Edits 0 a b ↔ a = b := by
  constructor
  · intro h
    cases h
    rfl
  · rintro rfl
    exact .none a

/-- A text is made character by character. -/
theorem ofNil (b : List Char) : Edits b.length [] b := by
  induction b with
  | nil => exact .none []
  | cons d b ih => exact .step (.insert [] [] d) (ih.cons d)

end Edits

/-! ### The least number -/

/-- The least cost over what becomes of the first characters. -/
def gap : List Char → List Char → Nat
  | [], b => b.length
  | c :: a, [] => (c :: a).length
  | c :: a, d :: b =>
    min (min (gap a b + if c = d then 0 else 1) (gap a (d :: b) + 1)) (gap (c :: a) b + 1)
termination_by a b => a.length + b.length

theorem gap_nil_left (b : List Char) : gap [] b = b.length := by
  rw [gap]

theorem gap_nil_right (a : List Char) : gap a [] = a.length := by
  cases a with
  | nil => rw [gap]
  | cons c a => rw [gap]

theorem gap_cons (c d : Char) (a b : List Char) :
    gap (c :: a) (d :: b) =
      min (min (gap a b + if c = d then 0 else 1) (gap a (d :: b) + 1)) (gap (c :: a) b + 1) := by
  rw [gap]

theorem gap_self (a : List Char) : gap a a = 0 := by
  induction a with
  | nil => rw [gap_nil_left, List.length_nil]
  | cons c a ih => simp [gap_cons, ih]

/-- There are that many edits. -/
theorem edits_gap (a b : List Char) : Edits (gap a b) a b := by
  fun_induction gap a b with
  | case1 b => exact .ofNil b
  | case2 c a => exact (Edits.ofNil (c :: a)).symm
  | case3 c a d b kept deleted inserted =>
    have keep : Edits (gap a b + if c = d then 0 else 1) (c :: a) (d :: b) := by
      split_ifs with same
      · subst same
        exact kept.cons c
      · exact (kept.cons c).trans (.single (.substitute [] b c d))
    have delete : Edits (gap a (d :: b) + 1) (c :: a) (d :: b) := .step (.delete [] a c) deleted
    have insert : Edits (gap (c :: a) b + 1) (c :: a) (d :: b) :=
      inserted.trans (.single (.insert [] b d))
    rcases min_choice (min (gap a b + if c = d then 0 else 1) (gap a (d :: b) + 1))
      (gap (c :: a) b + 1) with least | least <;> rw [least]
    · rcases min_choice (gap a b + if c = d then 0 else 1)
        (gap a (d :: b) + 1) with least | least <;> rw [least]
      · exact keep
      · exact delete
    · exact insert

/-! #### No fewer edits

What the first text loses or gains in front changes the cost by one at most, and so does
what it loses or gains behind a common character. -/

theorem gap_cons_right_le (d : Char) (a b : List Char) : gap a (d :: b) ≤ gap a b + 1 := by
  cases a with
  | nil => simp [gap_nil_left]
  | cons c a =>
    rw [gap_cons]
    exact min_le_right _ _

theorem gap_cons_left_le (c : Char) (a b : List Char) : gap (c :: a) b ≤ gap a b + 1 := by
  cases b with
  | nil => simp [gap_nil_right]
  | cons d b =>
    rw [gap_cons]
    exact (min_le_left _ _).trans (min_le_right _ _)

theorem gap_le_cons_left (c : Char) (a b : List Char) : gap a b ≤ gap (c :: a) b + 1 := by
  induction b with
  | nil =>
    rw [gap_nil_right, gap_nil_right, List.length_cons]
    omega
  | cons d b ih =>
    have longer := gap_cons_right_le d a b
    rw [gap_cons]
    omega

theorem gap_substitute_le (c d : Char) (a b : List Char) : gap (c :: a) b ≤ gap (d :: a) b + 1 := by
  induction b with
  | nil =>
    rw [gap_nil_right, gap_nil_right, List.length_cons, List.length_cons]
    omega
  | cons e b ih =>
    rw [gap_cons, gap_cons]
    split_ifs <;> omega

/-- A common character in front does not make a difference larger. -/
theorem gap_cons_le_of_le {a b : List Char} (near : ∀ c, gap a c ≤ gap b c + 1) (d : Char)
    (c : List Char) : gap (d :: a) c ≤ gap (d :: b) c + 1 := by
  induction c with
  | nil =>
    have short := near []
    rw [gap_nil_right, gap_nil_right] at short ⊢
    simpa using short
  | cons e c ih =>
    have kept := near c
    have deleted := near (e :: c)
    rw [gap_cons, gap_cons]
    omega

theorem gap_append_le {a b : List Char} (near : ∀ c, gap a c ≤ gap b c + 1) (lead c : List Char) :
    gap (lead ++ a) c ≤ gap (lead ++ b) c + 1 := by
  induction lead generalizing c with
  | nil => exact near c
  | cons d lead ih => exact gap_cons_le_of_le ih d c

/-- **An edit changes the cost by one at most.** -/
theorem gap_le_of_edit (h : Edit a b) (c : List Char) : gap a c ≤ gap b c + 1 := by
  cases h with
  | insert lead rest d => exact gap_append_le (gap_le_cons_left d rest) lead c
  | delete lead rest d => exact gap_append_le (gap_cons_left_le d rest) lead c
  | substitute lead rest d e => exact gap_append_le (gap_substitute_le d e rest) lead c

theorem gap_le_of_edits (h : Edits n a b) : gap a b ≤ n := by
  induction h with
  | none a => rw [gap_self]
  | step first _ ih => exact (gap_le_of_edit first _).trans (Nat.add_le_add_right ih 1)

/-- **The cost is the least number of edits.** -/
theorem isLeast_gap (a b : List Char) : IsLeast {n | Edits n a b} (gap a b) :=
  ⟨edits_gap a b, fun _ => gap_le_of_edits⟩

/-! ### Rows -/

/-- The row after the characters of `a`. -/
def rowAfter (a b : List Char) : List Nat :=
  a.foldl (fun row c => nextRow c b row) (List.range (b.length + 1))

/-- The costs of `r` against `met` and against what `met` becomes with the characters of
`other` put in front, one after another. -/
def gaps (r : List Char) : (met other : List Char) → List Nat
  | met, [] => [gap r met]
  | met, d :: other => gap r met :: gaps r (d :: met) other

section Rows

variable (r met other : List Char)

theorem gaps_eq_cons : gaps r met other = gap r met :: (gaps r met other).tail := by
  cases other <;> rfl

theorem gaps_nil : gaps [] met other = List.range' met.length (other.length + 1) := by
  induction other generalizing met with
  | nil => simp [gaps, gap_nil_left]
  | cons d other ih => 
    rw [gaps, ih, gap_nil_left, List.length_cons, List.length_cons, ← List.range'_succ]

/-- The entries of the next row are the costs with one character more. -/
theorem nextEntries_gaps (c : Char) :
    nextEntries c (gap (c :: r) met) other (gaps r met other) = (gaps (c :: r) met other).tail := by
  induction other generalizing met with
  | nil => rfl
  | cons d other ih =>
    rw [gaps, gaps_eq_cons r (d :: met) other]
    rw [nextEntries, ← gap_cons, ← gaps_eq_cons, ih, gaps, List.tail_cons, ← gaps_eq_cons]

theorem nextRow_gaps (c : Char) (b : List Char) :
    nextRow c b (gaps r [] b) = gaps (c :: r) [] b := by
  have first : (gaps r [] b).headD 0 + 1 = gap (c :: r) [] := by
    rw [gaps_eq_cons, List.headD_cons, gap_nil_right, gap_nil_right, List.length_cons]
  rw [nextRow, first, nextEntries_gaps, ← gaps_eq_cons]

/-- **The row after a text holds its costs against the leading parts of the other.** -/
theorem rowAfter_eq (a b : List Char) : rowAfter a b = gaps a.reverse [] b := by
  have run (r : List Char) : a.foldl (fun row c => nextRow c b row) (gaps r [] b) =
      gaps (a.reverse ++ r) [] b := by
    induction a generalizing r with
    | nil => rfl
    | cons c a ih =>
      rw [List.foldl_cons, nextRow_gaps, ih, List.reverse_cons, List.append_assoc,
        List.singleton_append]
  rw [rowAfter, List.range_eq_range', ← List.length_nil, ← gaps_nil, run, List.append_nil]

theorem gaps_eq_map_inits :
    gaps r met other = other.inits.map fun lead => gap r (lead.reverse ++ met) := by
  induction other generalizing met with
  | nil => rfl
  | cons d other ih =>
    rw [gaps, ih, List.inits_cons, List.map_cons, List.map_map]
    simp

theorem getLastD_gaps : (gaps r met other).getLastD 0 = gap r (other.reverse ++ met) := by
  induction other generalizing met with
  | nil => rfl
  | cons d other ih =>
    rw [gaps, List.getLastD_cons, gaps_eq_cons, List.getLastD_cons]
    have last := ih (d :: met)
    rw [gaps_eq_cons, List.getLastD_cons] at last
    rw [last, List.reverse_cons, List.append_assoc, List.singleton_append]

end Rows

/-! ### The distance -/

theorem editDistance_eq_gap (a b : List Char) : editDistance a b = gap a.reverse b.reverse := by
  rw [show editDistance a b = (rowAfter a b).getLastD 0 from rfl, rowAfter_eq, getLastD_gaps,
    List.append_nil]

theorem isLeast_editDistance (a b : List Char) : IsLeast {n | Edits n a b} (editDistance a b) := by
  have least := isLeast_gap a.reverse b.reverse
  simpa only [Edits.reverse_iff, ← editDistance_eq_gap] using least

theorem rowAfter_eq_map_inits (a b : List Char) : rowAfter a b = b.inits.map (editDistance a) := by
  rw [rowAfter_eq, gaps_eq_map_inits]
  simp only [List.append_nil, ← editDistance_eq_gap]

/-- The entries of a row are found up to the length of the other text. -/
theorem getElem?_rowAfter (a : List Char) {b : List Char} {j : Nat} (inside : j ≤ b.length) :
    (rowAfter a b)[j]? = some (editDistance a (b.take j)) := by
  have bound : j < b.inits.length := by
    rw [List.length_inits]
    exact Nat.lt_succ_of_le inside
  rw [rowAfter_eq_map_inits, List.getElem?_map, List.getElem?_eq_getElem bound, List.getElem_inits,
    Option.map_some]

theorem editDistance_concat (a b : List Char) (c d : Char) :
    editDistance (a ++ [c]) (b ++ [d]) =
      min (min (editDistance a b + if c = d then 0 else 1) (editDistance a (b ++ [d]) + 1))
        (editDistance (a ++ [c]) b + 1) := by
  simp only [editDistance_eq_gap, List.reverse_append, List.reverse_singleton,
    List.singleton_append, gap_cons]

/-- **The edit distance is the least number of single-character insertions, deletions and
substitutions** that turn one text into the other. So it is a distance: symmetric, zero for
equal texts only, and no longer than the way over a third text. The row after a text holds
its distances from all leading parts of the other text, the last of them the answer, and an
entry of the next row is made of three that are there. -/
theorem editDistance_least :
    (∀ a b, IsLeast {n | Edits n a b} (editDistance a b)) ∧
      (∀ a b, editDistance a b = editDistance b a) ∧
      (∀ a b, editDistance a b = 0 ↔ a = b) ∧
      (∀ a b c, editDistance a c ≤ editDistance a b + editDistance b c) ∧
      (∀ a b, rowAfter a b = b.inits.map (editDistance a) ∧
        (rowAfter a b)[b.length]? = some (editDistance a b)) ∧
      ∀ (a : List Char) (c : Char) (b : List Char) (j : Fin b.length), ∃ diagonal up left,
        (rowAfter a b)[j.val]? = some diagonal ∧ (rowAfter a b)[j.val + 1]? = some up ∧
          (rowAfter (a ++ [c]) b)[j.val]? = some left ∧
          (rowAfter (a ++ [c]) b)[j.val + 1]? =
            some (min (min (diagonal + if c = b[j] then 0 else 1) (up + 1)) (left + 1)) := by
  refine ⟨isLeast_editDistance, ?_, ?_, ?_, ?_, ?_⟩
  · intro a b
    apply le_antisymm
    · exact (isLeast_editDistance a b).2 (isLeast_editDistance b a).1.symm
    · exact (isLeast_editDistance b a).2 (isLeast_editDistance a b).1.symm
  · intro a b
    constructor
    · intro none
      exact Edits.zero_iff.mp (none ▸ (isLeast_editDistance a b).1)
    · rintro rfl
      exact Nat.le_zero.mp ((isLeast_editDistance a a).2 (.none a))
  · intro a b c
    exact (isLeast_editDistance a c).2
      ((isLeast_editDistance a b).1.trans (isLeast_editDistance b c).1)
  · intro a b
    refine ⟨rowAfter_eq_map_inits a b, ?_⟩
    rw [getElem?_rowAfter a le_rfl, List.take_length]
  · intro a c b j
    have before : j.val ≤ b.length := j.isLt.le
    have upTo : j.val + 1 ≤ b.length := j.isLt
    refine ⟨_, _, _, getElem?_rowAfter a before, getElem?_rowAfter a upTo,
      getElem?_rowAfter (a ++ [c]) before, ?_⟩
    rw [getElem?_rowAfter (a ++ [c]) upTo, ← List.take_concat_get' b j j.isLt,
      editDistance_concat]
    rfl

example : editDistance "kitten".toList "sitting".toList = 3 := by decide

end BookmarkViews.Text
