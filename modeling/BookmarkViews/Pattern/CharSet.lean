import BookmarkViews.Pattern.ClassTable
import BookmarkViews.Text.Blank
import BookmarkViews.Text.CaseTable

/-!
Sets of characters as patterns write them, with membership decided by `has`.
-/

namespace BookmarkViews.Pattern

inductive CharSet where
  | range (low high : Char)
  /-- The characters that differ at most in case from one of the range. -/
  | anyCase (low high : Char)
  | word
  | digit
  | blank
  | compl (s : CharSet)
  | union (s t : CharSet)
  | inter (s t : CharSet)
deriving Repr

namespace CharSet

/-- The set without characters. -/
def none : CharSet := .range '\x01' '\x00'

/-- The difference of two sets. -/
def diff (s t : CharSet) : CharSet :=
  .inter s (.compl t)

/-- The characters in exactly one of two sets. -/
def symmDiff (s t : CharSet) : CharSet :=
  .union (diff s t) (diff t s)

/-- The character that stands for all those that differ from `c` in case. -/
def folded (c : Char) : Char :=
  if c.toNat < 0x80 then c.toLower else Text.applyRanges Text.foldRanges c

/-- The code points that a range of the folding table maps to `n`. -/
def unfolded? (n : Nat) (r : Text.CaseRange) : Option Nat :=
  let m := ((n : Int) - r.shift).toNat
  if r.image? m == some n then some m else Option.none

/-- The characters that differ from `c` at most in case. -/
def cases (c : Char) : List Char :=
  let f := folded c
  f :: (Text.foldRanges.toList.filterMap (unfolded? f.toNat)).map Char.ofNat

/-- Whether a character belongs to a set. -/
def has : CharSet → Char → Bool
  | .range low high, c => low ≤ c && c ≤ high
  | .anyCase low high, c => (cases c).any fun d => low ≤ d && d ≤ high
  | .word, c => Text.inRanges wordRanges c
  | .digit, c => Text.inRanges digitRanges c
  | .blank, c => Text.isBlank c
  | .compl s, c => !s.has c
  | .union s t, c => s.has c || t.has c
  | .inter s t, c => s.has c && t.has c

@[simp] theorem has_compl (s : CharSet) (c : Char) : (CharSet.compl s).has c = !s.has c := rfl

end CharSet

end BookmarkViews.Pattern
