import BookmarkViews.Pattern.CharSet

/-!
Regular expressions and their matches.

`Regex.ends text r i` lists the places in `text` where a match of `r` that starts
at place `i` may end. Which match a greedy search would choose does not matter
for whether there is one, so greedy and lazy repetition are the same here.
-/

namespace BookmarkViews.Pattern

/-- A condition on a place between two characters. -/
inductive Anchor where
  | textStart
  | textEnd
  | lineStart
  | lineEnd
  | wordBoundary
  | notWordBoundary
deriving DecidableEq, Repr

inductive Regex where
  | empty
  | one (s : CharSet)
  | anchor (a : Anchor)
  | seq (r s : Regex)
  | alt (r s : Regex)
  /-- At least `least` and at most `most` times. -/
  | times (r : Regex) (least : Nat) (most : Option Nat)
deriving Repr

/-- Whether the character at a place, if there is one, passes a test. -/
def passesAt (text : Array Char) (p : Char → Bool) (i : Nat) : Bool :=
  (text[i]?).any p

/-- Whether the character before a place, if there is one, passes a test. -/
def passesBefore (text : Array Char) (p : Char → Bool) (i : Nat) : Bool :=
  i != 0 && passesAt text p (i - 1)

/-- Whether a word starts or ends at a place. -/
def isWordBoundary (text : Array Char) (i : Nat) : Bool :=
  passesBefore text CharSet.word.has i != passesAt text CharSet.word.has i

/-- Whether a condition holds at a place. -/
def Anchor.holds (text : Array Char) (i : Nat) : Anchor → Bool
  | .textStart => i == 0
  | .textEnd => i == text.size
  | .lineStart => i == 0 || passesBefore text (· == '\n') i
  | .lineEnd => i == text.size || passesAt text (· == '\n') i
  | .wordBoundary => isWordBoundary text i
  | .notWordBoundary => !isWordBoundary text i

namespace Regex

/-- Apply `step` exactly `n` times. -/
def exactly (step : List Nat → List Nat) : (n : Nat) → List Nat → List Nat
  | 0, places => places
  | n + 1, places => exactly step n (step places)

/-- Apply `step` up to `n` times and keep every place met. -/
def upTo (step : List Nat → List Nat) : (n : Nat) → List Nat → List Nat
  | 0, places => places
  | n + 1, places => upTo step n ((places ++ step places).eraseDups)

/-- The places where matches of `r` that start at `i` end. A repetition without
progress adds nothing, so no more rounds are made than there are places. -/
def ends (text : Array Char) : Regex → Nat → List Nat
  | .empty, i => [i]
  | .one s, i => if passesAt text s.has i then [i + 1] else []
  | .anchor a, i => if a.holds text i then [i] else []
  | .seq r s, i => ((ends text r i).flatMap (ends text s)).eraseDups
  | .alt r s, i => (ends text r i ++ ends text s i).eraseDups
  | .times r least most, i =>
    let step places := (places.flatMap (ends text r)).eraseDups
    let rounds := text.size + 1
    let more := (most.map (· - least)).getD rounds
    upTo step (min more rounds) (exactly step (min least rounds) [i])

/-- Whether a match stands anywhere in the text. -/
def occursIn (r : Regex) (text : List Char) : Bool :=
  let text := text.toArray
  (List.range (text.size + 1)).any fun i => !(r.ends text i).isEmpty

end Regex

end BookmarkViews.Pattern
