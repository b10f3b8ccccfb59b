import BookmarkViews.Text.CaseTable

/-!
Full lower-casing of a text.

Every character goes to its simple lower-case form, with two exceptions: `İ`
becomes an `i` with a combining dot, and a capital sigma at the end of a word
becomes the final form. The second makes lower-casing depend on the neighbours,
so it does not commute with taking a part of a text.
-/

namespace BookmarkViews.Text

/-- The lower-case form of one character by itself. -/
def lowerChar (c : Char) : Char :=
  if c.toNat < 0x80 then c.toLower else applyRanges lowerRanges c

/-- Whether the first character that is not skipped has case. -/
def meetsCased (cs : List Char) : Bool :=
  match cs.dropWhile (inRanges caseIgnorableRanges) with
  | [] => false
  | c :: _ => inRanges casedRanges c

/-- Lower-case a text whose preceding characters, nearest first, are `before`. -/
def lowerAfter : (before cs : List Char) → List Char
  | _, [] => []
  | before, c :: cs =>
    let out :=
      if c = 'Σ' then
        if meetsCased before && !meetsCased cs then ['ς'] else ['σ']
      else if c = 'İ' then ['i', '\u0307']
      else [lowerChar c]
    out ++ lowerAfter (c :: before) cs

/-- A text in lower case. -/
def lower (cs : List Char) : List Char :=
  lowerAfter [] cs

/-- A string in lower case. -/
def lowered (s : String) : String :=
  String.ofList (lower s.toList)

@[simp] theorem lower_nil : lower [] = [] := rfl

end BookmarkViews.Text
