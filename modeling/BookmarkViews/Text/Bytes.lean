import BookmarkViews.Text.Blank

/-!
Byte positions in a text.

A position counts the bytes of the UTF-8 form in front of it. A text can be cut between two
characters and at its ends, but at no other byte: `splitAtByte?` has no answer there, and neither
has a slice that starts or ends there, starts behind its end or leaves the text.

* `splitAtByte?_eq_some_iff`, `fromByte?_eq_some_iff`, `slice?_eq_some_iff`: what is cut where;
* `firstByte?_eq_none_iff`, `firstByte?_pair`: where a text occurs first;
* `eq_of_first_pair`: a text has one part in front of the first pair of a character.
-/

namespace BookmarkViews.Text

/-- Cut a text at a byte. -/
def splitAtByte? : Nat → List Char → Option (List Char × List Char)
  | 0, cs => some ([], cs)
  | _ + 1, [] => none
  | n + 1, c :: cs =>
    if c.utf8Size ≤ n + 1 then
      (splitAtByte? (n + 1 - c.utf8Size) cs).map fun (before, behind) => (c :: before, behind)
    else none

/-- The text from a byte on. -/
def fromByte? (start : Nat) (cs : List Char) : Option (List Char) :=
  (splitAtByte? start cs).map Prod.snd

/-- The text between two bytes. -/
def slice? (start stop : Nat) (cs : List Char) : Option (List Char) := do
  let behind ← fromByte? start cs
  if start ≤ stop then (splitAtByte? (stop - start) behind).map Prod.fst else none

/-- The byte at which a text occurs first. -/
def firstByte? (needle : List Char) : List Char → Option Nat
  | [] => if needle.isEmpty then some 0 else none
  | c :: cs =>
    if needle.isPrefixOf (c :: cs) then some 0
    else (firstByte? needle cs).map (c.utf8Size + ·)

variable {c : Char} {cs before behind within lead rest : List Char} {start stop : Nat}

/-! ### The number of bytes -/

@[simp] theorem byteLength_nil : byteLength [] = 0 := rfl

theorem foldl_byteLength (n : Nat) (cs : List Char) :
    cs.foldl (fun size c => size + c.utf8Size) n = n + byteLength cs := by
  rw [byteLength]
  induction cs generalizing n with
  | nil => rfl
  | cons c cs ih => rw [List.foldl_cons, List.foldl_cons, ih, ih (0 + _)]; omega

@[simp] theorem byteLength_cons (c : Char) (cs : List Char) :
    byteLength (c :: cs) = c.utf8Size + byteLength cs := by
  rw [byteLength, List.foldl_cons, foldl_byteLength]
  omega

@[simp] theorem byteLength_append (cs ds : List Char) :
    byteLength (cs ++ ds) = byteLength cs + byteLength ds := by
  rw [byteLength, List.foldl_append, foldl_byteLength]
  rfl

/-! ### Cuts -/

@[simp] theorem splitAtByte?_append (before behind : List Char) :
    splitAtByte? (byteLength before) (before ++ behind) = some (before, behind) := by
  induction before with
  | nil => rw [byteLength_nil, splitAtByte?, List.nil_append]
  | cons c before ih =>
    obtain ⟨n, size⟩ := Nat.exists_eq_add_of_le c.utf8Size_pos
    have whole : byteLength (c :: before) = n + byteLength before + 1 := by
      rw [byteLength_cons, size]
      omega
    have left : n + byteLength before + 1 - c.utf8Size = byteLength before := by omega
    rw [whole, List.cons_append, splitAtByte?, if_pos (by omega), left, ih]
    rfl

/-- **A text is cut at a byte where a part of it with so many bytes ends**, and nowhere
else. -/
theorem splitAtByte?_eq_some_iff :
    splitAtByte? start cs = some (before, behind) ↔
      cs = before ++ behind ∧ byteLength before = start := by
  constructor
  · intro h
    induction start, cs using splitAtByte?.induct generalizing before with
    | case1 cs =>
      rw [splitAtByte?] at h
      obtain ⟨rfl, rfl⟩ := Prod.mk.inj (Option.some.inj h)
      exact ⟨rfl, rfl⟩
    | case2 n => exact nomatch h
    | case3 n c cs fits ih =>
      rw [splitAtByte?, if_pos fits] at h
      obtain ⟨⟨before', behind'⟩, later, cut⟩ := Option.map_eq_some_iff.mp h
      obtain ⟨rfl, rfl⟩ := Prod.mk.inj cut
      obtain ⟨rfl, size⟩ := ih later
      exact ⟨rfl, by rw [byteLength_cons]; omega⟩
    | case4 n c cs large =>
      rw [splitAtByte?, if_neg large] at h
      exact nomatch h
  · rintro ⟨rfl, rfl⟩
    exact splitAtByte?_append before behind

theorem fromByte?_eq_some_iff :
    fromByte? start cs = some behind ↔
      ∃ before, cs = before ++ behind ∧ byteLength before = start := by
  simp only [fromByte?, Option.map_eq_some_iff, Prod.exists, exists_eq_right,
    splitAtByte?_eq_some_iff]

@[simp] theorem fromByte?_append (before behind : List Char) :
    fromByte? (byteLength before) (before ++ behind) = some behind :=
  fromByte?_eq_some_iff.mpr ⟨before, rfl, rfl⟩

/-- A slice is a part of the text. -/
theorem slice?_eq_some_iff :
    slice? start stop cs = some within ↔
      ∃ before behind, cs = before ++ (within ++ behind) ∧ byteLength before = start ∧
        stop = start + byteLength within := by
  constructor
  · intro h
    obtain ⟨rest, found, inRest⟩ := Option.bind_eq_some_iff.mp h
    obtain ⟨before, rfl, size⟩ := fromByte?_eq_some_iff.mp found
    split at inRest
    · next ordered =>
      obtain ⟨⟨_, behind⟩, cut, rfl⟩ := Option.map_eq_some_iff.mp inRest
      obtain ⟨rfl, length⟩ := splitAtByte?_eq_some_iff.mp cut
      exact ⟨before, behind, rfl, size, by rw [length]; omega⟩
    · exact nomatch inRest
  · rintro ⟨before, behind, rfl, rfl, rfl⟩
    simp [slice?]

/-! ### Where a text occurs first -/

theorem firstByte?_eq_none_iff {needle : List Char} :
    firstByte? needle cs = none ↔ occursIn needle cs = false := by
  induction cs with
  | nil => cases needle <;> simp [firstByte?, occursIn]
  | cons c cs ih =>
    rw [firstByte?, occursIn, Bool.or_eq_false_iff, ← ih]
    split
    · next here => simp [here]
    · next later => simp [later]

/-- A pair that occurs has a first occurrence. -/
theorem exists_first_pair (h : occursIn [c, c] cs = true) :
    ∃ lead rest, cs = lead ++ c :: c :: rest ∧ occursIn [c, c] (lead ++ [c]) = false := by
  induction cs with
  | nil => exact nomatch h
  | cons d cs ih =>
    by_cases here : [c, c].isPrefixOf (d :: cs) = true
    · obtain ⟨rest, split⟩ := List.isPrefixOf_iff_prefix.mp here
      exact ⟨[], rest, split.symm, by simp [occursIn, List.isPrefixOf]⟩
    · rw [occursIn, Bool.or_eq_true, or_iff_right here] at h
      obtain ⟨lead, rest, rfl, first⟩ := ih h
      refine ⟨d :: lead, rest, rfl, ?_⟩
      rw [List.cons_append, occursIn, first, Bool.or_false, ← Bool.not_eq_true]
      intro earlier
      apply here
      rw [List.isPrefixOf_iff_prefix] at earlier ⊢
      exact earlier.trans ⟨c :: rest, by simp⟩

/-- **The first pair is found behind the text in which it does not occur yet.** -/
theorem firstByte?_pair (first : occursIn [c, c] (lead ++ [c]) = false) (rest : List Char) :
    firstByte? [c, c] (lead ++ c :: c :: rest) = some (byteLength lead) := by
  induction lead with
  | nil => simp [firstByte?]
  | cons d lead ih =>
    rw [List.cons_append, occursIn, Bool.or_eq_false_iff] at first
    have later : [c, c].isPrefixOf (d :: (lead ++ c :: c :: rest)) = false := by
      cases lead <;> simpa [List.isPrefixOf] using first.1
    rw [List.cons_append, firstByte?, later, ih first.2, byteLength_cons]
    rfl

/-- The text in front of the first pair is determined, and so is what follows. -/
theorem eq_of_first_pair {lead' rest' : List Char}
    (first : occursIn [c, c] (lead ++ [c]) = false)
    (first' : occursIn [c, c] (lead' ++ [c]) = false)
    (same : lead ++ c :: c :: rest = lead' ++ c :: c :: rest') : lead = lead' ∧ rest = rest' := by
  have size : byteLength lead = byteLength lead' := by
    have found := firstByte?_pair first rest
    rw [same, firstByte?_pair first' rest'] at found
    exact (Option.some.inj found).symm
  have cut := splitAtByte?_append lead (c :: c :: rest)
  rw [same, size, splitAtByte?_append] at cut
  simpa [eq_comm] using cut

theorem occursIn_pair (c : Char) (lead rest : List Char) :
    occursIn [c, c] (lead ++ c :: c :: rest) = true := by
  induction lead with
  | nil => simp [occursIn]
  | cons d lead ih => rw [List.cons_append, occursIn, ih, Bool.or_true]

end BookmarkViews.Text
