import BookmarkViews.Fault
import BookmarkViews.Text.Bytes

/-!
Slots: where a text has places for parameters.

A slot opens with a pair of braces and is closed by the next pair of closing braces. The search
for slots works with byte positions: it looks for an opening pair in the rest of the text, for a
closing pair from there on, and goes on behind it. It has no answer where a slice would leave the
text or end within a character, or where it takes more steps than it is given; `exists_slots?`
says that neither happens.

* `slotsFrom?_closed`, `slotsFrom?_unclosed`, `slotsFrom?_misnamed`, `slotsFrom?_named`: one step
  of the search, by the first slot of the rest (`cut`);
* `slots?_eq_ok_iff`: the slots that are found are those that stand in the text (`Stand`);
* `gapsFrom?_of_stand`: the gaps around them can be sliced out.
-/

namespace BookmarkViews.Template

/-- A slot in a text: the byte at which it opens, the byte behind it and the parameter. -/
structure Slot where
  opened : Nat
  closed : Nat
  name : String
deriving DecidableEq, Repr

/-- The parameter that the inside of a slot names. -/
def slotName? (inside : List Char) : Except Fault String :=
  let key := Text.trim inside
  match Text.after? "params.".toList key with
  | some (c :: cs) => .ok (String.ofList (c :: cs))
  | _ => .error (.notAParameter (String.ofList key))

/-- The slot that opens at a byte. -/
def slotAt? (cs : List Char) (opened : Nat) : Option (Except Fault Slot) := do
  let rest ← Text.fromByte? opened cs
  match Text.firstByte? ['\x7d', '\x7d'] rest with
  | none => return .error (.unclosedSlot opened)
  | some length =>
    let closed := opened + length + 2
    let inside ← Text.slice? (opened + 2) (closed - 2) cs
    return (slotName? inside).map fun name => ⟨opened, closed, name⟩

/-- The first slot from a byte on, if there is one. -/
def nextSlot? (cs : List Char) (start : Nat) : Option (Except Fault (Option Slot)) := do
  let rest ← Text.fromByte? start cs
  match Text.firstByte? ['\x7b', '\x7b'] rest with
  | none => return .ok none
  | some before => return (← slotAt? cs (start + before)).map some

/-- The slots of a text from a byte on, when they can be found in so many steps. -/
def slotsFrom? (cs : List Char) : (steps : Nat) → (start : Nat) → Option (Except Fault (List Slot))
  | 0, _ => none
  | steps + 1, start => do
    match ← nextSlot? cs start with
    | .error fault => return .error fault
    | .ok none => return .ok []
    | .ok (some slot) => return (← slotsFrom? cs steps slot.closed).map (slot :: ·)

/-- The slots of a text. -/
def slots? (s : String) : Option (Except Fault (List Slot)) :=
  slotsFrom? s.toList (s.toList.length + 1) 0

/-- The texts in front of slots, behind a byte, and the text behind the last one. -/
def gapsFrom? (cs : List Char) (last : Nat) : List Slot → Option (List (List Char))
  | [] => do return [← Text.fromByte? last cs]
  | slot :: slots => do
    let gap ← Text.slice? last slot.opened cs
    let gaps ← gapsFrom? cs slot.closed slots
    return gap :: gaps

/-! ### The first slot -/

/-- No slot is opened in a text. -/
abbrev Closed (cs : List Char) : Prop :=
  Text.occursIn ['\x7b', '\x7b'] cs = false

/-- A slot that opens behind this text is the first one. -/
abbrev First (lead : List Char) : Prop :=
  Closed (lead ++ ['\x7b'])

/-- A slot with this inside ends behind it. -/
abbrev Inner (inside : List Char) : Prop :=
  Text.occursIn ['\x7d', '\x7d'] (inside ++ ['\x7d']) = false

/-- A text by its first slot. -/
inductive Cut : List Char → Prop where
  | closed {cs : List Char} (closed : Closed cs) : Cut cs
  | unclosed {lead cs : List Char} (first : First lead)
    (unclosed : Text.occursIn ['\x7d', '\x7d'] cs = false) : Cut (lead ++ '\x7b' :: '\x7b' :: cs)
  | slot {lead inside rest : List Char} (first : First lead) (inner : Inner inside) :
    Cut (lead ++ '\x7b' :: '\x7b' :: (inside ++ '\x7d' :: '\x7d' :: rest))

theorem cut (cs : List Char) : Cut cs := by
  by_cases opens : Text.occursIn ['\x7b', '\x7b'] cs = true
  · obtain ⟨lead, cs, rfl, first⟩ := Text.exists_first_pair opens
    by_cases closes : Text.occursIn ['\x7d', '\x7d'] cs = true
    · obtain ⟨inside, rest, rfl, inner⟩ := Text.exists_first_pair closes
      exact .slot first inner
    · exact .unclosed first (Bool.eq_false_iff.mpr closes)
  · exact .closed (Bool.eq_false_iff.mpr opens)

/-! ### Steps of the search -/

section Search

variable {lead inside rest cs : List Char} {fault : Fault}

/-- The braces around the inside of a slot have four bytes. -/
theorem byteLength_slot (inside : List Char) :
    Text.byteLength ('\x7b' :: '\x7b' :: (inside ++ ['\x7d', '\x7d'])) =
      Text.byteLength inside + 4 := by
  simp [Char.utf8Size]
  omega

/-- **A slot is closed by the first closing pair behind the opening one.** The search for it starts
at the opening braces, and these are not a part of it. -/
theorem slotAt?_closed (inner : Inner inside) (before rest : List Char) :
    slotAt? (before ++ '\x7b' :: '\x7b' :: (inside ++ '\x7d' :: '\x7d' :: rest))
        (Text.byteLength before) =
      some ((slotName? inside).map fun name =>
        ⟨Text.byteLength before, Text.byteLength before + (Text.byteLength inside + 4), name⟩) := by
  have braced : Text.byteLength ('\x7b' :: '\x7b' :: inside) = Text.byteLength inside + 2 := by
    simp [Char.utf8Size]
    omega
  have found : Text.firstByte? ['\x7d', '\x7d']
      ('\x7b' :: '\x7b' :: (inside ++ '\x7d' :: '\x7d' :: rest)) =
        some (Text.byteLength inside + 2) := by
    have inner' : Inner ('\x7b' :: '\x7b' :: inside) := by
      simpa [Inner, Text.occursIn, List.isPrefixOf] using inner
    rw [← braced, ← Text.firstByte?_pair inner' rest]
    rfl
  have sliced : Text.slice? (Text.byteLength before + 2)
      (Text.byteLength before + (Text.byteLength inside + 2))
      (before ++ '\x7b' :: '\x7b' :: (inside ++ '\x7d' :: '\x7d' :: rest)) = some inside := by
    refine Text.slice?_eq_some_iff.mpr
      ⟨before ++ ['\x7b', '\x7b'], '\x7d' :: '\x7d' :: rest, by simp, ?_, ?_⟩
    · simp [Char.utf8Size]
    · omega
  rw [slotAt?, Text.fromByte?_append]
  simp only [bind, Option.bind, found, pure]
  rw [Nat.add_sub_cancel, sliced]
  rfl

theorem slotAt?_unclosed (unclosed : Text.occursIn ['\x7d', '\x7d'] cs = false)
    (before : List Char) :
    slotAt? (before ++ '\x7b' :: '\x7b' :: cs) (Text.byteLength before) =
      some (.error (.unclosedSlot (Text.byteLength before))) := by
  have nowhere : Text.firstByte? ['\x7d', '\x7d'] ('\x7b' :: '\x7b' :: cs) = none := by
    rw [Text.firstByte?_eq_none_iff]
    simpa [Text.occursIn, List.isPrefixOf] using unclosed
  rw [slotAt?, Text.fromByte?_append]
  simp only [bind, Option.bind, nowhere, pure]

/-- No slot is next where none opens any more. -/
theorem nextSlot?_closed (closed : Closed rest) (before : List Char) :
    nextSlot? (before ++ rest) (Text.byteLength before) = some (.ok none) := by
  rw [nextSlot?, Text.fromByte?_append]
  simp only [bind, Option.bind, Text.firstByte?_eq_none_iff.mpr closed, pure]

/-- The next slot opens behind the text in which none does. -/
theorem nextSlot?_first (first : First lead) (before cs : List Char) :
    nextSlot? (before ++ (lead ++ '\x7b' :: '\x7b' :: cs)) (Text.byteLength before) =
      (slotAt? (before ++ lead ++ '\x7b' :: '\x7b' :: cs) (Text.byteLength (before ++ lead))).map
        (Except.map some) := by
  rw [nextSlot?, Text.fromByte?_append, List.append_assoc, Text.byteLength_append]
  simp only [bind, Option.bind, Text.firstByte?_pair first, pure]
  cases slotAt? _ _ <;> rfl

/-! ### The search by the first slot -/

variable {steps : Nat}

theorem slotsFrom?_closed (closed : Closed rest) (before : List Char) :
    slotsFrom? (before ++ rest) (steps + 1) (Text.byteLength before) = some (.ok []) := by
  rw [slotsFrom?, nextSlot?_closed closed]
  rfl

theorem slotsFrom?_unclosed (first : First lead)
    (unclosed : Text.occursIn ['\x7d', '\x7d'] cs = false) (before : List Char) :
    slotsFrom? (before ++ (lead ++ '\x7b' :: '\x7b' :: cs)) (steps + 1) (Text.byteLength before) =
      some (.error (.unclosedSlot (Text.byteLength (before ++ lead)))) := by
  rw [slotsFrom?, nextSlot?_first first, slotAt?_unclosed unclosed]
  rfl

theorem slotsFrom?_misnamed (first : First lead) (inner : Inner inside)
    (misnamed : slotName? inside = .error fault) (before rest : List Char) :
    slotsFrom? (before ++ (lead ++ '\x7b' :: '\x7b' :: (inside ++ '\x7d' :: '\x7d' :: rest)))
      (steps + 1) (Text.byteLength before) = some (.error fault) := by
  rw [slotsFrom?, nextSlot?_first first, slotAt?_closed inner, misnamed]
  rfl

/-- The text up to the end of a first slot. -/
abbrev upTo (lead inside : List Char) : List Char :=
  lead ++ '\x7b' :: '\x7b' :: (inside ++ ['\x7d', '\x7d'])

theorem append_upTo (before lead inside rest : List Char) :
    before ++ upTo lead inside ++ rest =
      before ++ (lead ++ '\x7b' :: '\x7b' :: (inside ++ '\x7d' :: '\x7d' :: rest)) := by
  simp

/-- **Behind a slot the search goes on.** -/
theorem slotsFrom?_named (first : First lead) (inner : Inner inside) {name : String}
    (named : slotName? inside = .ok name) (before rest : List Char) :
    slotsFrom? (before ++ (lead ++ '\x7b' :: '\x7b' :: (inside ++ '\x7d' :: '\x7d' :: rest)))
        (steps + 1) (Text.byteLength before) =
      (slotsFrom? (before ++ upTo lead inside ++ rest) steps
        (Text.byteLength (before ++ upTo lead inside))).map fun found =>
          found.map (⟨Text.byteLength (before ++ lead),
            Text.byteLength (before ++ upTo lead inside), name⟩ :: ·) := by
  have closed : Text.byteLength (before ++ lead) + (Text.byteLength inside + 4) =
      Text.byteLength (before ++ upTo lead inside) := by
    rw [← byteLength_slot, ← Text.byteLength_append, List.append_assoc]
  rw [slotsFrom?, nextSlot?_first first, slotAt?_closed inner, named, append_upTo, closed]
  simp only [Except.map, Option.map_some, bind, Option.bind, pure]
  cases slotsFrom? _ steps _ <;> rfl

/-- Every slot leaves a shorter rest. -/
theorem length_lt_of_slot (enough :
      (lead ++ '\x7b' :: '\x7b' :: (inside ++ '\x7d' :: '\x7d' :: rest)).length < steps + 1) :
    rest.length < steps := by
  simp only [List.length_append, List.length_cons] at enough
  omega

/-- **The search always has an answer**: it ends, and no slice leaves the text or ends within a
character. -/
theorem exists_slotsFrom? (before rest : List Char) (enough : rest.length < steps) :
    ∃ found, slotsFrom? (before ++ rest) steps (Text.byteLength before) = some found := by
  -- There are more steps left than characters: `before` grows by a slot, and `rest` shrinks.
  induction steps generalizing before rest with
  | zero => exact absurd enough (Nat.not_lt_zero _)
  | succ steps ih =>
    cases cut rest with
    | closed closed => exact ⟨_, slotsFrom?_closed closed before⟩
    | unclosed first unclosed => exact ⟨_, slotsFrom?_unclosed first unclosed before⟩
    | @slot lead inside rest first inner =>
      cases named : slotName? inside with
      | error fault => exact ⟨_, slotsFrom?_misnamed first inner named before rest⟩
      | ok name =>
        obtain ⟨found, later⟩ :=
          ih (before ++ upTo lead inside) rest (length_lt_of_slot enough)
        rw [slotsFrom?_named first inner named, later]
        exact ⟨_, rfl⟩

end Search

/-! ### The slots that stand in a text -/

/-- What stands inside a slot for a parameter: its name after `params.`, perhaps with
blanks around both. -/
structure Names (inside : List Char) (name : String) : Prop where
  inner : Inner inside
  trimmed : Text.trim inside = "params.".toList ++ name.toList
  nonempty : name ≠ ""

theorem slotName?_eq_ok_iff {inside : List Char} {name : String} :
    slotName? inside = .ok name ↔
      Text.trim inside = "params.".toList ++ name.toList ∧ name ≠ "" := by
  constructor
  · intro h
    unfold slotName? at h
    dsimp only at h
    split at h
    · next c cs behind =>
      obtain rfl := Except.ok.inj h
      rw [Text.after?_eq_some_iff.mp behind]
      exact ⟨by simp, by simp⟩
    · exact nomatch h
  · rintro ⟨trimmed, nonempty⟩
    obtain ⟨c, cs, chars⟩ : ∃ c cs, name.toList = c :: cs :=
      List.exists_cons_of_ne_nil (mt String.toList_eq_nil_iff.mp nonempty)
    rw [slotName?, Text.after?_eq_some_iff.mpr trimmed, chars]
    simp [← chars]

/-- Slots that stand in a text which starts at a byte, and the gaps around them: in front of every
slot, and behind the last one. -/
inductive Stand : (start : Nat) → List Char → List Slot → List (List Char) → Prop where
  | closed {start : Nat} {cs : List Char} (closed : Closed cs) : Stand start cs [] [cs]
  | slot {start : Nat} {lead inside rest : List Char} {name : String} {slots : List Slot}
    {gaps : List (List Char)} (first : First lead) (names : Names inside name)
    (behind : Stand (start + Text.byteLength (upTo lead inside)) rest slots gaps) :
    Stand start (lead ++ '\x7b' :: '\x7b' :: (inside ++ '\x7d' :: '\x7d' :: rest))
      (⟨start + Text.byteLength lead, start + Text.byteLength (upTo lead inside), name⟩ :: slots)
      (lead :: gaps)

variable {rest : List Char} {slots : List Slot} {gaps : List (List Char)}

/-- The search finds the slots that stand in the rest of the text. -/
theorem slotsFrom?_of_stand {start steps : Nat} (stand : Stand start rest slots gaps)
    (enough : rest.length < steps) (before : List Char) (here : Text.byteLength before = start) :
    slotsFrom? (before ++ rest) steps start = some (.ok slots) := by
  induction steps generalizing start rest slots gaps before with
  | zero => exact absurd enough (Nat.not_lt_zero _)
  | succ steps ih =>
    cases stand with
    | closed closed => exact here ▸ slotsFrom?_closed closed before
    | @slot _ lead inside rest name slots gaps first names behind =>
      have named := slotName?_eq_ok_iff.mpr ⟨names.trimmed, names.nonempty⟩
      have there : Text.byteLength (before ++ upTo lead inside) =
          start + Text.byteLength (upTo lead inside) := by
        rw [Text.byteLength_append, here]
      have later := ih behind (length_lt_of_slot enough) _ there
      rw [← here, slotsFrom?_named first names.inner named, there, later, Text.byteLength_append,
        here]
      rfl

/-- What the search finds stands in the rest of the text, however many steps it took. -/
theorem exists_stand_of_slotsFrom? {steps : Nat} (before : List Char)
    (found : slotsFrom? (before ++ rest) steps (Text.byteLength before) = some (.ok slots)) :
    ∃ gaps, Stand (Text.byteLength before) rest slots gaps := by
  induction steps generalizing before rest slots with
  | zero => exact nomatch found
  | succ steps ih =>
    cases cut rest with
    | closed closed =>
      rw [slotsFrom?_closed closed] at found
      obtain rfl := Except.ok.inj (Option.some.inj found)
      exact ⟨[rest], .closed closed⟩
    | unclosed first unclosed =>
      rw [slotsFrom?_unclosed first unclosed] at found
      exact nomatch found
    | @slot lead inside rest first inner =>
      cases named : slotName? inside with
      | error fault =>
        rw [slotsFrom?_misnamed first inner named] at found
        exact nomatch found
      | ok name =>
        rw [slotsFrom?_named first inner named] at found
        obtain ⟨_ | slots, later, same⟩ := Option.map_eq_some_iff.mp found
        · exact nomatch same
        · obtain rfl := Except.ok.inj same
          obtain ⟨gaps, stand⟩ := ih _ later
          obtain ⟨trimmed, nonempty⟩ := slotName?_eq_ok_iff.mp named
          rw [Text.byteLength_append] at stand
          rw [Text.byteLength_append, Text.byteLength_append]
          exact ⟨lead :: gaps, .slot first ⟨inner, trimmed, nonempty⟩ stand⟩

/-- The gaps around slots can be sliced out. -/
theorem gapsFrom?_of_stand {start : Nat} (stand : Stand start rest slots gaps)
    (before : List Char) (here : Text.byteLength before = start) :
    gapsFrom? (before ++ rest) start slots = some gaps := by
  induction stand generalizing before with
  | closed closed =>
    rw [gapsFrom?, ← here, Text.fromByte?_append]
    rfl
  | @slot start lead inside rest name slots gaps first names _ ih =>
    have gap : Text.slice? start (start + Text.byteLength lead)
        (before ++ (lead ++ '\x7b' :: '\x7b' :: (inside ++ '\x7d' :: '\x7d' :: rest))) =
          some lead :=
      Text.slice?_eq_some_iff.mpr ⟨before, _, rfl, here, rfl⟩
    have later := ih (before ++ upTo lead inside) (by rw [Text.byteLength_append, here])
    rw [append_upTo] at later
    rw [gapsFrom?, gap]
    simp only [bind, Option.bind, later, pure]

theorem exists_slots? (s : String) : ∃ found, slots? s = some found :=
  exists_slotsFrom? [] s.toList (Nat.lt_succ_self _)

/-- **The slots that are found are those that stand in the text.** -/
theorem slots?_eq_ok_iff {s : String} :
    slots? s = some (.ok slots) ↔ ∃ gaps, Stand 0 s.toList slots gaps := by
  constructor
  · exact exists_stand_of_slotsFrom? []
  · rintro ⟨gaps, stand⟩
    exact slotsFrom?_of_stand stand (Nat.lt_succ_self _) [] rfl

example : slots? "\u00e9\x7b\x7bparams.a\x7d\x7d\x7b\x7b params.b \x7d\x7d\x7d" =
    some (.ok [⟨2, 14, "a"⟩, ⟨14, 28, "b"⟩]) := by rfl

end BookmarkViews.Template
