import BookmarkViews.Proofs.Param.Filling

/-!
What a template becomes.

`Template.Fills` says it without a scan: outside the slots the text is kept, and in the
place of every slot stands the text of the value that is bound to its name. The text of a
value belongs to what the template becomes and not to what is still to be read, so slots
in it stay as they are.

* `Template.mapM_fillPiece?_eq_ok_iff`: gaps are kept, and slots become the texts of their values;
* `Template.fill?_eq_ok_iff`: the scan does what `Fills` says, for any number of slots;
* `Node.fillText?_of_fills`: so does a document value, when its text is more than one slot.
-/

namespace BookmarkViews

variable {params : Params}

namespace Template

variable {start : Nat} {cs : List Char} {slots : List Slot} {gaps : List (List Char)}

/-- What a template becomes. -/
inductive Fills (params : Params) : List Char → List Char → Prop where
  /-- A text in which no slot opens is kept. -/
  | closed {cs : List Char} (closed : Closed cs) : Fills params cs cs
  /-- In the place of a first slot stands the text of its value; the rest of the template
  becomes what it becomes by itself. -/
  | slot {lead inside rest filled : List Char} {name : String} {v : Value}
    (first : First lead) (names : Names inside name) (bound : Keyed.get? params name = some v)
    (behind : Fills params rest filled) :
    Fills params (lead ++ '\x7b' :: '\x7b' :: (inside ++ '\x7d' :: '\x7d' :: rest))
      (lead ++ v.inlineChars ++ filled)

/-! ### The scan does it -/

theorem bound?_eq_ok_iff {name : String} {v : Value} :
    bound? params name = .ok v ↔ Keyed.get? params name = some v := by
  rw [bound?]
  cases Keyed.get? params name <;> simp

theorem bound?_eq_error_iff {name : String} {fault : Fault} :
    bound? params name = .error fault ↔
      Keyed.get? params name = none ∧ fault = .unknownParameter name := by
  rw [bound?]
  cases Keyed.get? params name <;> simp [eq_comm]

/-- The values of the parameters that slots name. -/
def values? (params : Params) (slots : List Slot) : Option (List Value) :=
  slots.mapM fun slot => Keyed.get? params slot.name

theorem values?_cons_eq_some_iff {slot : Slot} {values : List Value} :
    values? params (slot :: slots) = some values ↔
      ∃ v rest, Keyed.get? params slot.name = some v ∧ values? params slots = some rest ∧
        v :: rest = values := by
  simp only [values?, List.mapM_cons, bind, Option.bind_eq_some_iff, pure, Option.some.injEq]
  constructor
  · rintro ⟨v, bound, rest, later, rfl⟩
    exact ⟨v, rest, bound, later, rfl⟩
  · rintro ⟨v, rest, bound, later, rfl⟩
    exact ⟨v, bound, rest, later, rfl⟩

/-- Gaps are kept, and between them stand the texts of the values. -/
theorem mapM_fillPiece?_eq_ok_iff (stand : Stand start cs slots gaps) {texts : List (List Char)} :
    (piecesOf gaps slots).mapM (fillPiece? params) = .ok texts ↔
      ∃ values, values? params slots = some values ∧
        byTurns gaps (values.map Value.inlineChars) = texts := by
  induction stand generalizing texts with
  | @closed _ cs =>
    simp [piecesOf, byTurns, values?, fillPiece?, bind, Except.bind, pure, Except.pure]
  | @slot _ lead inside _ name slots gaps _ _ _ ih =>
    have pieces (opened closed : Nat) : piecesOf (lead :: gaps) (⟨opened, closed, name⟩ :: slots) =
        .text lead :: .slot name :: piecesOf gaps slots := rfl
    rw [pieces]
    constructor
    · intro filled
      obtain ⟨_, _, kept, others, rfl⟩ := List.forall₂_cons_left_iff.mp (mapM_eq_ok_iff.mp filled)
      obtain rfl := Except.ok.inj kept
      obtain ⟨_, texts, value, later, rfl⟩ := List.forall₂_cons_left_iff.mp others
      obtain ⟨v, bound, rfl⟩ := map_eq_ok_iff.mp value
      obtain ⟨values, rest, rfl⟩ := ih.mp (mapM_eq_ok_iff.mpr later)
      exact ⟨v :: values,
        values?_cons_eq_some_iff.mpr ⟨v, values, bound?_eq_ok_iff.mp bound, rest, rfl⟩, rfl⟩
    · rintro ⟨_, found, rfl⟩
      obtain ⟨v, values, bound, rest, rfl⟩ := values?_cons_eq_some_iff.mp found
      have value : fillPiece? params (.slot name) = .ok v.inlineChars :=
        map_eq_ok_iff.mpr ⟨v, bound?_eq_ok_iff.mpr bound, rfl⟩
      have later := ih.mpr ⟨values, rest, rfl⟩
      exact mapM_eq_ok_iff.mpr (.cons rfl (.cons value (mapM_eq_ok_iff.mp later)))

/-- Filling in a text is filling in the pieces that stand in it. -/
theorem fill?_of_stand {s : String} (stand : Stand 0 s.toList slots gaps) :
    fill? params s =
      ((piecesOf gaps slots).mapM (fillPiece? params)).map fun texts =>
        String.ofList texts.flatten := by
  rw [fill?, scan?_of_stand stand]
  simp only [bind, Except.bind]
  cases (piecesOf gaps slots).mapM (fillPiece? params) <;> rfl

/-- **The gaps around the slots of a text are kept**, and between them stand the texts of the
values. -/
theorem fill?_eq_ok_iff_of_stand {s t : String} (stand : Stand 0 s.toList slots gaps) :
    fill? params s = .ok t ↔ ∃ values, values? params slots = some values ∧
      t.toList = (byTurns gaps (values.map Value.inlineChars)).flatten := by
  rw [fill?_of_stand stand, map_eq_ok_iff]
  constructor
  · rintro ⟨texts, filled, rfl⟩
    obtain ⟨values, found, rfl⟩ := (mapM_fillPiece?_eq_ok_iff stand).mp filled
    exact ⟨values, found, String.toList_ofList⟩
  · rintro ⟨values, found, chars⟩
    refine ⟨_, (mapM_fillPiece?_eq_ok_iff stand).mpr ⟨values, found, rfl⟩, ?_⟩
    rw [← chars, String.ofList_toList]

/-- A template whose slots are bound becomes what stands between and in place of them. -/
theorem fills_of_stand (stand : Stand start cs slots gaps) {values : List Value}
    (found : values? params slots = some values) :
    Fills params cs (byTurns gaps (values.map Value.inlineChars)).flatten := by
  induction stand generalizing values with
  | closed closed =>
    obtain rfl := Option.some.inj found
    simpa [byTurns] using Fills.closed closed
  | slot first names _ ih =>
    obtain ⟨v, values, bound, rest, rfl⟩ := values?_cons_eq_some_iff.mp found
    simpa [byTurns] using Fills.slot first names bound (ih rest)

/-- What a template becomes comes from the slots that stand in it. -/
theorem exists_stand_of_fills {filled : List Char} (fills : Fills params cs filled) (start : Nat) :
    ∃ slots gaps values, Stand start cs slots gaps ∧ values? params slots = some values ∧
      (byTurns gaps (values.map Value.inlineChars)).flatten = filled := by
  induction fills generalizing start with
  | @closed cs closed => exact ⟨[], [cs], [], .closed closed, rfl, by simp [byTurns]⟩
  | @slot lead inside rest filled name v first names bound _ ih =>
    obtain ⟨slots, gaps, values, stand, found, rfl⟩ :=
      ih (start + Text.byteLength (upTo lead inside))
    refine ⟨_, _, v :: values, .slot first names stand,
      values?_cons_eq_some_iff.mpr ⟨v, values, bound, found, rfl⟩, ?_⟩
    simp [byTurns]

/-- **What a template is filled in to**, for any number of slots. -/
theorem fill?_eq_ok_iff {s t : String} :
    fill? params s = .ok t ↔ Fills params s.toList t.toList := by
  constructor
  · intro filled
    obtain ⟨pieces, scanned, -⟩ := bind_eq_ok.mp filled
    obtain ⟨slots, gaps, stand, -⟩ := scan?_eq_ok_iff.mp scanned
    obtain ⟨values, found, chars⟩ := (fill?_eq_ok_iff_of_stand stand).mp filled
    rw [chars]
    exact fills_of_stand stand found
  · intro fills
    obtain ⟨slots, gaps, values, stand, found, chars⟩ := exists_stand_of_fills fills 0
    exact (fill?_eq_ok_iff_of_stand stand).mpr ⟨values, found, chars.symm⟩

/-- A text that is one slot and nothing else. -/
def IsSlot (s : String) : Prop :=
  ∃ inside name, s.toList = '\x7b' :: '\x7b' :: (inside ++ ['\x7d', '\x7d']) ∧ Names inside name

end Template

/-- A text that is more than one slot is filled in as a text. -/
theorem Node.fillText?_of_fills {s t : String} (filled : Template.Fills params s.toList t.toList)
    (more : ¬ Template.IsSlot s) : fillText? params s = .ok (.text t) := by
  have text : Template.fill? params s = .ok t := Template.fill?_eq_ok_iff.mpr filled
  obtain ⟨pieces, scanned, -⟩ := bind_eq_ok.mp text
  have notLone : ∀ name, pieces ≠ [.text [], .slot name, .text []] := by
    rintro name rfl
    obtain ⟨inside, chars, names⟩ := Template.scan?_lone_iff.mp scanned
    exact more ⟨inside, name, chars, names⟩
  refine bind_eq_ok.mpr ⟨pieces, scanned, ?_⟩
  split
  · next name => exact absurd rfl (notLone name)
  · exact bind_eq_ok.mpr ⟨t, text, rfl⟩

end BookmarkViews
