import BookmarkViews.Param.Template
import BookmarkViews.Proofs.Sequencing
import BookmarkViews.Proofs.Text.Trimming

/-!
How a template is scanned.

The pieces of a template are the gaps around the slots that stand in it and these slots, by turns.

* `Template.scan?_eq_ok_iff`: the pieces of a text;
* `Template.scan?_of_fault`: a fault where the search for slots has one;
* `Template.scan?_lone_iff`: the texts that are one slot and nothing else.
-/

namespace BookmarkViews

namespace Template

variable {s : String} {slots : List Slot} {gaps : List (List Char)} {inside : List Char}

theorem scan?_of_fault {fault : Fault} (h : slots? s = some (.error fault)) :
    scan? s = .error fault := by
  simp only [scan?, pieces?_of_fault h, Option.get_some]

theorem scan?_of_stand (stand : Stand 0 s.toList slots gaps) :
    scan? s = .ok (piecesOf gaps slots) := by
  simp only [scan?, pieces?_of_stand stand, Option.get_some]

/-- **A text is cut into the gaps and the slots that stand in it.** -/
theorem scan?_eq_ok_iff {pieces : List Piece} :
    scan? s = .ok pieces ↔
      ∃ slots gaps, Stand 0 s.toList slots gaps ∧ piecesOf gaps slots = pieces := by
  constructor
  · intro scanned
    obtain ⟨fault | slots, found⟩ := exists_slots? s
    · rw [scan?_of_fault found] at scanned
      exact nomatch scanned
    · obtain ⟨gaps, stand⟩ := slots?_eq_ok_iff.mp found
      rw [scan?_of_stand stand] at scanned
      exact ⟨slots, gaps, stand, Except.ok.inj scanned⟩
  · rintro ⟨slots, gaps, stand, rfl⟩
    exact scan?_of_stand stand

/-- **The texts that are one slot and nothing else.** -/
theorem scan?_lone_iff {name : String} :
    scan? s = .ok [.text [], .slot name, .text []] ↔
      ∃ inside, s.toList = '\x7b' :: '\x7b' :: (inside ++ ['\x7d', '\x7d']) ∧
        Names inside name := by
  rw [scan?_eq_ok_iff]
  constructor
  · rintro ⟨slots, gaps, stand, pieces⟩
    generalize s.toList = cs at stand ⊢
    cases stand with
    | closed => exact nomatch pieces
    | @slot _ lead inside rest name' slots gaps first names behind =>
      -- What is behind the slot is one piece without a character.
      obtain ⟨rfl, rfl, last⟩ : lead = [] ∧ name' = name ∧ piecesOf gaps slots = [.text []] := by
        simpa [piecesOf, byTurns] using pieces
      cases behind with
      | closed =>
        obtain rfl : rest = [] := by simpa [piecesOf, byTurns] using last
        exact ⟨inside, rfl, names⟩
      | slot => exact nomatch last
  · rintro ⟨inside, chars, names⟩
    have stand : Stand 0 s.toList [⟨0, Text.byteLength (upTo [] inside), name⟩] [[], []] := by
      have first : First [] := rfl
      have nothing : Closed [] := rfl
      rw [chars, ← Nat.zero_add (Text.byteLength _)]
      exact .slot first names (.closed nothing)
    exact ⟨_, _, stand, rfl⟩

/-! ### The slot of a name -/

/-- The text of one slot. -/
def slotText (name : String) : String :=
  "\x7b\x7bparams." ++ name ++ "\x7d\x7d"

/-- A name that a slot can have: the slot does not end before it does, and no blank at its
end is trimmed off. -/
structure Nameable (name : String) : Prop where
  nonempty : name ≠ ""
  last : ∀ c ∈ name.toList.getLast?, Text.isBlank c = false
  unclosed : Text.occursIn ['\x7d', '\x7d'] (name.toList ++ ['\x7d']) = false

variable {name : String}

theorem Nameable.names (h : Nameable name) : Names ("params.".toList ++ name.toList) name where
  inner := by simpa [Inner, Text.occursIn, List.isPrefixOf] using h.unclosed
  trimmed := by
    have nonempty : name.toList ≠ [] := String.toList_eq_nil_iff.not.mpr h.nonempty
    apply Text.Tight.trim_eq
    constructor
    · simp [Text.isBlank]
    · rw [List.getLast?_append_of_ne_nil _ nonempty]
      exact h.last
  nonempty := h.nonempty

theorem toList_slotText (name : String) :
    (slotText name).toList =
      '\x7b' :: '\x7b' :: ("params.".toList ++ name.toList ++ ['\x7d', '\x7d']) := by
  simp [slotText]

/-- **The text of a slot is scanned as this slot** and nothing around it. -/
theorem scan?_slotText (h : Nameable name) :
    scan? (slotText name) = .ok [.text [], .slot name, .text []] :=
  scan?_lone_iff.mpr ⟨_, toList_slotText name, h.names⟩

theorem opensSlot_slotText (name : String) : opensSlot (slotText name) = true := by
  simp [opensSlot, slotText, Text.occursIn]

end Template

end BookmarkViews
