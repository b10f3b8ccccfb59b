import BookmarkViews.Condition.Holds
import BookmarkViews.Pattern.Standard
import BookmarkViews.Proofs.Text.LowerCase

/-!
When a part of a text is found in it.

`contains` and `starts_with` lower-case both texts whole. Both find every part without a
capital sigma at an edge. A capital sigma at an edge of the part can be lower-cased in
another way within the text; then the part is overlooked although it stands there
(`part_found_iff`).
-/

namespace BookmarkViews

namespace TextTest

open Text (SigmaTurns SigmaAtEnd SigmaAtStart)

section

variable [PatternEngine]

/-- A test holds of a text, and of every list with the text among its items. -/
def Finds (t : TextTest) (s : String) : Prop :=
  ∀ now type, Condition.holds now type (.text s) (.text t) = true ∧
    ∀ items, Value.text s ∈ items → Condition.holds now type (.list items) (.text t) = true

theorem finds_iff {t : TextTest} {s : String} : t.Finds s ↔ t.holdsOf s = true := by
  constructor
  · exact fun finds => (finds ⟨0, 0⟩ none).1
  · intro holds now type
    refine ⟨holds, fun items mem => ?_⟩
    rw [Condition.holds, Value.anyItem]
    exact List.any_eq_true.mpr ⟨.text s, mem, holds⟩

theorem finds_contains_iff {part s : String} :
    (contains part).Finds s ↔ Text.lower part.toList <:+: Text.lower s.toList := by
  rw [finds_iff, holdsOf, Text.occursIn_iff_infix]

theorem finds_startsWith_iff {part s : String} :
    (startsWith part).Finds s ↔ Text.lower part.toList <+: Text.lower s.toList := by
  rw [finds_iff, holdsOf, List.isPrefixOf_iff_prefix]

/-- **When a part is found where it stands.** `contains` finds a part at a place where none
of its capital sigmas turns, and so finds it wherever it stands exactly when it has no
capital sigma at an edge. `starts_with` finds a part at the start of a text exactly unless
the part has a capital sigma at its end and the word goes on behind it. -/
theorem part_found_iff (part : String) :
    (∀ front back : String, ¬ SigmaTurns front.toList part.toList back.toList →
        (contains part).Finds (front ++ part ++ back)) ∧
      ((∀ front back : String, (contains part).Finds (front ++ part ++ back)) ↔
        ¬ (SigmaAtEnd part.toList ∨ SigmaAtStart part.toList)) ∧
      ∀ back : String, (startsWith part).Finds (part ++ back) ↔
        ¬ (SigmaAtEnd part.toList ∧ Text.meetsCased back.toList = true) := by
  have found (front back : String)
      (still : ¬ SigmaTurns front.toList part.toList back.toList) :
      (contains part).Finds (front ++ part ++ back) := by
    rw [finds_contains_iff, String.toList_append, String.toList_append]
    exact Text.lower_infix still
  refine ⟨found, ⟨fun everywhere edge => ?_, fun inner front back => ?_⟩, fun back => ?_⟩
  · simp only [finds_contains_iff, String.toList_append] at everywhere
    rcases edge with last | first
    · exact Text.not_lower_infix_append last (by simpa using everywhere "" "Α")
    · exact Text.not_lower_infix_cons first (by simpa using everywhere "Α" "")
  · exact found front back fun turns => inner (Text.edge_of_sigmaTurns turns)
  · rw [finds_startsWith_iff, String.toList_append, Text.lower_prefix_iff, Text.sigmaTurns_nil_iff]

end

open StandardPatterns

/-- A part with letters on both sides of its sigma is found wherever it stands. -/
theorem part_found_iff_inner :
    ¬ (SigmaAtEnd "ΑΣΑ".toList ∨ SigmaAtStart "ΑΣΑ".toList) ∧
      ∀ front back : String, (contains "ΑΣΑ").Finds (front ++ "ΑΣΑ" ++ back) := by
  have inner : ¬ (SigmaAtEnd "ΑΣΑ".toList ∨ SigmaAtStart "ΑΣΑ".toList) := by
    change ¬ (SigmaAtEnd ['Α', 'Σ', 'Α'] ∨ SigmaAtStart ['Α', 'Σ', 'Α'])
    rintro (⟨p, q, split, -, skipped⟩ | ⟨p, q, split, skipped, -⟩)
    all_goals
      rcases p with _ | ⟨_, _ | ⟨_, _ | ⟨_, _ | ⟨_, p⟩⟩⟩⟩ <;> simp at split
      simp [← split, Text.isSkipped_alpha] at skipped
  exact ⟨inner, (part_found_iff "ΑΣΑ").2.1.mpr inner⟩

/-- **A part that is overlooked where it stands.** Alone, its last letter is lower-cased as
the end of a word. -/
theorem part_overlooked :
    "ΑΣ".toList <+: "ΑΣΑ".toList ∧ ∀ now type,
      Condition.holds now type (.text "ΑΣΑ") (.text (.contains "ΑΣ")) = false ∧
        Condition.holds now type (.text "ΑΣΑ") (.text (.startsWith "ΑΣ")) = false := by
  have atEnd : SigmaAtEnd ['Α', 'Σ'] := ⟨['Α'], [], rfl, Text.meetsCased_alpha, rfl⟩
  refine ⟨by decide, fun now type =>
    ⟨Bool.eq_false_iff.mpr fun found => ?_, Bool.eq_false_iff.mpr fun found => ?_⟩⟩
  · exact Text.not_lower_infix_append atEnd (finds_contains_iff.mp (finds_iff.mpr found))
  · have start := finds_startsWith_iff.mp (finds_iff.mpr found)
    exact Text.lower_prefix_iff.mp start
      (Text.sigmaTurns_nil_iff.mpr ⟨atEnd, Text.meetsCased_alpha⟩)

end TextTest

end BookmarkViews
