import BookmarkViews.Proofs.Text.Trimming
import BookmarkViews.Text.LowerCase
import Mathlib

/-!
Lower-casing a part of a text.

Within a text, a part is lower-cased like the part alone but for its capital sigmas: these
look at their neighbours, and at an edge of the part other neighbours come in sight.

* `lower_append_append`: a lower-cased text falls into the images of its parts, each
  between the others (`lowerBetween`);
* `lowerBetween_eq_lower_iff`: the image is that of the part alone exactly when none of
  its sigmas turns (`SigmaTurns`);
* `sigmaTurns_nil_iff`, `edge_of_sigmaTurns`: only a sigma at an edge can turn;
* `not_lower_infix_append`, `not_lower_infix_cons`: and next to a letter it does, so that
  the part is not found in lower case where it stands;
* `lower_eq_of_asciiLower`: an ASCII text is lower-cased letter by letter.
-/

namespace BookmarkViews.Text

/-! ### Neighbours with case -/

/-- Ranges are searched like a list, which the kernel evaluates faster than an array. -/
theorem inRanges_eq_any_toList (ranges : Array (Nat × Nat)) (c : Char) :
    inRanges ranges c = ranges.toList.any fun r => r.1 ≤ c.toNat && c.toNat ≤ r.2 := by
  rw [inRanges, Array.any_toList]

/-- Whether a character is passed over in the search for a neighbour with case. -/
abbrev isSkipped (c : Char) : Bool :=
  inRanges caseIgnorableRanges c

theorem meetsCased_eq (cs : List Char) :
    meetsCased cs = (cs.dropWhile isSkipped).head?.any (inRanges casedRanges) := by
  unfold meetsCased
  split
  · next nothing => rw [nothing, List.head?_nil, Option.any_none]
  · next c _ first => rw [first, List.head?_cons, Option.any_some]

theorem dropWhile_isSkipped_eq_nil_iff {cs : List Char} :
    cs.dropWhile isSkipped = [] ↔ cs.all isSkipped = true := by
  rw [List.dropWhile_eq_nil_iff, List.all_eq_true]

/-- A text that is skipped whole lets the search pass into what follows it. -/
theorem meetsCased_append (cs ds : List Char) :
    meetsCased (cs ++ ds) = if cs.all isSkipped then meetsCased ds else meetsCased cs := by
  rw [meetsCased_eq, meetsCased_eq ds, meetsCased_eq cs, List.dropWhile_append]
  by_cases skipped : cs.all isSkipped = true
  · rw [dropWhile_isSkipped_eq_nil_iff.mpr skipped, if_pos List.isEmpty_nil, if_pos skipped]
  · have stop : cs.dropWhile isSkipped ≠ [] := mt dropWhile_isSkipped_eq_nil_iff.mp skipped
    rw [if_neg (by simpa using stop), if_neg skipped, List.head?_append,
      List.head?_eq_some_head stop, Option.some_or]

/-- Nothing but skipped characters meets no character with case. -/
theorem meetsCased_of_all {cs : List Char} (skipped : cs.all isSkipped = true) :
    meetsCased cs = false := by
  rw [meetsCased_eq, dropWhile_isSkipped_eq_nil_iff.mpr skipped]
  rfl

/-- Whether a capital sigma between two texts is the last letter of a word. The text
before it stands nearest character first. -/
def endsWord (before after : List Char) : Bool :=
  meetsCased before && !meetsCased after

/-! ### Images of parts -/

/-- The lower-case form of a capital sigma between two texts. -/
def lowerSigma (before after : List Char) : Char :=
  if endsWord before after then 'ς' else 'σ'

/-- The image of a character between two texts. -/
def lowerAt (before after : List Char) (c : Char) : List Char :=
  if c = 'Σ' then [lowerSigma before after]
  else if c = 'İ' then ['i', '\u0307']
  else [lowerChar c]

/-- The image of a part of a text between what precedes it, nearest character first, and
what follows it. -/
def lowerBetween : (before cs after : List Char) → List Char
  | _, [], _ => []
  | before, c :: cs, after => lowerAt before (cs ++ after) c ++ lowerBetween (c :: before) cs after

theorem lowerAfter_cons (before : List Char) (c : Char) (cs : List Char) :
    lowerAfter before (c :: cs) = lowerAt before cs c ++ lowerAfter (c :: before) cs := by
  rw [lowerAfter, lowerAt, lowerSigma, endsWord]
  split_ifs <;> rfl

/-- **A lower-cased text falls into the images of its parts.** -/
theorem lowerAfter_append (before cs ds : List Char) :
    lowerAfter before (cs ++ ds) =
      lowerBetween before cs ds ++ lowerAfter (cs.reverse ++ before) ds := by
  induction cs generalizing before with
  | nil => rfl
  | cons c cs ih =>
    rw [List.cons_append, lowerAfter_cons, ih, lowerBetween, List.reverse_cons, List.append_assoc,
      List.append_assoc, List.singleton_append]

theorem lower_eq_lowerBetween (cs : List Char) : lower cs = lowerBetween [] cs [] := by
  have whole := lowerAfter_append [] cs []
  rwa [List.append_nil, lowerAfter, List.append_nil] at whole

theorem length_lowerAt (before before' after after' : List Char) (c : Char) :
    (lowerAt before after c).length = (lowerAt before' after' c).length := by
  unfold lowerAt
  split_ifs <;> rfl

/-- The images of a part are of one length. -/
theorem length_lowerBetween (before before' cs after after' : List Char) :
    (lowerBetween before cs after).length = (lowerBetween before' cs after').length := by
  induction cs generalizing before before' with
  | nil => rfl
  | cons c cs ih =>
    rw [lowerBetween, lowerBetween, List.length_append, List.length_append, ih (c :: before),
      length_lowerAt before]

/-! ### Sigmas that turn -/

/-- What holds of every capital sigma of a text holds of the first character, if it is one,
and of those behind it. -/
theorem forall_sigma_cons {c : Char} {cs : List Char} {P : List Char → List Char → Prop} :
    (∀ p q, c :: cs = p ++ 'Σ' :: q → P p q) ↔
      (c = 'Σ' → P [] cs) ∧ ∀ p q, cs = p ++ 'Σ' :: q → P (c :: p) q := by
  constructor
  · intro all
    refine ⟨fun first => all [] cs (by rw [first, List.nil_append]), fun p q behind => ?_⟩
    exact all (c :: p) q (by rw [behind, List.cons_append])
  · rintro ⟨first, behind⟩ p q split
    cases p with
    | nil =>
      obtain ⟨rfl, rfl⟩ := List.cons.inj split
      exact first rfl
    | cons d p =>
      obtain ⟨rfl, rest⟩ := List.cons.inj split
      exact behind p q rest

theorem lowerSigma_eq_iff {before before' after after' : List Char} :
    lowerSigma before after = lowerSigma before' after' ↔
      endsWord before after = endsWord before' after' := by
  unfold lowerSigma
  cases endsWord before after <;> cases endsWord before' after' <;> decide

theorem lowerSigma_eq_final_iff {before after : List Char} :
    lowerSigma before after = 'ς' ↔ endsWord before after = true := by
  unfold lowerSigma
  cases endsWord before after <;> decide

theorem lowerSigma_eq_inner_iff {before after : List Char} :
    lowerSigma before after = 'σ' ↔ endsWord before after = false := by
  unfold lowerSigma
  cases endsWord before after <;> decide

theorem lowerAt_eq_iff {before before' after after' : List Char} {c : Char} :
    lowerAt before after c = lowerAt before' after' c ↔
      (c = 'Σ' → endsWord before after = endsWord before' after') := by
  unfold lowerAt
  split_ifs with sigma
  · rw [List.singleton_inj, lowerSigma_eq_iff, imp_iff_right sigma]
  · exact iff_of_true rfl fun same => absurd same sigma
  · exact iff_of_true rfl fun same => absurd same sigma

/-- **Two images of a part are the same exactly when each of its capital sigmas ends a
word in both or in neither.** -/
theorem lowerBetween_eq_iff {before before' cs after after' : List Char} :
    lowerBetween before cs after = lowerBetween before' cs after' ↔
      ∀ p q, cs = p ++ 'Σ' :: q →
        endsWord (p.reverse ++ before) (q ++ after) =
          endsWord (p.reverse ++ before') (q ++ after') := by
  induction cs generalizing before before' with
  | nil => simp [lowerBetween]
  | cons c cs ih =>
    have parts : lowerBetween before (c :: cs) after = lowerBetween before' (c :: cs) after' ↔
        lowerAt before (cs ++ after) c = lowerAt before' (cs ++ after') c ∧
          lowerBetween (c :: before) cs after = lowerBetween (c :: before') cs after' :=
      ⟨fun whole => List.append_inj whole (length_lowerAt ..), fun ⟨head, tail⟩ => by
        rw [lowerBetween, head, tail, lowerBetween]⟩
    rw [parts, forall_sigma_cons, lowerAt_eq_iff, ih]
    simp only [List.reverse_cons, List.append_assoc, List.singleton_append, List.reverse_nil,
      List.nil_append]

/-- A capital sigma of a part takes another form between these texts than in the part
alone. -/
def SigmaTurns (front part back : List Char) : Prop :=
  ∃ p q, part = p ++ 'Σ' :: q ∧
    endsWord (p.reverse ++ front.reverse) (q ++ back) ≠ endsWord p.reverse q

/-- **The image of a part is that of the part alone exactly when no sigma turns.** -/
theorem lowerBetween_eq_lower_iff {front part back : List Char} :
    lowerBetween front.reverse part back = lower part ↔ ¬ SigmaTurns front part back := by
  rw [lower_eq_lowerBetween, lowerBetween_eq_iff]
  simp only [SigmaTurns, List.append_nil, not_exists, not_and, not_not]

/-! ### Counting sigmas -/

section Counting

variable {x : Char} {before before' after after' : List Char}

theorem count_lowerAt_le {c : Char}
    (each : c = 'Σ' → lowerSigma before after = x → lowerSigma before' after' = x) :
    (lowerAt before after c).count x ≤ (lowerAt before' after' c).count x := by
  unfold lowerAt
  split_ifs with sigma
  · by_cases left : lowerSigma before after = x
    · rw [left, each sigma left]
    · rw [List.count_singleton, if_neg (by simpa using left)]
      exact Nat.zero_le _
  · exact le_refl _
  · exact le_refl _

/-- Of two forms there is no third: a sigma without the one has the other. -/
theorem lowerAt_eq_of_count_le (form : x = 'ς' ∨ x = 'σ') {c : Char}
    (each : c = 'Σ' → lowerSigma before after = x → lowerSigma before' after' = x)
    (counts : (lowerAt before' after' c).count x ≤ (lowerAt before after c).count x) :
    lowerAt before after c = lowerAt before' after' c := by
  unfold lowerAt at counts ⊢
  split_ifs at counts ⊢ with sigma
  · have forms : lowerSigma before after = x ↔ lowerSigma before' after' = x := by
      refine ⟨each sigma, fun right => ?_⟩
      by_contra left
      rw [List.count_singleton, List.count_singleton, if_pos (by simpa using right),
        if_neg (by simpa using left)] at counts
      exact absurd counts (by decide)
    rw [List.singleton_inj]
    unfold lowerSigma at forms ⊢
    rcases form with rfl | rfl <;> split_ifs at forms ⊢ <;> first | rfl | simp at forms
  · rfl
  · rfl

/-- A form that sigmas have in one image of a part only where they have it in another
occurs there no less often. -/
theorem count_lowerBetween_le {cs : List Char}
    (each : ∀ p q, cs = p ++ 'Σ' :: q → lowerSigma (p.reverse ++ before) (q ++ after) = x →
      lowerSigma (p.reverse ++ before') (q ++ after') = x) :
    (lowerBetween before cs after).count x ≤ (lowerBetween before' cs after').count x := by
  induction cs generalizing before before' with
  | nil => exact le_refl _
  | cons c cs ih =>
    rw [forall_sigma_cons] at each
    simp only [List.reverse_cons, List.append_assoc, List.singleton_append, List.reverse_nil,
      List.nil_append] at each
    rw [lowerBetween, lowerBetween, List.count_append, List.count_append]
    exact Nat.add_le_add (count_lowerAt_le each.1) (ih each.2)

/-- If it occurs there no more often either, the images are the same. -/
theorem lowerBetween_eq_of_count_le (form : x = 'ς' ∨ x = 'σ') {cs : List Char}
    (each : ∀ p q, cs = p ++ 'Σ' :: q → lowerSigma (p.reverse ++ before) (q ++ after) = x →
      lowerSigma (p.reverse ++ before') (q ++ after') = x)
    (counts : (lowerBetween before' cs after').count x ≤ (lowerBetween before cs after).count x) :
    lowerBetween before cs after = lowerBetween before' cs after' := by
  induction cs generalizing before before' with
  | nil => rfl
  | cons c cs ih =>
    rw [forall_sigma_cons] at each
    simp only [List.reverse_cons, List.append_assoc, List.singleton_append, List.reverse_nil,
      List.nil_append] at each
    rw [lowerBetween, lowerBetween, List.count_append, List.count_append] at counts
    have head := count_lowerAt_le each.1
    have tail := count_lowerBetween_le each.2
    rw [lowerBetween, lowerBetween, ih each.2 (by omega),
      lowerAt_eq_of_count_le form each.1 (by omega)]

end Counting

/-! ### Sigmas at an edge -/

/-- A text has a capital sigma at its end: a letter stands before it, and what follows it
is skipped. -/
def SigmaAtEnd (part : List Char) : Prop :=
  ∃ p q, part = p ++ 'Σ' :: q ∧ meetsCased p.reverse = true ∧ q.all isSkipped = true

/-- A text has a capital sigma at its start: what precedes it is skipped, and no letter
follows it. -/
def SigmaAtStart (part : List Char) : Prop :=
  ∃ p q, part = p ++ 'Σ' :: q ∧ p.all isSkipped = true ∧ meetsCased q = false

/-- A letter that is met is met whatever stands behind it. -/
theorem meetsCased_append_of_meetsCased {cs : List Char} (h : meetsCased cs = true)
    (ds : List Char) : meetsCased (cs ++ ds) = true := by
  rw [meetsCased_append, if_neg]
  · exact h
  · intro skipped
    rw [meetsCased_of_all skipped] at h
    exact nomatch h

/-- **At the start of a text the last sigma of a word turns when the word goes on**, and no
other sigma does. -/
theorem sigmaTurns_nil_iff {part back : List Char} :
    SigmaTurns [] part back ↔ SigmaAtEnd part ∧ meetsCased back = true := by
  constructor
  · rintro ⟨p, q, split, turns⟩
    rw [List.reverse_nil, List.append_nil, endsWord, endsWord, meetsCased_append] at turns
    split_ifs at turns with skipped
    · rw [meetsCased_of_all skipped] at turns
      cases letter : meetsCased p.reverse <;> cases back : meetsCased back <;>
        simp [letter, back] at turns
      exact ⟨⟨p, q, split, letter, skipped⟩, rfl⟩
    · exact absurd rfl turns
  · rintro ⟨⟨p, q, split, letter, skipped⟩, goesOn⟩
    refine ⟨p, q, split, ?_⟩
    rw [List.reverse_nil, List.append_nil, endsWord, endsWord, meetsCased_append, if_pos skipped,
      meetsCased_of_all skipped, letter, goesOn]
    decide

/-- Only a sigma at an edge turns. -/
theorem edge_of_sigmaTurns {front part back : List Char} (h : SigmaTurns front part back) :
    SigmaAtEnd part ∨ SigmaAtStart part := by
  obtain ⟨p, q, split, turns⟩ := h
  rw [endsWord, endsWord, meetsCased_append, meetsCased_append, List.all_reverse] at turns
  by_cases start : p.all isSkipped = true
  · right
    refine ⟨p, q, split, start, ?_⟩
    have none : meetsCased p.reverse = false := meetsCased_of_all (by rwa [List.all_reverse])
    cases letter : meetsCased q with
    | false => rfl
    | true =>
      have stop : ¬ q.all isSkipped = true := fun skipped => by
        rw [meetsCased_of_all skipped] at letter
        exact nomatch letter
      rw [if_pos start, if_neg stop, none, letter] at turns
      simp at turns
  · left
    rw [if_neg start] at turns
    by_cases finish : q.all isSkipped = true
    · refine ⟨p, q, split, ?_, finish⟩
      cases letter : meetsCased p.reverse with
      | true => rfl
      | false => simp [letter] at turns
    · rw [if_neg finish] at turns
      exact absurd rfl turns

/-! ### Occurrences -/

theorem occursIn_iff_infix {part cs : List Char} : occursIn part cs = true ↔ part <:+: cs := by
  induction cs with
  | nil => rw [occursIn, List.isEmpty_iff, List.infix_nil]
  | cons c cs ih =>
    rw [occursIn, Bool.or_eq_true, List.isPrefixOf_iff_prefix, ih, List.infix_cons_iff]

/-- A lower-cased text with the image of a part of it in its place. -/
theorem lower_append_append (front part back : List Char) :
    lower (front ++ part ++ back) =
      lowerBetween [] front (part ++ back) ++ lowerBetween front.reverse part back ++
        lowerAfter (part.reverse ++ front.reverse) back := by
  rw [lower, List.append_assoc, lowerAfter_append, lowerAfter_append, List.append_nil,
    List.append_assoc]

/-- A part whose sigmas do not turn is found in lower case. -/
theorem lower_infix {front part back : List Char} (still : ¬ SigmaTurns front part back) :
    lower part <:+: lower (front ++ part ++ back) := by
  rw [lower_append_append, lowerBetween_eq_lower_iff.mpr still]
  exact List.infix_append _ _ _

/-- **The start of a text is its start in lower case exactly when no sigma turns.** -/
theorem lower_prefix_iff {part back : List Char} :
    lower part <+: lower (part ++ back) ↔ ¬ SigmaTurns [] part back := by
  have whole := lower_append_append [] part back
  rw [lowerBetween, List.nil_append, List.nil_append, List.reverse_nil, List.append_nil] at whole
  rw [whole, ← lowerBetween_eq_lower_iff, List.reverse_nil]
  constructor
  · intro start
    have length : (lowerBetween [] part back).length = (lower part).length := by
      rw [lower_eq_lowerBetween, length_lowerBetween]
    exact (List.prefix_of_prefix_length_le (List.prefix_append _ _) start length.le).eq_of_length
      length
  · intro same
    rw [same]
    exact List.prefix_append _ _

theorem isSkipped_alpha : isSkipped 'Α' = false := by
  rw [isSkipped, inRanges_eq_any_toList]
  decide +kernel

/-- A Greek letter has case. -/
theorem meetsCased_alpha : meetsCased ['Α'] = true := by
  rw [meetsCased_eq, List.dropWhile_cons_of_neg (by rw [isSkipped_alpha]; decide), List.head?_cons,
    Option.any_some, inRanges_eq_any_toList]
  decide +kernel

theorem lowerAt_alpha (before after : List Char) : lowerAt before after 'Α' = ['α'] := by
  have simple : lowerChar 'Α' = 'α' := by
    rw [lowerChar, if_neg (by decide), applyRanges, ← Array.findSome?_toList]
    decide +kernel
  rw [lowerAt, if_neg (by decide), if_neg (by decide), simple]

/-- **A text with a sigma at its end is not found where the word goes on**: one final form
less is left there. -/
theorem not_lower_infix_append {part : List Char} (h : SigmaAtEnd part) :
    ¬ lower part <:+: lower (part ++ ['Α']) := by
  intro found
  have image : lower (part ++ ['Α']) = lowerBetween [] part ['Α'] ++ ['α'] := by
    rw [lower, lowerAfter_append, lowerAfter_cons, lowerAt_alpha, lowerAfter, List.append_nil]
  have counts : (lower part).count 'ς' ≤ (lowerBetween [] part ['Α']).count 'ς' := by
    have fewer := found.sublist.count_le 'ς'
    rwa [image, List.count_append, List.count_singleton, if_neg (by decide), Nat.add_zero] at fewer
  have same : lowerBetween [] part ['Α'] = lower part := by
    rw [lower_eq_lowerBetween] at counts ⊢
    refine lowerBetween_eq_of_count_le (.inl rfl) (fun p q _ => ?_) counts
    rw [lowerSigma_eq_final_iff, lowerSigma_eq_final_iff, endsWord, endsWord, List.append_nil,
      List.append_nil, Bool.and_eq_true, Bool.and_eq_true, Bool.not_eq_true', Bool.not_eq_true']
    rintro ⟨letter, last⟩
    refine ⟨letter, ?_⟩
    cases next : meetsCased q with
    | false => rfl
    | true => exact absurd last (by rw [meetsCased_append_of_meetsCased next]; decide)
  have still : ¬ SigmaTurns [] part ['Α'] := lowerBetween_eq_lower_iff.mp same
  exact still (sigmaTurns_nil_iff.mpr ⟨h, meetsCased_alpha⟩)

/-- **A text with a sigma at its start is not found where a letter precedes it**: one form
within a word less is left there. -/
theorem not_lower_infix_cons {part : List Char} (h : SigmaAtStart part) :
    ¬ lower part <:+: lower ('Α' :: part) := by
  intro found
  have image : lower ('Α' :: part) = 'α' :: lowerBetween ['Α'] part [] := by
    have whole := lowerAfter_append ['Α'] part []
    rw [List.append_nil, lowerAfter, List.append_nil] at whole
    rw [lower, lowerAfter_cons, lowerAt_alpha, whole, List.singleton_append]
  have counts : (lower part).count 'σ' ≤ (lowerBetween ['Α'] part []).count 'σ' := by
    have fewer := found.sublist.count_le 'σ'
    rwa [image, List.count_cons_of_ne (by decide)] at fewer
  have same : lowerBetween ['Α'] part [] = lower part := by
    rw [lower_eq_lowerBetween] at counts ⊢
    refine lowerBetween_eq_of_count_le (.inr rfl) (fun p q _ => ?_) counts
    rw [lowerSigma_eq_inner_iff, lowerSigma_eq_inner_iff, endsWord, endsWord, List.append_nil,
      List.append_nil]
    intro inner
    cases letter : meetsCased p.reverse with
    | false => rfl
    | true => rwa [meetsCased_append_of_meetsCased letter] at inner
  have still : ¬ SigmaTurns ['Α'] part [] := lowerBetween_eq_lower_iff.mp same
  obtain ⟨p, q, split, skipped, none⟩ := h
  refine still ⟨p, q, split, ?_⟩
  have skipped' : p.reverse.all isSkipped = true := by rwa [List.all_reverse]
  rw [List.reverse_singleton, List.append_nil, endsWord, endsWord, meetsCased_append,
    if_pos skipped', meetsCased_of_all skipped', meetsCased_alpha, none]
  decide

/-! ### ASCII texts -/

theorem toNat_of_isUpper {c : Char} (upper : c.isUpper = true) : 65 ≤ c.toNat ∧ c.toNat ≤ 90 :=
  of_decide_eq_true upper

theorem toNat_lt_of_toLower {c : Char} (h : c.toLower.toNat < 0x80) : c.toNat < 0x80 := by
  by_cases upper : c.isUpper = true
  · have bounds := toNat_of_isUpper upper
    omega
  · rwa [Char.toLower_eq_of_not_isUpper upper] at h

theorem lowerAfter_of_ascii (before : List Char) {cs : List Char}
    (ascii : ∀ c ∈ cs, c.toNat < 0x80) : lowerAfter before cs = asciiLower cs := by
  induction cs generalizing before with
  | nil => rfl
  | cons c cs ih =>
    obtain ⟨first, later⟩ := List.forall_mem_cons.mp ascii
    have noSigma : c ≠ 'Σ' := by
      rintro rfl
      exact absurd first (by decide)
    have noDot : c ≠ 'İ' := by
      rintro rfl
      exact absurd first (by decide)
    rw [lowerAfter_cons, ih _ later, lowerAt, if_neg noSigma, if_neg noDot, lowerChar, if_pos first]
    rfl

/-- **A text that is an ASCII one in some ASCII case is lower-cased to it.** -/
theorem lower_eq_of_asciiLower {cs word : List Char} (ascii : ∀ c ∈ word, c.toNat < 0x80)
    (h : asciiLower cs = word) : lower cs = word := by
  rw [lower, lowerAfter_of_ascii, h]
  intro c mem
  apply toNat_lt_of_toLower
  exact ascii _ (h ▸ List.mem_map_of_mem mem)

/-- Blanks have no case. -/
theorem toLower_of_isBlank {c : Char} (blank : isBlank c = true) : c.toLower = c := by
  apply Char.toLower_eq_of_not_isUpper
  intro upper
  have bounds := toNat_of_isUpper upper
  simp only [isBlank, Bool.or_eq_true, Bool.and_eq_true, decide_eq_true_eq, beq_iff_eq] at blank
  omega

/-- A word in another case has no blanks either. -/
theorem solid_of_asciiLower {word : List Char} (solid : Solid (asciiLower word)) : Solid word := by
  intro c mem
  rw [← Bool.not_eq_true]
  intro blank
  have lowered : isBlank c.toLower = false := solid _ (List.mem_map_of_mem mem)
  rw [toLower_of_isBlank blank, blank] at lowered
  exact nomatch lowered

end BookmarkViews.Text
