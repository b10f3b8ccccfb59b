import BookmarkViews.Proofs.Param.Slots

/-!
Where the slots of a template stand, and when it has a fault.

A slot opens behind a text that consists of closed slots and gaps (`Opens`). What stands there is
a slot that is found, or one of the three faults of a template (`Faulty`).

* `Template.exists_of_opens`, `Template.exists_opens_of_mem`: what opens is found, and what is found
  opens;
* `Template.placed_of_stand`: slots follow each other, and with the gaps they are the whole text;
* `Template.faulty_of_fill?`, `Template.not_faulty_of_fill?`: filling in fails for a fault of the
  template, and a template that is filled in has none;
* `Template.slots_exact`: all of this for every text.
-/

namespace BookmarkViews.Template

variable {params : Params} {start steps : Nat} {cs before behind inside rest : List Char}
  {slots : List Slot} {gaps : List (List Char)} {slot : Slot} {fault : Fault}

/-! ### More steps -/

/-- A search that has ended does not go on when it is given more steps. -/
theorem slotsFrom?_mono {found : Except Fault (List Slot)} {more : Nat}
    (h : slotsFrom? cs steps start = some found) (le : steps ≤ more) :
    slotsFrom? cs more start = some found := by
  induction steps generalizing start more found with
  | zero => exact nomatch h
  | succ steps ih =>
    obtain ⟨more, rfl⟩ := Nat.exists_eq_add_one_of_ne_zero (Nat.ne_zero_of_lt le)
    rw [slotsFrom?] at h ⊢
    obtain ⟨next, isNext, h⟩ := Option.bind_eq_some_iff.mp h
    refine Option.bind_eq_some_iff.mpr ⟨next, isNext, ?_⟩
    cases next with
    | error fault => exact h
    | ok slot? =>
      cases slot? with
      | none => exact h
      | some slot =>
        obtain ⟨later, ended, h⟩ := Option.bind_eq_some_iff.mp h
        exact Option.bind_eq_some_iff.mpr ⟨later, ih ended (Nat.le_of_succ_le_succ le), h⟩

/-! ### Where slots open -/

/-- Closed slots with gaps in front of them, and a gap at the end. -/
inductive Outside : List Char → Prop where
  | gap {lead : List Char} (first : First lead) : Outside lead
  | behind {lead inside before : List Char} (first : First lead) (inner : Inner inside)
    (next : Outside before) :
    Outside (lead ++ '\x7b' :: '\x7b' :: (inside ++ '\x7d' :: '\x7d' :: before))

/-- A slot opens in a text behind one part of it and in front of another. -/
structure Opens (cs before behind : List Char) : Prop where
  outside : Outside before
  text : cs = before ++ '\x7b' :: '\x7b' :: behind

/-- What opens where slots stand is one of them. -/
theorem exists_of_opens (stand : Stand start cs slots gaps) (opens : Opens cs before behind) :
    ∃ inside rest name, behind = inside ++ '\x7d' :: '\x7d' :: rest ∧ Names inside name ∧
      ⟨start + Text.byteLength before,
        start + Text.byteLength before + (Text.byteLength inside + 4), name⟩ ∈ slots := by
  obtain ⟨outside, text⟩ := opens
  -- Both sides have the same first slot, since a text has one first pair of either kind.
  induction outside generalizing start cs slots gaps with
  | @gap lead first =>
    cases stand with
    | closed closed =>
      rw [Closed, text, Text.occursIn_pair] at closed
      exact nomatch closed
    | @slot _ lead' inside rest name slots gaps first' names _ =>
      obtain ⟨rfl, same⟩ := Text.eq_of_first_pair first' first text
      refine ⟨inside, rest, name, same.symm, names, ?_⟩
      rw [upTo, Text.byteLength_append, byteLength_slot, ← Nat.add_assoc]
      exact List.mem_cons_self
  | @behind lead inside before first inner next ih =>
    have text' : cs = lead ++ '\x7b' :: '\x7b' ::
        (inside ++ '\x7d' :: '\x7d' :: (before ++ '\x7b' :: '\x7b' :: behind)) := by
      rw [text]
      simp
    cases stand with
    | closed closed =>
      rw [Closed, text', Text.occursIn_pair] at closed
      exact nomatch closed
    | @slot _ lead' inside' rest' name slots gaps first' names later =>
      obtain ⟨rfl, same⟩ := Text.eq_of_first_pair first' first text'
      obtain ⟨rfl, rfl⟩ := Text.eq_of_first_pair names.inner inner same
      obtain ⟨inside, rest, name, rfl, names, mem⟩ := ih later rfl
      have position : start + Text.byteLength (upTo lead' inside') + Text.byteLength before =
          start + Text.byteLength (lead' ++ '\x7b' :: '\x7b' ::
            (inside' ++ '\x7d' :: '\x7d' :: before)) := by
        rw [Nat.add_assoc, ← Text.byteLength_append]
        simp
      rw [position] at mem
      exact ⟨inside, rest, name, rfl, names, List.mem_cons_of_mem _ mem⟩

/-- Behind a slot the text goes on as if it started there. -/
theorem opens_behind {lead : List Char} (first : First lead) (inner : Inner inside)
    (opens : Opens rest before behind) :
    Opens (lead ++ '\x7b' :: '\x7b' :: (inside ++ '\x7d' :: '\x7d' :: rest))
      (lead ++ '\x7b' :: '\x7b' :: (inside ++ '\x7d' :: '\x7d' :: before)) behind where
  outside := .behind first inner opens.outside
  text := by simp [opens.text]

/-- A slot that stands in a text opens there. -/
theorem exists_opens_of_mem (stand : Stand start cs slots gaps) (mem : slot ∈ slots) :
    ∃ before inside rest, Opens cs before (inside ++ '\x7d' :: '\x7d' :: rest) ∧
      Names inside slot.name ∧ slot.opened = start + Text.byteLength before ∧
      slot.closed = slot.opened + (Text.byteLength inside + 4) := by
  induction stand with
  | closed => exact nomatch mem
  | @slot start lead inside rest name slots gaps first names _ ih =>
    have whole : Text.byteLength (upTo lead inside) =
        Text.byteLength lead + (Text.byteLength inside + 4) := by
      rw [upTo, Text.byteLength_append, byteLength_slot]
    rcases List.mem_cons.mp mem with rfl | mem
    · refine ⟨lead, inside, rest, ⟨.gap first, rfl⟩, names, rfl, ?_⟩
      rw [whole, Nat.add_assoc]
    · obtain ⟨before, inside', rest', opens, names', opened, closed⟩ := ih mem
      refine ⟨_, inside', rest', opens_behind first names.inner opens, names', ?_, closed⟩
      rw [opened, Nat.add_assoc, ← Text.byteLength_append]
      simp

/-- What a slot names is determined. -/
theorem Names.unique {name name' : String} (names : Names inside name)
    (names' : Names inside name') : name = name' :=
  String.toList_injective (List.append_cancel_left (names.trimmed.symm.trans names'.trimmed))

/-! ### Slots and gaps are the whole text -/

/-- Slots and gaps as they are placed in a text. -/
structure Placed (cs : List Char) (slots : List Slot) (gaps : List (List Char)) : Prop where
  /-- No slot is empty. -/
  nonempty : ∀ slot ∈ slots, slot.opened < slot.closed
  /-- A slot opens where the one before it is closed, or later. -/
  apart : slots.Pairwise fun earlier later => earlier.closed ≤ later.opened
  /-- A slot has braces at its ends and its name between them. -/
  braces : ∀ slot ∈ slots, ∃ inside, Names inside slot.name ∧
    Text.slice? slot.opened slot.closed cs =
      some ('\x7b' :: '\x7b' :: (inside ++ ['\x7d', '\x7d']))
  /-- The gaps are the texts in front of the slots and behind the last one. -/
  between : gapsFrom? cs 0 slots = some gaps
  /-- No slot opens in a gap. -/
  closed : ∀ gap ∈ gaps, Closed gap
  /-- Every slot in its own place gives the text back. -/
  whole : ∃ texts, slots.mapM (fun slot => Text.slice? slot.opened slot.closed cs) = some texts ∧
    (byTurns gaps texts).flatten = cs

theorem closed_of_first {lead : List Char} (first : First lead) : Closed lead := by
  induction lead with
  | nil => rfl
  | cons c lead ih =>
    rw [First, Closed, List.cons_append, Text.occursIn, Bool.or_eq_false_iff] at first
    rw [Closed, Text.occursIn, ih first.2, Bool.or_false]
    cases lead with
    | nil => simp [List.isPrefixOf]
    | cons d lead => exact first.1

theorem closed_of_mem_gaps (stand : Stand start cs slots gaps) : ∀ gap ∈ gaps, Closed gap := by
  induction stand with
  | closed closed => exact List.forall_mem_singleton.mpr closed
  | slot first _ _ ih => exact List.forall_mem_cons.mpr ⟨closed_of_first first, ih⟩

theorem apart_of_stand (stand : Stand start cs slots gaps) :
    slots.Pairwise fun earlier later => earlier.closed ≤ later.opened := by
  induction stand with
  | closed => exact .nil
  | slot first names behind ih =>
    refine .cons (fun later mem => ?_) ih
    obtain ⟨before, _, _, _, _, opened, -⟩ := exists_opens_of_mem behind mem
    rw [opened]
    exact Nat.le_add_right _ _

/-- The slots of a text, each in its own place, and the gaps between them are the text. -/
theorem exists_texts_of_stand (stand : Stand start rest slots gaps) (before : List Char)
    (here : Text.byteLength before = start) :
    ∃ texts, slots.mapM (fun slot => Text.slice? slot.opened slot.closed (before ++ rest)) =
        some texts ∧ (byTurns gaps texts).flatten = rest := by
  induction stand generalizing before with
  | closed => exact ⟨[], rfl, by simp [byTurns]⟩
  | @slot start lead inside rest name slots gaps first names _ ih =>
    obtain ⟨texts, sliced, whole⟩ := ih (before ++ upTo lead inside)
      (by rw [Text.byteLength_append, here])
    have itself : Text.slice? (start + Text.byteLength lead)
        (start + Text.byteLength (upTo lead inside))
        (before ++ (lead ++ '\x7b' :: '\x7b' :: (inside ++ '\x7d' :: '\x7d' :: rest))) =
          some ('\x7b' :: '\x7b' :: (inside ++ ['\x7d', '\x7d'])) := by
      refine Text.slice?_eq_some_iff.mpr ⟨before ++ lead, rest, by simp, ?_, ?_⟩
      · rw [Text.byteLength_append, here]
      · rw [upTo, Text.byteLength_append, Nat.add_assoc]
    rw [append_upTo] at sliced
    refine ⟨('\x7b' :: '\x7b' :: (inside ++ ['\x7d', '\x7d'])) :: texts, ?_, ?_⟩
    · rw [List.mapM_cons, itself, sliced]
      rfl
    · simp [byTurns, whole]

/-- **Slots and gaps are placed in the text in which they stand.** -/
theorem placed_of_stand (stand : Stand 0 cs slots gaps) : Placed cs slots gaps where
  nonempty slot mem := by
    obtain ⟨_, inside, _, _, _, _, closed⟩ := exists_opens_of_mem stand mem
    omega
  apart := apart_of_stand stand
  braces slot mem := by
    obtain ⟨before, inside, rest, opens, names, opened, closed⟩ := exists_opens_of_mem stand mem
    refine ⟨inside, names, Text.slice?_eq_some_iff.mpr ⟨before, rest, ?_, ?_, ?_⟩⟩
    · simp [opens.text]
    · rw [opened, Nat.zero_add]
    · rw [closed, byteLength_slot]
  between := gapsFrom?_of_stand stand [] rfl
  closed := closed_of_mem_gaps stand
  whole := exists_texts_of_stand stand [] rfl

/-! ### Faults -/

/-- What is wrong with a template: a slot that is not closed, one that has no parameter's name
inside, or one whose parameter has no value. -/
inductive Faulty (params : Params) (cs : List Char) : Fault → Prop where
  | unclosed {before behind : List Char} (opens : Opens cs before behind)
    (unclosed : Text.occursIn ['\x7d', '\x7d'] behind = false) :
    Faulty params cs (.unclosedSlot (Text.byteLength before))
  | misnamed {before inside rest : List Char}
    (opens : Opens cs before (inside ++ '\x7d' :: '\x7d' :: rest)) (inner : Inner inside)
    (misnamed : ∀ name : String, name ≠ "" → Text.trim inside ≠ "params.".toList ++ name.toList) :
    Faulty params cs (.notAParameter (String.ofList (Text.trim inside)))
  | unbound {before inside rest : List Char} {name : String}
    (opens : Opens cs before (inside ++ '\x7d' :: '\x7d' :: rest)) (names : Names inside name)
    (unbound : Keyed.get? params name = none) :
    Faulty params cs (.unknownParameter name)

theorem misnamed_of_slotName? (h : slotName? inside = .error fault) :
    fault = .notAParameter (String.ofList (Text.trim inside)) ∧
      ∀ name : String, name ≠ "" → Text.trim inside ≠ "params.".toList ++ name.toList := by
  constructor
  · unfold slotName? at h
    dsimp only at h
    split at h
    · exact nomatch h
    · exact (Except.error.inj h).symm
  · intro name nonempty trimmed
    rw [slotName?_eq_ok_iff.mpr ⟨trimmed, nonempty⟩] at h
    exact nomatch h

/-- A fault of the search is one of the template. What is searched already lets slots open behind
it. -/
theorem faulty_of_slotsFrom? (params : Params) (before : List Char)
    (ahead : ∀ outside, Outside outside → Outside (before ++ outside))
    (found : slotsFrom? (before ++ rest) steps (Text.byteLength before) = some (.error fault)) :
    Faulty params (before ++ rest) fault := by
  induction steps generalizing before rest with
  | zero => exact nomatch found
  | succ steps ih =>
    cases cut rest with
    | closed closed =>
      rw [slotsFrom?_closed closed] at found
      exact nomatch found
    | @unclosed lead cs first unclosed =>
      rw [slotsFrom?_unclosed first unclosed] at found
      obtain rfl := Except.error.inj (Option.some.inj found)
      exact .unclosed ⟨ahead lead (.gap first), by simp⟩ unclosed
    | @slot lead inside rest first inner =>
      have opens : Opens
          (before ++ (lead ++ '\x7b' :: '\x7b' :: (inside ++ '\x7d' :: '\x7d' :: rest)))
          (before ++ lead) (inside ++ '\x7d' :: '\x7d' :: rest) :=
        ⟨ahead lead (.gap first), by simp⟩
      cases named : slotName? inside with
      | error fault' =>
        rw [slotsFrom?_misnamed first inner named] at found
        obtain rfl := Except.error.inj (Option.some.inj found)
        obtain ⟨rfl, misnamed⟩ := misnamed_of_slotName? named
        exact .misnamed opens inner misnamed
      | ok name =>
        rw [slotsFrom?_named first inner named] at found
        obtain ⟨fault' | _, later, same⟩ := Option.map_eq_some_iff.mp found
        · obtain rfl := Except.error.inj same
          -- What opens behind this slot opens in the whole text.
          have ahead' : ∀ outside, Outside outside →
              Outside (before ++ upTo lead inside ++ outside) := by
            intro outside next
            simpa using ahead _ (.behind first inner next)
          simpa using ih _ ahead' later
        · exact nomatch same

theorem mem_byTurns_iff {α : Type} {x : α} {xs ys : List α} :
    x ∈ byTurns xs ys ↔ x ∈ xs ∨ x ∈ ys := by
  induction xs, ys using byTurns.induct with
  | case1 x xs y ys ih =>
    simp only [byTurns, List.mem_cons, ih]
    tauto
  | case2 xs => simp [byTurns]
  | case3 ys => cases ys <;> simp [byTurns]

/-- Where slots stand in the whole text, filling in fails only for a parameter without a value. -/
theorem exists_unbound_of_fill? {s : String} (stand : Stand 0 s.toList slots gaps)
    (failed : fill? params s = .error fault) :
    ∃ slot ∈ slots, Keyed.get? params slot.name = none ∧ fault = .unknownParameter slot.name := by
  rw [fill?_of_stand stand, map_eq_error_iff] at failed
  obtain ⟨piece, mem, failed⟩ := mapM_eq_error failed
  rcases mem_byTurns_iff.mp mem with text | named
  · obtain ⟨gap, -, rfl⟩ := List.mem_map.mp text
    simp [fillPiece?] at failed
  · obtain ⟨slot, stands, rfl⟩ := List.mem_map.mp named
    rw [fillPiece?, map_eq_error_iff] at failed
    exact ⟨slot, stands, bound?_eq_error_iff.mp failed⟩

/-- **Filling in fails for a fault of the template.** -/
theorem faulty_of_fill? {s : String} (failed : fill? params s = .error fault) :
    Faulty params s.toList fault := by
  obtain ⟨fault' | slots, found⟩ := exists_slots? s
  · rw [fill?, scan?_of_fault found] at failed
    obtain rfl := Except.error.inj failed
    exact faulty_of_slotsFrom? params [] (fun _ next => next) found
  · obtain ⟨gaps, stand⟩ := slots?_eq_ok_iff.mp found
    obtain ⟨slot, mem, unbound, rfl⟩ := exists_unbound_of_fill? stand failed
    obtain ⟨before, inside, rest, opens, names, -⟩ := exists_opens_of_mem stand mem
    exact .unbound opens names unbound

theorem exists_value_of_mem {values : List Value} (bound : values? params slots = some values)
    (mem : slot ∈ slots) : ∃ v, Keyed.get? params slot.name = some v := by
  induction slots generalizing values with
  | nil => exact nomatch mem
  | cons first slots ih =>
    obtain ⟨v, rest, found, later, rfl⟩ := values?_cons_eq_some_iff.mp bound
    rcases List.mem_cons.mp mem with rfl | mem
    · exact ⟨v, found⟩
    · exact ih later mem

/-- A template with a fault is not filled in. -/
theorem not_faulty_of_fill? {s t : String} (filled : fill? params s = .ok t) :
    ¬ Faulty params s.toList fault := by
  obtain ⟨pieces, scanned, -⟩ := bind_eq_ok.mp filled
  obtain ⟨slots, gaps, stand, -⟩ := scan?_eq_ok_iff.mp scanned
  obtain ⟨values, bound, -⟩ := (fill?_eq_ok_iff_of_stand stand).mp filled
  intro faulty
  cases faulty with
  | unclosed opens unclosed =>
    obtain ⟨inside, rest, name, rfl, -⟩ := exists_of_opens stand opens
    rw [Text.occursIn_pair] at unclosed
    exact nomatch unclosed
  | misnamed opens inner misnamed =>
    obtain ⟨inside, rest, name, same, names, -⟩ := exists_of_opens stand opens
    obtain ⟨rfl, -⟩ := Text.eq_of_first_pair inner names.inner same
    exact misnamed name names.nonempty names.trimmed
  | unbound opens names unbound =>
    obtain ⟨inside, rest, name, same, names', mem⟩ := exists_of_opens stand opens
    obtain ⟨rfl, -⟩ := Text.eq_of_first_pair names.inner names'.inner same
    obtain rfl := names.unique names'
    obtain ⟨v, found⟩ := exists_value_of_mem bound mem
    rw [unbound] at found
    exact nomatch found

/-- **The slots of any text, exactly.** The search for them ends, and takes no slice outside of the
text or within a character. The slots that it finds are placed in the text with the gaps around
them, and the text is filled in by the gaps and the texts of the values by turns. Where the search
has a fault, filling in has it, too; and filling in fails for a slot that is not closed, a key that
is no parameter's or a parameter without a value, and only then. -/
theorem slots_exact (s : String) :
    ∃ found, slots? s = some found ∧
      (∀ steps, s.toList.length < steps → slotsFrom? s.toList steps 0 = some found) ∧
      (∀ slots, found = .ok slots → ∃ gaps, Placed s.toList slots gaps ∧
        ∀ (params : Params) (t : String), fill? params s = .ok t ↔
          ∃ values, values? params slots = some values ∧
            t.toList = (byTurns gaps (values.map Value.inlineChars)).flatten) ∧
      (∀ fault, found = .error fault → ∀ params, fill? params s = .error fault) ∧
      ∀ params : Params,
        (∀ fault, fill? params s = .error fault → Faulty params s.toList fault) ∧
        ((∃ fault, Faulty params s.toList fault) → ∃ fault, fill? params s = .error fault) := by
  obtain ⟨found, search⟩ := exists_slots? s
  refine ⟨found, search, fun steps enough => slotsFrom?_mono search enough, ?_, ?_, ?_⟩
  · rintro slots rfl
    obtain ⟨gaps, stand⟩ := slots?_eq_ok_iff.mp search
    exact ⟨gaps, placed_of_stand stand, fun _ _ => fill?_eq_ok_iff_of_stand stand⟩
  · rintro fault rfl params
    rw [fill?, scan?_of_fault search]
    rfl
  · refine fun params => ⟨fun _ => faulty_of_fill?, ?_⟩
    rintro ⟨fault, faulty⟩
    cases filled : fill? params s with
    | error fault => exact ⟨fault, rfl⟩
    | ok t => exact absurd faulty (not_faulty_of_fill? filled)

end BookmarkViews.Template
