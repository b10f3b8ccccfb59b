import BookmarkViews.Proofs.Number.Reading
import BookmarkViews.Value.Json
import BookmarkViews.Value.JsonReading
import Mathlib.Data.List.Basic
import Mathlib.Tactic.IntervalCases

/-!
What the one-line JSON text of a value tells about its parts.

A value in front of a comma or a closing bracket ends in one place only
(`Value.compactChars_append_inj`), so the text of a container settles the texts of what
it holds:

* `Value.compact_list_inj`: lists have one text when their items do, one by one;
* `Value.compact_object_inj`: objects have one text when they have the same names in the
  same order, and values of the same texts.
-/

namespace BookmarkViews

namespace Json

/-! ### Texts in quotes -/

/-- The first character of a quoted text and what is left of the text. -/
def unescape? : List Char → Option (Char × List Char)
  | '\\' :: 'u' :: a :: b :: c :: d :: rest => (hex4? a b c d).map fun n => (Char.ofNat n, rest)
  | '\\' :: c :: rest => (simpleEscape? c).map fun c => (c, rest)
  | c :: rest => some (c, rest)
  | [] => none

/-- A character without an escape of its own is not touched by reading. -/
theorem unescape?_plain {c : Char} (plain : c ≠ '\\') (rest : List Char) :
    unescape? (c :: rest) = some (c, rest) := by
  unfold unescape?
  split <;> simp_all

/-- **Reading undoes escaping**, whatever follows. -/
theorem unescape?_escapedChar (c : Char) (rest : List Char) :
    unescape? (escapedChar c ++ rest) = some (c, rest) := by
  have eq_of_toNat {n : Nat} (h : c.toNat = n) : c = Char.ofNat n := by
    rw [← h, Char.ofNat_toNat]
  unfold escapedChar
  split_ifs with quote backslash newline carriage tab backspace feed control
  · subst quote
    rfl
  · subst backslash
    rfl
  · subst newline
    rfl
  · subst carriage
    rfl
  · subst tab
    rfl
  · rw [eq_of_toNat backspace]
    rfl
  · rw [eq_of_toNat feed]
    rfl
  · obtain ⟨n, named⟩ : ∃ n, c.toNat = n := ⟨_, rfl⟩
    rw [named] at control ⊢
    rw [eq_of_toNat named]
    interval_cases n <;> rfl
  · exact unescape?_plain backslash rest

/-- An escaped character is not mistaken for a closing quote. -/
theorem escapedChar_append_ne_quote (c : Char) (rest rest' : List Char) :
    escapedChar c ++ rest ≠ '"' :: rest' := by
  intro same
  have read := unescape?_escapedChar c rest
  rw [same, unescape?_plain (by decide)] at read
  obtain ⟨rfl, -⟩ := Prod.mk.inj (Option.some.inj read)
  exact absurd (List.cons.inj same).1 (by decide)

theorem flatMap_escapedChar_inj {cs ds : List Char} {rest rest' : List Char}
    (h : cs.flatMap escapedChar ++ '"' :: rest = ds.flatMap escapedChar ++ '"' :: rest') :
    cs = ds ∧ rest = rest' := by
  induction cs generalizing ds with
  | nil =>
    cases ds with
    | nil => exact ⟨rfl, (List.cons.inj h).2⟩
    | cons d ds =>
      rw [List.flatMap_cons, List.append_assoc] at h
      exact absurd h.symm (escapedChar_append_ne_quote _ _ _)
  | cons c cs ih =>
    cases ds with
    | nil =>
      rw [List.flatMap_cons, List.append_assoc] at h
      exact absurd h (escapedChar_append_ne_quote _ _ _)
    | cons d ds =>
      rw [List.flatMap_cons, List.flatMap_cons, List.append_assoc, List.append_assoc] at h
      have read := congrArg unescape? h
      rw [unescape?_escapedChar, unescape?_escapedChar] at read
      obtain ⟨rfl, onward⟩ := Prod.mk.inj (Option.some.inj read)
      obtain ⟨rfl, same⟩ := ih onward
      exact ⟨rfl, same⟩

/-- **A text in quotes shows the text and where it ends.** -/
theorem string_append_inj {s t : String} {rest rest' : List Char}
    (h : string s ++ rest = string t ++ rest') : s = t ∧ rest = rest' := by
  simp only [string, List.cons_append, List.append_assoc, List.cons.injEq, true_and,
    List.nil_append] at h
  obtain ⟨same, onward⟩ := flatMap_escapedChar_inj h
  exact ⟨String.toList_inj.mp same, onward⟩

/-! ### Where values end -/

/-- The characters that follow a value inside a list or an object. -/
def follows (c : Char) : Bool :=
  c = ',' || c = ']' || c = '\x7d'

/-- The characters that texts, lists and objects start with. -/
def opens (c : Char) : Bool :=
  c = '"' || c = '[' || c = '\x7b'

/-- What stands behind a value: nothing, a comma or a closing bracket. -/
def Ended (rest : List Char) : Prop :=
  ∀ c ∈ rest.head?, follows c = true

/-- A text without any of these characters, and not empty. -/
def Bare (cs : List Char) : Prop :=
  cs ≠ [] ∧ ∀ c ∈ cs, follows c = false ∧ opens c = false

theorem bare_iff {cs : List Char} :
    Bare cs ↔ (!cs.isEmpty && cs.all fun c => !follows c && !opens c) = true := by
  simp [Bare]

instance : DecidablePred Bare := fun _ =>
  decidable_of_iff' _ bare_iff

theorem ended_cons {c : Char} {rest : List Char} (h : follows c = true) : Ended (c :: rest) :=
  fun _ mem => Option.some.inj mem ▸ h

/-- A bare text ends where something follows it. -/
theorem Bare.takeWhile_append {cs rest : List Char} (bare : Bare cs) (ended : Ended rest) :
    (cs ++ rest).takeWhile (fun c => !follows c) = cs := by
  have inside : cs.takeWhile (fun c => !follows c) = cs :=
    List.takeWhile_eq_self_iff.mpr fun c mem => by simp [(bare.2 c mem).1]
  have outside : rest.takeWhile (fun c => !follows c) = [] := by
    cases rest with
    | nil => rfl
    | cons c rest =>
      exact List.takeWhile_cons_of_neg (by simp [ended c rfl])
  rw [List.takeWhile_append, inside, if_pos rfl, outside, List.append_nil]

theorem Bare.append_inj {cs ds rest rest' : List Char} (bare : Bare cs) (bare' : Bare ds)
    (ended : Ended rest) (ended' : Ended rest') (h : cs ++ rest = ds ++ rest') :
    cs = ds ∧ rest = rest' := by
  have same : cs = ds := by
    rw [← bare.takeWhile_append ended, h, bare'.takeWhile_append ended']
  subst same
  exact ⟨rfl, List.append_cancel_left h⟩

/-- A bare text does not start as a container does. -/
theorem Bare.append_ne {cs rest ds : List Char} {c : Char} (bare : Bare cs) (h : opens c = true) :
    cs ++ rest ≠ c :: ds := by
  obtain ⟨nonempty, marks⟩ := bare
  obtain ⟨b, bs, rfl⟩ := List.exists_cons_of_ne_nil nonempty
  intro same
  obtain ⟨rfl, -⟩ := List.cons.inj same
  rw [(marks b List.mem_cons_self).2] at h
  exact nomatch h

end Json

/-! ### Numbers -/

namespace Decimal

open Json (Bare follows opens)

/-- The characters of the text of a number. -/
def IsNumeral (c : Char) : Prop :=
  follows c = false ∧ opens c = false

theorem isNumeral_of_isDigit {c : Char} (h : isDigit c = true) : IsNumeral c := by
  have other {d : Char} (mark : isDigit d = false) : c ≠ d := fun same => by
    rw [same, mark] at h
    exact nomatch h
  simp only [IsNumeral, follows, opens, Bool.or_eq_false_iff, decide_eq_false_iff_not]
  exact ⟨⟨⟨other rfl, other rfl⟩, other rfl⟩, ⟨other rfl, other rfl⟩, other rfl⟩

theorem isNumeral_of_mem_ofInt {n : Int} {c : Char} (h : c ∈ ofInt n) : IsNumeral c := by
  unfold ofInt at h
  split_ifs at h
  · rcases List.mem_cons.mp h with rfl | digit
    · exact ⟨rfl, rfl⟩
    · exact isNumeral_of_isDigit (isDigit_of_mem_ofNat digit)
  · exact isNumeral_of_isDigit (isDigit_of_mem_ofNat h)

theorem ofInt_ne_nil (n : Int) : ofInt n ≠ [] := by
  unfold ofInt
  split_ifs
  · exact List.cons_ne_nil _ _
  · exact Nat.toDigits_ne_nil

theorem isDigit_of_mem_shortest {magnitude : Nat} {c : Char} (h : c ∈ (shortest magnitude).1) :
    isDigit c = true := by
  have kept := List.mem_reverse.mp h
  have digit := List.mem_reverse.mp ((List.dropWhile_sublist _).subset kept)
  exact isDigit_of_mem_ofNat digit

theorem isNumeral_of_mem_plainLayout {ds : List Char} (digits : ∀ c ∈ ds, isDigit c = true) {e : Int}
    {c : Char} (h : c ∈ plainLayout ds e) : IsNumeral c := by
  have zero {n : Nat} (mem : c ∈ List.replicate n '0') : IsNumeral c :=
    List.eq_of_mem_replicate mem ▸ ⟨rfl, rfl⟩
  have digit (mem : c ∈ ds) : IsNumeral c := isNumeral_of_isDigit (digits c mem)
  unfold plainLayout at h
  dsimp only at h
  split_ifs at h
  · simp only [List.cons_append, List.mem_cons, List.mem_append] at h
    rcases h with rfl | rfl | mem | mem
    · exact ⟨rfl, rfl⟩
    · exact ⟨rfl, rfl⟩
    · exact zero mem
    · exact digit mem
  · simp only [List.mem_append, List.mem_cons, List.not_mem_nil, or_false] at h
    rcases h with (mem | mem) | rfl | rfl
    · exact digit mem
    · exact zero mem
    · exact ⟨rfl, rfl⟩
    · exact ⟨rfl, rfl⟩
  · simp only [List.mem_append, List.mem_cons] at h
    rcases h with mem | rfl | mem
    · exact digit (List.mem_of_mem_take mem)
    · exact ⟨rfl, rfl⟩
    · exact digit (List.mem_of_mem_drop mem)

theorem isNumeral_of_mem_exponentLayout {ds : List Char} (digits : ∀ c ∈ ds, isDigit c = true)
    {plusSign : Bool} {e : Int} {c : Char} (h : c ∈ exponentLayout plusSign ds e) :
    IsNumeral c := by
  rcases List.mem_append.mp h with front | exponent
  · rcases List.mem_append.mp front with mantissa | mark
    · split at mantissa
      · exact nomatch mantissa
      · exact isNumeral_of_isDigit (digits c mantissa)
      · simp only [List.mem_cons] at mantissa
        rcases mantissa with rfl | rfl | mem
        · exact isNumeral_of_isDigit (digits _ List.mem_cons_self)
        · exact ⟨rfl, rfl⟩
        · exact isNumeral_of_isDigit (digits c (List.mem_cons_of_mem _ mem))
    · rcases List.mem_cons.mp mark with rfl | sign
      · exact ⟨rfl, rfl⟩
      · split_ifs at sign
        · exact List.mem_singleton.mp sign ▸ ⟨rfl, rfl⟩
        · exact nomatch sign
  · exact isNumeral_of_mem_ofInt exponent

/-- The text of a double has no brackets, commas or quotes. -/
theorem bare_render (x : Binary64) : Bare (jsonStyle.render x) := by
  have digits : ∀ c ∈ (shortest x.magnitude).1, isDigit c = true := fun c => isDigit_of_mem_shortest
  unfold FloatStyle.render
  dsimp only
  generalize sign_eq : (if x.negative = true then ['-'] else []) = sign
  have signed {cs : List Char} (bare : Bare cs) : Bare (sign ++ cs) := by
    obtain ⟨nonempty, marks⟩ := bare
    refine ⟨List.append_ne_nil_of_right_ne_nil _ nonempty, fun c mem => ?_⟩
    rcases List.mem_append.mp mem with mem | mem
    · rw [← sign_eq] at mem
      split_ifs at mem
      · exact List.mem_singleton.mp mem ▸ ⟨rfl, rfl⟩
      · exact nomatch mem
    · exact marks c mem
  split_ifs
  · decide
  · exact signed (by decide)
  · exact signed (by decide)
  · refine signed ⟨?_, fun c => isNumeral_of_mem_plainLayout digits⟩
    unfold plainLayout
    dsimp only
    split_ifs <;> simp
  · refine signed ⟨?_, fun c => isNumeral_of_mem_exponentLayout digits⟩
    simp [exponentLayout]

end Decimal

/-! ### Values -/

namespace Value

open Json (Bare Ended)

/-- Whether a value is null, a boolean or a number. -/
def isPlain : Value → Bool
  | .null | .bool _ | .number _ => true
  | .text _ | .list _ | .object _ => false

theorem bare_compactChars {v : Value} (plain : v.isPlain = true) : Bare v.compactChars := by
  cases v with
  | null => decide
  | bool b => cases b <;> decide
  | number n =>
    unfold compactChars
    cases n with
    | int n =>
      rw [Number.text, Number.render, String.toList_ofList]
      exact ⟨Decimal.ofInt_ne_nil n, fun c => Decimal.isNumeral_of_mem_ofInt⟩
    | float x =>
      rw [Number.text, Number.render, String.toList_ofList]
      exact Decimal.bare_render x
  | text _ | list _ | object _ => exact nomatch plain

/-- Texts, lists and objects start with a character of their own. -/
theorem opens_compactChars {v : Value} (h : v.isPlain = false) :
    ∃ c cs, v.compactChars = c :: cs ∧ Json.opens c = true := by
  cases v with
  | null | bool _ | number _ => exact nomatch h
  | text _ | list _ | object _ =>
    unfold compactChars
    exact ⟨_, _, rfl, rfl⟩

/-- A value does not start as something that follows one. -/
theorem compactChars_append_ne (v : Value) {c : Char} (h : Json.follows c = true)
    (rest rest' : List Char) : v.compactChars ++ rest ≠ c :: rest' := by
  have starts : ∃ b cs, v.compactChars = b :: cs ∧ Json.follows b = false := by
    cases plain : v.isPlain with
    | true =>
      obtain ⟨nonempty, marks⟩ := bare_compactChars plain
      obtain ⟨b, cs, split⟩ := List.exists_cons_of_ne_nil nonempty
      exact ⟨b, cs, split, (marks b (split ▸ List.mem_cons_self)).1⟩
    | false =>
      obtain ⟨b, cs, split, opening⟩ := opens_compactChars plain
      refine ⟨b, cs, split, ?_⟩
      simp only [Json.opens, Bool.or_eq_true, decide_eq_true_eq] at opening
      rcases opening with (rfl | rfl) | rfl <;> rfl
  obtain ⟨b, cs, split, other⟩ := starts
  rw [split]
  intro same
  obtain ⟨rfl, -⟩ := List.cons.inj same
  rw [other] at h
  exact nomatch h

/-- A plain value ends in one place. -/
theorem plain_append_inj {v w : Value} {rest rest' : List Char} (plain : v.isPlain = true)
    (ended : Ended rest) (ended' : Ended rest') (h : v.compactChars ++ rest = w.compactChars ++ rest') :
    v.compactChars = w.compactChars ∧ rest = rest' := by
  have bare := bare_compactChars plain
  cases plain' : w.isPlain with
  | true => exact bare.append_inj (bare_compactChars plain') ended ended' h
  | false =>
    obtain ⟨c, cs, split, opening⟩ := opens_compactChars plain'
    rw [split] at h
    exact absurd h (bare.append_ne opening)

/-! ### Containers -/

/-- What stands behind the first item of a list. -/
def behindItem : List Value → List Char
  | [] => []
  | w :: ws => ',' :: compactItems (w :: ws)

theorem compactItems_cons (v : Value) (vs : List Value) :
    compactItems (v :: vs) = v.compactChars ++ behindItem vs := by
  cases vs <;> simp [compactItems, behindItem]

theorem ended_behindItem (vs : List Value) (rest : List Char) :
    Ended (behindItem vs ++ ']' :: rest) := by
  cases vs with
  | nil => exact Json.ended_cons rfl
  | cons w ws => exact Json.ended_cons rfl

/-- What stands behind the first field of an object. -/
def behindField : List (String × Value) → List Char
  | [] => []
  | g :: gs => ',' :: compactFields (g :: gs)

theorem compactFields_cons (f : String × Value) (fs : List (String × Value)) :
    compactFields (f :: fs) = Json.string f.1 ++ ':' :: (f.2.compactChars ++ behindField fs) := by
  cases fs <;> simp [compactFields, behindField]

theorem ended_behindField (fs : List (String × Value)) (rest : List Char) :
    Ended (behindField fs ++ '\x7d' :: rest) := by
  cases fs with
  | nil => exact Json.ended_cons rfl
  | cons g gs => exact Json.ended_cons rfl

mutual

/-- **A value in front of a comma or a bracket ends in one place**: the text up to there
is its own. -/
theorem compactChars_append_inj : (v w : Value) → {rest rest' : List Char} → Ended rest →
    Ended rest' → v.compactChars ++ rest = w.compactChars ++ rest' →
      v.compactChars = w.compactChars ∧ rest = rest'
  | .null, w, rest, rest', ended, ended', h => plain_append_inj rfl ended ended' h
  | .bool _, w, rest, rest', ended, ended', h => plain_append_inj rfl ended ended' h
  | .number _, w, rest, rest', ended, ended', h => plain_append_inj rfl ended ended' h
  | .text s, w, rest, rest', ended, ended', h => by
    cases w with
    | null | bool _ | number _ =>
      exact (plain_append_inj rfl ended' ended h.symm).imp Eq.symm Eq.symm
    | text t =>
      unfold compactChars at h ⊢
      obtain ⟨rfl, same⟩ := Json.string_append_inj h
      exact ⟨rfl, same⟩
    | list _ | object _ =>
      unfold compactChars at h
      exact absurd (List.cons.inj h).1 (by decide)
  | .list vs, w, rest, rest', ended, ended', h => by
    cases w with
    | null | bool _ | number _ =>
      exact (plain_append_inj rfl ended' ended h.symm).imp Eq.symm Eq.symm
    | list ws =>
      unfold compactChars at h ⊢
      obtain ⟨-, same⟩ := compactItems_append_inj vs ws (by simpa using h)
      subst same
      exact ⟨List.append_cancel_right h, rfl⟩
    | text _ | object _ =>
      unfold compactChars at h
      exact absurd (List.cons.inj h).1 (by decide)
  | .object fs, w, rest, rest', ended, ended', h => by
    cases w with
    | null | bool _ | number _ =>
      exact (plain_append_inj rfl ended' ended h.symm).imp Eq.symm Eq.symm
    | object gs =>
      unfold compactChars at h ⊢
      obtain ⟨-, same⟩ := compactFields_append_inj fs gs (by simpa using h)
      subst same
      exact ⟨List.append_cancel_right h, rfl⟩
    | text _ | list _ =>
      unfold compactChars at h
      exact absurd (List.cons.inj h).1 (by decide)

/-- The items of a list are told from their text. -/
theorem compactItems_append_inj : (vs ws : List Value) → {rest rest' : List Char} →
    compactItems vs ++ ']' :: rest = compactItems ws ++ ']' :: rest' →
      vs.map compactChars = ws.map compactChars ∧ rest = rest'
  | [], [], rest, rest', h => ⟨rfl, (List.cons.inj h).2⟩
  | [], w :: ws, rest, rest', h => by
    rw [compactItems_cons, List.append_assoc] at h
    exact absurd h.symm (w.compactChars_append_ne rfl _ _)
  | v :: vs, [], rest, rest', h => by
    rw [compactItems_cons, List.append_assoc] at h
    exact absurd h (v.compactChars_append_ne rfl _ _)
  | v :: vs, w :: ws, rest, rest', h => by
    rw [compactItems_cons, compactItems_cons, List.append_assoc, List.append_assoc] at h
    obtain ⟨first, behind⟩ :=
      compactChars_append_inj v w (ended_behindItem vs rest) (ended_behindItem ws rest') h
    cases vs with
    | nil =>
      cases ws with
      | nil => exact ⟨by simp [first], (List.cons.inj behind).2⟩
      | cons _ _ => exact absurd (List.cons.inj behind).1 (by decide)
    | cons v' vs =>
      cases ws with
      | nil => exact absurd (List.cons.inj behind).1 (by decide)
      | cons w' ws =>
        obtain ⟨others, same⟩ :=
          compactItems_append_inj (v' :: vs) (w' :: ws) (List.cons.inj behind).2
        exact ⟨List.cons_eq_cons.mpr ⟨first, others⟩, same⟩

/-- The fields of an object are told from their text. -/
theorem compactFields_append_inj : (fs gs : List (String × Value)) → {rest rest' : List Char} →
    compactFields fs ++ '\x7d' :: rest = compactFields gs ++ '\x7d' :: rest' →
      fs.map (fun f => (f.1, f.2.compactChars)) = gs.map (fun g => (g.1, g.2.compactChars)) ∧
        rest = rest'
  | [], [], rest, rest', h => ⟨rfl, (List.cons.inj h).2⟩
  | [], g :: gs, rest, rest', h => by
    rw [compactFields_cons] at h
    exact absurd (List.cons.inj h).1 (by decide)
  | f :: fs, [], rest, rest', h => by
    rw [compactFields_cons] at h
    exact absurd (List.cons.inj h).1 (by decide)
  | (name, v) :: fs, (name', w) :: gs, rest, rest', h => by
    rw [compactFields_cons, compactFields_cons, List.append_assoc, List.append_assoc] at h
    obtain ⟨rfl, h⟩ := Json.string_append_inj h
    have onward : v.compactChars ++ (behindField fs ++ '\x7d' :: rest) =
        w.compactChars ++ (behindField gs ++ '\x7d' :: rest') := by
      simpa using h
    obtain ⟨first, behind⟩ :=
      compactChars_append_inj v w (ended_behindField fs rest) (ended_behindField gs rest') onward
    cases fs with
    | nil =>
      cases gs with
      | nil => exact ⟨by simp [first], (List.cons.inj behind).2⟩
      | cons _ _ => exact absurd (List.cons.inj behind).1 (by decide)
    | cons f' fs =>
      cases gs with
      | nil => exact absurd (List.cons.inj behind).1 (by decide)
      | cons g' gs =>
        obtain ⟨others, same⟩ :=
          compactFields_append_inj (f' :: fs) (g' :: gs) (List.cons.inj behind).2
        exact ⟨List.cons_eq_cons.mpr ⟨congrArg _ first, others⟩, same⟩

end

/-! ### Texts of containers -/

theorem compact_inj {v w : Value} : v.compact = w.compact ↔ v.compactChars = w.compactChars :=
  String.ofList_inj

theorem compactItems_eq (vs : List Value) :
    compactItems vs = [','].intercalate (vs.map compactChars) := by
  induction vs with
  | nil => rfl
  | cons v vs ih =>
    rw [compactItems_cons, List.map_cons]
    cases vs with
    | nil => simp [behindItem]
    | cons w ws =>
      rw [behindItem, ih]
      simp [List.intercalate]

theorem compactFields_eq (fs : List (String × Value)) :
    compactFields fs =
      [','].intercalate (fs.map fun f => Json.string f.1 ++ ':' :: f.2.compactChars) := by
  induction fs with
  | nil => rfl
  | cons f fs ih =>
    rw [compactFields_cons, List.map_cons]
    cases fs with
    | nil => simp [behindField]
    | cons g gs =>
      rw [behindField, ih]
      simp [List.intercalate]

/-- **Lists have one text when their items do, one by one.** -/
theorem compact_list_inj {vs ws : List Value} :
    (list vs).compact = (list ws).compact ↔ vs.map compact = ws.map compact := by
  have texts (us : List Value) : us.map compact = (us.map compactChars).map String.ofList := by
    rw [List.map_map]
    rfl
  have injective : Function.Injective (List.map String.ofList) :=
    List.map_injective_iff.mpr fun _ _ => String.ofList_inj.mp
  rw [compact_inj, texts, texts, injective.eq_iff, compactChars, compactChars]
  constructor
  · intro h
    exact (compactItems_append_inj vs ws (List.cons.inj h).2).1
  · intro h
    rw [compactItems_eq, compactItems_eq, h]

/-- **Objects have one text when they have the same names in order, with values of the
same texts.** -/
theorem compact_object_inj {fs gs : List (String × Value)} :
    (object fs).compact = (object gs).compact ↔
      fs.map (fun f => (f.1, f.2.compact)) = gs.map fun g => (g.1, g.2.compact) := by
  let entries (es : List (String × Value)) := es.map fun e => (e.1, e.2.compactChars)
  have texts (es : List (String × Value)) :
      es.map (fun e => (e.1, e.2.compact)) = (entries es).map (Prod.map id String.ofList) := by
    rw [List.map_map]
    rfl
  have chars (es : List (String × Value)) :
      es.map (fun e => Json.string e.1 ++ ':' :: e.2.compactChars) =
        (entries es).map fun e => Json.string e.1 ++ ':' :: e.2 := by
    rw [List.map_map]
    rfl
  have injective : Function.Injective (List.map (Prod.map (@id String) String.ofList)) :=
    List.map_injective_iff.mpr (Function.injective_id.prodMap fun _ _ => String.ofList_inj.mp)
  rw [compact_inj, texts, texts, injective.eq_iff, compactChars, compactChars]
  constructor
  · intro h
    exact (compactFields_append_inj fs gs (List.cons.inj h).2).1
  · intro h
    rw [compactFields_eq, compactFields_eq, chars, chars, h]

end Value

end BookmarkViews
