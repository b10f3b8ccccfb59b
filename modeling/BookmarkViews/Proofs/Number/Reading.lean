import BookmarkViews.Condition.Grammar
import BookmarkViews.Proofs.Text.Trimming
import Mathlib

/-!
Which texts are read as numbers.

* `readInt?_ofInt`: an integer is read from its own digits;
* `ofDigits_padded`, `ofDigits_lt`: the number that digits denote, whatever zeros precede them;
* `looksNumeric_of_readFinite?`: whatever is read as a finite double has the
  characters of one, so the look of a text never hides a number;
* `readInt?_eq_none_of_mem`: no integer is read where a point or an exponent stands.
-/

namespace BookmarkViews.Decimal

/-! ### Digits -/

theorem isDigit_of_mem_ofNat {n : Nat} {c : Char} (h : c ∈ ofNat n) : isDigit c = true := by
  have digit := Nat.isDigit_of_mem_toDigits (by decide) (by decide) h
  simpa [isDigit, Char.isDigit, Char.le_def] using digit

/-- Digits have no case. -/
theorem toLower_of_isDigit {c : Char} (h : isDigit c = true) : c.toLower = c := by
  have high : c.toNat ≤ 57 := of_decide_eq_true (Bool.and_eq_true_iff.mp h).2
  rw [Char.toLower, dif_neg]
  rintro ⟨upper, -⟩
  have low : 65 ≤ c.toNat := upper
  omega

theorem isDigit_of_mem_padded {width n : Nat} {c : Char} (h : c ∈ padded width n) :
    isDigit c = true := by
  rcases List.mem_append.mp h with zero | digit
  · rw [List.eq_of_mem_replicate zero]
    rfl
  · exact isDigit_of_mem_ofNat digit

/-- A nonempty run of digits. -/
structure Numeral (ds : List Char) : Prop where
  nonempty : ds ≠ []
  digits : ∀ c ∈ ds, isDigit c = true

theorem numeral_padded (width n : Nat) : Numeral (padded width n) where
  nonempty := by simp [padded, ofNat, Nat.toDigits_ne_nil]
  digits _ := isDigit_of_mem_padded

/-- What starts with digits starts with a digit. -/
theorem Numeral.head? {ds : List Char} (h : Numeral ds) (rest : List Char) :
    ∃ c, (ds ++ rest).head? = some c ∧ isDigit c = true := by
  refine ⟨ds.head h.nonempty, ?_, h.digits _ (List.head_mem h.nonempty)⟩
  rw [List.head?_append, List.head?_eq_some_head h.nonempty, Option.some_or]

/-- What ends in digits ends in a digit. -/
theorem Numeral.getLast? {ds : List Char} (h : Numeral ds) (front : List Char) :
    ∃ c, (front ++ ds).getLast? = some c ∧ isDigit c = true := by
  refine ⟨ds.getLast h.nonempty, ?_, h.digits _ (List.getLast_mem h.nonempty)⟩
  rw [List.getLast?_append, List.getLast?_eq_some_getLast h.nonempty, Option.some_or]

theorem length_padded {width n : Nat} (pos : 0 < width) (fits : n < 10 ^ width) :
    (padded width n).length = width := by
  have short : (ofNat n).length ≤ width := (Nat.length_toDigits_le_iff (by decide) pos).mpr fits
  rw [padded, List.length_append, List.length_replicate]
  omega

theorem ofDigits_ofNat (n : Nat) : ofDigits (ofNat n) = n := by
  rw [ofDigits, ofNat, ← Nat.ofDigitChars_eq_foldl]
  exact Nat.ofDigitChars_ten_toDigits

/-- Zeros in front do not count. -/
theorem ofDigits_padded (width n : Nat) : ofDigits (padded width n) = n := by
  have zeros (k : Nat) : ofDigits (List.replicate k '0') = 0 := by
    induction k with
    | zero => rfl
    | succ k ih => exact ih
  rw [ofDigits, padded, List.foldl_append, ← ofDigits, zeros]
  exact ofDigits_ofNat n

/-- Digits read behind a number push it up by as many places, and fill these. -/
theorem foldl_digits_bounds {ds : List Char} (digits : ∀ c ∈ ds, isDigit c = true) (n : Nat) :
    n * 10 ^ ds.length ≤ ds.foldl (fun n c => 10 * n + (c.toNat - '0'.toNat)) n ∧
      ds.foldl (fun n c => 10 * n + (c.toNat - '0'.toNat)) n < (n + 1) * 10 ^ ds.length := by
  induction ds generalizing n with
  | nil => simp
  | cons c ds ih =>
    obtain ⟨low, high⟩ := ih (fun c mem => digits c (List.mem_cons_of_mem _ mem))
      (10 * n + (c.toNat - '0'.toNat))
    have digit : c.toNat - '0'.toNat ≤ 9 := by
      have digit := Bool.and_eq_true_iff.mp (digits c List.mem_cons_self)
      exact Nat.sub_le_sub_right (of_decide_eq_true digit.2 : c.toNat ≤ 57) 48
    have place (m : Nat) : m * 10 ^ (c :: ds).length = m * 10 * 10 ^ ds.length := by
      rw [List.length_cons, Nat.pow_succ', Nat.mul_assoc]
    rw [place, place, List.foldl_cons]
    constructor
    · exact (Nat.mul_le_mul_right _ (by omega)).trans low
    · exact high.trans_le (Nat.mul_le_mul_right _ (by omega))

/-- Digits denote less than the power of ten of their number. -/
theorem ofDigits_lt {ds : List Char} (digits : ∀ c ∈ ds, isDigit c = true) :
    ofDigits ds < 10 ^ ds.length := by
  rw [ofDigits, ← Nat.one_mul (10 ^ ds.length)]
  exact (foldl_digits_bounds digits 0).2

theorem readNat?_ofNat (n : Nat) : readNat? (ofNat n) = some n := by
  have digits : (ofNat n).all isDigit = true := List.all_eq_true.mpr fun c => isDigit_of_mem_ofNat
  have nonempty : (ofNat n).isEmpty = false := by
    rw [List.isEmpty_eq_false_iff]
    exact Nat.toDigits_ne_nil
  rw [readNat?, nonempty, digits, ofDigits_ofNat]
  rfl

/-- A text that starts with a digit is read as an integer without its sign. -/
theorem readInt?_of_digit {c : Char} {cs : List Char} (h : isDigit c = true) :
    readInt? (c :: cs) = (readNat? (c :: cs)).map Int.ofNat := by
  unfold readInt?
  split
  · next same => simp_all [isDigit]
  · next same => simp_all [isDigit]
  · cases readNat? (c :: cs) <;> rfl

/-- Nor is a double read with one from such a text. -/
theorem readFloat?_of_digit {c : Char} {cs : List Char} (h : isDigit c = true) :
    readFloat? (c :: cs) = readMagnitude? false (c :: cs) := by
  unfold readFloat?
  split
  · next same => simp_all [isDigit]
  · next same => simp_all [isDigit]
  · rfl

/-- **An integer is read from its own digits.** -/
theorem readInt?_ofInt (n : Int) : readInt? (ofInt n) = some n := by
  unfold ofInt
  split
  · next negative =>
    simp only [readInt?, readNat?_ofNat, Option.pure_def, Option.bind_eq_bind, Option.bind_some,
      Option.map_some, Option.some_inj]
    omega
  · cases digits : ofNat n.natAbs with
    | nil => exact absurd digits Nat.toDigits_ne_nil
    | cons c cs =>
      have digit : isDigit c = true := isDigit_of_mem_ofNat (by rw [digits]; exact List.mem_cons_self)
      rw [readInt?_of_digit digit, ← digits, readNat?_ofNat]
      rw [Option.map_some, Option.some_inj, Int.ofNat_eq_natCast]
      omega

/-- A natural number of 32 bits is read from its own digits. -/
theorem readNat32?_ofNat {n : Nat} (fits : n < 4294967296) : readNat32? (ofNat n) = some n := by
  have unsigned : readNat32? (ofNat n) = (readNat? (ofNat n)).filter (· < 4294967296) := by
    cases digits : ofNat n with
    | nil => rfl
    | cons c cs =>
      have digit : isDigit c = true := isDigit_of_mem_ofNat (by rw [digits]; exact List.mem_cons_self)
      unfold readNat32?
      split
      · next same => simp_all [isDigit]
      · rfl
  rw [unsigned, readNat?_ofNat]
  simp [fits]

theorem lt_of_readNat32? {cs : List Char} {n : Nat} (h : readNat32? cs = some n) :
    n < 4294967296 := by
  unfold readNat32? at h
  split at h <;> exact of_decide_eq_true (Option.filter_eq_some_iff.mp h).2

/-! ### Characters of numbers -/

/-- The characters of decimal numbers. -/
def isNumberChar (c : Char) : Bool :=
  isDigit c || c == '+' || c == '-' || c == '.' || c == 'e' || c == 'E'

theorem isNumberChar_of_isDigit {c : Char} (h : isDigit c = true) : isNumberChar c = true := by
  simp [isNumberChar, h]

/-- The characters of numbers: digits by their codes, the others by name. -/
theorem cases_of_isNumberChar {c : Char} (h : isNumberChar c = true) :
    (48 ≤ c.toNat ∧ c.toNat ≤ 57) ∨ c ∈ ['+', '-', '.', 'e', 'E'] := by
  simp only [isNumberChar, isDigit, Bool.or_eq_true, Bool.and_eq_true, decide_eq_true_eq,
    beq_iff_eq] at h
  rcases h with ((((digit | rfl) | rfl) | rfl) | rfl) | rfl
  · exact .inl digit
  all_goals simp

/-- No character of a number is a blank. -/
theorem isBlank_of_isNumberChar {c : Char} (h : isNumberChar c = true) :
    Text.isBlank c = false := by
  rcases cases_of_isNumberChar h with ⟨low, high⟩ | mem
  · simp only [Text.isBlank, Bool.or_eq_false_iff, Bool.and_eq_false_iff, decide_eq_false_iff_not,
      beq_eq_false_iff_ne]
    omega
  · simp only [List.mem_cons, List.not_mem_nil, or_false] at mem
    rcases mem with rfl | rfl | rfl | rfl | rfl <;> rfl

theorem solid_of_number {cs : List Char} (number : cs.all isNumberChar = true) : Text.Solid cs :=
  fun c mem => isBlank_of_isNumberChar (List.all_eq_true.mp number c mem)

theorem solid_ofNat (n : Nat) : Text.Solid (ofNat n) :=
  solid_of_number (List.all_eq_true.mpr fun _ mem =>
    isNumberChar_of_isDigit (isDigit_of_mem_ofNat mem))

/-- The characters of integers are digits and signs. -/
theorem digits_of_readInt? {cs : List Char} {n : Int} (h : readInt? cs = some n) :
    ∀ c ∈ cs, isDigit c = true ∨ c = '-' ∨ c = '+' := by
  have digits {ds : List Char} {m : Nat} (h : readNat? ds = some m) :
      ∀ c ∈ ds, isDigit c = true := by
    unfold readNat? at h
    split at h
    · next form => exact List.all_eq_true.mp (Bool.and_eq_true_iff.mp form).2
    · exact nomatch h
  unfold readInt? at h
  split at h
  all_goals
    obtain ⟨_, bound, -⟩ := Option.map_eq_some_iff.mp h
    obtain ⟨m, read, -⟩ := Option.bind_eq_some_iff.mp bound
    intro c mem
  · rcases List.mem_cons.mp mem with rfl | mem
    · exact .inr (.inl rfl)
    · exact .inl (digits read c mem)
  · rcases List.mem_cons.mp mem with rfl | mem
    · exact .inr (.inr rfl)
    · exact .inl (digits read c mem)
  · exact .inl (digits read c mem)

theorem isNumberChar_of_readInt? {cs : List Char} {n : Int} (h : readInt? cs = some n) :
    cs.all isNumberChar = true := by
  refine List.all_eq_true.mpr fun c mem => ?_
  rcases digits_of_readInt? h c mem with digit | rfl | rfl
  · exact isNumberChar_of_isDigit digit
  · rfl
  · rfl

/-- No integer is read from a text with a character that no integer has. -/
theorem readInt?_eq_none_of_mem {cs : List Char} {c : Char} (mem : c ∈ cs)
    (other : c = '.' ∨ c = 'e') : readInt? cs = none := by
  cases read : readInt? cs with
  | none => rfl
  | some n =>
    rcases digits_of_readInt? read c mem with digit | rfl | rfl
    · rcases other with rfl | rfl <;> exact absurd digit (by decide)
    · exact absurd other (by decide)
    · exact absurd other (by decide)

theorem isNumberChar_takeWhile (cs : List Char) :
    (cs.takeWhile isDigit).all isNumberChar = true := by
  refine List.all_eq_true.mpr fun c mem => isNumberChar_of_isDigit ?_
  exact List.all_eq_true.mp List.all_takeWhile c mem

theorem any_isDigit_of_takeWhile {cs : List Char} (h : cs.takeWhile isDigit ≠ []) :
    cs.any isDigit = true := by
  obtain ⟨c, mem⟩ := List.exists_mem_of_ne_nil _ h
  exact List.any_eq_true.mpr ⟨c, (List.takeWhile_sublist isDigit).subset mem,
    List.all_eq_true.mp List.all_takeWhile c mem⟩

theorem all_isNumberChar_of_dropWhile {cs : List Char}
    (h : (cs.dropWhile isDigit).all isNumberChar = true) : cs.all isNumberChar = true := by
  rw [← List.takeWhile_append_dropWhile (p := isDigit) (l := cs), List.all_append,
    isNumberChar_takeWhile, h]
  rfl

/-- What follows the digits of a number is nothing or an exponent. -/
theorem isNumberChar_of_exponent {rest whole fraction : List Char}
    {parts : List Char × List Char × Int}
    (h : (match rest with
      | [] => some (whole, fraction, 0)
      | c :: rest =>
        if c = 'e' || c = 'E' then (readInt? rest).map fun e => (whole, fraction, e)
        else none) = some parts) : rest.all isNumberChar = true := by
  cases rest with
  | nil => rfl
  | cons c rest =>
    dsimp only at h
    split at h
    · next letter =>
      obtain ⟨e, read, -⟩ := Option.map_eq_some_iff.mp h
      have first : isNumberChar c = true := by
        rcases Bool.or_eq_true_iff.mp letter with e | e <;>
          simp [isNumberChar, of_decide_eq_true e]
      rw [List.all_cons, first, isNumberChar_of_readInt? read]
      rfl
    · exact nomatch h

/-- The parts of a decimal number have its characters, and a digit is among them. -/
theorem looks_of_readParts? {cs : List Char} {parts : List Char × List Char × Int}
    (h : readParts? cs = some parts) :
    cs.any isDigit = true ∧ cs.all isNumberChar = true := by
  unfold readParts? at h
  simp only [List.span_eq_takeWhile_dropWhile] at h
  cases after : cs.dropWhile isDigit with
  | nil =>
    simp only [after, List.isEmpty_nil, Bool.and_true, List.isEmpty_iff] at h
    split at h
    · exact nomatch h
    next digits =>
    exact ⟨any_isDigit_of_takeWhile digits, all_isNumberChar_of_dropWhile (by rw [after]; rfl)⟩
  | cons c rest =>
    by_cases point : c = '.'
    · subst point
      simp only [after] at h
      split at h
      · exact nomatch h
      next digits =>
      simp only [Bool.and_eq_true, not_and, List.isEmpty_iff] at digits
      have later := all_isNumberChar_of_dropWhile (isNumberChar_of_exponent h)
      refine ⟨?_, all_isNumberChar_of_dropWhile ?_⟩
      · by_cases none : cs.takeWhile isDigit = []
        · have digit := any_isDigit_of_takeWhile (digits none)
          rw [← List.takeWhile_append_dropWhile (p := isDigit) (l := cs), none, after,
            List.nil_append, List.any_cons, digit, Bool.or_true]
        · exact any_isDigit_of_takeWhile none
      · rw [after, List.all_cons, later]
        rfl
    · simp only [after, List.cons.injEq, point, false_and, imp_self, implies_true] at h
      split at h
      · exact nomatch h
      next digits =>
      simp only [List.isEmpty_nil, Bool.and_true, List.isEmpty_iff] at digits
      refine ⟨any_isDigit_of_takeWhile digits, all_isNumberChar_of_dropWhile ?_⟩
      rw [after]
      exact isNumberChar_of_exponent h

/-- What is read as a finite magnitude is a decimal number, and not the name of an
infinity. -/
theorem looks_of_readMagnitude? {negative : Bool} {cs : List Char} {x : Binary64}
    (h : readMagnitude? negative cs = some x) (finite : x.isFinite = true) :
    cs.any isDigit = true ∧ cs.all isNumberChar = true := by
  unfold readMagnitude? at h
  dsimp only at h
  split at h
  · obtain rfl := Option.some_inj.mp h
    exact absurd finite (by simp [Binary64.isFinite])
  · split at h
    · obtain rfl := Option.some_inj.mp h
      exact absurd finite (by simp [Binary64.isFinite, Binary64.notANumber, Binary64.infinity])
    · obtain ⟨parts, read, -⟩ := Option.map_eq_some_iff.mp h
      exact looks_of_readParts? read

/-- **A text that is read as a finite double looks like a number.** -/
theorem looksNumeric_of_readFinite? {cs : List Char} {x : Binary64}
    (h : readFinite? cs = some x) : Scalar.looksNumeric cs = true := by
  obtain ⟨read, finite⟩ := Option.filter_eq_some_iff.mp h
  change (cs.any isDigit && cs.all isNumberChar) = true
  unfold readFloat? at read
  split at read
  · obtain ⟨digit, all⟩ := looks_of_readMagnitude? read finite
    rw [List.any_cons, List.all_cons, digit, all]
    rfl
  · obtain ⟨digit, all⟩ := looks_of_readMagnitude? read finite
    rw [List.any_cons, List.all_cons, digit, all]
    rfl
  · obtain ⟨digit, all⟩ := looks_of_readMagnitude? read finite
    rw [digit, all]
    rfl

/-- A text that starts with a character of no number is not read as one. -/
theorem readFinite?_eq_none_of_head {c : Char} {cs : List Char} (h : isNumberChar c = false) :
    readFinite? (c :: cs) = none := by
  cases read : readFinite? (c :: cs) with
  | none => rfl
  | some x =>
    have looks := looksNumeric_of_readFinite? read
    have first : isNumberChar c = true :=
      List.all_eq_true.mp (Bool.and_eq_true_iff.mp looks).2 c List.mem_cons_self
    exact absurd first (by simp [h])

end BookmarkViews.Decimal
