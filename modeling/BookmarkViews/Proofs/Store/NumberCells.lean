import BookmarkViews.Proofs.Number.Reading
import BookmarkViews.Proofs.Number.Rounding
import BookmarkViews.Proofs.Text.Trimming
import BookmarkViews.Store.CellTest

/-!
Cells in columns of numbers, compared by the tables and by conditions.

Tables compare a cell with an operand by exact value
(`CellTest.compareNumber?`). Conditions compare what the cell shows
(`ClauseOp.order?`): integers of 64 bits exactly where a comparison sign
stands, all else by nearest doubles. `ClauseOp.Parts` lists the cells where the two
disagree, and `agrees_iff_not_parts` says that there are no others:

* an infinite cell shows as nothing, but the tables still order it;
* numbers that are not equal may have one nearest double, and then they are equal
  to conditions only.
-/

namespace BookmarkViews

/-! ### What a column of numbers keeps -/

namespace Cell

/-- The value that a cell shows, null when it shows none. -/
def shown (c : Cell) : Value :=
  c.toValue?.getD .null

/-- A cell as a column of numbers keeps it: a text in it writes no number. -/
def Settled (c : Cell) : Prop :=
  ∀ s, c = .text s → Text.number? s = none

theorem settled_integer (n : Int) : (integer n).Settled := nofun

theorem settled_real (x : Binary64) : (real x).Settled := nofun

theorem settled_null : null.Settled := nofun

/-- The text of a list or an object starts with a bracket, and so writes no number. -/
theorem settled_bracketed {v : Value} {first last : Char} {cs : List Char}
    (text : v.compactChars = first :: (cs ++ [last])) (hf : Text.isBlank first = false)
    (hl : Text.isBlank last = false) (other : Decimal.isNumberChar first = false) :
    (Cell.text v.compact).Settled := by
  intro s same
  obtain rfl := Cell.text.inj same
  have tight := Text.tight_between cs hf hl
  rw [Text.number?, Value.compact, String.toList_ofList, text, tight.trim_eq]
  exact Decimal.readFinite?_eq_none_of_head other

theorem settled_ofNumeric (s : String) : (ofNumeric s).Settled := by
  unfold ofNumeric
  dsimp only
  split
  · exact settled_integer _
  · split
    · exact settled_real _
    · next unread =>
      intro t same
      obtain rfl := Cell.text.inj same
      exact unread

theorem settled_ofValue {v : Value} (h : ∀ s, v ≠ .text s) : (ofValue v).Settled := by
  cases v with
  | null => exact settled_null
  | bool b => exact settled_integer _
  | number n =>
    unfold ofValue
    dsimp only
    split
    · exact settled_integer _
    · exact settled_real _
  | text s => exact absurd rfl (h s)
  | list items => exact settled_bracketed rfl (by decide) (by decide) (by decide)
  | object fields => exact settled_bracketed rfl (by decide) (by decide) (by decide)

theorem settled_prepare {type : FieldType} (numeric : type.isNumeric = true) (v : Value) :
    (prepare (some type) v).Settled := by
  have untouched (h : ∀ s, v ≠ .text s) : prepare (some type) v = ofValue v := by
    unfold prepare
    split
    · exact absurd rfl (h _)
    · exact absurd rfl (h _)
    · exact absurd rfl (h _)
    · rfl
  cases v with
  | text s =>
    have read : prepare (some type) (.text s) = ofNumeric s := by
      cases type with
      | int | float => rfl
      | text | bool | date | list | object => exact absurd numeric (by decide)
    rw [read]
    exact settled_ofNumeric s
  | null | bool _ | number _ | list _ | object _ =>
    rw [untouched nofun]
    exact settled_ofValue nofun

theorem settled_preferInteger (x : Binary64) : (preferInteger x).Settled := by
  unfold preferInteger
  split
  · exact settled_integer _
  · exact settled_real _

theorem settled_ofNumberText? {s : String} {c : Cell} (h : ofNumberText? s = some c) :
    c.Settled := by
  unfold ofNumberText? at h
  dsimp only at h
  split at h
  · split at h
    · exact Option.some_inj.mp h ▸ settled_integer _
    · obtain ⟨x, -, rfl⟩ := Option.map_eq_some_iff.mp h
      exact settled_preferInteger x
  · exact nomatch h

/-- **A column of numbers keeps no text that writes a number**: such texts become
numbers, first by the type of the column and then by its affinity. -/
theorem settled_keep {affinity : Affinity} (numeric : affinity ≠ .text) {c : Cell}
    (h : c.Settled) : (affinity.keep c).Settled := by
  cases affinity with
  | text => exact absurd rfl numeric
  | integer =>
    cases c with
    | null => exact settled_null
    | integer n => exact settled_integer n
    | real x => exact settled_preferInteger x
    | text s =>
      rw [Affinity.keep]
      cases read : ofNumberText? s with
      | none => exact h
      | some c => exact settled_ofNumberText? read
  | real =>
    cases c with
    | null => exact settled_null
    | integer n => exact settled_real _
    | real x => exact settled_real x
    | text s =>
      rw [Affinity.keep]
      split
      · exact settled_real _
      · next read => exact settled_ofNumberText? read
      · exact h

/-- The double nearest to the number that a cell shows; an infinite cell shows
none. -/
def nearest? : Cell → Option Binary64
  | .integer n => some (Binary64.ofInt n)
  | .real x => if x.isFinite then some x else none
  | .null | .text _ => none

end Cell

namespace NumberOperand

/-- The double nearest to an operand. -/
def nearest : NumberOperand → Binary64
  | .integer n => Binary64.ofInt n
  | .real x => x

/-- An operand that a clause can hold: a finite number. -/
def isFinite : NumberOperand → Bool
  | .integer n => Decimal.fits64 n
  | .real x => x.isFinite

/-- The operand of a scalar that is a finite number. -/
def ofScalar? (s : Scalar) : Option NumberOperand :=
  match s with
  | .int n => if Decimal.fits64 n then some (integer n) else none
  | .float x => if x.isFinite then some (real x) else none
  | .null | .bool _ | .text _ => none

end NumberOperand

/-! ### Comparisons by conditions -/

namespace ClauseOp

/-- How a clause on numbers compares, and with what; a literal asks for equality. -/
def number? : ClauseOp → Option (Comparison × NumberOperand)
  | .compare cmp s => (NumberOperand.ofScalar? s).map (cmp, ·)
  | .equals s => (NumberOperand.ofScalar? s).map (.eq, ·)
  | .present | .absent | .anyOf _ => none

theorem cases_of_number? {op : ClauseOp} {cmp : Comparison} {operand : NumberOperand}
    (h : op.number? = some (cmp, operand)) :
    ∃ s, NumberOperand.ofScalar? s = some operand ∧
      (op = .compare cmp s ∨ op = .equals s ∧ cmp = .eq) := by
  cases op with
  | compare cmp' s =>
    obtain ⟨_, read, same⟩ := Option.map_eq_some_iff.mp h
    obtain ⟨rfl, rfl⟩ := Prod.mk.inj same
    exact ⟨s, read, .inl rfl⟩
  | equals s =>
    obtain ⟨_, read, same⟩ := Option.map_eq_some_iff.mp h
    obtain ⟨rfl, rfl⟩ := Prod.mk.inj same
    exact ⟨s, read, .inr ⟨rfl, rfl⟩⟩
  | present | absent | anyOf _ => exact nomatch h

/-- Whether conditions compare a cell with the operand of a clause as integers. -/
def isExactOn (op : ClauseOp) (operand : NumberOperand) : Cell → Bool
  | .integer n =>
    match op, operand with
    | .compare _ _, .integer _ => Decimal.fits64 n
    | _, _ => false
  | .null | .real _ | .text _ => false

/-- How conditions order what a cell shows and the operand of a clause. -/
def order? (op : ClauseOp) (operand : NumberOperand) (cell : Cell) : Option Ordering :=
  if op.isExactOn operand cell then CellTest.compareNumber? cell operand
  else cell.nearest?.bind fun x => x.compare? operand.nearest

end ClauseOp

/-- A double that is finite is shown, any other is not. -/
theorem Cell.real_cases (x : Binary64) :
    (x.isFinite = false ∧ (real x).shown = .null ∧ (real x).nearest? = none) ∨
      (x.isFinite = true ∧ (real x).shown = .number (.float x) ∧ (real x).nearest? = some x) := by
  rw [shown, toValue?, Option.getD_some, Value.ofFloat, nearest?]
  cases finite : x.isFinite with
  | false => exact .inl ⟨rfl, rfl, rfl⟩
  | true => exact .inr ⟨rfl, rfl, rfl⟩

/-- Only a finite double has a nearest one, itself. -/
theorem Cell.finite_of_nearest?_real {x y : Binary64} (h : (real x).nearest? = some y) :
    x.isFinite = true ∧ x = y := by
  rcases real_cases x with ⟨-, -, none⟩ | ⟨finite, -, same⟩
  · exact nomatch none.symm.trans h
  · exact ⟨finite, Option.some_inj.mp (same.symm.trans h)⟩

section Conditions

variable {type : FieldType} {s : Scalar} {operand : NumberOperand} {cell : Cell}

theorem ofScalar?_cases (h : NumberOperand.ofScalar? s = some operand) :
    (∃ n, s = .int n ∧ operand = .integer n ∧ operand.isFinite = true) ∨
      ∃ x, s = .float x ∧ operand = .real x ∧ operand.isFinite = true := by
  cases s with
  | int n =>
    rw [NumberOperand.ofScalar?] at h
    split_ifs at h with finite
    obtain rfl := Option.some_inj.mp h
    exact .inl ⟨n, rfl, rfl, finite⟩
  | float x =>
    rw [NumberOperand.ofScalar?] at h
    split_ifs at h with finite
    obtain rfl := Option.some_inj.mp h
    exact .inr ⟨x, rfl, rfl, finite⟩
  | null | bool _ | text _ => exact nomatch h

/-- Values of a field of numbers are compared as numbers. -/
theorem compareScalar?_of_isNumeric (numeric : type.isNumeric = true) {v : Value}
    (present : v.isNull = false) : v.compareScalar? (some type) s = v.compareNumber? s := by
  cases type with
  | int | float =>
    unfold Value.compareScalar?
    rw [present]
    rfl
  | text | bool | date | list | object => exact absurd numeric (by decide)

/-- Where a cell shows no number, conditions order nothing. -/
theorem order?_of_nearest?_eq_none {op : ClauseOp} (h : cell.nearest? = none) :
    op.order? operand cell = none := by
  have inexact : op.isExactOn operand cell = false := by
    cases cell with
    | integer n => exact nomatch h
    | null | real _ | text _ => rfl
  rw [ClauseOp.order?, inexact, h]
  rfl

/-- Numbers that are not both integers are ordered by nearest doubles. -/
theorem order?_of_inexact {op : ClauseOp} (h : op.isExactOn operand cell = false) {x : Binary64}
    (shown : cell.nearest? = some x) :
    op.order? operand cell = x.compare? operand.nearest := by
  rw [ClauseOp.order?, h, shown]
  rfl

/-- **A comparison sign before a number orders what a cell shows.** -/
theorem compareScalar?_shown (numeric : type.isNumeric = true) {cmp : Comparison}
    (number : NumberOperand.ofScalar? s = some operand) :
    cell.shown.compareScalar? (some type) s = (ClauseOp.compare cmp s).order? operand cell := by
  cases cell with
  | null => exact (order?_of_nearest?_eq_none rfl).symm
  | text t =>
    rw [order?_of_nearest?_eq_none rfl]
    exact compareScalar?_of_isNumeric numeric rfl
  | integer n =>
    change (Value.number (.int n)).compareScalar? (some type) s = _
    rw [compareScalar?_of_isNumeric numeric rfl]
    rcases ofScalar?_cases number with ⟨j, rfl, rfl, -⟩ | ⟨y, rfl, rfl, -⟩
    · rw [ClauseOp.order?, ClauseOp.isExactOn, Value.compareNumber?, Number.int64?]
      split_ifs
      · rfl
      · rw [Cell.nearest?, Option.bind_some, NumberOperand.nearest, Number.toFloat]
    · rw [order?_of_inexact rfl rfl]
      rfl
  | real x =>
    rcases Cell.real_cases x with ⟨-, shown, unseen⟩ | ⟨-, shown, seen⟩
    · rw [shown, order?_of_nearest?_eq_none unseen]
      rfl
    · rw [shown, order?_of_inexact rfl seen, compareScalar?_of_isNumeric numeric rfl]
      rcases ofScalar?_cases number with ⟨j, rfl, rfl, -⟩ | ⟨y, rfl, rfl, -⟩ <;> rfl

theorem holdsOf_shown (numeric : type.isNumeric = true) {cmp : Comparison}
    (number : NumberOperand.ofScalar? s = some operand) :
    cmp.holdsOf (some type) cell.shown s =
      ((ClauseOp.compare cmp s).order? operand cell).any cmp.holds := by
  have scalar : s ≠ .null := by
    rcases ofScalar?_cases number with ⟨_, rfl, -⟩ | ⟨_, rfl, -⟩ <;> nofun
  have single (test : Value → Bool) : cell.shown.anyItem test = test cell.shown := by
    cases cell with
    | null | integer _ | text _ => rfl
    | real x => rcases Cell.real_cases x with ⟨-, shown, -⟩ | ⟨-, shown, -⟩ <;> rw [shown] <;> rfl
  unfold Comparison.holdsOf
  rw [if_neg scalar, single, compareScalar?_shown numeric number]

/-- A literal number asks a number for an equal nearest double. -/
theorem equals_number (number : NumberOperand.ofScalar? s = some operand) (n : Number) :
    s.equals (.number n) = (n.toFloat.compare? operand.nearest).any Comparison.eq.holds := by
  have same : s.equals (.number n) = n.toFloat.sameValue operand.nearest := by
    rcases ofScalar?_cases number with ⟨_, rfl, rfl, -⟩ | ⟨_, rfl, rfl, -⟩ <;> rfl
  rw [same, Binary64.sameValue]
  cases n.toFloat.compare? operand.nearest with
  | none => rfl
  | some o => cases o <;> rfl

/-- **A literal number asks what a cell shows for an equal nearest double.** -/
theorem equalsOf_shown (settled : cell.Settled)
    (number : NumberOperand.ofScalar? s = some operand) :
    s.equalsOf (some type) cell.shown =
      ((ClauseOp.equals s).order? operand cell).any Comparison.eq.holds := by
  have loosely : s.equalsOf (some type) cell.shown = cell.shown.anyItem s.equals := by
    rcases ofScalar?_cases number with ⟨_, rfl, -⟩ | ⟨_, rfl, -⟩ <;> rfl
  rw [loosely]
  cases cell with
  | null =>
    rw [order?_of_nearest?_eq_none rfl]
    rcases ofScalar?_cases number with ⟨_, rfl, -⟩ | ⟨_, rfl, -⟩ <;> rfl
  | text t =>
    have unread : (Value.text t).numeric? = none := settled t rfl
    have differs : s.equals (.text t) = false := by
      rcases ofScalar?_cases number with ⟨_, rfl, -⟩ | ⟨_, rfl, -⟩ <;>
        simp [Scalar.equals, unread]
    rw [order?_of_nearest?_eq_none rfl]
    exact differs
  | integer n =>
    have inexact : (ClauseOp.equals s).isExactOn operand (.integer n) = false := by
      cases operand <;> rfl
    rw [order?_of_inexact inexact rfl]
    exact equals_number number (.int n)
  | real x =>
    rcases Cell.real_cases x with ⟨-, shown, unseen⟩ | ⟨-, shown, seen⟩
    · rw [shown, order?_of_nearest?_eq_none unseen]
      rcases ofScalar?_cases number with ⟨_, rfl, -⟩ | ⟨_, rfl, -⟩ <;> rfl
    · rw [shown, order?_of_inexact rfl seen]
      exact equals_number number (.float x)

end Conditions

/-! ### Where the two comparisons part -/

/-- An exact order is one of nearest doubles, unless those are equal. -/
theorem nearest_of_compareNumber? {cell : Cell} {operand : NumberOperand} {x : Binary64}
    {o : Ordering} (finite : operand.isFinite = true) (shown : cell.nearest? = some x)
    (exactly : CellTest.compareNumber? cell operand = some o) :
    x.compare? operand.nearest = some o ∨ x.compare? operand.nearest = some .eq := by
  cases cell with
  | null | text _ => exact nomatch shown
  | integer i =>
    obtain rfl := Option.some_inj.mp shown
    cases operand with
    | integer j =>
      obtain rfl := Option.some_inj.mp exactly
      exact Binary64.compare?_ofInt_ofInt i j
    | real y => exact Binary64.compare?_ofInt_of_compareInt? finite exactly
  | real x' =>
    obtain ⟨seen, rfl⟩ := Cell.finite_of_nearest?_real shown
    cases operand with
    | integer j =>
      obtain ⟨o', reverse, rfl⟩ := Option.map_eq_some_iff.mp exactly
      rw [NumberOperand.nearest, Binary64.compare?_swap]
      rcases Binary64.compare?_ofInt_of_compareInt? seen reverse with same | equal
      · exact .inl (by rw [same]; rfl)
      · exact .inr (by rw [equal]; rfl)
    | real y => exact .inl exactly

/-- A number that is shown has an exact order to a finite operand. -/
theorem exists_compareNumber? {cell : Cell} {operand : NumberOperand} {x : Binary64}
    (finite : operand.isFinite = true) (shown : cell.nearest? = some x) :
    ∃ o, CellTest.compareNumber? cell operand = some o := by
  cases cell with
  | null | text _ => exact nomatch shown
  | integer i =>
    cases operand with
    | integer j => exact ⟨_, rfl⟩
    | real y => exact Binary64.exists_compareInt? i finite
  | real x' =>
    obtain ⟨seen, -⟩ := Cell.finite_of_nearest?_real shown
    cases operand with
    | integer j =>
      obtain ⟨o, exactly⟩ := Binary64.exists_compareInt? j seen
      exact ⟨o.swap, by rw [CellTest.compareNumber?, exactly]; rfl⟩
    | real y =>
      exact ⟨_, Binary64.compare?_eq_some (Binary64.isNaN_of_isFinite seen)
        (Binary64.isNaN_of_isFinite finite)⟩

namespace ClauseOp

/-- The cells on which a test of the tables and a clause on numbers disagree. -/
inductive Parts (op : ClauseOp) (cmp : Comparison) (operand : NumberOperand) (cell : Cell) :
    Prop where
  /-- An infinity that passes the test; what it shows passes no comparison. -/
  | infinite {x : Binary64} {o : Ordering} (is : cell = .real x) (infinite : x.isFinite = false)
    (exactly : CellTest.compareNumber? cell operand = some o) (passes : cmp.holds o = true)
  /-- Two numbers with one nearest double, which the comparison tells apart. -/
  | rounded {x : Binary64} {o : Ordering} (inexact : op.isExactOn operand cell = false)
    (shown : cell.nearest? = some x) (same : x.sameValue operand.nearest = true)
    (exactly : CellTest.compareNumber? cell operand = some o)
    (differs : cmp.holds o ≠ cmp.holds .eq)

variable {op : ClauseOp} {cmp : Comparison} {operand : NumberOperand} {cell : Cell}

/-- Where a cell shows a number, only equal nearest doubles can part the two. -/
theorem parts_iff_of_nearest? {x : Binary64} {o : Ordering} (shown : cell.nearest? = some x)
    (exactly : CellTest.compareNumber? cell operand = some o) :
    op.Parts cmp operand cell ↔
      op.isExactOn operand cell = false ∧ x.compare? operand.nearest = some .eq ∧
        cmp.holds o ≠ cmp.holds .eq := by
  constructor
  · rintro (⟨rfl, infinite, -, -⟩ | ⟨inexact, shown', same, exactly', differs⟩)
    · obtain ⟨finite, -⟩ := Cell.finite_of_nearest?_real shown
      exact nomatch infinite.symm.trans finite
    · obtain rfl := Option.some_inj.mp (shown.symm.trans shown')
      obtain rfl := Option.some_inj.mp (exactly.symm.trans exactly')
      exact ⟨inexact, by simpa [Binary64.sameValue] using same, differs⟩
  · rintro ⟨inexact, equal, differs⟩
    exact .rounded inexact shown (by simp [Binary64.sameValue, equal]) exactly differs

/-- **The tables and conditions agree on a cell exactly where they do not part.** -/
theorem agrees_iff_not_parts (finite : operand.isFinite = true) :
    (CellTest.compareNumber? cell operand).any cmp.holds =
        (op.order? operand cell).any cmp.holds ↔ ¬ op.Parts cmp operand cell := by
  cases shown : cell.nearest? with
  | some x =>
    obtain ⟨o, exactly⟩ := exists_compareNumber? finite shown
    rw [parts_iff_of_nearest? shown exactly, exactly, Option.any_some]
    cases exact_ : op.isExactOn operand cell with
    | true =>
      rw [order?, exact_, if_pos rfl, exactly]
      simp
    | false =>
      rw [order?_of_inexact exact_ shown]
      rcases nearest_of_compareNumber? finite shown exactly with same | equal
      · rw [same, Option.any_some]
        refine ⟨fun _ ⟨_, equal, differs⟩ => differs ?_, fun _ => rfl⟩
        rw [Option.some_inj.mp equal]
      · rw [equal, Option.any_some]
        exact ⟨fun agree ⟨_, _, differs⟩ => differs agree,
          fun none => by_contra fun differs => none ⟨rfl, rfl, differs⟩⟩
  | none =>
    rw [order?_of_nearest?_eq_none shown, Option.any_none]
    constructor
    · rintro agree (⟨-, -, exactly, passes⟩ | ⟨-, shown', -, -, -⟩)
      · rw [exactly, Option.any_some, passes] at agree
        exact nomatch agree
      · rw [shown] at shown'
        exact nomatch shown'
    · intro none
      cases exactly : CellTest.compareNumber? cell operand with
      | none => rfl
      | some o =>
        rw [Option.any_some]
        refine Bool.eq_false_iff.mpr fun passes => none ?_
        cases cell with
        | null | text _ => exact nomatch exactly
        | integer i => exact nomatch shown
        | real x =>
          rcases Cell.real_cases x with ⟨infinite, -, -⟩ | ⟨-, -, seen⟩
          · exact .infinite rfl infinite exactly passes
          · exact nomatch shown.symm.trans seen

end ClauseOp

end BookmarkViews
