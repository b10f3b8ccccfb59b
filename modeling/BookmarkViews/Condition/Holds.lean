import BookmarkViews.Condition.Basic
import BookmarkViews.Pattern.Basic
import BookmarkViews.Text.LowerCase
import BookmarkViews.Value.Order

/-!
When a condition holds of a value.

This is the meaning of every condition; a store that filters by itself has to
agree with it. A condition that does not fit the kind of a value does not hold of
it. Tests of one text, one date or one scalar hold of a list when they hold of one
of its items.
-/

namespace BookmarkViews

variable [PatternEngine]

/-- Whether a test holds of a value or of an item of it. -/
def Value.anyItem (test : Value → Bool) : Value → Bool
  | .list items => items.any test
  | v => test v

/-! ### Equality -/

/-- The double that a text writes, unless it is not finite. -/
def Text.number? (s : String) : Option Binary64 :=
  Decimal.readFinite? (Text.trim s.toList)

/-- The truth value that a text writes, in any case. -/
def Text.truth? (s : String) : Option Bool :=
  match Text.asciiLowered (Text.trimmed s) with
  | "true" => some true
  | "false" => some false
  | _ => none

/-- The double nearest to a number, or to the number that a text writes. -/
def Value.numeric? : Value → Option Binary64
  | .number n => some n.toFloat
  | .text s => Text.number? s
  | _ => none

/-- The double nearest to a scalar, or to the number that a text writes. -/
def Scalar.numeric? : Scalar → Option Binary64
  | .text s => Text.number? s
  | s => s.toFloat?

/-- Equality across kinds: numbers by value, also when written as texts, and truth
values with the texts that write them. -/
def Scalar.equals (s : Scalar) (v : Value) : Bool :=
  match v, s with
  | .null, .null => true
  | .null, _ | _, .null => false
  | .bool b, .bool c => b == c
  | .bool b, .text t => Text.truth? t == some b
  | .text t, .bool b => Text.truth? t == some b
  | .bool _, _ | _, .bool _ => false
  | v, s =>
    (match v, s with
      | .text t, .text u => t == u
      | _, _ => false) ||
    match v.numeric?, s.numeric? with
    | some x, some y => x.sameValue y
    | _, _ => false

/-- Whether an instant is on the day, or is the instant, that a text writes.
Nothing when the text is no date. -/
def Instant.isWritten? (t : Instant) (s : String) : Option Bool :=
  match readDay? s with
  | some day => some (t.day == day.dayNumber)
  | none => (readInstant? s).map (t == ·)

/-- When a literal holds of a value. -/
def Scalar.equalsOf (type : Option FieldType) (v : Value) (s : Scalar) : Bool :=
  let loosely := v.anyItem s.equals
  match s with
  | .null => v.isNull
  | .text t =>
    if type = some .date then
      match v.instant? with
      | none => false
      | some i => (i.isWritten? t).getD loosely
    else loosely
  | _ => loosely

/-! ### Comparison -/

/-- Compare a number with a scalar: exactly between integers of 64 bits, else
between the nearest doubles. -/
def Value.compareNumber? (v : Value) (s : Scalar) : Option Ordering :=
  match v, s with
  | .number n, .int j =>
    match n.int64? with
    | some i => some (compare i j)
    | none => n.toFloat.compare? (Binary64.ofInt j)
  | .number n, .float x => n.toFloat.compare? x
  | _, _ => none

/-- Compare a date with a scalar. -/
def Value.compareDate? (v : Value) (s : Scalar) : Option Ordering := do
  let t ← v.instant?
  let u ← match s with
    | .text s => readInstant? s
    | .int n => Instant.of? n 0
    | _ => none
  return t.compare u

/-- Compare a value with a scalar by the type of the field, or by the value's own
type where the field has none or holds lists. -/
def Value.compareScalar? (type : Option FieldType) (v : Value) (s : Scalar) : Option Ordering :=
  if v.isNull then none
  else match (type.filter (· != .list)).or v.ownType? with
    | some .int | some .float => v.compareNumber? s
    | some .date => v.compareDate? s
    | some .text =>
      match v, s with
      | .text t, .text u => some (Text.order t u)
      | _, _ => none
    | some .bool =>
      match v, s with
      | .bool b, .bool c => some (compare b c)
      | _, _ => none
    | _ => none

/-- When a comparison holds of a value. Null is equal to null and otherwise in no
order. -/
def Comparison.holdsOf (type : Option FieldType) (v : Value) (op : Comparison) (s : Scalar) :
    Bool :=
  if s = .null then
    match op with
    | .eq => v.isNull
    | .ne => !v.isNull
    | _ => false
  else v.anyItem fun item => (item.compareScalar? type s).any op.holds

/-! ### Sets and texts -/

/-- The texts of a set: those of the scalars in a list, or of one scalar. -/
def Value.memberTexts (v : Value) : List String :=
  let text? : Value → Option String
    | .text s => some s
    | .number n => some n.text
    | .bool b => some (if b then "true" else "false")
    | _ => none
  match v with
  | .list items => items.filterMap text?
  | v => (text? v).toList

/-- Whether a text meets a pattern: it is the pattern, or it lies strictly under
the path of a pattern that ends in a slash and a star. -/
def patternMeets (pattern item : String) : Bool :=
  match Text.before? ['*'] pattern.toList with
  | some lead =>
    if lead.getLast? = some '/' then lead.isPrefixOf item.toList else item == pattern
  | none => item == pattern

/-- When a quantified set of patterns is met by a value. -/
def Quantifier.holdsOf (q : Quantifier) (patterns : List String) (v : Value) : Bool :=
  let items := v.memberTexts
  let met (p : String) : Bool := items.any (patternMeets p)
  match q with
  | .any => patterns.any met
  | .all => patterns.all met
  | .none => !patterns.any met

/-- When a test holds of a text. Case does not count for parts of a text. -/
def TextTest.holdsOf (s : String) : TextTest → Bool
  | .contains part => Text.occursIn (Text.lower part.toList) (Text.lower s.toList)
  | .startsWith lead => (Text.lower lead.toList).isPrefixOf (Text.lower s.toList)
  | .search pattern => PatternEngine.finds pattern s
  | .under path =>
    let path := (path.toList.reverse.dropWhile (· == '/')).reverse
    match Text.after? path s.toList with
    | some [] => true
    | some (c :: _) => c == '/'
    | none => false

/-! ### Conditions -/

/-- When a value has all these names: an object as fields with something in them,
a list as items. -/
def Value.hasNames (names : List String) : Value → Bool
  | .object fields => names.all fun n => (Keyed.get? fields n).any Value.isPresent
  | .list items => names.all fun n => items.any (· == .text n)
  | _ => false

namespace Condition

mutual

/-- Whether a condition holds of the value of a field of the given type. -/
def holds (now : Instant) (type : Option FieldType) (v : Value) : Condition → Bool
  | .literal s => s.equalsOf type v
  | .compare op s => op.holdsOf type v s
  | .temporal t => v.anyItem fun item => item.instant?.any fun i => t.holds now i
  | .members q patterns => q.holdsOf patterns v
  | .text t => v.anyItem fun
    | .text s => t.holdsOf s
    | _ => false
  | .present => v.isPresent
  | .absent => !v.isPresent
  | .has names => v.hasNames names
  | .compound .and parts => allHold now type v parts
  | .compound .or parts => anyHolds now type v parts
  | .compound .not parts => !allHold now type v parts

/-- Whether all of some conditions hold. -/
def allHold (now : Instant) (type : Option FieldType) (v : Value) : List Condition → Bool
  | [] => true
  | c :: cs => holds now type v c && allHold now type v cs

/-- Whether one of some conditions holds. -/
def anyHolds (now : Instant) (type : Option FieldType) (v : Value) : List Condition → Bool
  | [] => false
  | c :: cs => holds now type v c || anyHolds now type v cs

end

end Condition

end BookmarkViews
