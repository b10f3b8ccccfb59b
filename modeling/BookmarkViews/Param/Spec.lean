import BookmarkViews.Condition.Holds
import BookmarkViews.Param.Template

/-!
Parameters of a view: their types, defaults and choices.

`ParamSpec.coerce?` turns a supplied value into one of the declared type. A value
that has the type already is kept as it is, so coercing twice is coercing once.
-/

namespace BookmarkViews

inductive ParamType where
  | text
  | int
  | float
  | bool
  | date
  | list
deriving DecidableEq, Repr

namespace ParamType

def name : ParamType → String
  | .text => "string"
  | .int => "int"
  | .float => "float"
  | .bool => "bool"
  | .date => "date"
  | .list => "list"

/-- The type of a name, in any case. -/
def ofName? (s : String) : Option ParamType :=
  match Text.asciiLowered (Text.trimmed s) with
  | "string" | "str" | "text" => some .text
  | "int" | "integer" => some .int
  | "float" | "number" => some .float
  | "bool" | "boolean" => some .bool
  | "date" => some .date
  | "list" => some .list
  | _ => none

/-- The type that a default value shows. -/
def ofDefault : Value → ParamType
  | .bool _ => .bool
  | .number (.int _) => .int
  | .number (.float _) => .float
  | .list _ => .list
  | .null | .text _ | .object _ => .text

end ParamType

/-- The declaration of a parameter. -/
structure ParamSpec where
  type : ParamType := .text
  default : Option Value := none
  description : Option String := none
  choices : List String := []
deriving DecidableEq

/-- Why a value does not fit a parameter. -/
inductive ParamFault where
  | notText
  | notInteger (got : Option String)
  | notNumber
  | notBoolean
  | notDate
  | unreadableDate (fault : Fault)
  | notScalars
  | notList
  | notAChoice (choices : List String) (got : String)
deriving DecidableEq, Repr

/-- The wording of a cause for the parameter of a name. -/
def ParamFault.text (name : String) : ParamFault → String
  | .notText => s!"'{name}' must be a string"
  | .notInteger none => s!"'{name}' must be an integer"
  | .notInteger (some got) => s!"'{name}' must be an integer, got {Text.quoted got}"
  | .notNumber => s!"'{name}' must be a number"
  | .notBoolean => s!"'{name}' must be a boolean"
  | .notDate => s!"'{name}' must be a date"
  | .unreadableDate fault => s!"'{name}': {fault.text}"
  | .notScalars => s!"'{name}' must be a list of scalars"
  | .notList => s!"'{name}' must be a list"
  | .notAChoice choices got =>
    let listed := ", ".intercalate choices
    s!"'{name}' must be one of: {listed} (got {Text.quoted got})"

namespace ParamType

/-- A value as an integer. -/
def coerceInt? : Value → Except ParamFault Value
  | .number n => if n.int64?.isSome then .ok (.number n) else .error (.notInteger none)
  | .text s =>
    match Decimal.readInt64? (Text.trim s.toList) with
    | some i => .ok (.ofInt i)
    | none => .error (.notInteger (some s))
  | _ => .error (.notInteger none)

/-- A value as a finite double. -/
def coerceFloat? (v : Value) : Except ParamFault Value :=
  match v.numeric? with
  | some x => if x.isFinite then .ok (.number (.float x)) else .error .notNumber
  | none => .error .notNumber

/-- A value as a truth value. -/
def coerceBool? : Value → Except ParamFault Value
  | .bool b => .ok (.bool b)
  | .text s =>
    match Text.truth? s with
    | some b => .ok (.bool b)
    | none => .error .notBoolean
  | _ => .error .notBoolean

/-- A value as a date: a text that writes one, or an integer. -/
def coerceDate? : Value → Except ParamFault Value
  | .text s =>
    match DateOperand.read? s with
    | .ok _ => .ok (.text s)
    | .error m => .error (.unreadableDate m.fault)
  | .number n => if n.int64?.isSome then .ok (.number n) else .error .notDate
  | _ => .error .notDate

/-- The items of a text with commas between them; empty ones do not count. -/
def commaItems (s : String) : List String :=
  ((s.toList.splitOn ',').map Text.trim).filterMap fun item =>
    if item.isEmpty then none else some (String.ofList item)

/-- Whether a value is a list or an object. -/
def isNestedValue : Value → Bool
  | .list _ | .object _ => true
  | _ => false

/-- A value as a list of scalars. -/
def coerceList? : Value → Except ParamFault Value
  | .list items => if items.any isNestedValue then .error .notScalars else .ok (.list items)
  | .text s => .ok (.list ((commaItems s).map .text))
  | _ => .error .notList

/-- A value as a text. -/
def coerceText? : Value → Except ParamFault Value
  | .text s => .ok (.text s)
  | .number n => .ok (.text n.text)
  | .bool b => .ok (.text (if b then "true" else "false"))
  | _ => .error .notText

/-- A value of this type. -/
def coerce? : ParamType → Value → Except ParamFault Value
  | .text => coerceText?
  | .int => coerceInt?
  | .float => coerceFloat?
  | .bool => coerceBool?
  | .date => coerceDate?
  | .list => coerceList?

end ParamType

/-- Why a declaration is refused. -/
inductive SpecFault where
  | choicesNotAllowed (type : ParamType)
  | badDefault (name : String) (fault : ParamFault)
deriving DecidableEq, Repr

def SpecFault.text : SpecFault → String
  | .choicesNotAllowed type => s!"choices are only allowed for string or list, not {type.name}"
  | .badDefault name fault => s!"default: {fault.text name}"

namespace ParamSpec

/-- A parameter that has to be supplied. -/
def required (type : ParamType) : ParamSpec :=
  { type }

/-- A parameter with a default, which shows its type. -/
def withDefault (v : Value) : ParamSpec :=
  { type := .ofDefault v, default := some v }

/-- The texts that have to be among the choices. -/
def choiceTexts : Value → List String
  | .list items => items.map Value.inlineText
  | v => [v.inlineText]

/-- Check a value against the choices, if there are any. -/
def checkChoices (spec : ParamSpec) (v : Value) : Except ParamFault Value :=
  if spec.choices.isEmpty then .ok v
  else match (choiceTexts v).find? fun s => !spec.choices.contains s with
    | some bad => .error (.notAChoice spec.choices bad)
    | none => .ok v

/-- A supplied value as one of the declared type. -/
def coerce? (spec : ParamSpec) (v : Value) : Except ParamFault Value := do
  spec.checkChoices (← spec.type.coerce? v)

/-- Check a declaration: choices fit the type, and the default fits the
declaration. -/
def check (name : String) (spec : ParamSpec) : Except SpecFault Unit :=
  if !spec.choices.isEmpty && spec.type != .text && spec.type != .list then
    .error (.choicesNotAllowed spec.type)
  else match spec.default with
    | none => .ok ()
    | some v =>
      match spec.coerce? v with
      | .ok _ => .ok ()
      | .error fault => .error (.badDefault name fault)

end ParamSpec

end BookmarkViews
