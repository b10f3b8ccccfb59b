import BookmarkViews.View.Basic

/-!
Why a view or a document of views is refused.
-/

namespace BookmarkViews

/-- What stands in a document where something else is expected. -/
inductive Found where
  | nothing
  | bool (b : Bool)
  | number (n : Number)
  | text (s : String)
  | sequence
  | mapping
deriving DecidableEq, Repr

namespace Found

/-- The kind of a document value. -/
def ofNode (n : Node) : Found :=
  match n.untagged with
  | .bool b => .bool b
  | .number n => .number n
  | .text s => .text s
  | .sequence _ => .sequence
  | .mapping _ => .mapping
  | .null | .tagged _ _ => .nothing

def describe : Found → String
  | .nothing => "unit value"
  | .bool b => s!"boolean {mark}{b}{mark}"
  | .number (.int n) => s!"integer {mark}{n}{mark}"
  | .number (.float x) =>
    let text := String.ofList (Decimal.messageStyle.render x)
    s!"floating point {mark}{text}{mark}"
  | .text s => s!"string {Text.quoted s}"
  | .sequence => "sequence"
  | .mapping => "map"
where
  mark : String := "\x60"

end Found

/-- Why the definition of a view, or a document, does not have the right form. -/
inductive DefinitionFault where
  | unknownKey (key : String)
  | repeatedKey (key : String)
  | wrongType (found : Found) (expected : String)
  | outOfRange (found : Found) (expected : String)
  | groupNeedsStats (entity : Entity)
  | repeatedGroup (field : String)
  | groupField (cause : Malformed)
  | conflictingEntities
  | fromConflict (source entity : String)
  | emptyFrom
  | negative (key : String) (n : Int)
  | notTexts (key : String)
  | entriesNotMappings (key : String)
  | notMappings (key : String)
  | documentForm
  | viewName
deriving DecidableEq, Repr

/-- The keys of a definition, each followed by its other name. -/
def definitionKeys : List String :=
  ["description", "entity", "base", "from", "filter", "where", "order", "sort", "limit", "offset",
    "group", "group_by", "compute", "having", "exclude", "union", "intersect", "params"]

def DefinitionFault.text : DefinitionFault → String
  | .unknownKey key =>
    let keys := ", ".intercalate (definitionKeys.map fun k => mark ++ k ++ mark)
    s!"unknown field {mark}{key}{mark}, expected one of {keys}"
  | .repeatedKey key => s!"duplicate field {mark}{key}{mark}"
  | .wrongType found expected => s!"invalid type: {found.describe}, expected {expected}"
  | .outOfRange found expected => s!"invalid value: {found.describe}, expected {expected}"
  | .groupNeedsStats entity => s!"group/compute requires entity stats, found {entity.name}"
  | .repeatedGroup field => s!"duplicate group field '{field}'"
  | .groupField cause => cause.message
  | .conflictingEntities => "conflicting entity declarations"
  | .fromConflict source entity => s!"from '{source}' conflicts with entity '{entity}'"
  | .emptyFrom => "from must not be empty"
  | .negative key n => s!"{key} must be non-negative, got {n}"
  | .notTexts key => s!"{key} must be a string or a list of strings"
  | .entriesNotMappings key => s!"{key} list entries must be mappings"
  | .notMappings key => s!"{key} must be a mapping or a list of mappings"
  | .documentForm => "a view document must be a mapping of name to definition"
  | .viewName => "view names must be non-empty strings"
where
  mark : String := "\x60"

/-- Why a parameter of a view is refused. -/
inductive DeclarationFault where
  | spec (fault : SpecFault)
  | undeclared
  | entriesNotNames
  | namesNotTexts
  | form
  | typeNotText
  | unknownType (name : String)
  | unnamedKey (fault : KeyFault)
  | choicesNotList
  | choicesNotScalars
  | unknownKey (key : String)
deriving DecidableEq, Repr

def DeclarationFault.text : DeclarationFault → String
  | .spec fault => fault.text
  | .undeclared => "referenced by a template but not declared"
  | .entriesNotNames => "parameter list entries must be names"
  | .namesNotTexts => "parameter names must be strings"
  | .form => "params must be a mapping or a list of names"
  | .typeNotText => "type must be a string"
  | .unknownType name => s!"unknown type '{name}'"
  | .unnamedKey fault => fault.message
  | .choicesNotList => "choices must be a list"
  | .choicesNotScalars => "choices must be scalars"
  | .unknownKey key => s!"unknown key '{key}'"

/-- Why an aggregate of a view is refused. -/
inductive ComputeFault where
  | unreadable (fault : AggregateFault)
  | notText
  | countTakesNoField
  | needsField
  | repeatedName
  | nameOfGroup
deriving DecidableEq, Repr

def ComputeFault.text : ComputeFault → String
  | .unreadable fault => fault.text
  | .notText => "expected an aggregate such as sum(stars)"
  | .countTakesNoField => "count() takes no field"
  | .needsField => "aggregate requires a field"
  | .repeatedName => "duplicate output name"
  | .nameOfGroup => "output name collides with a group field"

/-- Why a view or a document of views is refused. -/
inductive ViewError where
  | condition (view field : String) (cause : Malformed)
  | unknownEntity (view entity : String)
  | unresolved (view reference : String)
  | duplicate (view : String)
  | param (view param : String) (fault : DeclarationFault)
  | cycle (members : List String)
  | sort (view clause : String) (fault : SortFault)
  | compute (view spec : String) (fault : ComputeFault)
  | definition (view : String) (fault : DefinitionFault)
  | notYaml
  | unreadable (path reason : String)
deriving DecidableEq, Repr

/-- The error text. -/
def ViewError.message : ViewError → String
  | .condition view field cause => s!"query '{view}': field '{field}': {cause.message}"
  | .unknownEntity view entity => s!"query '{view}': unknown entity '{entity}'"
  | .unresolved view reference => s!"query '{view}': unresolved view reference '{reference}'"
  | .duplicate view => s!"duplicate view '{view}'"
  | .param view name fault => s!"query '{view}': invalid parameter '{name}': {fault.text}"
  | .cycle members => "cyclic view reference involving: " ++ ", ".intercalate members
  | .sort view clause fault =>
    s!"query '{view}': invalid sort clause {Text.quoted clause}: {fault.text}"
  | .compute view spec fault =>
    s!"query '{view}': invalid compute {Text.quoted spec}: {fault.text}"
  | .definition view fault => s!"query '{view}': {fault.text}"
  | .notYaml => "YAML parse error"
  | .unreadable path reason => s!"cannot read {path}: {reason}"

end BookmarkViews
