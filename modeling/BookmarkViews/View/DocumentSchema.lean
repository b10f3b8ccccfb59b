import BookmarkViews.Value.Basic

/-!
The JSON schema of view documents.

A document maps names to definitions. A key whose value has a form of its own
(`Property.anything`) is left to the reader of definitions.
-/

namespace BookmarkViews.DocumentSchema

/-- What the schema says about a key of a definition. -/
inductive Property where
  | text (description : String)
  | integer
  | described (description : String)
  | anything
deriving DecidableEq, Repr

/-- The types of a value that may be null. -/
def orNull (type : String) : Value :=
  .list [.text type, .text "null"]

def Property.toValue : Property → Value
  | .text description => .object [("description", .text description), ("type", orNull "string")]
  | .integer => .object [("type", orNull "integer"), ("format", .text "int64")]
  | .described description => .object [("description", .text description)]
  | .anything => .bool true

/-- The keys of a definition. -/
def properties : List (String × Property) :=
  [("compute", .anything),
    ("description", .text "Free text shown by \x60list\x60."),
    ("entity", .text "bookmark, tag, stats or edge (plural accepted)."),
    ("exclude", .anything),
    ("filter", .anything),
    ("from", .text "An entity name, or a view whose rows form the base."),
    ("group", .anything),
    ("having", .anything),
    ("intersect", .anything),
    ("limit", .integer),
    ("offset", .integer),
    ("params", .anything),
    ("sort", .described
      "\x60field [asc|desc] [nulls first|last]\x60, comma-separated or a list."),
    ("union", .anything)]

/-- The name under which the schema of definitions stands. -/
def definitionName : String := "QueryDefinition"

/-- The schema of one definition. -/
def definition : Value :=
  .object [("description", .text "One view definition, as written."),
    ("type", .text "object"),
    ("properties", .object (properties.map fun p => (p.1, p.2.toValue))),
    ("additionalProperties", .bool false)]

/-- The schema of a whole document. -/
def value : Value :=
  .object [("$schema", .text "http://json-schema.org/draft-07/schema#"),
    ("title", .text ("Map_of_" ++ definitionName)),
    ("type", .text "object"),
    ("additionalProperties", .object [("$ref", .text ("#/definitions/" ++ definitionName))]),
    ("definitions", .object [(definitionName, definition)])]

end BookmarkViews.DocumentSchema
