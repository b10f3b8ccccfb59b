import BookmarkViews.Result.Table
import BookmarkViews.Yaml.Writing

/-!
The formats in which results are written.
-/

namespace BookmarkViews

/-- How results are written. -/
inductive OutputFormat where
  | table
  | json
  | yaml
deriving DecidableEq, Repr, Inhabited

namespace OutputFormat

def all : List OutputFormat := [.table, .json, .yaml]

def name : OutputFormat → String
  | .table => "table"
  | .json => "json"
  | .yaml => "yaml"

def ofName? (s : String) : Option OutputFormat :=
  all.find? (·.name == s)

theorem ofName?_name (f : OutputFormat) : ofName? f.name = some f := by
  cases f <;> rfl

end OutputFormat

/-- The text of a result. -/
def QueryResult.render (r : QueryResult) : OutputFormat → String
  | .table => Table.render r.rows
  | .json => r.toValue.pretty ++ "\n"
  | .yaml => Yaml.text r.toValue

end BookmarkViews
