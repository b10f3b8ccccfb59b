import BookmarkViews.Field
import BookmarkViews.Text.Order

/-!
Tags derived from the bookmarks that carry them.

Every tag has one row, in the order in which tags first appear. A tag counts as
often as it is listed, and is used from the least to the greatest creation text of
its bookmarks.
-/

namespace BookmarkViews

namespace Tags

/-- The lesser of two texts, by the order of texts. -/
def lesser (s t : String) : String :=
  if Text.order t s = .lt then t else s

/-- The greater of two texts, by the order of texts. -/
def greater (s t : String) : String :=
  if Text.order t s = .gt then t else s

/-- The least of some texts. -/
def least? : List String → Option String
  | [] => none
  | s :: rest => some (rest.foldl lesser s)

/-- The greatest of some texts. -/
def greatest? : List String → Option String
  | [] => none
  | s :: rest => some (rest.foldl greater s)

/-- What comes before the last slash of a name. -/
def parent? (name : String) : Option String :=
  match (name.toList.reverse).dropWhile (· != '/') with
  | [] => none
  | _ :: rest => some (String.ofList rest.reverse)

/-- The number of slashes of a name. -/
def depth (name : String) : Nat :=
  name.toList.count '/'

/-- The row of a tag. -/
def row (name : String) (count : Int) (first last : Option String) : Row :=
  [("name", .text name), ("count", .ofInt count), ("depth", .ofInt (depth name)),
    ("parent", .ofText? (parent? name)), ("first_used", .ofText? first),
    ("last_used", .ofText? last)]

/-- The tags that a bookmark lists, each with the creation text of the
bookmark. -/
def usesOf (bookmark : Row) : List (String × Option String) :=
  match Keyed.get? bookmark "tags" with
  | some (.list items) =>
    let created := (Keyed.get? bookmark "created_at").bind Value.text?
    (items.filterMap Value.text?).map fun tag => (tag, created)
  | _ => []

/-- The row of a tag with these uses. -/
def rowOfUses (uses : List (String × Option String)) (name : String) : Row :=
  let own := (uses.filter (·.1 == name)).map (·.2)
  let dates := own.filterMap id
  row name own.length (least? dates) (greatest? dates)

/-- The rows of all tags that bookmarks list. -/
def derive (bookmarks : List Row) : List Row :=
  let uses := bookmarks.flatMap usesOf
  ((uses.map (·.1)).eraseDups).map (rowOfUses uses)

end Tags

end BookmarkViews
