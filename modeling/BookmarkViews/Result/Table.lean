import BookmarkViews.Result.Items
import BookmarkViews.Value.Json

/-!
Results as a text table.

The columns are the fields of the rows in the order in which they first appear.
A column is as wide as its widest cell or its heading, and no line ends in blanks.
-/

namespace BookmarkViews

namespace Table

/-- The most characters of a cell. -/
def widest : Nat := 60

/-- Cut a text that is too long and mark the cut. -/
def cut (cs : List Char) : List Char :=
  if widest < cs.length then cs.take (widest - 3) ++ "...".toList else cs

/-- The text of a value in a cell. -/
def cell (v : Value) : List Char :=
  cut <| match v with
    | .null => []
    | .text s => s.toList
    | v =>
      match v.texts? with
      | some texts => (", ".intercalate texts).toList
      | none => v.compactChars

/-- The names of the columns. -/
def columns (rows : List Row) : List String :=
  (rows.flatMap Keyed.keys).eraseDups

/-- The cells of a row. -/
def cells (columns : List String) (row : Row) : List (List Char) :=
  columns.map fun name => ((Keyed.get? row name).map cell).getD []

/-- The width of a column; the heading counts its bytes. -/
def width (heading : String) (cells : List (List Char)) : Nat :=
  (cells.map List.length).foldl max (Text.byteLength heading.toList)

/-- The widths of all columns. -/
def widths (columns : List String) (body : List (List (List Char))) : List Nat :=
  (List.range columns.length).map fun i =>
    width (columns.getD i "") (body.map fun row => row.getD i [])

/-- A line of the table. -/
def line (widths : List Nat) (cells : List (List Char)) : List Char :=
  let padded := (widths.zip cells).map fun (w, c) => Text.padRight w c
  Text.trimRight ("  ".toList.intercalate padded) ++ ['\n']

/-- The line that counts the rows. -/
def footer (count : Nat) : List Char :=
  if count = 1 then "(1 row)\n".toList else s!"({count} rows)\n".toList

/-- The table of rows. -/
def render (rows : List Row) : String :=
  let columns := columns rows
  let body := rows.map (cells columns)
  let widths := widths columns body
  let lines :=
    if columns.isEmpty then []
    else
      line widths (columns.map String.toList) ++
        line widths (widths.map fun w => List.replicate w '-') ++
        body.flatMap (line widths)
  String.ofList (lines ++ footer rows.length)

end Table

end BookmarkViews
