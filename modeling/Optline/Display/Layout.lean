import Optline.Display.Style
import Optline.Text.Blank

/-!
# Banners and tables

* `banner` — a title and perhaps a subtitle in a box.
* `table` — rows under headers, in columns that are aligned and fit the terminal.

The width of a column is that of its widest text.  If the columns together are wider than the
terminal, the widest column gives way, down to four characters; of several widest ones it is the
last.  A text that is too long for its column is cut and ends with an ellipsis.
-/

namespace Optline.Display

/-! ## Banners -/

/-- A title, and perhaps a subtitle beside it, in a box of three lines. -/
def banner (title : String) (subtitle : Option String) (style : Style) : String :=
  let title := color .primary title style
  let inner :=
    match subtitle with
    | some sub => " " ++ title ++ "  " ++ color .secondary sub style ++ " "
    | none => " " ++ title ++ " "
  let rule := repeated '─' (displayWidth inner + 2)
  "┌" ++ rule ++ "┐\n│ " ++ inner ++ " │\n└" ++ rule ++ "┘"

/-! ## Tables -/

/-- The cells of a row under the headers: missing ones are empty, further ones do not count. -/
def cellsOf (columns : Nat) (row : List String) : List String :=
  (row ++ List.replicate columns "").take columns

/-- The width of the widest text of each column. -/
def fullWidths (headers : List String) (rows : List (List String)) : List Nat :=
  rows.foldl (fun widths row =>
      widths.zipWith max ((cellsOf headers.length row).map displayWidth))
    (headers.map (·.length))

/-- The columns with their separators between them. -/
def totalWidth (widths : List Nat) : Nat :=
  widths.foldr (· + ·) 0 + 2 * (widths.length - 1)

/-- The index of the last of the largest numbers. -/
def lastWidest : List Nat → Nat
  | [] => 0
  | w :: ws => if ws.any (w ≤ ·) then lastWidest ws + 1 else 0

/-- The least width to which a column gives way. -/
def leastWidth : Nat := 4

/-- The widths of the columns on a terminal. -/
def fittedWidths (terminal : Nat) (widths : List Nat) : List Nat :=
  let total := totalWidth widths
  if terminal < total then
    widths.modify (lastWidest widths) fun w => max leastWidth (w - (total - terminal))
  else widths

/-- A text in a column: filled up with blanks, or cut. -/
def fit (cell : String) (width : Nat) : String :=
  let length := displayWidth cell
  if length ≤ width then cell ++ repeated ' ' (width - length)
  else String.ofList ((stripFrom false cell.toList).take (width - 1)) ++ "…"

/-- What stands between two columns. -/
def separator : String := "  "

/-- A row of a table. -/
def tableRow (widths : List Nat) (cells : List String) : String :=
  Text.trimmedEnd (separator.intercalate (cells.zipWith fit widths))

/-- The line between the headers and the rows. -/
def tableRule (widths : List Nat) : String :=
  separator.intercalate (widths.map (repeated '-'))

/-- The lines of a table. -/
def tableLines (headers : List String) (rows : List (List String)) (style : Style) :
    List String :=
  let widths := fittedWidths style.width (fullWidths headers rows)
  [color .accent (tableRow widths headers) style, color .dim (tableRule widths) style]
    ++ rows.map fun row => tableRow widths (cellsOf headers.length row)

/-- Rows under headers; without headers there is no table. -/
def table (headers : List String) (rows : List (List String)) (style : Style) : String :=
  if headers.isEmpty then "" else "\n".intercalate (tableLines headers rows style)

end Optline.Display
