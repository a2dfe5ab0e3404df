import MangaReader.Text.Width

/-!
# Tables

Rows of cells between lines, the first row being the head. A cell may have several lines.

* `Table.widths` : the widths of the columns.
* `Table.draw` : the table as text.
-/

namespace MangaReader.Output.Table

def lines (cell : String) : List (List Char) := (cell.splitOn "\n").map String.toList

def cellWidth (cell : String) : Nat := ((lines cell).map Text.Width.ofText).foldl max 0

def widths (rows : List (List String)) : List Nat :=
  rows.foldl (fun ws row =>
    (List.range (max ws.length row.length)).map fun i =>
      max (ws[i]?.getD 0) ((row[i]?.map cellWidth).getD 0)) []

/-- A line filled up to a width, with a blank on both sides. -/
def padded (width : Nat) (line : List Char) : String :=
  String.ofList (' ' :: line ++ List.replicate (width - Text.Width.ofText line) ' ' ++ [' '])

def drawRow (ws : List Nat) (row : List String) : List String :=
  let cells := row.map lines
  let height := (cells.map List.length).foldl max 1
  (List.range height).map fun i =>
    "│" ++ "│".intercalate ((ws.zip cells).map fun (w, cell) => padded w (cell[i]?.getD [])) ++ "│"

/-- A line across the table, between its ends and with crossings at the columns. -/
def rule (ws : List Nat) (start cross stop : String) : String :=
  start ++ cross.intercalate (ws.map fun w => String.ofList (List.replicate (w + 2) '─')) ++ stop

def draw (head : List String) (rows : List (List String)) : String :=
  let ws := widths (head :: rows)
  "\n".intercalate
    (rule ws "╭" "┬" "╮" :: drawRow ws head ++ rule ws "├" "┼" "┤" :: rows.flatMap (drawRow ws) ++
      [rule ws "╰" "┴" "╯"])

end MangaReader.Output.Table
