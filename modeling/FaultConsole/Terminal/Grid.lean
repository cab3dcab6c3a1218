import FaultConsole.Text.Width

/-!
# Grids of text

A grid is a header and rows of cells, drawn with box characters: a double line below the header,
dashed lines between the rows, and one blank on each side of a cell. A column is as wide as its
widest line; a cell that holds line breaks takes several lines; a row with too few cells is
filled up with empty ones.
-/

namespace FaultConsole.Terminal

/-- A header and the rows below it. -/
structure Grid where
  header : List String
  rows : List (List String)
deriving Repr, DecidableEq

namespace Grid

/-- The lines of a list of characters. -/
def splitLines : List Char → List (List Char)
  | [] => [[]]
  | c :: rest =>
    if c = '\n' then [] :: splitLines rest
    else match splitLines rest with
      | [] => [[c]]
      | line :: more => (c :: line) :: more

/-- The lines of a cell. -/
def cellLines (cell : String) : List String := (splitLines cell.toList).map String.ofList

/-- The columns a cell needs. -/
def cellWidth (cell : String) : Nat :=
  (cellLines cell).foldl (fun w line => max w (Text.displayWidth line)) 0

/-- The number of columns: as many as the longest row has. -/
def columnCount (g : Grid) : Nat :=
  g.rows.foldl (fun n row => max n row.length) g.header.length

/-- The width of every column. -/
def widths (g : Grid) : List Nat :=
  (List.range g.columnCount).map fun i =>
    (g.header :: g.rows).foldl (fun w row => max w (cellWidth (row.getD i ""))) 0

/-- A text copied so many times. -/
def copies (n : Nat) (c : Char) : String := String.ofList (List.replicate n c)

/-- A horizontal line. -/
def rule (widths : List Nat) (left line cross right : String) : String :=
  left ++ cross.intercalate (widths.map fun w => String.join (List.replicate (w + 2) line)) ++ right

/-- A line of a cell, filled up to the width of its column. -/
def padLine (line : String) (width : Nat) : String :=
  " " ++ line ++ copies (width - Text.displayWidth line) ' ' ++ " "

/-- The lines of a row. -/
def rowLines (widths : List Nat) (row : List String) : List String :=
  let cells := (List.range widths.length).map fun i => cellLines (row.getD i "")
  let height := cells.foldl (fun h lines => max h lines.length) 1
  (List.range height).map fun j =>
    "│" ++ "┆".intercalate
      ((cells.zip widths).map fun (lines, w) => padLine (lines.getD j "") w) ++ "│"

/-- The lines of a grid. -/
def lines (g : Grid) : List String :=
  let ws := g.widths
  let top := rule ws "┌" "─" "┬" "┐"
  let below := rule ws "╞" "═" "╪" "╡"
  let between := rule ws "├" "╌" "┼" "┤"
  let bottom := rule ws "└" "─" "┴" "┘"
  let body := List.intercalate [between] (g.rows.map (rowLines ws))
  [top] ++ rowLines ws g.header ++ [below] ++ body ++ [bottom]

/-- A grid as text. -/
def draw (g : Grid) : String := "\n".intercalate g.lines

end Grid

end FaultConsole.Terminal
