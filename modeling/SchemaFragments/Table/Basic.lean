import SchemaFragments.Console.Palette
import SchemaFragments.Table.Widths

/-! # Tables

A table has a header and rows of cells, each of one line of text.  `Table.render` prints it with a
line above, a line below the header and a line at the end; columns are one space apart, and a blank
stands before and after each cell. -/

namespace SchemaFragments

/-- A cell of a table. -/
structure Cell where
  text : Text
  role : Role
  isBold : Bool := false
  alignsRight : Bool := false
  deriving DecidableEq, Repr

/-! ### Cells -/

/-- A number of equal characters. -/
def repeated (c : Char) (n : Nat) : Text := List.replicate n c

/-- The text in the color and weight of a cell. -/
def Cell.style (p : Palette) (c : Cell) (text : Text) : Text :=
  let color := p.foreground (p.colorOf c.role)
  if c.isBold then
    color ++ Color.sequenceStart ++ "1m" ++ text ++ Color.sequenceStart ++ "0m"
  else color ++ text ++ p.foreground .reset

/-- One line of a cell, padded to the width of its column. -/
def Cell.pad (width : Nat) (c : Cell) (line : Text) : Text :=
  let blanks := repeated ' ' (width - Text.width line)
  if c.alignsRight then [' '] ++ blanks ++ line ++ [' '] else [' '] ++ line ++ blanks ++ [' ']

/-- The printed lines of a cell. -/
def Cell.lines (style? : Option Palette) (width : Nat) (c : Cell) : List Text :=
  (Table.cellLines width c.text).map fun line =>
    let padded := c.pad width line
    style?.elim padded fun p => c.style p padded

/-! ### Tables -/

/-- A table; all rows have as many cells as the header. -/
structure Table where
  header : List Cell
  rows : List (List Cell)
  deriving DecidableEq, Repr

namespace Table

/-- The cells of a line, one space apart. -/
def joinCells (cells : List Text) : Text := [' '].intercalate cells

/-- The printed lines of a row.  A cell with fewer lines than another is filled with blanks. -/
def rowLines (style? : Option Palette) (widths : List Nat) (row : List Cell) : List Text :=
  let cells := List.zipWith (fun w c => (w, c.lines style? w)) widths row
  let height := (cells.map fun (_, ls) => ls.length).foldl max 0
  (List.range height).map fun i =>
    joinCells (cells.map fun (w, ls) => ls[i]?.getD (repeated ' ' (w + 2)))

/-- The blanks around the cells of a table and between them, together. -/
def margin (columns : Nat) : Nat := 2 * columns + (columns - 1)

/-- The texts of each column, the header first. -/
def columns (t : Table) : List (List Text) :=
  (List.range t.header.length).map fun i =>
    (t.header :: t.rows).filterMap fun row => row[i]?.map (·.text)

/-- The widths of the contents of the columns on a terminal of the given width. -/
def widths (t : Table) (terminal : Nat) : List Nat :=
  columnWidths (terminal - margin t.header.length) t.columns

/-- The lines of a table.  Only a terminal gets styled cells. -/
def lines (t : Table) (style? : Option Palette) (terminal : Nat) : List Text :=
  let ws := t.widths terminal
  let bars := ws.map fun w => repeated '─' (w + 2)
  [joinCells bars] ++ rowLines style? ws t.header ++ [['─'].intercalate bars] ++
    t.rows.flatMap (rowLines style? ws) ++ [joinCells bars]

/-- The table as it is printed. -/
def render (t : Table) (style? : Option Palette) (terminal : Nat) : Text :=
  (t.lines style? terminal).flatMap (· ++ ['\n'])

end Table

end SchemaFragments
