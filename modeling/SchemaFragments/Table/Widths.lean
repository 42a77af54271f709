import SchemaFragments.Table.Wrap

/-! # Column widths

`columnWidths` shares the columns of the terminal among the columns of a table.

* Columns whose widest cell needs no more than an equal share get what they need, and what they
  leave goes to the others; this is repeated as long as it finds such a column.
* Of the others, a column that would leave three columns or more of its share empty after wrapping
  gets what its longest line needs.
* What is left after that is shared equally. -/

namespace SchemaFragments.Table

/-- A column whose width may have been settled. -/
structure Column where
  cells : List Text
  width? : Option Nat := none

namespace Column

/-- The width of the widest cell. -/
def widest (c : Column) : Nat := (c.cells.map Text.width).foldl max 0

/-- Has the width not been settled? -/
def isOpen (c : Column) : Bool := c.width?.isNone

end Column

/-- The lines of a cell in a column. -/
def cellLines (width : Nat) (cell : Text) : List Text :=
  if width < Text.width cell then wrap width cell else [cell]

/-- The number of columns that are still open. -/
def openCount (cs : List Column) : Nat := cs.countP (·.isOpen)

/-- One pass over the columns.  `choose` sees the equal share of an open column and may settle its
width; then the shares of all that are open are worked out anew.  `remaining` is what the open
columns have together and `count` is how many there are. -/
def settlePass (choose : Nat → Column → Option Nat) (remaining count : Nat) :
    List Column → Nat × List Column
  | [] => (remaining, [])
  | c :: cs =>
    match if c.isOpen then choose (remaining / count) c else none with
    | some w =>
      let (left, cs') := settlePass choose (remaining - w) (count - 1) cs
      (left, { c with width? := some w } :: cs')
    | none =>
      let (left, cs') := settlePass choose remaining count cs
      (left, c :: cs')

/-- As many passes as there are columns, after which no pass settles any more. -/
def settle (choose : Nat → Column → Option Nat) (remaining : Nat) (cs : List Column) :
    Nat × List Column :=
  Nat.repeat (fun (left, cs) => settlePass choose left (openCount cs) cs) cs.length (remaining, cs)

/-- The width that a column needs, if it is no more than its share. -/
def needed? (share : Nat) (c : Column) : Option Nat :=
  if 0 < share ∧ c.widest ≤ share then some c.widest else none

/-- The length of the longest line after wrapping, as bytes of UTF-8. -/
def longestLine (width : Nat) (c : Column) : Nat :=
  ((c.cells.flatMap (cellLines width)).map fun l => l.foldr (fun c n => c.utf8Size + n) 0).foldl max 0

/-- The length of the longest line after wrapping, if it leaves three columns of the share. -/
def longest? (share : Nat) (c : Column) : Option Nat :=
  if 3 ≤ share - longestLine share c then some (longestLine share c) else none

/-- Shares `remaining` among the open columns; those on the left get what does not divide. -/
def shareOut (share excess : Nat) : List Column → List Nat
  | [] => []
  | c :: cs =>
    match c.width? with
    | some w => w :: shareOut share excess cs
    | none => max 1 (if excess = 0 then share else share + 1) :: shareOut share (excess - 1) cs

/-- The widths of the contents of columns that have `available` columns of the terminal together. -/
def columnWidths (available : Nat) (columns : List (List Text)) : List Nat :=
  let (left, cs) := settle needed? available (columns.map ({ cells := · }))
  let (left, cs) := settle longest? left cs
  shareOut (left / openCount cs) (left % openCount cs) cs

end SchemaFragments.Table
