import SchemaFragments.Run
import SchemaFragments.Table.Basic

/-! # Listing

`list` shows the entities of a schema and their operations, and which of these are asked for,
without touching any file. -/

namespace SchemaFragments

/-- An entity and its operations. -/
structure Listed where
  entity : Text
  mutationName : Text
  mutationEnabled : Bool
  queryName : Text
  queryEnabled : Bool
  deriving DecidableEq, Repr

namespace Listed

/-- The row for a declaration. -/
def ofDeclaration (allowed : AllowList) (d : Declaration) : Listed where
  entity := d.entity
  mutationName := SchemaFragments.mutationName d.entity
  mutationEnabled := allowed.contains (SchemaFragments.mutationName d.entity)
  queryName := SchemaFragments.queryName d.entity
  queryEnabled := allowed.contains (SchemaFragments.queryName d.entity)

/-- Which operations are asked for, in words. -/
def summary (l : Listed) : Text :=
  match l.mutationEnabled, l.queryEnabled with
  | true, true => "mutation, query"
  | true, false => "mutation"
  | false, true => "query"
  | false, false => "-"

/-- The cell of an operation. -/
def nameCell (name : Text) (enabled : Bool) : Cell where
  text := name
  role := if enabled then .success else .timestamp
  isBold := enabled

/-- The cells of a row. -/
def cells (l : Listed) : List Cell :=
  [{ text := l.entity, role := .value, isBold := true },
   nameCell l.mutationName l.mutationEnabled,
   nameCell l.queryName l.queryEnabled,
   { text := l.summary, role := .accent, alignsRight := true }]

/-- The heads of the columns. -/
def header : List Cell :=
  (["FRAGMENT", "MUTATION", "QUERY", "ENABLED"] : List Text).map ({ text := ·, role := .label })

/-- The table of some rows. -/
def table (ls : List Listed) : Table := ⟨header, ls.map cells⟩

end Listed

/-- The entities of a schema and their operations, in the order of the schema. -/
def list (s : Source) (t : FileTree) : Except Failure (List Listed) :=
  match s.read t with
  | .error e => .error e
  | .ok schema => (s.patterns.extract schema).map (·.map (Listed.ofDeclaration s.allowed))

/-- The width of a listing that does not go to a terminal. -/
def defaultWidth : Nat := 80

/-- The listing as it is printed; `terminal?` is the width of the terminal if it goes to one. -/
def printListing (palette : Palette) (terminal? : Option Nat) (ls : List Listed) : Text :=
  (Listed.table ls).render (terminal?.map fun _ => palette) (terminal?.getD defaultWidth)

end SchemaFragments
