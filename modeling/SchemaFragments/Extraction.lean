import SchemaFragments.Failure
import SchemaFragments.Document.Name
import SchemaFragments.Regex.Search

/-! # Extraction

A schema declares types in blocks.  The block pattern finds the blocks in the schema; the name
pattern finds the name of the entity in each block, as what its first group leaves of the block.

`Patterns.extract` gives a declaration for every block or fails at the first block without a proper
name. -/

namespace SchemaFragments

open Regex (Pattern Flags)

/-- A block of the schema and the entity that it declares. -/
structure Declaration where
  entity : Text
  block : Text
  deriving DecidableEq, Repr

/-- The two patterns that drive extraction. -/
structure Patterns where
  block : Pattern
  name : Pattern

namespace Patterns

/-! ### The pattern texts -/

/-- Finds `type NameGql { ... }` where the closing brace ends a line. -/
def defaultBlock : Text := "^type \\w+Gql \\\x7b.+?\\\x7d$"

/-- Finds the name of the type without its suffix. -/
def defaultName : Text := "^type (?:(\\w+)Gql).*$"

/-- In a block pattern `^` and `$` stand for the ends of lines, whichever way these are broken, and
the dot stands for every character. -/
def blockFlags : Flags := { multiLine := true, dotAll := true, anyLines := true }

/-- In a name pattern the dot stands for every character. -/
def nameFlags : Flags := { dotAll := true }

/-- The patterns of two texts; the block pattern is compiled first. -/
def compile (block name : Text) : Except Failure Patterns :=
  match Pattern.compile blockFlags block with
  | .error fault => .error (.invalidPattern .block block fault)
  | .ok b =>
    match Pattern.compile nameFlags name with
    | .error fault => .error (.invalidPattern .name name fault)
    | .ok n => .ok ⟨b, n⟩

/-! ### Extracting -/

/-- What the name pattern leaves of a block: each of its matches is replaced by the first group. -/
def substituted (p : Patterns) (block : Text) : Text :=
  Text.trim (p.name.replaceAll (·.group 1) block)

/-- The name of the entity that a block declares, if there is one and it is a single identifier. -/
def entityName? (p : Patterns) (block : Text) : Option Text :=
  if p.name.isMatch block ∧ isIdentifier (p.substituted block) then some (p.substituted block)
  else none

/-- The declaration that a block is. -/
def declaration (p : Patterns) (block : Text) : Except Failure Declaration :=
  match p.entityName? block with
  | some name => .ok ⟨name, block⟩
  | none => .error (.namelessBlock (Text.trim (Text.firstLine block)))

/-- The blocks of a schema, from left to right. -/
def blocks (p : Patterns) (schema : Text) : List Text := (p.block.allMatches schema).map (·.text)

/-- The declarations in a schema, from left to right. -/
def extract (p : Patterns) (schema : Text) : Except Failure (List Declaration) :=
  (p.blocks schema).mapM p.declaration

end Patterns

end SchemaFragments
