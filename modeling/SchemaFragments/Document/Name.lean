import SchemaFragments.Unicode.Case
import SchemaFragments.Unicode.Word

/-! # Names

An entity is declared in the schema as a type whose name ends in `Gql`; its own name is what comes
before that.  The save mutation and the by-id query of an entity are named after it. -/

namespace SchemaFragments

/-- What the name of a schema type adds to the name of its entity. -/
def typeEnding : Text := "Gql"

/-- The name with its first character in lower case. -/
def decapitalized : Text → Text
  | [] => []
  | c :: rest => lowerChar c ++ rest

/-- The name of the save mutation of an entity. -/
def mutationName (entity : Text) : Text := "Save" ++ entity

/-- The name of the by-id query of an entity. -/
def queryName (entity : Text) : Text := decapitalized entity

/-- A single identifier: word characters only, and at least one. -/
def isIdentifier (name : Text) : Bool := !name.isEmpty && name.all isWord

end SchemaFragments
