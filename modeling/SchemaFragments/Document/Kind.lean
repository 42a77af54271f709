import SchemaFragments.Files.Path
import SchemaFragments.Document.Name

/-! # Kinds of documents

Every document of an entity has a file of its own.  The three kinds of documents lie in three
folders below the output root. -/

namespace SchemaFragments

/-- The kinds of documents. -/
inductive DocumentKind where
  | fragment
  | mutation
  | query
  deriving DecidableEq, Repr

namespace DocumentKind

/-- All kinds, in the order in which they are written. -/
def all : List DocumentKind := [fragment, mutation, query]

/-- The plural by which a kind is called, which is also the name of its folder. -/
def plural : DocumentKind → Text
  | fragment => "fragments"
  | mutation => "mutations"
  | query => "queries"

/-- The name of the file of an entity's document. -/
def fileNameFor (entity : Text) : DocumentKind → Text
  | fragment => entity ++ "Fragment.graphql"
  | mutation => mutationName entity ++ "Mutation.graphql"
  | query => entity ++ "Query.graphql"

/-- The folder of a kind below an output root. -/
def folder (root : Path) (k : DocumentKind) : Path := Path.join root k.plural

/-- The file of an entity's document below an output root. -/
def path (root : Path) (entity : Text) (k : DocumentKind) : Path :=
  Path.join (k.folder root) (k.fileNameFor entity)

end DocumentKind

end SchemaFragments
