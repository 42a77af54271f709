import SchemaFragments.Unicode.CodeRanges

/-! # Sets with names

Most tables of properties consist of sets that are asked for by name. -/

namespace SchemaFragments

/-- A set of code points under the names it is known by, which are in the loose spelling of
`looseName`, and with its members in the written form of `CodeRanges.parse`. -/
structure NamedSet where
  names : List String
  members : String

namespace NamedSet

/-- The members. -/
def ranges (s : NamedSet) : CodeRanges := .parse s.members

/-- The members of the set of a given name. -/
def find? (sets : List NamedSet) (name : String) : Option CodeRanges :=
  (sets.find? (name ∈ ·.names)).map ranges

end NamedSet

end SchemaFragments
