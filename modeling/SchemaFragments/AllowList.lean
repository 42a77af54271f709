import SchemaFragments.Unicode.Case
import Std.Data.ExtTreeSet.Lemmas

/-! # The operations asked for

An allow-list is a set of operation names in upper case.  `AllowList.parse` reads it from entries
that may hold several names parted by commas; `AllowList.contains` compares without regard to case
and to white space around the name.  Names are listed in the order of their code points. -/

namespace SchemaFragments

/-- The names of the operations to generate, trimmed and in upper case. -/
structure AllowList where
  members : Std.ExtTreeSet Text

namespace AllowList

/-- The form in which names are compared. -/
def normalize (name : Text) : Text := upper (Text.trim name)

/-- The names in one entry; empty names do not count. -/
def entryNames (entry : Text) : List Text :=
  ((Text.splitOn ',' entry).map normalize).filter fun name => !name.isEmpty

/-- The allow-list of some entries. -/
def parse (entries : List Text) : AllowList := ⟨.ofList (entries.flatMap entryNames)⟩

/-- Is the operation asked for? -/
def contains (l : AllowList) (operation : Text) : Bool := l.members.contains (normalize operation)

/-- The names in the order of their code points. -/
def names (l : AllowList) : List Text := l.members.toList

/-- The number of names. -/
def size (l : AllowList) : Nat := l.members.size

/-- Is nothing asked for? -/
def isEmpty (l : AllowList) : Bool := l.members.isEmpty

end AllowList

end SchemaFragments
