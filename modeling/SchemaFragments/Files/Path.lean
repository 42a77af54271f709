import SchemaFragments.Text

/-! # Paths

A path is a text whose names are parted by slashes.  `Path.join` appends a path to a folder without
tidying anything; `Path.names` lists the names that have to be followed. -/

namespace SchemaFragments

/-- The path of a file or folder, as it is written. -/
abbrev Path := Text

namespace Path

/-- The path `tail` seen from the folder `base`.  A slash goes between them unless there is one
already or `base` is empty; a `tail` that begins with a slash stands alone. -/
def join (base tail : Path) : Path :=
  if tail.head? = some '/' then tail
  else if base = [] ∨ base.getLast? = some '/' then base ++ tail
  else base ++ ['/'] ++ tail

/-- The names in a path.  Empty names and `.` lead nowhere and are left out. -/
def names (p : Path) : List Text :=
  (Text.splitOn '/' p).filter fun name => !name.isEmpty && name != ['.']

/-- Does the path end in a slash, or in a slash and a dot, so that it can only mean a folder? -/
def endsAsFolder (p : Path) : Bool :=
  p.getLast? = some '/' || ("/." : Text).isSuffixOf p || p = ['.']

/-- The path of the folder that holds what the path leads to: what stands before the last slash. -/
def parent (p : Path) : Path := ((p.reverse.dropWhile (· ≠ '/')).drop 1).reverse

/-- The length of a text in bytes when it is written as UTF-8. -/
def byteLength (t : Text) : Nat := t.foldr (fun c n => c.utf8Size + n) 0

/-- The most bytes that a single name may take. -/
def nameLimit : Nat := 255

/-- The least number of bytes that is too many for a path. -/
def lengthLimit : Nat := 4096

end Path

end SchemaFragments
