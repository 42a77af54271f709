import SchemaFragments.Unicode.Blank

/-! # Texts

A text is the list of its code points.  String literals stand for texts wherever one is expected.
The functions here are those that know nothing of schemas: trimming white space, splitting at a
character, and the first line. -/

namespace SchemaFragments

/-- A text, code point by code point. -/
abbrev Text := List Char

instance : Coe String Text := ⟨String.toList⟩

namespace Text

/-- Drops the white space at the end. -/
def trimEnd (t : Text) : Text := (t.reverse.dropWhile isBlank).reverse

/-- Drops the white space at both ends. -/
def trim (t : Text) : Text := trimEnd (t.dropWhile isBlank)

/-- The pieces between the occurrences of `sep`; one more than there are occurrences. -/
def splitOn (sep : Char) : Text → List Text
  | [] => [[]]
  | c :: cs =>
    if c = sep then [] :: splitOn sep cs
    else
      match splitOn sep cs with
      | [] => [[c]]
      | piece :: pieces => (c :: piece) :: pieces

/-- The first line of a text, without the characters that end it. -/
def firstLine (t : Text) : Text :=
  let line := t.takeWhile (· ≠ '\n')
  if line.length < t.length ∧ line.getLast? = some '\r' then line.dropLast else line

/-- Does `needle` occur in the text? -/
def contains (needle : Text) : Text → Bool
  | [] => needle.isEmpty
  | c :: cs => needle.isPrefixOf (c :: cs) || contains needle cs

/-- The decimal digits of `n`. -/
def ofNat (n : Nat) : Text := (toString n).toList

end Text

end SchemaFragments
