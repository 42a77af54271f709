import SchemaFragments.Document.Name

/-! # Fragments

`fragmentOf` turns the declaration of a schema type into a fragment on it, in four steps:

* the header `type OrderGql` becomes `fragment Order on OrderGql`;
* every exclamation mark goes;
* a field of another declared type, `: CustomerGql` or `: [CustomerGql]`, becomes a selection that
  spreads the fragment of that type;
* of every other field only its name stays.

What is not in this form stays as it is. -/

namespace SchemaFragments

/-! ### Replacing in one pass -/

/-- Goes through a text from left to right.  At each place `f` sees the character before it and the
text after it, and may give a replacement for a number of characters, at least one; the pass goes on
behind these.  The first `skip` characters are passed over without being kept. -/
def sweepFrom (f : Option Char → Text → Option (Text × Nat)) : Nat → Option Char → Text → Text
  | _, _, [] => []
  | skip + 1, _, c :: cs => sweepFrom f skip (some c) cs
  | 0, before, c :: cs =>
    match f before (c :: cs) with
    | some (replacement, n) => replacement ++ sweepFrom f (n - 1) (some c) cs
    | none => c :: sweepFrom f 0 (some c) cs

/-- Goes through a whole text. -/
def sweep (f : Option Char → Text → Option (Text × Nat)) (t : Text) : Text := sweepFrom f 0 none t

/-! ### Type names -/

/-- The longest non-empty word at the front of a text that `Gql` follows; further word characters
may come after that. -/
def longestStem? : Text → Option Text
  | [] => none
  | c :: cs =>
    if isWord c then
      match longestStem? cs with
      | some stem => some (c :: stem)
      | none => if typeEnding.isPrefixOf cs then some [c] else none
    else none

/-- The shortest non-empty word at the front of a text that `Gql` follows. -/
def shortestStem? : Text → Option Text
  | [] => none
  | c :: cs =>
    if isWord c then
      if typeEnding.isPrefixOf cs then some [c] else (shortestStem? cs).map (c :: ·)
    else none

/-! ### The four steps -/

/-- The header of the declaration as the header of a fragment. -/
def openFragment (t : Text) : Text :=
  if ("type " : Text).isPrefixOf t then
    let declared := t.drop 5
    match longestStem? declared with
    | some entity => "fragment " ++ entity ++ " on " ++ declared
    | none => t
  else t

/-- The text without exclamation marks. -/
def dropRequired (t : Text) : Text := t.filter (· ≠ '!')

/-- A reference to a declared type at the front of a text: the entity, and the number of characters
that the reference takes up. -/
def reference? (t : Text) : Option (Text × Nat) :=
  if (": " : Text).isPrefixOf t then
    let body := t.drop 2
    let opening := if body.head? = some '[' then 1 else 0
    match shortestStem? (body.drop opening) with
    | none => none
    | some entity =>
      let length := 2 + opening + entity.length + typeEnding.length
      some (entity, if (t.drop length).head? = some ']' then length + 1 else length)
  else none

/-- The selection that spreads the fragment of an entity. -/
def spread (newline entity : Text) : Text :=
  " \x7b" ++ newline ++ "    ..." ++ entity ++ newline ++ "  \x7d"

/-- Every reference as a selection. -/
def expandReferences (newline : Text) (t : Text) : Text :=
  sweep (fun _ t => (reference? t).map fun (entity, n) => (spread newline entity, n)) t

/-- At the start of a line: the white space and the name of a field that a colon follows, and the
number of characters to the end of the line. -/
def field? (before : Option Char) (t : Text) : Option (Text × Nat) :=
  if before = none ∨ before = some '\n' then
    let indent := t.takeWhile isBlank
    let name := (t.drop indent.length).takeWhile isWord
    let kept := indent ++ name
    let after := t.drop kept.length
    if !indent.isEmpty ∧ !name.isEmpty ∧ after.head? = some ':' then
      some (kept, kept.length + (after.takeWhile fun c => c ≠ '\r' ∧ c ≠ '\n').length)
    else none
  else none

/-- Of every field its name alone. -/
def collapseFields (t : Text) : Text := sweep field? t

/-- Does the text break lines with a carriage return and a line feed? -/
def breaksWithReturn (t : Text) : Bool := Text.contains ['\r', '\n'] t

/-- The fragment of a declared type.  Selections break lines as the declaration does. -/
def fragmentOf (block : Text) : Text :=
  let newline : Text := if breaksWithReturn block then ['\r', '\n'] else ['\n']
  collapseFields (expandReferences newline (dropRequired (openFragment block)))

end SchemaFragments
