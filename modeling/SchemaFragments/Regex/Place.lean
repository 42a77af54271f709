import SchemaFragments.Regex.Pattern
import SchemaFragments.Text

/-! # Places in a text

A `Place` lies between two characters of a text.  Whether a condition of a pattern holds there
depends on these two characters alone: `Look.holdsBetween`. -/

namespace SchemaFragments.Regex

/-- A place in a text: the character before it, the text after it, and how many characters lie
before it. -/
structure Place where
  before : Option Char
  rest : Text
  index : Nat
  deriving DecidableEq, Repr

namespace Place

/-- The place before the first character. -/
def start (t : Text) : Place := ⟨none, t, 0⟩

/-- The place behind the next character, which is `c`, with `rest` after it. -/
def advance (p : Place) (c : Char) (rest : Text) : Place := ⟨some c, rest, p.index + 1⟩

/-- The place behind the next character. -/
def next? (p : Place) : Option Place :=
  match p.rest with
  | [] => none
  | c :: rest => some (p.advance c rest)

/-- The text from `p` to a later place `q`. -/
def textTo (p q : Place) : Text := p.rest.take (q.index - p.index)

end Place

/-- ASCII letters, digits and the underscore. -/
def isAsciiWord (c : Char) : Bool := c.isAlphanum || c == '_'

namespace Look

/-- Is there a word character? -/
def isWordAt (ascii : Bool) (c : Option Char) : Bool :=
  c.any (if ascii then isAsciiWord else isWord)

/-- Does the condition hold between the characters `before` and `after`? -/
def holdsBetween (before after : Option Char) : Look → Bool
  | textStart => before.isNone
  | textEnd => after.isNone
  | lineStart => before.isNone || before == some '\n'
  | lineEnd => after.isNone || after == some '\n'
  | anyLineStart =>
    before.isNone || before == some '\n' || (before == some '\r' && after != some '\n')
  | anyLineEnd =>
    after.isNone || after == some '\r' || (after == some '\n' && before != some '\r')
  | wordEdge ascii => isWordAt ascii before != isWordAt ascii after
  | noWordEdge ascii => isWordAt ascii before == isWordAt ascii after
  | wordStart ascii => !isWordAt ascii before && isWordAt ascii after
  | wordEnd ascii => isWordAt ascii before && !isWordAt ascii after
  | noWordBefore ascii => !isWordAt ascii before
  | noWordAfter ascii => !isWordAt ascii after

/-- Does the condition hold at a place? -/
def holds (l : Look) (p : Place) : Bool := l.holdsBetween p.before p.rest.head?

end Look

end SchemaFragments.Regex
