import SchemaFragments.Text

/-! # Control characters in a text

A terminal takes control characters, and the sequences that begin with an escape character, as
instructions.  `Controls.without` is what is left of a text when they are taken out; characters that
move on to the next blank or line stay. -/

namespace SchemaFragments.Controls

/-- What a character is taken as part of. -/
inductive State where
  /-- The text itself. -/
  | ground
  /-- The character behind an escape character. -/
  | escape
  /-- The last character of an escape sequence that has more than one. -/
  | intermediate
  /-- A control sequence, from its opening bracket to its final letter. -/
  | sequence
  /-- A command to the terminal, which a bell ends. -/
  | command
  /-- A string for a device. -/
  | string
  deriving DecidableEq, Repr

/-- Control characters that leave a gap. -/
def isGap (c : Char) : Bool := c = '\t' || c = '\n' || c = '\x0c' || c = '\r'

/-- A character within an escape or control sequence: the state behind it, and whether it stays.
Other control characters than those that leave a gap change nothing. -/
def within (s : State) (c : Char) (follow : State) : State × Bool :=
  if isGap c then (.ground, true)
  else if c.toNat < 0x20 ∨ c = '\x7f' then (s, false)
  else (follow, false)

/-- The state behind the first character after an escape character. -/
def afterEscape (c : Char) : State :=
  if c.toNat < 0x30 then .intermediate
  else if c = '[' then .sequence
  else if c = ']' then .command
  else if c = 'P' ∨ c = 'X' ∨ c = '^' ∨ c = '_' then .string
  else .ground

/-- The state behind a character, and whether it stays. -/
def next (s : State) (c : Char) : State × Bool :=
  if c = '\x1b' then (.escape, false)
  else if c = '\x18' ∨ c = '\x1a' then (.ground, false)
  else if 0x80 ≤ c.toNat then (.ground, true)
  else
    match s with
    | .ground => (.ground, isGap c || (0x20 ≤ c.toNat && c ≠ '\x7f'))
    | .escape => within s c (afterEscape c)
    | .intermediate => within s c (if c.toNat < 0x30 then s else .ground)
    | .sequence => within s c (if c.toNat < 0x40 then s else .ground)
    | .command => (if c = '\x07' then .ground else s, false)
    | .string => (s, false)

/-- What stays of a text, which begins in the given state. -/
def withoutFrom (s : State) : Text → Text
  | [] => []
  | c :: cs =>
    let (s', stays) := next s c
    if stays then c :: withoutFrom s' cs else withoutFrom s' cs

/-- A text without its control characters and sequences. -/
def without (t : Text) : Text := withoutFrom .ground t

end SchemaFragments.Controls
