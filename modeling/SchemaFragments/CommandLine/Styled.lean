import SchemaFragments.Console.Controls
import SchemaFragments.Console.Palette

/-! # Styled text

Help and usage messages are made of spans, each with the style of its part.  The same message can be
printed plainly or with control sequences.  Nothing in a plain message controls a terminal, not even
if an argument that it quotes would. -/

namespace SchemaFragments.CommandLine

/-- The parts of a message that have a style. -/
inductive Style where
  | header
  | usage
  | literal
  | placeholder
  | error
  | valid
  | invalid
  deriving DecidableEq, Repr

namespace Style

/-- The role whose color a style has. -/
def role : Style → Role
  | header | usage => .label
  | literal | valid => .success
  | placeholder => .info
  | error | invalid => .accent

/-- Is the style bold? -/
def isBold : Style → Bool
  | header | usage | error | invalid => true
  | literal | placeholder | valid => false

/-- Is the style underlined? -/
def isUnderlined : Style → Bool
  | header => true
  | _ => false

/-- The control sequence with the given parameters. -/
def sequence (parameters : Text) : Text := Color.sequenceStart ++ parameters ++ ['m']

/-- The control sequences that switch the style on.  Its colors are those of a dark terminal. -/
def start (s : Style) : Text :=
  (if s.isBold then sequence "1" else []) ++ (if s.isUnderlined then sequence "4" else []) ++
    sequence (s.role.color .dark).foreground

/-- The control sequence that switches every style off. -/
def stop : Text := sequence "0"

end Style

/-- A stretch of text of one style. -/
inductive Span where
  | plain (text : Text)
  | styled (style : Style) (text : Text)
  deriving DecidableEq, Repr

namespace Span

/-- The text alone. -/
def text : Span → Text
  | plain t => t
  | styled _ t => t

/-- The text without whatever would control a terminal. -/
def plainly (s : Span) : Text := Controls.without s.text

/-- The text with control sequences around it. -/
def withSequences : Span → Text
  | plain t => t
  | styled s t => s.start ++ t ++ Style.stop

end Span

/-- A text of many styles. -/
abbrev StyledText := List Span

namespace StyledText

/-- The text, with control sequences or without. -/
def render (sequences : Bool) (t : StyledText) : Text :=
  t.flatMap fun s => if sequences then s.withSequences else s.plainly

/-- Texts of many styles with `separator` between them. -/
def joined (separator : Text) : List StyledText → StyledText
  | [] => []
  | [t] => t
  | t :: rest => t ++ [.plain separator] ++ joined separator rest

end StyledText

end SchemaFragments.CommandLine
