import SchemaFragments.Console.Color
import SchemaFragments.Unicode.Case

/-! # Palettes

Console text is painted by its role.  A palette knows the theme of the terminal, whether text is to
be painted at all, and whether control sequences may name colors. -/

namespace SchemaFragments

/-- Whether the terminal is dark or light. -/
inductive Theme where
  | dark
  | light
  deriving DecidableEq, Repr

/-- The role of a piece of console text. -/
inductive Role where
  | timestamp
  | primary
  | accent
  | info
  | success
  | label
  | value
  deriving DecidableEq, Repr

/-- The color of a role under a theme. -/
def Role.color : Role → Theme → Color
  | timestamp, .dark => .rgb 118 166 166
  | timestamp, .light => .rgb 92 62 38
  | primary, .dark => .rgb 191 126 4
  | primary, .light => .rgb 70 42 25
  | accent, .dark => .rgb 166 84 55
  | accent, .light => .rgb 211 99 70
  | info, .dark => .rgb 118 166 166
  | info, .light => .rgb 40 111 170
  | success, .dark => .rgb 118 166 166
  | success, .light => .rgb 34 142 90
  | label, .dark => .rgb 217 164 4
  | label, .light => .rgb 176 103 66
  | value, .dark => .rgb 242 211 56
  | value, .light => .rgb 199 146 76

/-- How console text is painted. -/
structure Palette where
  enabled : Bool
  theme : Theme
  /-- May control sequences name colors?  Otherwise they stand there without one. -/
  namesColors : Bool := true
  deriving DecidableEq, Repr

namespace Palette

/-- No painting. -/
def plain : Palette := ⟨false, .dark, true⟩

/-- The color of a role. -/
def colorOf (p : Palette) (r : Role) : Color := if p.enabled then r.color p.theme else .reset

/-- The control sequence that selects a color. -/
def foreground (p : Palette) (c : Color) : Text :=
  Color.sequenceStart ++ (if p.namesColors then c.foreground else []) ++ ['m']

/-- The text in the color of a role; a palette that is not enabled leaves it as it is. -/
def paint (p : Palette) (r : Role) (text : Text) : Text :=
  if p.enabled then p.foreground (p.colorOf r) ++ text ++ p.foreground .reset else text

end Palette

/-! ### Choosing a palette -/

/-- When to paint. -/
inductive ColorChoice where
  | always
  | auto
  | never
  deriving DecidableEq, Repr

/-- Is console text painted, given whether it goes to a terminal? -/
def ColorChoice.enabled (isTerminal : Bool) : ColorChoice → Bool
  | always => true
  | auto => isTerminal
  | never => false

/-- Which theme to use. -/
inductive ThemeChoice where
  | dark
  | light
  | auto
  deriving DecidableEq, Repr

/-- What the environment says about the terminal. -/
structure Environment where
  /-- The colors of text and background, as numbers parted by semicolons. -/
  colorFgBg? : Option Text := none
  /-- The name of the terminal program. -/
  termProgram? : Option Text := none
  /-- The profile that the terminal program uses. -/
  itermProfile? : Option Text := none
  /-- Asks for control sequences without colors unless it is empty. -/
  noColor? : Option Text := none
  deriving DecidableEq, Repr

/-- The number that decimal digits mean, if it is less than 256. -/
def byteOfDigits? (digits : Text) : Option Nat :=
  if digits.isEmpty ∨ digits.any (!·.isDigit) then none
  else
    let n := digits.foldl (fun n d => 10 * n + (d.toNat - '0'.toNat)) 0
    if n < 256 then some n else none

/-- A number less than 256 in decimal digits; a plus sign may stand before it. -/
def byte? : Text → Option Nat
  | '+' :: digits => byteOfDigits? digits
  | digits => byteOfDigits? digits

namespace Environment

/-- The number of the background color: the last of the colors. -/
def background? (e : Environment) : Option Nat :=
  e.colorFgBg?.bind fun colors => (Text.splitOn ';' colors).getLast?.bind byte?

/-- Does the terminal program say that its profile is a light one? -/
def hasLightProfile (e : Environment) : Bool :=
  (e.termProgram? = some "Apple_Terminal" || e.termProgram? = some "iTerm.app") &&
    e.itermProfile?.any fun profile => Text.contains "light" (lower profile)

/-- The theme of the terminal.  A background color is decisive: the upper half of the colors is
light. -/
def theme (e : Environment) : Theme :=
  match e.background? with
  | some n => if 8 ≤ n then .light else .dark
  | none => if e.hasLightProfile then .light else .dark

/-- May control sequences name colors? -/
def namesColors (e : Environment) : Bool := e.noColor?.getD [] = []

end Environment

/-- The theme to use in an environment. -/
def ThemeChoice.theme (e : Environment) : ThemeChoice → Theme
  | dark => .dark
  | light => .light
  | auto => e.theme

/-- The palette for a terminal or for something else. -/
def Palette.choose (e : Environment) (isTerminal : Bool) (color : ColorChoice)
    (theme : ThemeChoice) : Palette :=
  ⟨color.enabled isTerminal, theme.theme e, e.namesColors⟩

end SchemaFragments
