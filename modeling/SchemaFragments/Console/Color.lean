import SchemaFragments.Text

/-! # Colors

The colors that a terminal knows: sixteen named ones, the 256 of a palette, and mixtures of red,
green and blue.  `Color.reset` is the color that the terminal starts with.

A style of the help text speaks of fewer names; `Color.styleColor?` finds the nearest. -/

namespace SchemaFragments

/-- A color of the terminal. -/
inductive Color where
  | reset
  | black
  | darkGrey
  | red
  | darkRed
  | green
  | darkGreen
  | yellow
  | darkYellow
  | blue
  | darkBlue
  | magenta
  | darkMagenta
  | cyan
  | darkCyan
  | white
  | grey
  | rgb (r g b : UInt8)
  | indexed (n : UInt8)
  deriving DecidableEq, Repr

namespace Color

/-- The colors that have names of their own. -/
def named : List (Text × Color) :=
  [("Reset", reset), ("Black", black), ("DarkGrey", darkGrey), ("Red", red), ("DarkRed", darkRed),
   ("Green", green), ("DarkGreen", darkGreen), ("Yellow", yellow), ("DarkYellow", darkYellow),
   ("Blue", blue), ("DarkBlue", darkBlue), ("Magenta", magenta), ("DarkMagenta", darkMagenta),
   ("Cyan", cyan), ("DarkCyan", darkCyan), ("White", white), ("Grey", grey)]

/-- The color of a name. -/
def ofName? (name : Text) : Option Color := named.lookup name

/-- The number of a byte in decimal digits. -/
def byteText (n : UInt8) : Text := Text.ofNat n.toNat

/-- The color in words. -/
def describe : Color → Text
  | rgb r g b =>
    "Rgb \x7b r: " ++ byteText r ++ ", g: " ++ byteText g ++ ", b: " ++ byteText b ++ " \x7d"
  | indexed n => "AnsiValue(" ++ byteText n ++ ")"
  | reset => "Reset"
  | black => "Black"
  | darkGrey => "DarkGrey"
  | red => "Red"
  | darkRed => "DarkRed"
  | green => "Green"
  | darkGreen => "DarkGreen"
  | yellow => "Yellow"
  | darkYellow => "DarkYellow"
  | blue => "Blue"
  | darkBlue => "DarkBlue"
  | magenta => "Magenta"
  | darkMagenta => "DarkMagenta"
  | cyan => "Cyan"
  | darkCyan => "DarkCyan"
  | white => "White"
  | grey => "Grey"

/-! ### Control sequences -/

/-- The start of a control sequence. -/
def sequenceStart : Text := ['\x1b', '[']

/-- The parameters that select the color for the text that follows. -/
def foreground : Color → Text
  | reset => "39"
  | black => "38;5;0"
  | darkGrey => "38;5;8"
  | red => "38;5;9"
  | darkRed => "38;5;1"
  | green => "38;5;10"
  | darkGreen => "38;5;2"
  | yellow => "38;5;11"
  | darkYellow => "38;5;3"
  | blue => "38;5;12"
  | darkBlue => "38;5;4"
  | magenta => "38;5;13"
  | darkMagenta => "38;5;5"
  | cyan => "38;5;14"
  | darkCyan => "38;5;6"
  | white => "38;5;15"
  | grey => "38;5;7"
  | rgb r g b => "38;2;" ++ byteText r ++ ";" ++ byteText g ++ ";" ++ byteText b
  | indexed n => "38;5;" ++ byteText n

end Color

/-! ### Colors of styles -/

/-- A color in a style of the help text. -/
inductive StyleColor where
  | black
  | red
  | green
  | yellow
  | blue
  | magenta
  | cyan
  | white
  | brightBlack
  | indexed (n : UInt8)
  | rgb (r g b : UInt8)
  deriving DecidableEq, Repr

/-- The color in words. -/
def StyleColor.describe : StyleColor → Text
  | black => "Ansi(Black)"
  | red => "Ansi(Red)"
  | green => "Ansi(Green)"
  | yellow => "Ansi(Yellow)"
  | blue => "Ansi(Blue)"
  | magenta => "Ansi(Magenta)"
  | cyan => "Ansi(Cyan)"
  | white => "Ansi(White)"
  | brightBlack => "Ansi(BrightBlack)"
  | indexed n => "Ansi256(Ansi256Color(" ++ Color.byteText n ++ "))"
  | rgb r g b =>
    "Rgb(RgbColor(" ++ Color.byteText r ++ ", " ++ Color.byteText g ++ ", " ++ Color.byteText b ++
      "))"

/-- The color of a style that comes nearest: light and dark shades fall together, both greys become
bright black, and the start color is no color. -/
def Color.styleColor? : Color → Option StyleColor
  | .reset => none
  | .black => some .black
  | .blue | .darkBlue => some .blue
  | .cyan | .darkCyan => some .cyan
  | .green | .darkGreen => some .green
  | .grey | .darkGrey => some .brightBlack
  | .magenta | .darkMagenta => some .magenta
  | .red | .darkRed => some .red
  | .yellow | .darkYellow => some .yellow
  | .white => some .white
  | .indexed n => some (.indexed n)
  | .rgb r g b => some (.rgb r g b)

end SchemaFragments
