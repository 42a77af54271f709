import SchemaFragments.Console.Palette

/-! # Console lines

A run tells what it does in lines of painted pieces.  Some lines are details, which only a verbose
console shows; a quiet console shows nothing, and a broken one takes nothing. -/

namespace SchemaFragments

/-- A piece of a line. -/
inductive Piece where
  | plain (text : Text)
  | painted (role : Role) (text : Text)
  deriving DecidableEq, Repr

/-- The piece under a palette. -/
def Piece.render (p : Palette) : Piece → Text
  | plain text => text
  | painted role text => p.paint role text

/-- A line for the console. -/
structure Line where
  pieces : List Piece
  isDetail : Bool := false
  deriving DecidableEq, Repr

/-- The line under a palette, without its end. -/
def Line.render (p : Palette) (l : Line) : Text := l.pieces.flatMap (·.render p)

/-- Where the lines of a run go. -/
structure Console where
  palette : Palette
  verbose : Bool := false
  quiet : Bool := false
  /-- Does every attempt to write fail? -/
  broken : Bool := false
  /-- The time of day that the first line shows. -/
  clock : Text
  deriving DecidableEq, Repr

namespace Console

/-- Does the console show a line? -/
def shows (c : Console) (l : Line) : Bool := !c.quiet && (c.verbose || !l.isDetail)

/-- What the console shows of some lines. -/
def render (c : Console) (ls : List Line) : Text :=
  if c.broken then []
  else (ls.filter c.shows).flatMap fun l => l.render c.palette ++ ['\n']

end Console

end SchemaFragments
