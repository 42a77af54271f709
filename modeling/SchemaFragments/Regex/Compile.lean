import SchemaFragments.Regex.Meaning
import SchemaFragments.Regex.Size

/-! # Compiling regular expressions

`Pattern.compile` reads an expression and gives it a meaning, and refuses one whose automata would
take too much room. -/

namespace SchemaFragments.Regex

/-- Why an expression could not be compiled. -/
inductive CompileFault where
  | refused (f : Fault)
  | tooBig
  deriving DecidableEq, Repr

/-- The message for the expression `t`. -/
def CompileFault.message (t : Text) : CompileFault → Text
  | refused f => f.render t
  | tooBig => "Compiled regex exceeds size limit of " ++ Text.ofNat Room.limit ++ " bytes."

/-- The pattern of an expression, with some flags switched on at its start. -/
def Pattern.compile (f : Flags) (t : Text) : Except CompileFault Pattern :=
  match Expr.read t with
  | .error e => .error (.refused e)
  | .ok e =>
    match e.lower f with
    | .error e => .error (.refused e)
    | .ok (p, _) => if p.tooBig then .error .tooBig else .ok p

end SchemaFragments.Regex
