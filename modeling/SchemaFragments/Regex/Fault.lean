import SchemaFragments.Regex.Expr

/-! # Faults in regular expressions

Why an expression is refused, and how that is shown: the expression, with carets under the faulty
stretch, and the reason. -/

namespace SchemaFragments.Regex

/-- The reasons for which an expression is refused. -/
inductive Reason where
  | classEscapeInvalid
  | classRangeInvalid
  | classRangeLiteral
  | classUnclosed
  | decimalInvalid
  | escapeHexEmpty
  | escapeHexInvalid
  | escapeHexInvalidDigit
  | escapeUnexpectedEnd
  | escapeUnrecognized
  | flagDanglingNegation
  | flagDuplicate
  | flagRepeatedNegation
  | flagUnexpectedEnd
  | flagUnrecognized
  | groupNameDuplicate
  | groupNameEmpty
  | groupNameInvalid
  | groupNameUnexpectedEnd
  | groupUnclosed
  | groupUnopened
  | nestLimitExceeded (limit : Nat)
  | repetitionCountInvalid
  | repetitionCountEmpty
  | repetitionCountUnclosed
  | repetitionMissing
  | wordEdgeUnclosed
  | wordEdgeUnrecognized
  | wordEdgeUnexpectedEnd
  | propertyLetterInvalid
  | backreference
  | lookAround
  | unicodeNotAllowed
  | invalidUtf8
  | propertyUnknown
  | propertyValueUnknown
  deriving DecidableEq, Repr

/-- The wording of a reason. -/
def Reason.message : Reason → String
  | classEscapeInvalid => "invalid escape sequence found in character class"
  | classRangeInvalid => "invalid character class range, the start must be <= the end"
  | classRangeLiteral => "invalid range boundary, must be a literal"
  | classUnclosed => "unclosed character class"
  | decimalInvalid => "decimal literal invalid"
  | escapeHexEmpty => "hexadecimal literal empty"
  | escapeHexInvalid => "hexadecimal literal is not a Unicode scalar value"
  | escapeHexInvalidDigit => "invalid hexadecimal digit"
  | escapeUnexpectedEnd => "incomplete escape sequence, reached end of pattern prematurely"
  | escapeUnrecognized => "unrecognized escape sequence"
  | flagDanglingNegation => "dangling flag negation operator"
  | flagDuplicate => "duplicate flag"
  | flagRepeatedNegation => "flag negation operator repeated"
  | flagUnexpectedEnd => "expected flag but got end of regex"
  | flagUnrecognized => "unrecognized flag"
  | groupNameDuplicate => "duplicate capture group name"
  | groupNameEmpty => "empty capture group name"
  | groupNameInvalid => "invalid capture group character"
  | groupNameUnexpectedEnd => "unclosed capture group name"
  | groupUnclosed => "unclosed group"
  | groupUnopened => "unopened group"
  | nestLimitExceeded limit =>
    "exceed the maximum number of nested parentheses/brackets (" ++ toString limit ++ ")"
  | repetitionCountInvalid => "invalid repetition count range, the start must be <= the end"
  | repetitionCountEmpty => "repetition quantifier expects a valid decimal"
  | repetitionCountUnclosed => "unclosed counted repetition"
  | repetitionMissing => "repetition operator missing expression"
  | wordEdgeUnclosed =>
    "special word boundary assertion is either unclosed or contains an invalid character"
  | wordEdgeUnrecognized =>
    "unrecognized special word boundary assertion, valid choices are: start, end, start-half " ++
      "or end-half"
  | wordEdgeUnexpectedEnd =>
    "found either the beginning of a special word boundary or a bounded repetition on a \\b " ++
      "with an opening brace, but no closing brace"
  | propertyLetterInvalid => "invalid Unicode character class"
  | backreference => "backreferences are not supported"
  | lookAround => "look-around, including look-ahead and look-behind, is not supported"
  | unicodeNotAllowed => "Unicode not allowed here"
  | invalidUtf8 => "pattern can match invalid UTF-8"
  | propertyUnknown => "Unicode property not found"
  | propertyValueUnknown => "Unicode property value not found"

/-- A reason with the stretch that it concerns, and for a repetition of something that may stand
only once also the first occurrence. -/
structure Fault where
  reason : Reason
  span : Span
  earlier : Option Span := none
  deriving DecidableEq, Repr

/-! ### Showing a fault -/

namespace Fault

/-- The lines of a text, without their ends; a last line that is empty does not count. -/
def lines (t : Text) : List Text :=
  let pieces := Text.splitOn '\n' t
  let ended := pieces.dropLast.map fun l => if l.getLast? = some '\r' then l.dropLast else l
  match pieces.getLast? with
  | none => ended
  | some [] => ended
  | some l => ended ++ [l]

/-- Spaces and carets that mark the columns of some stretches of one line, from the column `at`. -/
def carets : Nat → List Span → Text
  | _, [] => []
  | column, s :: rest =>
    let width := Nat.max 1 (s.stop.column - s.start.column)
    let gap := s.start.column - column
    List.replicate gap ' ' ++ List.replicate width '^' ++ carets (column + gap + width) rest

/-- Does the stretch `a` come before `b`? -/
def spanBefore (a b : Span) : Bool :=
  a.start.line < b.start.line ||
    (a.start.line == b.start.line && (a.start.column < b.start.column ||
      (a.start.column == b.start.column && a.stop.column ≤ b.stop.column)))

/-- `n` in decimal, filled up with spaces to a width. -/
def padded (width n : Nat) : Text :=
  let digits := Text.ofNat n
  List.replicate (width - digits.length) ' ' ++ digits

/-- The written expression with carets under the faulty stretches.  If it has several lines these
are numbered. -/
def notated (pattern : Text) (spans : List Span) : Text :=
  let ls := lines pattern
  let count := ls.length + if pattern.getLast? = some '\n' then 1 else 0
  let width := if count ≤ 1 then 0 else (Text.ofNat count).length
  let indent := if width = 0 then 4 else width + 2
  (ls.zipIdx 1).flatMap fun (l, i) =>
    let head : Text := if width = 0 then "    " else padded width i ++ ": "
    let here := spans.filter fun s => s.start.line = s.stop.line ∧ s.start.line = i
    let marked := here.mergeSort spanBefore
    head ++ l ++ ['\n'] ++
      if marked.isEmpty then [] else List.replicate indent ' ' ++ carets 1 marked ++ ['\n']

/-- A stretch of several lines, in words. -/
def describe (s : Span) : Text :=
  "on line " ++ Text.ofNat s.start.line ++ " (column " ++ Text.ofNat s.start.column ++
    ") through line " ++ Text.ofNat s.stop.line ++ " (column " ++
    Text.ofNat (s.stop.column - 1) ++ ")"

/-- The fault shown under the expression in which it was found. -/
def render (f : Fault) (pattern : Text) : Text :=
  let spans := f.span :: f.earlier.toList
  let shown := notated pattern spans
  if '\n' ∈ pattern then
    let divider : Text := List.replicate 79 '~' ++ ['\n']
    let long := (spans.filter fun s => s.start.line ≠ s.stop.line).mergeSort spanBefore
    "regex parse error:\n" ++ divider ++ shown ++ divider ++
      long.flatMap (fun s => describe s ++ ['\n']) ++ "error: " ++ f.reason.message
  else "regex parse error:\n" ++ shown ++ "error: " ++ f.reason.message

end Fault

end SchemaFragments.Regex
