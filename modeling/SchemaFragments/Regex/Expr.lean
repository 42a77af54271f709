import SchemaFragments.Text

/-! # Written expressions

A regular expression as it is written, with the stretch of text that each part takes up.  An
expression is read first (`Expr.read`) and given a meaning afterwards (`Expr.lower`), so a fault in
the writing is reported before a fault in the meaning, wherever the two stand. -/

namespace SchemaFragments.Regex

/-- A place in a written expression: line and column, both from one. -/
structure Mark where
  line : Nat := 1
  column : Nat := 1
  deriving DecidableEq, Repr

/-- The mark behind the character `c`. -/
def Mark.after (m : Mark) (c : Char) : Mark :=
  if c = '\n' then ⟨m.line + 1, 1⟩ else ⟨m.line, m.column + 1⟩

/-- A stretch of a written expression, its end not included. -/
structure Span where
  start : Mark
  stop : Mark
  deriving DecidableEq, Repr

/-- The empty stretch at a mark. -/
def Span.at (m : Mark) : Span := ⟨m, m⟩

/-- What can be switched on and off within an expression. -/
inductive Flag where
  | ignoreCase
  | multiLine
  | dotAll
  | swapGreed
  | unicode
  | anyLines
  | extended
  deriving DecidableEq, Repr

/-- A single character; `byte` when it is written with exactly two hexadecimal digits. -/
structure Literal where
  span : Span
  char : Char
  byte : Bool := false
  deriving DecidableEq, Repr

/-- The classes with a letter of their own. -/
inductive LetterClass where
  | digit
  | blank
  | word
  deriving DecidableEq, Repr

/-- The classes written between colons. -/
inductive ColonClass where
  | alnum
  | alpha
  | ascii
  | blank
  | cntrl
  | digit
  | graph
  | lower
  | print
  | punct
  | space
  | upper
  | word
  | xdigit
  deriving DecidableEq, Repr

/-- How a property is asked for: by its name, or by its name and a value that it has, or has not
when `unequal`. -/
inductive PropertyQuery where
  | named (name : Text)
  | valued (name value : Text) (unequal : Bool)
  deriving DecidableEq, Repr

/-- The operations between classes. -/
inductive ClassOp where
  | inter
  | diff
  | symmDiff
  deriving DecidableEq, Repr

/-- The inside of a bracketed class. -/
inductive ClassExpr where
  | literal (l : Literal)
  | range (span : Span) (lo hi : Literal)
  | letter (span : Span) (negated : Bool) (kind : LetterClass)
  | colon (span : Span) (negated : Bool) (kind : ColonClass)
  | property (span : Span) (negated : Bool) (query : PropertyQuery)
  /-- Items side by side; none at all is the empty class. -/
  | union (span : Span) (items : List ClassExpr)
  | bracketed (span : Span) (negated : Bool) (inside : ClassExpr)
  | op (span : Span) (kind : ClassOp) (lhs rhs : ClassExpr)
  deriving Repr

/-- The stretch that a class takes up. -/
def ClassExpr.span : ClassExpr → Span
  | literal l => l.span
  | range s _ _ => s
  | letter s _ _ => s
  | colon s _ _ => s
  | property s _ _ => s
  | union s _ => s
  | bracketed s _ _ => s
  | op s _ _ _ => s

/-- Conditions as they are written. -/
inductive Anchor where
  | caret
  | dollar
  | textStart
  | textEnd
  | wordEdge
  | noWordEdge
  | wordStart
  | wordEnd
  | noWordBefore
  | noWordAfter
  deriving DecidableEq, Repr

/-- What a pair of parentheses is for. -/
inductive GroupKind where
  | capture (index : Nat)
  | plain (flags : List (Flag × Bool))
  deriving DecidableEq, Repr

/-- A written expression. -/
inductive Expr where
  | empty
  /-- Switches flags for what follows. -/
  | flags (changes : List (Flag × Bool))
  | literal (l : Literal)
  | dot (span : Span)
  | anchor (span : Span) (kind : Anchor)
  | letter (span : Span) (negated : Bool) (kind : LetterClass)
  | property (span : Span) (negated : Bool) (query : PropertyQuery)
  | bracketed (span : Span) (negated : Bool) (inside : ClassExpr)
  | repeated (span : Span) (min : Nat) (max : Option Nat) (greedy : Bool) (inside : Expr)
  | group (span : Span) (kind : GroupKind) (inside : Expr)
  | alternation (span : Span) (branches : List Expr)
  | concat (span : Span) (items : List Expr)
  deriving Repr

namespace Expr

/-- The stretch that an expression takes up; of no use for the two that have none. -/
def span : Expr → Span
  | empty => .at {}
  | flags _ => .at {}
  | literal l => l.span
  | dot s => s
  | anchor s _ => s
  | letter s _ _ => s
  | property s _ _ => s
  | bracketed s _ _ => s
  | repeated s _ _ _ _ => s
  | group s _ _ => s
  | alternation s _ => s
  | concat s _ => s

/-- Items in a row; one alone stands for itself. -/
def ofItems (span : Span) : List Expr → Expr
  | [] => empty
  | [e] => e
  | es => concat span es

/-- Branches; one alone stands for itself. -/
def ofBranches (span : Span) : List Expr → Expr
  | [] => empty
  | [e] => e
  | es => alternation span es

end Expr

/-! ### Nesting -/

mutual

/-- The first part, in the order of writing, that lies more than `room` levels deep. -/
def ClassExpr.tooDeep? (room : Nat) : ClassExpr → Option Span
  | .union s items =>
    if items.length < 2 then ClassExpr.anyTooDeep? room items
    else if room = 0 then some s else ClassExpr.anyTooDeep? (room - 1) items
  | .bracketed s _ inside => if room = 0 then some s else inside.tooDeep? (room - 1)
  | .op s _ lhs rhs =>
    if room = 0 then some s else (lhs.tooDeep? (room - 1)).or (rhs.tooDeep? (room - 1))
  | _ => none

/-- `ClassExpr.tooDeep?` for the first item of a list that has such a part. -/
def ClassExpr.anyTooDeep? (room : Nat) : List ClassExpr → Option Span
  | [] => none
  | e :: es => (e.tooDeep? room).or (ClassExpr.anyTooDeep? room es)

end

mutual

/-- The first part, in the order of writing, that lies more than `room` levels deep. -/
def Expr.tooDeep? (room : Nat) : Expr → Option Span
  | .bracketed s _ inside => if room = 0 then some s else inside.tooDeep? (room - 1)
  | .repeated s _ _ _ inside => if room = 0 then some s else inside.tooDeep? (room - 1)
  | .group s _ inside => if room = 0 then some s else inside.tooDeep? (room - 1)
  | .alternation s es => if room = 0 then some s else Expr.anyTooDeep? (room - 1) es
  | .concat s es => if room = 0 then some s else Expr.anyTooDeep? (room - 1) es
  | _ => none

/-- `Expr.tooDeep?` for the first expression of a list that has such a part. -/
def Expr.anyTooDeep? (room : Nat) : List Expr → Option Span
  | [] => none
  | e :: es => (e.tooDeep? room).or (Expr.anyTooDeep? room es)

end

end SchemaFragments.Regex
