import SchemaFragments.Regex.Pattern
import SchemaFragments.Regex.Reader

/-! # The meaning of expressions

`Expr.lower` turns a written expression into a `Pattern`.  Flags hold from where they are switched
to the end of the enclosing group, across the branches of an alternation.  Without the Unicode flag
a class may only hold ASCII characters, since anything else would match a part of a character. -/

namespace SchemaFragments.Regex

/-- The flags in force. -/
structure Flags where
  ignoreCase : Bool := false
  multiLine : Bool := false
  dotAll : Bool := false
  swapGreed : Bool := false
  unicode : Bool := true
  anyLines : Bool := false
  deriving DecidableEq, Repr

namespace Flags

/-- One flag switched; the flag for white space concerns the reader only. -/
def switch (f : Flags) : Flag × Bool → Flags
  | (.ignoreCase, on) => { f with ignoreCase := on }
  | (.multiLine, on) => { f with multiLine := on }
  | (.dotAll, on) => { f with dotAll := on }
  | (.swapGreed, on) => { f with swapGreed := on }
  | (.unicode, on) => { f with unicode := on }
  | (.anyLines, on) => { f with anyLines := on }
  | (.extended, _) => f

/-- Several flags switched. -/
def switchAll (f : Flags) (changes : List (Flag × Bool)) : Flags := changes.foldl switch f

end Flags

/-! ### Classes -/

/-- The ASCII members of a class between colons. -/
def ColonClass.ranges : ColonClass → CodeRanges
  | alnum => [(0x30, 0x39), (0x41, 0x5a), (0x61, 0x7a)]
  | alpha => [(0x41, 0x5a), (0x61, 0x7a)]
  | ascii => [(0x0, 0x7f)]
  | blank => [(0x9, 0x9), (0x20, 0x20)]
  | cntrl => [(0x0, 0x1f), (0x7f, 0x7f)]
  | digit => [(0x30, 0x39)]
  | graph => [(0x21, 0x7e)]
  | lower => [(0x61, 0x7a)]
  | print => [(0x20, 0x7e)]
  | punct => [(0x21, 0x2f), (0x3a, 0x40), (0x5b, 0x60), (0x7b, 0x7e)]
  | space => [(0x9, 0xd), (0x20, 0x20)]
  | upper => [(0x41, 0x5a)]
  | word => [(0x30, 0x39), (0x41, 0x5a), (0x5f, 0x5f), (0x61, 0x7a)]
  | xdigit => [(0x30, 0x39), (0x41, 0x46), (0x61, 0x66)]

/-- The members of a class with a letter of its own. -/
def LetterClass.set (unicode : Bool) : LetterClass → CharSet
  | digit => if unicode then .digit else .ofRanges ColonClass.digit.ranges
  | blank => if unicode then .blank else .ofRanges ColonClass.space.ranges
  | word => if unicode then .word else .ofRanges ColonClass.word.ranges

/-- The set with its members in every case, if case is ignored. -/
def Flags.fold (f : Flags) (s : CharSet) : CharSet :=
  if f.ignoreCase then (if f.unicode then s.folded else s.foldedAscii) else s

/-- The complement of a class, if it is negated. -/
def negate (f : Flags) (span : Span) (negated : Bool) (s : CharSet) : Except Fault CharSet :=
  if !negated then .ok s
  else if f.unicode then .ok s.compl
  else .error ⟨.invalidUtf8, span, none⟩

/-- The members of a property. -/
def propertySet (f : Flags) (span : Span) (negated : Bool) (query : PropertyQuery) :
    Except Fault CharSet :=
  if !f.unicode then .error ⟨.unicodeNotAllowed, span, none⟩
  else
    let (found, unequal) := match query with
      | .named name => (Property.named? name, false)
      | .valued name value unequal => (Property.valued? name value, unequal)
    match found with
    | .ok rs => negate f span (negated != unequal) (f.fold (.ofRanges rs))
    | .error .unknownProperty => .error ⟨.propertyUnknown, span, none⟩
    | .error .unknownValue => .error ⟨.propertyValueUnknown, span, none⟩

/-- Refuses a character that would match only a part of a character. -/
def checkByte (f : Flags) (l : Literal) : Except Fault Unit :=
  if !f.unicode ∧ l.byte ∧ 0x80 ≤ l.char.toNat then .error ⟨.invalidUtf8, l.span, none⟩ else .ok ()

/-- A character as a member of a class. -/
def classChar (f : Flags) (l : Literal) : Except Fault Char := do
  checkByte f l
  if !f.unicode ∧ 0x80 ≤ l.char.toNat then .error ⟨.unicodeNotAllowed, l.span, none⟩
  return l.char

mutual

/-- The members of a class. -/
def ClassExpr.lower (f : Flags) : ClassExpr → Except Fault CharSet
  | .literal l => return .single (← classChar f l)
  | .range _ lo hi => return .between (← classChar f lo) (← classChar f hi)
  | .letter span negated kind => negate f span negated (kind.set f.unicode)
  | .colon span negated kind => negate f span negated (f.fold (.ofRanges kind.ranges))
  | .property span negated query => propertySet f span negated query
  | .union _ items => ClassExpr.lowerAll f items
  | .bracketed span negated inside => do negate f span negated (f.fold (← inside.lower f))
  | .op _ kind lhs rhs => do
    let a := f.fold (← lhs.lower f)
    let b := f.fold (← rhs.lower f)
    return match kind with
      | .inter => a.inter b
      | .diff => a.diff b
      | .symmDiff => a.symmDiff b

/-- The members of any class of a list. -/
def ClassExpr.lowerAll (f : Flags) : List ClassExpr → Except Fault CharSet
  | [] => return .none
  | e :: es => do
    let s ← e.lower f
    if es.isEmpty then return s
    return s.union (← ClassExpr.lowerAll f es)

end

/-! ### Expressions -/

/-- The condition that an anchor stands for. -/
def Anchor.look (f : Flags) : Anchor → Look
  | caret => if f.multiLine then (if f.anyLines then .anyLineStart else .lineStart) else .textStart
  | dollar => if f.multiLine then (if f.anyLines then .anyLineEnd else .lineEnd) else .textEnd
  | textStart => .textStart
  | textEnd => .textEnd
  | wordEdge => .wordEdge !f.unicode
  | noWordEdge => .noWordEdge !f.unicode
  | wordStart => .wordStart !f.unicode
  | wordEnd => .wordEnd !f.unicode
  | noWordBefore => .noWordBefore !f.unicode
  | noWordAfter => .noWordAfter !f.unicode

/-- One character of a set. -/
def Flags.oneOf (f : Flags) (s : CharSet) : Pattern := .ofSet { s with bytewise := !f.unicode }

/-- A character, in every case if case is ignored. -/
def Flags.char (f : Flags) (c : Char) : Pattern :=
  if f.ignoreCase then f.oneOf (f.fold (.single c)) else .text [c]

/-- What the dot matches. -/
def Flags.dot (f : Flags) : CharSet :=
  if f.dotAll then .all else if f.anyLines then .allBut ['\n', '\r'] else .allBut ['\n']

mutual

/-- The pattern of an expression, and the flags in force behind it. -/
def Expr.lower (f : Flags) : Expr → Except Fault (Pattern × Flags)
  | .empty => return (.empty, f)
  | .flags changes => return (.empty, f.switchAll changes)
  | .literal l => do
    checkByte f l
    return (f.char l.char, f)
  | .dot span =>
    if f.unicode then return (f.oneOf f.dot, f) else throw ⟨.invalidUtf8, span, none⟩
  | .anchor _ kind => return (.look (kind.look f), f)
  | .letter span negated kind => return (f.oneOf (← negate f span negated (kind.set f.unicode)), f)
  | .property span negated query => return (f.oneOf (← propertySet f span negated query), f)
  | .bracketed span negated inside => do
    return (f.oneOf (← negate f span negated (f.fold (← inside.lower f))), f)
  | .repeated _ min max greedy inside => do
    let (p, f) ← inside.lower f
    return (.repetition min max (greedy != f.swapGreed) p, f)
  | .group _ kind inside =>
    match kind with
    | .capture index => do
      let (p, _) ← inside.lower f
      return (.group index p, f)
    | .plain changes => do
      let (p, _) ← inside.lower (f.switchAll changes)
      return (p, f)
  | .alternation _ branches => do
    let (ps, f) ← Expr.lowerAll f branches
    return (.choice ps, f)
  | .concat _ items => do
    let (ps, f) ← Expr.lowerAll f items
    return (.sequence ps, f)

/-- The patterns of expressions that follow each other in the text. -/
def Expr.lowerAll (f : Flags) : List Expr → Except Fault (List Pattern × Flags)
  | [] => return ([], f)
  | e :: es => do
    let (p, f) ← e.lower f
    let (ps, f) ← Expr.lowerAll f es
    return (p :: ps, f)

end

end SchemaFragments.Regex
