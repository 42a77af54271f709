import SchemaFragments.Regex.Fault
import SchemaFragments.Unicode.Blank
import SchemaFragments.Unicode.Letter

/-! # Reading expressions

`Expr.read` turns the text of a regular expression into an `Expr`, or says what is wrong with it.
Reading is a single pass: a `Cursor` moves over the text, and open groups and open classes wait on
a list of levels until they are closed.  Every round of a loop passes over at least one character,
so the length of the text bounds the number of rounds. -/

namespace SchemaFragments.Regex

/-! ### The cursor -/

/-- Where the reading of an expression stands. -/
structure Cursor where
  rest : Text
  mark : Mark := {}
  /-- White space and comments between the parts of the expression do not count. -/
  extended : Bool := false
  /-- The number of capture groups opened so far. -/
  captures : Nat := 0
  /-- The names of the capture groups so far, the latest first. -/
  names : List (Text × Span) := []

/-- Steps of the reader. -/
abbrev Read := StateT Cursor (Except Fault)

namespace Cursor

/-- Past one character. -/
def bump (k : Cursor) : Cursor :=
  match k.rest with
  | [] => k
  | c :: cs => { k with rest := cs, mark := k.mark.after c }

/-- Past `n` characters. -/
def bumpBy : Nat → Cursor → Cursor
  | 0, k => k
  | n + 1, k => bumpBy n k.bump

/-- Past white space and comments; a comment goes from `#` to the end of the line. -/
def skipFrom (inComment : Bool) : Text → Mark → Text × Mark
  | [], m => ([], m)
  | c :: cs, m =>
    if inComment then skipFrom (c ≠ '\n') cs (m.after c)
    else if isBlank c then skipFrom false cs (m.after c)
    else if c = '#' then skipFrom true cs (m.after c)
    else (c :: cs, m)

/-- Past white space and comments, if these do not count. -/
def skip (k : Cursor) : Cursor :=
  if k.extended then
    let (rest, mark) := skipFrom false k.rest k.mark
    { k with rest, mark }
  else k

/-- Past one character and what follows it without counting. -/
def step (k : Cursor) : Cursor := k.bump.skip

/-- The next character. -/
def peek? (k : Cursor) : Option Char := k.rest.head?

/-- The character after the next. -/
def second? (k : Cursor) : Option Char := k.rest[1]?

/-- The stretch of the next character. -/
def charSpan (k : Cursor) : Span := ⟨k.mark, k.bump.mark⟩

/-- The stretch from `start` to the cursor. -/
def spanFrom (k : Cursor) (start : Mark) : Span := ⟨start, k.mark⟩

/-- The first character of a text that is no white space and opens no comment.  Once a comment is
open any other character will do: it is not looked for the end of the comment. -/
def firstVisible? (inComment : Bool) : Text → Option Char
  | [] => none
  | c :: cs =>
    if isBlank c then firstVisible? inComment cs
    else if c = '#' ∧ !inComment then firstVisible? true cs
    else some c

/-- The character behind the next one, to tell a range from a hyphen.  If white space does not count
it is the first visible one, or else whatever follows. -/
def beyond? (k : Cursor) : Option Char :=
  if k.extended then (firstVisible? false k.rest.tail).or k.rest.tail.head? else k.rest.tail.head?

/-- Reads characters as long as `p` holds, with what does not count between them. -/
def gather (p : Char → Bool) : Nat → Cursor → Text × Cursor
  | 0, k => ([], k)
  | fuel + 1, k =>
    match k.rest with
    | [] => ([], k)
    | c :: _ =>
      if p c then
        let (t, k') := gather p fuel k.step
        (c :: t, k')
      else ([], k)

/-- `gather` without a bound of its own. -/
def gatherAll (p : Char → Bool) (k : Cursor) : Text × Cursor := gather p k.rest.length k

end Cursor

namespace Read

/-- Refuses the expression. -/
def fail {α : Type} (reason : Reason) (span : Span) (earlier : Option Span := none) : Read α :=
  fun _ => .error ⟨reason, span, earlier⟩

/-- Past one character; is anything left? -/
def bump : Read Bool := modifyGet fun k => let k := k.bump; (!k.rest.isEmpty, k)

/-- Past one character and what follows it without counting; is anything left? -/
def step : Read Bool := modifyGet fun k => let k := k.step; (!k.rest.isEmpty, k)

/-- Past what does not count. -/
def skip : Read Unit := modify Cursor.skip

/-- The next character. -/
def peek? : Read (Option Char) := return (← get).peek?

/-- The place of the cursor. -/
def mark : Read Mark := return (← get).mark

/-- The stretch from `start` to the cursor. -/
def spanFrom (start : Mark) : Read Span := return (← get).spanFrom start

/-- The stretch of the next character. -/
def charSpan : Read Span := return (← get).charSpan

/-- Past `s`, if it comes next. -/
def bumpIf (s : String) : Read Bool := modifyGet fun k =>
  if s.toList.isPrefixOf k.rest then (true, k.bumpBy s.length) else (false, k)

/-! ### Numbers -/

/-- The value of decimal digits. -/
def decimal (ds : Text) : Nat := ds.foldl (fun n d => 10 * n + (d.toNat - '0'.toNat)) 0

/-- The value of a hexadecimal digit. -/
def hexValue (c : Char) : Nat := (CodeRanges.hexValue? c.toLower).getD 0

/-- Is it a hexadecimal digit? -/
def isHex (c : Char) : Bool := (CodeRanges.hexValue? c.toLower).isSome

/-- A decimal number of 32 bits, with white space around it.  A missing or too large number is no
fault yet: it comes back as the fault to report. -/
def number : Read (Except Fault Nat) := do
  let k ← get
  let before := (k.rest.takeWhile isBlank).length
  let k := k.bumpBy before
  let start := k.mark
  let (digits, k) := k.gatherAll fun c => '0' ≤ c ∧ c ≤ '9'
  let span := k.spanFrom start
  let (_, k) := k.gatherAll isBlank
  set k
  if digits.isEmpty then return .error ⟨.repetitionCountEmpty, span, none⟩
  let n := decimal digits
  return if n ≤ 0xffffffff then .ok n else .error ⟨.decimalInvalid, span, none⟩

/-! ### Escapes -/

/-- The character with the number written by hexadecimal digits. -/
def scalar? (digits : Text) : Option Char :=
  let n := digits.foldl (fun n d => 16 * n + hexValue d) 0
  if n < 0xd800 ∨ (0xe000 ≤ n ∧ n ≤ 0x10ffff) then some (Char.ofNat n) else none

/-- `n` hexadecimal digits, the first of which is next. -/
def hexDigits : Nat → Read Text
  | 0 => return []
  | n + 1 => do
    match ← peek? with
    | none => fail .escapeUnexpectedEnd (.at (← mark))
    | some c =>
      if !isHex c then fail .escapeHexInvalidDigit (← charSpan)
      if n = 0 then return [c]
      if !(← step) then fail .escapeUnexpectedEnd (.at (← mark))
      return c :: (← hexDigits n)

/-- Hexadecimal digits up to a closing brace. -/
def braceDigits (brace : Mark) : Nat → Read Text
  | 0 => do fail .escapeUnexpectedEnd (← spanFrom brace)
  | fuel + 1 => do
    let _ ← step
    match ← peek? with
    | none => fail .escapeUnexpectedEnd (← spanFrom brace)
    | some '}' => return []
    | some c =>
      if !isHex c then fail .escapeHexInvalidDigit (← charSpan)
      return c :: (← braceDigits brace fuel)

/-- A character by its number: `x`, `u` or `U` is next, and the escape began at `start`. -/
def hexEscape (start : Mark) (width : Nat) : Read Expr := do
  if !(← step) then fail .escapeUnexpectedEnd (.at (← mark))
  if (← peek?) = some '{' then
    let k ← get
    let digits ← braceDigits k.mark k.rest.length
    let stop ← mark
    let _ ← step
    if digits.isEmpty then fail .escapeHexEmpty (← spanFrom k.mark)
    match scalar? digits with
    | none => fail .escapeHexInvalid ⟨k.charSpan.stop, stop⟩
    | some c => return .literal ⟨← spanFrom start, c, false⟩
  else
    let first ← mark
    let digits ← hexDigits width
    let _ ← step
    match scalar? digits with
    | none => fail .escapeHexInvalid (← spanFrom first)
    | some c => return .literal ⟨← spanFrom start, c, width == 2⟩

/-- The text of a property up to a closing brace. -/
def braceName : Nat → Read Text
  | 0 => do fail .escapeUnexpectedEnd (.at (← mark))
  | fuel + 1 => do
    let _ ← step
    match ← peek? with
    | none => fail .escapeUnexpectedEnd (.at (← mark))
    | some '}' => return []
    | some c => return c :: (← braceName fuel)

/-- The parts of a text before and after the first occurrence of `sep`. -/
def splitAt? (sep : Text) : Text → Option (Text × Text)
  | [] => none
  | c :: cs =>
    if sep.isPrefixOf (c :: cs) then some ([], (c :: cs).drop sep.length)
    else (splitAt? sep cs).map fun (a, b) => (c :: a, b)

/-- What the inside of the braces asks for. -/
def queryOf (inside : Text) : PropertyQuery :=
  match splitAt? "!=" inside with
  | some (name, value) => .valued name value true
  | none =>
    match splitAt? ":" inside <|> splitAt? "=" inside with
    | some (name, value) => .valued name value false
    | none => .named inside

/-- A property: `p` or `P` is next, and the escape began at `start`. -/
def propertyEscape (start : Mark) : Read Expr := do
  let negated := (← peek?) = some 'P'
  if !(← step) then fail .escapeUnexpectedEnd (.at (← mark))
  match ← peek? with
  | some '{' =>
    let inside ← braceName (← get).rest.length
    let _ ← bump
    return .property (← spanFrom start) negated (queryOf inside)
  | some '\\' => fail .propertyLetterInvalid (← charSpan)
  | some c =>
    let _ ← step
    return .property (← spanFrom start) negated (.named [c])
  | none => fail .escapeUnexpectedEnd (.at (← mark))

/-- The kinds of word edge that are named in braces. -/
def wordEdges : List (String × Anchor) :=
  [("start", .wordStart), ("end", .wordEnd), ("start-half", .noWordBefore),
   ("end-half", .noWordAfter)]

/-- After `\b`: the name of a special word edge in braces.  An opening brace that no letter
follows is left for a repetition count. -/
def wordEdgeName (start : Mark) : Read (Option Anchor) := do
  let k ← get
  let isNameChar := fun (c : Char) => c.isAlpha || c == '-'
  if k.peek? ≠ some '{' then return none
  if !(← step) then fail .wordEdgeUnexpectedEnd (← spanFrom start)
  let inside ← mark
  if !((← peek?).any isNameChar) then
    set k
    return none
  let (name, k') := (← get).gatherAll isNameChar
  set k'
  if k'.peek? ≠ some '}' then fail .wordEdgeUnclosed (← spanFrom k.mark)
  let stop ← mark
  let _ ← bump
  match wordEdges.lookup (String.ofList name) with
  | some kind => return some kind
  | none => fail .wordEdgeUnrecognized ⟨inside, stop⟩

/-- Characters that an expression gives a meaning to. -/
def isMeta (c : Char) : Bool := c ∈ "\\.+*?()|[]\x7b\x7d^$#&-~".toList

/-- Characters that a backslash leaves as they are. -/
def isEscapable (c : Char) : Bool :=
  isMeta c || (c.toNat < 0x80 && !c.isAlphanum && c != '<' && c != '>')

/-- The characters with a letter of their own. -/
def letterEscapes : List (Char × Char) :=
  [('a', '\x07'), ('f', '\x0c'), ('t', '\t'), ('n', '\n'), ('r', '\r'), ('v', '\x0b')]

/-- The conditions with a letter of their own. -/
def anchorEscapes : List (Char × Anchor) :=
  [('A', .textStart), ('z', .textEnd), ('B', .noWordEdge), ('<', .wordStart), ('>', .wordEnd)]

/-- The classes with a letter of their own. -/
def classEscapes : List (Char × LetterClass) := [('d', .digit), ('s', .blank), ('w', .word)]

/-- An escape; the backslash is next. -/
def escape : Read Expr := do
  let start ← mark
  if !(← bump) then fail .escapeUnexpectedEnd (← spanFrom start)
  match ← peek? with
  | none => fail .escapeUnexpectedEnd (← spanFrom start)
  | some c =>
    if c.isDigit then fail .backreference ⟨start, (← charSpan).stop⟩
    if c = 'x' then return ← hexEscape start 2
    if c = 'u' then return ← hexEscape start 4
    if c = 'U' then return ← hexEscape start 8
    if c = 'p' ∨ c = 'P' then return ← propertyEscape start
    let _ ← bump
    let span ← spanFrom start
    if let some kind := classEscapes.lookup c.toLower then
      return .letter span c.isUpper kind
    if isEscapable c then return .literal ⟨span, c, false⟩
    if let some d := letterEscapes.lookup c then return .literal ⟨span, d, false⟩
    if let some kind := anchorEscapes.lookup c then return .anchor span kind
    if c = 'b' then
      match ← wordEdgeName start with
      | some kind => return .anchor (← spanFrom start) kind
      | none => return .anchor span .wordEdge
    fail .escapeUnrecognized span

/-! ### Classes -/

/-- A class that waits for its closing bracket: the stretch of its opening, the items read so far,
the latest first, and the operation that waits for its right side. -/
structure ClassLevel where
  opening : Span
  negated : Bool
  itemsAt : Mark
  items : List ClassExpr := []
  waiting : Option (ClassOp × ClassExpr) := none

namespace ClassLevel

/-- The items read so far as one expression. -/
def itemsExpr (l : ClassLevel) : ClassExpr :=
  match l.items.reverse with
  | [] => .union (.at l.itemsAt) []
  | [e] => e
  | e :: es => .union ⟨e.span.start, (es.getLast?.getD e).span.stop⟩ (e :: es)

/-- Everything read so far as one expression. -/
def inside (l : ClassLevel) : ClassExpr :=
  match l.waiting with
  | none => l.itemsExpr
  | some (kind, lhs) => .op ⟨lhs.span.start, l.itemsExpr.span.stop⟩ kind lhs l.itemsExpr

/-- One more item. -/
def push (l : ClassLevel) (e : ClassExpr) : ClassLevel := { l with items := e :: l.items }

end ClassLevel

/-- Hyphens at the front of a class stand for themselves. -/
def frontHyphens (start : Mark) : Nat → ClassLevel → Read ClassLevel
  | 0, l => return l
  | fuel + 1, l => do
    if (← peek?) ≠ some '-' then return l
    let l := l.push (.literal ⟨← charSpan, '-', false⟩)
    if !(← step) then fail .classUnclosed (.at start)
    frontHyphens start fuel l

/-- The opening of a class; the bracket is next.  A closing bracket at the front stands for
itself. -/
def classOpening : Read ClassLevel := do
  let start ← mark
  if !(← step) then fail .classUnclosed (← spanFrom start)
  let negated := (← peek?) = some '^'
  if negated then
    if !(← step) then fail .classUnclosed (← spanFrom start)
  let here ← mark
  let l ← frontHyphens start (← get).rest.length ⟨.at start, negated, here, [], none⟩
  let l ←
    if l.items.isEmpty ∧ (← peek?) = some ']' then do
      let l := l.push (.literal ⟨← charSpan, ']', false⟩)
      if !(← step) then fail .classUnclosed (← spanFrom start)
      pure l
    else pure l
  return { l with opening := ← spanFrom start }

/-- The names of the classes between colons. -/
def colonClasses : List (String × ColonClass) :=
  [("alnum", .alnum), ("alpha", .alpha), ("ascii", .ascii), ("blank", .blank), ("cntrl", .cntrl),
   ("digit", .digit), ("graph", .graph), ("lower", .lower), ("print", .print), ("punct", .punct),
   ("space", .space), ("upper", .upper), ("word", .word), ("xdigit", .xdigit)]

/-- A class between colons, if one comes next. -/
def colonClass? : Read (Option ClassExpr) := modifyGet fun k =>
  match k.rest with
  | '[' :: ':' :: rest =>
    let negated := rest.head? = some '^'
    let body := if negated then rest.drop 1 else rest
    let name := body.takeWhile (· ≠ ':')
    let length := 2 + (if negated then 1 else 0) + name.length + 2
    match (body.drop name.length).take 2, colonClasses.lookup (String.ofList name) with
    | [':', ']'], some kind =>
      let k' := k.bumpBy length
      (some (.colon (k'.spanFrom k.mark) negated kind), k')
    | _, _ => (none, k)
  | _ => (none, k)

/-- One character or escape within a class. -/
def classAtom : Read Expr := do
  match ← peek? with
  | some '\\' => escape
  | some c =>
    let span ← charSpan
    let _ ← bump
    return .literal ⟨span, c, false⟩
  | none => return .empty

/-- An atom as an item of a class. -/
def classItem : Expr → Read ClassExpr
  | .literal l => return .literal l
  | .letter s n k => return .letter s n k
  | .property s n q => return .property s n q
  | e => fail .classEscapeInvalid e.span

/-- An atom as the end of a range. -/
def classLiteral : Expr → Read Literal
  | .literal l => return l
  | e => fail .classRangeLiteral e.span

/-- The next item of a class, which may be a range.  A hyphen before the closing bracket or before
another hyphen makes no range. -/
def classRange (l : ClassLevel) : Read ClassExpr := do
  let first ← classAtom
  skip
  let k ← get
  if k.rest.isEmpty then fail .classUnclosed l.opening
  let following := k.beyond?
  if k.peek? ≠ some '-' ∨ following = some ']' ∨ following = some '-' then classItem first
  else
    if !(← step) then fail .classUnclosed l.opening
    let second ← classAtom
    let span : Span := ⟨first.span.start, second.span.stop⟩
    let lo ← classLiteral first
    let hi ← classLiteral second
    if hi.char < lo.char then fail .classRangeInvalid span
    return .range span lo hi

/-- The operation that comes next. -/
def classOp? (k : Cursor) : Option ClassOp :=
  match k.peek?, k.second? with
  | some '&', some '&' => some .inter
  | some '-', some '-' => some .diff
  | some '~', some '~' => some .symmDiff
  | _, _ => none

/-- Reads on within the class `l`, which lies in the classes `outer`, the innermost first. -/
def classFrom : Nat → List ClassLevel → ClassLevel → Read Expr
  | 0, _, l => fail .classUnclosed l.opening
  | fuel + 1, outer, l => do
    skip
    let k ← get
    match k.peek? with
    | none => fail .classUnclosed l.opening
    | some '[' =>
      match ← colonClass? with
      | some e => classFrom fuel outer (l.push e)
      | none => classFrom fuel (l :: outer) (← classOpening)
    | some ']' =>
      let _ ← bump
      let span ← spanFrom l.opening.start
      match outer with
      | [] => return .bracketed span l.negated l.inside
      | l' :: outer' => classFrom fuel outer' (l'.push (.bracketed span l.negated l.inside))
    | some _ =>
      match classOp? k with
      | some kind =>
        let _ ← bump
        let _ ← bump
        let next := { l with waiting := some (kind, l.inside), items := [], itemsAt := ← mark }
        classFrom fuel outer next
      | none => classFrom fuel outer (l.push (← classRange l))

/-- A class in brackets; the opening bracket is next. -/
def bracketed : Read Expr := do
  let l ← classOpening
  classFrom ((← get).rest.length + 1) [] l

/-! ### Groups -/

/-- The letters of the flags. -/
def flagLetters : List (Char × Flag) :=
  [('i', .ignoreCase), ('m', .multiLine), ('s', .dotAll), ('U', .swapGreed), ('u', .unicode),
   ('R', .anyLines), ('x', .extended)]

/-- What the reading of flags has met so far: the flags with their stretches, the latest first, and
the stretch of the hyphen. -/
structure FlagsSoFar where
  flags : List (Flag × Bool × Span) := []
  hyphen : Option Span := none
  dangling : Bool := false

/-- Flags up to a colon or a closing parenthesis. -/
def flagsFrom : Nat → FlagsSoFar → Read (List (Flag × Bool))
  | 0, _ => do fail .flagUnexpectedEnd (.at (← mark))
  | fuel + 1, sofar => do
    let span ← charSpan
    match ← peek? with
    | none => fail .flagUnexpectedEnd (.at (← mark))
    | some c =>
      if c = ':' ∨ c = ')' then
        if sofar.dangling then fail .flagDanglingNegation (sofar.hyphen.getD span)
        return sofar.flags.reverse.map fun (f, on, _) => (f, on)
      let sofar ←
        if c = '-' then
          if sofar.hyphen.isSome then fail .flagRepeatedNegation span sofar.hyphen
          else pure { sofar with hyphen := some span, dangling := true }
        else
          match flagLetters.lookup c with
          | none => fail .flagUnrecognized span
          | some f =>
            match sofar.flags.lookup f with
            | some (_, earlier) => fail .flagDuplicate span (some earlier)
            | none =>
              pure { sofar with
                flags := (f, sofar.hyphen.isNone, span) :: sofar.flags, dangling := false }
      if !(← bump) then fail .flagUnexpectedEnd (.at (← mark))
      flagsFrom fuel sofar

/-- May the character stand in the name of a group? -/
def isNameChar (first : Bool) (c : Char) : Bool :=
  c == '_' || isLetter c || (!first && (c == '.' || c == '[' || c == ']' || isNumber c))

/-- The name of a group up to the closing angle bracket. -/
def nameFrom (first : Bool) : Nat → Read Text
  | 0 => do fail .groupNameUnexpectedEnd (.at (← mark))
  | fuel + 1 => do
    match ← peek? with
    | none => fail .groupNameUnexpectedEnd (.at (← mark))
    | some '>' => return []
    | some c =>
      if !isNameChar first c then fail .groupNameInvalid (← charSpan)
      let _ ← bump
      return c :: (← nameFrom false fuel)

/-- The name of a group, with the closing angle bracket. -/
def groupName : Read Unit := do
  let start ← mark
  let name ← nameFrom true ((← get).rest.length + 1)
  let span ← spanFrom start
  let _ ← bump
  if name.isEmpty then fail .groupNameEmpty (.at start)
  match (← get).names.lookup name with
  | some earlier => fail .groupNameDuplicate span (some earlier)
  | none => modify fun k => { k with names := (name, span) :: k.names }

/-- The number of the next capture group. -/
def nextCapture : Read Nat :=
  modifyGet fun k => (k.captures + 1, { k with captures := k.captures + 1 })

/-- The opening of a group, or a change of flags; the parenthesis is next. -/
def groupOpening : Read (List (Flag × Bool) ⊕ GroupKind) := do
  let span ← charSpan
  let _ ← bump
  skip
  if (← bumpIf "?=") || (← bumpIf "?!") || (← bumpIf "?<=") || (← bumpIf "?<!") then
    fail .lookAround (← spanFrom span.start)
  let inside ← mark
  if (← bumpIf "?P<") || (← bumpIf "?<") then
    let index ← nextCapture
    groupName
    return .inr (.capture index)
  else if ← bumpIf "?" then
    if (← peek?).isNone then fail .groupUnclosed span
    let flags ← flagsFrom ((← get).rest.length + 1) {}
    let isChange := (← peek?) = some ')'
    let _ ← bump
    if isChange then
      if flags.isEmpty then fail .repetitionMissing (.at inside)
      return .inl flags
    return .inr (.plain flags)
  else return .inr (.capture (← nextCapture))

/-! ### Expressions -/

/-- A group, or the whole expression, that waits for its end: the items of the branch being read
and the branches before it, the latest first. -/
structure Level where
  opening : Span
  kind : GroupKind
  /-- Whether white space counted around the group. -/
  outerExtended : Bool
  start : Mark
  branchAt : Mark
  branches : List Expr := []
  items : List Expr := []

namespace Level

/-- The branch being read. -/
def branch (l : Level) (stop : Mark) : Expr := .ofItems ⟨l.branchAt, stop⟩ l.items.reverse

/-- All branches. -/
def inside (l : Level) (stop : Mark) : Expr :=
  if l.branches.isEmpty then l.branch stop
  else .ofBranches ⟨l.start, stop⟩ (l.branch stop :: l.branches).reverse

end Level

/-- What a repetition sign applies to, with the items before it. -/
def repeatable (l : Level) : Read (Expr × Level) := do
  match l.items with
  | [] => fail .repetitionMissing (.at (← mark))
  | .empty :: _ => fail .repetitionMissing (.at (← mark))
  | .flags _ :: _ => fail .repetitionMissing (.at (← mark))
  | e :: items => return (e, { l with items })

/-- `?`, `*` or `+`, and a question mark for the lazy form. -/
def repetition (l : Level) (min : Nat) (max : Option Nat) : Read Level := do
  let (e, l) ← repeatable l
  let isLazy := (← bump) && (← peek?) == some '?'
  if isLazy then let _ ← bump
  return { l with items := .repeated (← spanFrom e.span.start) min max (!isLazy) e :: l.items }

/-- A repetition count in braces. -/
def countedRepetition (l : Level) : Read Level := do
  let start ← mark
  let (e, l) ← repeatable l
  let unclosed {α : Type} : Read α := do fail .repetitionCountUnclosed (← spanFrom start)
  let orFail (n : Except Fault Nat) : Read Nat := fun k => n.map fun n => (n, k)
  if !(← step) then unclosed
  let least ← number
  let (min, max) ←
    match ← peek? with
    | none => unclosed
    | some ',' => do
      if !(← step) then unclosed
      if (← peek?) = some '}' then pure (← orFail least, none)
      else
        let min ← orFail least
        let most ← number
        pure (min, some (← orFail most))
    | some _ => do
      let n ← orFail least
      pure (n, some n)
  if (← peek?) ≠ some '}' then unclosed
  let isLazy := (← step) && (← peek?) == some '?'
  if isLazy then let _ ← bump
  if max.any (· < min) then fail .repetitionCountInvalid (← spanFrom start)
  return { l with items := .repeated (← spanFrom e.span.start) min max (!isLazy) e :: l.items }

/-- A character, an escape, the dot, or one of the two line anchors. -/
def primitive (c : Char) : Read Expr := do
  if c = '\\' then return ← escape
  let span ← charSpan
  let _ ← bump
  return match c with
    | '.' => .dot span
    | '^' => .anchor span .caret
    | '$' => .anchor span .dollar
    | c => .literal ⟨span, c, false⟩

/-- The state of a flag after a change. -/
def extendedAfter (changes : List (Flag × Bool)) (now : Bool) : Bool :=
  (changes.lookup .extended).getD now

/-- Reads on within the level `l`, which lies in the levels `outer`, the innermost first. -/
def exprFrom : Nat → List Level → Level → Read Expr
  | 0, _, l => fail .groupUnclosed l.opening
  | fuel + 1, outer, l => do
    skip
    let k ← get
    match k.peek? with
    | none =>
      match outer with
      | [] => return l.inside k.mark
      | _ :: _ => fail .groupUnclosed l.opening
    | some '(' =>
      match ← groupOpening with
      | .inl changes =>
        modify fun k => { k with extended := extendedAfter changes k.extended }
        exprFrom fuel outer { l with items := .flags changes :: l.items }
      | .inr kind =>
        let changes := match kind with
          | .plain changes => changes
          | .capture _ => []
        modify fun k => { k with extended := extendedAfter changes k.extended }
        let here ← mark
        exprFrom fuel (l :: outer) ⟨k.charSpan, kind, k.extended, here, here, [], []⟩
    | some ')' =>
      match outer with
      | [] => fail .groupUnopened k.charSpan
      | l' :: outer' =>
        let inside := l.inside k.mark
        let _ ← bump
        modify fun k => { k with extended := l.outerExtended }
        let span ← spanFrom l.opening.start
        exprFrom fuel outer' { l' with items := .group span l.kind inside :: l'.items }
    | some '|' =>
      let branch := l.branch k.mark
      let _ ← bump
      exprFrom fuel outer
        { l with branches := branch :: l.branches, items := [], branchAt := ← mark }
    | some '[' =>
      let e ← bracketed
      exprFrom fuel outer { l with items := e :: l.items }
    | some '?' => exprFrom fuel outer (← repetition l 0 (some 1))
    | some '*' => exprFrom fuel outer (← repetition l 0 none)
    | some '+' => exprFrom fuel outer (← repetition l 1 none)
    | some '{' => exprFrom fuel outer (← countedRepetition l)
    | some c =>
      let e ← primitive c
      exprFrom fuel outer { l with items := e :: l.items }

end Read

/-- How deep the parts of an expression may lie in one another. -/
def nestLimit : Nat := 250

/-- Reads an expression. -/
def Expr.read (t : Text) : Except Fault Expr := do
  let whole : Read.Level := ⟨.at {}, .plain [], false, {}, {}, [], []⟩
  let (e, _) ← (Read.exprFrom (t.length + 1) [] whole).run ⟨t, {}, false, 0, []⟩
  match e.tooDeep? nestLimit with
  | some span => throw ⟨.nestLimitExceeded nestLimit, span, none⟩
  | none => return e

end SchemaFragments.Regex
