import SchemaFragments.Regex.CharSet
import SchemaFragments.Text

/-! # Patterns

The abstract form of a regular expression.  Patterns are built in a normal form: sequences and
choices are nested to the right only, neighbouring characters are one text, and a choice between
single characters is a set (`Pattern.sequence`, `Pattern.choice`, `Pattern.repetition`,
`Pattern.ofSet`). -/

namespace SchemaFragments.Regex

/-- Conditions on the characters around a place.  Where a condition is about words, `ascii` says
that only ASCII letters, digits and the underscore count. -/
inductive Look where
  /-- The start of the text. -/
  | textStart
  /-- The end of the text. -/
  | textEnd
  /-- The start of a line; lines end in line feeds. -/
  | lineStart
  /-- The end of a line; lines end in line feeds. -/
  | lineEnd
  /-- The start of a line; lines end in carriage returns, line feeds, or one of each. -/
  | anyLineStart
  /-- The end of a line; lines end in carriage returns, line feeds, or one of each. -/
  | anyLineEnd
  /-- A word character on exactly one side. -/
  | wordEdge (ascii : Bool)
  /-- A word character on both sides or on neither. -/
  | noWordEdge (ascii : Bool)
  /-- A word character after, none before. -/
  | wordStart (ascii : Bool)
  /-- A word character before, none after. -/
  | wordEnd (ascii : Bool)
  /-- No word character before. -/
  | noWordBefore (ascii : Bool)
  /-- No word character after. -/
  | noWordAfter (ascii : Bool)
  deriving DecidableEq, Repr

/-- A regular expression. -/
inductive Pattern where
  /-- Matches the empty text. -/
  | empty
  /-- Matches the characters of a text. -/
  | text (t : Text)
  /-- Matches one character of a set. -/
  | set (s : CharSet)
  /-- Matches the empty text where a condition holds. -/
  | look (l : Look)
  /-- Matches `a`, then `b`. -/
  | seq (a b : Pattern)
  /-- Matches `a`, or else `b`. -/
  | alt (a b : Pattern)
  /-- Matches `a` and remembers what it matched under a number. -/
  | group (index : Nat) (a : Pattern)
  /-- Matches `a` at least `min` and at most `max` times: as often as possible when `greedy`, as
  seldom as possible otherwise. -/
  | repeated (min : Nat) (max : Option Nat) (greedy : Bool) (a : Pattern)
  deriving DecidableEq, Repr

namespace Pattern

/-! ### Lengths of matches -/

/-- Matches nothing but the empty text, in whatever way. -/
def zeroWidth : Pattern → Bool
  | empty => true
  | text t => t.isEmpty
  | set _ => false
  | look _ => true
  | seq a b => a.zeroWidth && b.zeroWidth
  | alt a b => a.zeroWidth && b.zeroWidth
  | group _ a => a.zeroWidth
  | repeated _ max _ a => max == some 0 || a.zeroWidth

/-- The least number of characters that a match has; nothing is known if a part of the pattern
cannot match at all. -/
def leastLength? : Pattern → Option Nat
  | empty => some 0
  | text t => some t.length
  | set s => if s.isEmpty then none else some 1
  | look _ => some 0
  | seq a b => do return (← a.leastLength?) + (← b.leastLength?)
  | alt a b => do return Nat.min (← a.leastLength?) (← b.leastLength?)
  | group _ a => a.leastLength?
  | repeated min _ _ a => do return min * (← a.leastLength?)

/-- Is every match known to have a character? -/
def consumes (a : Pattern) : Bool := a.leastLength?.any (0 < ·)

/-! ### The normal form -/

/-- One character of a set; a set of one character is a text. -/
def ofSet (s : CharSet) : Pattern :=
  match s.only? with
  | some c => text [c]
  | none => set (if s.isEmpty then .none else s)

/-- Repetition in normal form: what matches only the empty text is repeated at most once, and a
repetition of zero times is the empty pattern, without the groups inside of it. -/
def repetition (min : Nat) (max : Option Nat) (greedy : Bool) (a : Pattern) : Pattern :=
  let least := if a.zeroWidth then Nat.min min 1 else min
  let most := if a.zeroWidth then some (max.elim 1 (Nat.min · 1)) else max
  if least = 0 ∧ most = some 0 then empty
  else if least = 1 ∧ most = some 1 then a
  else repeated least most greedy a

/-- The patterns that a sequence consists of. -/
def parts : Pattern → List Pattern
  | empty => []
  | seq a b => a :: b.parts
  | a => [a]

/-- Neighbouring texts joined. -/
def joinTexts : List Pattern → List Pattern
  | [] => []
  | text t :: rest =>
    match joinTexts rest with
    | text u :: more => text (t ++ u) :: more
    | more => text t :: more
  | a :: rest => a :: joinTexts rest

/-- The sequence that consists of some patterns. -/
def ofParts : List Pattern → Pattern
  | [] => empty
  | [a] => a
  | a :: rest => seq a (ofParts rest)

/-- Matches each pattern of a list in turn. -/
def sequence (as : List Pattern) : Pattern := ofParts (joinTexts (as.flatMap parts))

/-- The patterns between which a choice is made. -/
def branches : Pattern → List Pattern
  | alt a b => a :: b.branches
  | a => [a]

/-- The choice between some patterns. -/
def ofBranches : List Pattern → Pattern
  | [] => set .none
  | [a] => a
  | a :: rest => alt a (ofBranches rest)

/-- The character of a text that has just one. -/
def char? : Pattern → Option Char
  | text [c] => some c
  | _ => none

/-- The set that a pattern consists of. -/
def set? : Pattern → Option CharSet
  | set s => some s
  | _ => none

/-- The set of a choice between characters, or between sets. -/
def choiceSet? (as : List Pattern) : Option CharSet :=
  match as.mapM char? with
  | some cs => some (cs.foldr (fun c s => .union (.single c) s) .none)
  | none => (as.mapM set?).map (·.foldr .union .none)

/-- The parts with which both of two sequences begin. -/
def commonParts : List Pattern → List Pattern → List Pattern
  | a :: as, b :: bs => if a = b then a :: commonParts as bs else []
  | _, _ => []

/-- The parts with which all of some sequences begin.  There are none unless each has two parts at
least. -/
def sharedParts (as : List Pattern) : List Pattern :=
  match as.map parts with
  | [] => []
  | ps :: pss => if (ps :: pss).any (·.length < 2) then [] else pss.foldl commonParts ps

/-- The number of patterns that a pattern is made of. -/
def size : Pattern → Nat
  | seq a b => a.size + b.size + 1
  | alt a b => a.size + b.size + 1
  | group _ a => a.size + 1
  | repeated _ _ _ a => a.size + 1
  | _ => 1

/-- `choice`, with parts that all branches begin with in front of it.  What is left of the branches
gets shorter, so their size is fuel enough. -/
def choiceFrom : Nat → List Pattern → Pattern
  | 0, as => ofBranches as
  | fuel + 1, as =>
    match as.flatMap branches with
    | [] => set .none
    | [a] => a
    | as =>
      match choiceSet? as with
      | some s => ofSet s
      | none =>
        let shared := sharedParts as
        if shared.isEmpty then ofBranches as
        else
          let rests := as.map fun a => sequence (a.parts.drop shared.length)
          sequence (shared ++ [choiceFrom fuel rests])

/-- Matches the first pattern of a list, or else the second, and so on.  What all of them begin with
is matched before the choice is made. -/
def choice (as : List Pattern) : Pattern := choiceFrom (as.foldr (fun a n => a.size + n) 1) as

/-! ### Conditions at the ends -/

/-- Does every match begin with the condition? -/
def beginsWith (l : Look) : Pattern → Bool
  | look l' => l = l'
  | seq a b => a.beginsWith l || (a.zeroWidth && b.beginsWith l)
  | alt a b => a.beginsWith l && b.beginsWith l
  | group _ a => a.beginsWith l
  | repeated min _ _ a => 0 < min && a.beginsWith l
  | _ => false

/-- Does every match end with the condition? -/
def endsWith (l : Look) : Pattern → Bool
  | look l' => l = l'
  | seq a b => b.endsWith l || (b.zeroWidth && a.endsWith l)
  | alt a b => a.endsWith l && b.endsWith l
  | group _ a => a.endsWith l
  | repeated min _ _ a => 0 < min && a.endsWith l
  | _ => false

end Pattern

end SchemaFragments.Regex
