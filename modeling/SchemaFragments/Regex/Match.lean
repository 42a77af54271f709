import SchemaFragments.Regex.LazyList
import SchemaFragments.Regex.Place

/-! # Matches

A match grows at its end: by the next character, by a text, by a run of characters of one set.
`Match.extendEach` makes longer matches of every match of a list and keeps of several that stop at
one place only the first, because what follows depends on the place alone. -/

namespace SchemaFragments.Regex

/-- What a group matched: `length` characters of the text `rest` that followed its start. -/
structure Captured where
  rest : Text
  length : Nat
  deriving DecidableEq, Repr

/-- The matched text. -/
def Captured.text (c : Captured) : Text := c.rest.take c.length

/-- A match: where it begins, where it stops, and the groups closed so far, the latest first. -/
structure Match where
  start : Place
  stop : Place
  groups : List (Nat × Captured)
  deriving DecidableEq, Repr

namespace Match

/-- The empty match at a place. -/
def emptyAt (p : Place) : Match := ⟨p, p, []⟩

/-- The number of characters that are matched. -/
def length (m : Match) : Nat := m.stop.index - m.start.index

/-- The matched text. -/
def text (m : Match) : Text := m.start.textTo m.stop

/-- What the group `i` matched; nothing if it took no part or does not exist. -/
def group (m : Match) (i : Nat) : Text := (m.groups.lookup i).elim [] Captured.text

/-- The match with the next character added to it, if that is in the set. -/
def take? (s : CharSet) (m : Match) : Option Match :=
  match m.stop.rest with
  | [] => none
  | c :: rest => if s.mem c then some { m with stop := m.stop.advance c rest } else none

/-- The match with a text added to it, if that comes next. -/
def takeText? : Text → Match → Option Match
  | [], m => some m
  | c :: cs, m =>
    match m.stop.rest with
    | [] => none
    | d :: rest => if d = c then takeText? cs { m with stop := m.stop.advance d rest } else none

/-- The match as it is, if the condition holds where it stops. -/
def look? (l : Look) (m : Match) : Option Match := if l.holds m.stop then some m else none

/-- Closes a group that was opened at the place `opened`. -/
def close (index : Nat) (opened : Place) (m : Match) : Match :=
  { m with groups := (index, ⟨opened.rest, m.stop.index - opened.index⟩) :: m.groups }

/-- The matches whose length is not in `seen`, a set of numbers written as the bits of a number; of
several matches of one length the first. -/
def firstsFrom (seen : Nat) : LazyList Match → LazyList Match
  | .nil => .nil
  | .cons m later =>
    if seen.testBit m.length then firstsFrom seen (later ())
    else .cons m fun _ => firstsFrom (seen ||| 1 <<< m.length) (later ())

/-- What `f` makes of each match; of several that stop at one place the first. -/
def extendEach (f : Match → LazyList Match) (ms : LazyList Match) : LazyList Match :=
  firstsFrom 0 (ms.flatMap f)

/-! ### Repetition of one character -/

/-- The match `m` with 0, 1, 2, … members of `s` added to it, up to `max` of them: those that stop
at `p`, which `rest` follows, and later. -/
def run (s : CharSet) (m : Match) : Option Nat → Place → List Char → LazyList Match
  | _, p, [] => .single { m with stop := p }
  | some 0, p, _ => .single { m with stop := p }
  | max, p, c :: rest =>
    if s.mem c then
      .cons { m with stop := p } fun _ => run s m (max.map (· - 1)) (p.advance c rest) rest
    else .single { m with stop := p }

/-- At least `min` and at most `max` characters of a set. -/
def runs (s : CharSet) (min : Nat) (max : Option Nat) (greedy : Bool) (m : Match) :
    LazyList Match :=
  let ms := (run s m max m.stop m.stop.rest).drop min
  if greedy then ms.reverse else ms

end Match

end SchemaFragments.Regex
