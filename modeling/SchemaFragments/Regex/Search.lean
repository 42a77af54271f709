import SchemaFragments.Regex.Walk

/-! # Searching

A match is found by following the pattern from a place in the text.  `Pattern.extend` takes the
matches found so far and lists the longer ones that the pattern makes of them, the preferred one
first: alternatives from left to right, greedy repetitions from the most to the fewest, lazy ones
from the fewest to the most.  The list is computed on demand, and a search asks for its first
element only.  A repetition without a bound of something that may match the empty text is left to
`Pattern.walk`.

`Pattern.find?` tries the places of a text from left to right, `Pattern.allMatches` goes on behind
each match, and `Pattern.replaceAll` keeps the text between the matches. -/

namespace SchemaFragments.Regex

/-! ### Repetition -/

/-- How a body is repeated: it makes longer matches of some matches, and is followed as often as
possible if `greedy`, as seldom as possible otherwise, at most `bound` times if there is a bound. -/
structure Repetition where
  body : LazyList Match → LazyList Match
  greedy : Bool
  bound : Option Nat

namespace Repetition

/-- What tells apart the matches of this repetition from which `left` more iterations may follow:
where they stop and, if there is a bound, how many iterations may follow. -/
def key (r : Repetition) (left : Nat) (m : Match) : Nat × Nat :=
  (m.length, if r.bound.isSome then left else 0)

/-- Lists each of the matches that one iteration made together with what `deeper` makes of it, and
then what `done` lists.  A match whose key is marked is passed over; the marks are handed on. -/
def visit (greedy : Bool) (key : Match → Nat × Nat)
    (deeper : Marks → Match → (Marks → LazyList Match) → LazyList Match) :
    LazyList Match → Marks → (Marks → LazyList Match) → LazyList Match
  | .nil, marks, done => done marks
  | .cons m later, marks, done =>
    if marks.contains (key m) then visit greedy key deeper (later ()) marks done
    else
      let marks := marks.insert (key m)
      if greedy then
        deeper marks m fun marks =>
          .cons m fun _ => visit greedy key deeper (later ()) marks done
      else
        .cons m fun _ =>
          deeper marks m fun marks => visit greedy key deeper (later ()) marks done

/-- Lists what one or more iterations make of `m`, at most `left` of them, and then what `done`
lists. -/
def iterateFrom (r : Repetition) :
    Nat → Marks → Match → (Marks → LazyList Match) → LazyList Match
  | 0, marks, _, done => done marks
  | left + 1, marks, m, done =>
    visit r.greedy (r.key left) (r.iterateFrom left) (r.body (.single m)) marks done

/-- What one or more iterations make of a match. -/
def iterate (r : Repetition) (m : Match) : LazyList Match :=
  r.iterateFrom (r.bound.getD (m.stop.rest.length + 1)) {} m fun _ => .nil

/-- What any number of iterations make of a match, none included. -/
def iterateOrNot (r : Repetition) (m : Match) : LazyList Match :=
  if r.greedy then (r.iterate m).append fun _ => .single m else .cons m fun _ => r.iterate m

/-- What exactly `n` iterations of a body make of some matches. -/
def times (body : LazyList Match → LazyList Match) : Nat → LazyList Match → LazyList Match
  | 0, ms => ms
  | _ + 1, .nil => .nil
  | n + 1, ms => times body n (body ms)

/-- What at least `min` and at most `max` iterations of a body make of some matches. -/
def extend (body : LazyList Match → LazyList Match) (min : Nat) (max : Option Nat) (greedy : Bool)
    (ms : LazyList Match) : LazyList Match :=
  let r : Repetition := ⟨body, greedy, max.map (· - min)⟩
  match max, min with
  | none, n + 1 => Match.extendEach r.iterate (times body n ms)
  | _, _ => Match.extendEach r.iterateOrNot (times body min ms)

end Repetition

/-! ### Following a pattern -/

namespace Pattern

/-- The longer matches that the pattern makes of some matches, the preferred one first. -/
def extend : Pattern → LazyList Match → LazyList Match
  | empty, ms => ms
  | text t, ms => ms.filterMap (·.takeText? t)
  | set s, ms => ms.filterMap (·.take? s)
  | look l, ms => ms.filterMap (·.look? l)
  | seq a b, ms => b.extend (a.extend ms)
  | alt a b, ms =>
    Match.extendEach (fun m => (a.extend (.single m)).append fun _ => b.extend (.single m)) ms
  | group i a, ms => Match.extendEach (fun m => (a.extend (.single m)).map (.close i m.stop)) ms
  | repeated min max greedy a, ms =>
    match a with
    | set s => Match.extendEach (Match.runs s min max greedy) ms
    | a =>
      if max.isSome || a.consumes then Repetition.extend a.extend min max greedy ms
      else walkAll (repeated (Nat.min min 1) max greedy a) (Repetition.times a.extend (min - 1) ms)

/-! ### Matches in a text -/

/-- The preferred match that begins at `p`. -/
def matchAt? (r : Pattern) (p : Place) : Option Match := (r.extend (.single (.emptyAt p))).head?

/-- The leftmost match that begins at the place with the given character before it, or later. -/
def findFrom? (r : Pattern) (before : Option Char) (index : Nat) : Text → Option Match
  | [] => r.matchAt? ⟨before, [], index⟩
  | c :: rest =>
    match r.matchAt? ⟨before, c :: rest, index⟩ with
    | some m => some m
    | none => r.findFrom? (some c) (index + 1) rest

/-- The leftmost match that begins at `p` or later. -/
def find? (r : Pattern) (p : Place) : Option Match := r.findFrom? p.before p.index p.rest

/-- The leftmost match from `p` on that is not an empty one at the index `barred`. -/
def findPast? (r : Pattern) (barred : Option Nat) (p : Place) : Option Match :=
  match r.find? p with
  | none => none
  | some m =>
    if m.stop.index = m.start.index ∧ barred = some m.stop.index then p.next?.bind r.find?
    else some m

/-- The matches from `p` on, one behind the other; `fuel` bounds their number. -/
def matchesFrom (r : Pattern) : Nat → Option Nat → Place → List Match
  | 0, _, _ => []
  | fuel + 1, barred, p =>
    match r.findPast? barred p with
    | none => []
    | some m => m :: matchesFrom r fuel (some m.stop.index) m.stop

/-- The matches in a text from left to right.  Each begins where the one before it ends, or later,
and an empty match does not touch the end of the match before it. -/
def allMatches (r : Pattern) (t : Text) : List Match :=
  r.matchesFrom (t.length + 2) none (Place.start t)

/-- Does the pattern match somewhere in the text? -/
def isMatch (r : Pattern) (t : Text) : Bool := (r.find? (Place.start t)).isSome

/-- The text from `p` on with every match of a list replaced. -/
def splice (f : Match → Text) : Place → List Match → Text
  | p, [] => p.rest
  | p, m :: ms => p.textTo m.start ++ f m ++ splice f m.stop ms

/-- The text with every match replaced. -/
def replaceAll (r : Pattern) (f : Match → Text) (t : Text) : Text :=
  splice f (Place.start t) (r.allMatches t)

end Pattern

end SchemaFragments.Regex
