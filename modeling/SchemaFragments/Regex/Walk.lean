import SchemaFragments.Regex.Match
import Std.Data.HashSet

/-! # Walking through a pattern

Where a repetition has no bound and its body may match the empty text, an iteration can lead back
to where it began.  What happens then depends on the path: `Pattern.walk` tries the paths through
the pattern one after the other, marks every choice that it comes to together with the length of the
match there, and turns back at a choice that is marked already.  So every choice is made once at
each place, by the first path that gets there.

The choices of a pattern are numbered: one for every alternative, one for each iteration that may be
left out, and one after each iteration that another may follow. -/

namespace SchemaFragments.Regex

/-- The choices made so far: the length of the match at each, and its number. -/
abbrev Marks := Std.HashSet (Nat × Nat)

/-- Lists what follows a match, given the marks so far, and then goes on with the paths that are
left. -/
abbrev Onward := Match → Marks → (Marks → LazyList Match) → LazyList Match

/-- A way through a part of a pattern from a match: onward from each longer match that the part
makes of it, and at last on with the paths that are left. -/
abbrev Way := Match → Marks → Onward → (Marks → LazyList Match) → LazyList Match

namespace Way

/-- Marks a choice at the end of a match and goes on, unless it is marked already. -/
def once (choice : Nat) (m : Match) (marks : Marks) (go done : Marks → LazyList Match) :
    LazyList Match :=
  if marks.contains (m.length, choice) then done marks else go (marks.insert (m.length, choice))

/-- Onward from the match itself. -/
def here : Way := fun m marks onward done => onward m marks done

/-- The way on which a match grows at most once. -/
def step (f : Match → Option Match) : Way := fun m marks onward done =>
  match f m with
  | some m' => onward m' marks done
  | none => done marks

/-- One way, then another one. -/
def andThen (a b : Way) : Way := fun m marks onward done =>
  a m marks (fun m' marks more => b m' marks onward more) done

/-- One way, or else another one. -/
def orElse (choice : Nat) (a b : Way) : Way := fun m marks onward done =>
  once choice m marks (fun marks => a m marks onward fun marks => b m marks onward done) done

/-- A way that may be left out: it is tried first when `greedy`, last otherwise. -/
def orNot (choice : Nat) (greedy : Bool) (a : Way) : Way :=
  if greedy then orElse choice a here else orElse choice here a

/-- A way `n` times over: `way k` with its choices numbered from `k` on, of which it has `width`. -/
def times (way : Nat → Way) (width : Nat) : Nat → Nat → Way
  | 0, _, m, marks, onward, done => onward m marks done
  | n + 1, k, m, marks, onward, done =>
    (way k).andThen (times way width n (k + width)) m marks onward done

/-- A way at most `n` times over, with a choice before each iteration. -/
def upTo (greedy : Bool) (way : Nat → Way) (width : Nat) : Nat → Nat → Way
  | 0, _, m, marks, onward, done => onward m marks done
  | n + 1, k, m, marks, onward, done =>
    let deeper := (way (k + 1)).andThen (upTo greedy way width n (k + 1 + width))
    orNot k greedy deeper m marks onward done

/-- A way once or more, with a choice after each iteration. -/
def again (choice : Nat) (greedy : Bool) (way : Way) : Nat → Way
  | 0, _, marks, _, done => done marks
  | fuel + 1, m, marks, onward, done =>
    way.andThen (orNot choice greedy (again choice greedy way fuel)) m marks onward done

/-- A way any number of times, with a choice before each iteration. -/
def loop (choice : Nat) (greedy : Bool) (way : Way) : Nat → Way
  | 0, _, marks, _, done => done marks
  | fuel + 1, m, marks, onward, done =>
    orNot choice greedy (way.andThen (loop choice greedy way fuel)) m marks onward done

/-- A way that depends on the length of the rest of the text: a choice is marked at most once at
every place, which bounds the iterations on one path. -/
def bounded (way : Nat → Way) : Way := fun m => way (m.stop.rest.length + 2) m

end Way

namespace Pattern

/-- The number of choices in a pattern. -/
def choices : Pattern → Nat
  | seq a b => a.choices + b.choices
  | alt a b => a.choices + b.choices + 1
  | group _ a => a.choices
  | repeated min max _ a =>
    match max with
    | some n => min * a.choices + (n - min) * (a.choices + 1)
    | none => Nat.max min 1 * a.choices + 2
  | _ => 0

/-- The way through a pattern whose choices are numbered from `k` on. -/
def walk : Pattern → Nat → Way
  | empty, _ => .here
  | text t, _ => .step (·.takeText? t)
  | set s, _ => .step (·.take? s)
  | look l, _ => .step (·.look? l)
  | seq a b, k => (walk a k).andThen (walk b (k + a.choices))
  | alt a b, k => .orElse k (walk a (k + 1)) (walk b (k + 1 + a.choices))
  | group i a, k => fun m marks onward done =>
    walk a k m marks (fun m' marks more => onward (m'.close i m.stop) marks more) done
  | repeated min max greedy a, k =>
    let way := a.walk
    let width := a.choices
    match max, min with
    | some n, min =>
      (Way.times way width min k).andThen
        (Way.upTo greedy way width (n - min) (k + min * width))
    | none, 0 =>
      if a.consumes then .bounded (Way.loop k greedy (way (k + 1)))
      else
        .orNot k greedy (.bounded (Way.again (k + 1) greedy (way (k + 2))))
    | none, n + 1 =>
      let last := k + n * width
      (Way.times way width n k).andThen
        (.bounded (Way.again (last + width) greedy (way last)))

/-- The longer matches to which the way through a pattern leads from some matches, given the marks
so far. -/
def walkFrom (r : Pattern) : LazyList Match → Marks → LazyList Match
  | .nil, _ => .nil
  | .cons m later, marks =>
    r.walk 0 m marks (fun m' marks more => .cons m' fun _ => more marks) fun marks =>
      r.walkFrom (later ()) marks

/-- The longer matches to which the way through a pattern leads from some matches; of several that
stop at one place the first. -/
def walkAll (r : Pattern) (ms : LazyList Match) : LazyList Match :=
  Match.firstsFrom 0 (r.walkFrom ms {})

end Pattern

end SchemaFragments.Regex
