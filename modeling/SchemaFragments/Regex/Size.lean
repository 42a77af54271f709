import SchemaFragments.Regex.Pattern
import SchemaFragments.Regex.Room

/-! # The size of a pattern

A pattern is searched for by two automata, one that reads forwards and one that reads backwards.
`Pattern.tooBig` says whether either of them takes more room than there is.  `Pattern.sizeBound`
decides most cases: the states are only followed one by one if the bound is over the limit, and not
beyond that limit. -/

namespace SchemaFragments.Regex

namespace Room

/-- The most room that an automaton may take, in bytes. -/
def limit : Nat := 10 * 1024 * 1024

/-- Room for something `n` times over, unless there is no room left. -/
def times (f : Room → Room) : Nat → Room → Room
  | 0, r => r
  | n + 1, r => if limit < r.bytes then r else times f n (f r)

/-! ### Choices between texts -/

/-- The bytes of a text, in the order in which they are read. -/
def bytesOf (backward : Bool) (t : Text) : List Nat :=
  let bytes := t.flatMap fun c => Utf8.encode c.toNat
  if backward then bytes.reverse else bytes

/-- Words in the stretches between those that are over. -/
def stretches : List (List Nat) → List (List (List Nat))
  | [] => [[]]
  | [] :: words => [] :: stretches words
  | word :: words =>
    match stretches words with
    | [] => [[word]]
    | s :: rest => (word :: s) :: rest

/-- The bytes with which some words begin, each once. -/
def heads (words : List (List Nat)) : List Nat := (words.filterMap List.head?).eraseDups

/-- Room for the node of a tree of words that has the given words below it; a word that is over ends
at the node.  Where a word is over the words behind it get nodes of their own, so that the order of
the choice is kept.  A node below which all words are over takes no room. -/
def forWords : Nat → List (List Nat) → Room → Room
  | 0, _, r => r
  | fuel + 1, words, r =>
    if words.all (·.isEmpty) then r
    else
      let begun := words.dropWhile (·.isEmpty)
      let ss := if begun.length < words.length then [] :: stretches begun else stretches words
      let full := ss.filter fun s => !s.isEmpty
      let below := full.foldl (fun r s =>
        let bs := heads s
        let r := r.more 1 (if bs.length < 2 then 0 else 8 * bs.length)
        bs.foldl (fun r b =>
          forWords fuel ((s.filter fun w => w.head? = some b).map (·.drop 1)) r) r) r
      below.more 1 (4 * (full.length + (ss.length - 1)))

end Room

namespace Pattern

/-- The text that a pattern consists of. -/
def text? : Pattern → Option Text
  | text t => some t
  | _ => none

/-- Where a pattern stands in a choice. -/
inductive Standing where
  | alone
  | second
  | later

/-- Room for the links of a branch. -/
def Standing.link : Standing → Room → Room
  | alone, r => r
  | second, r => r.more 2 8
  | later, r => r.link 4

/-- Room for a pattern.  The branches of a choice are joined when the second of them is there. -/
def room (backward : Bool) : Pattern → Standing → Room → Room
  | empty, s, r => s.link (r.more 1 0)
  | text t, s, r => s.link (r.more (Room.bytesOf backward t).length 0)
  | set cs, s, r => s.link (r.forSet backward cs)
  | look _, s, r => s.link (r.more 1 0)
  | seq a b, s, r =>
    s.link <|
      if backward then a.room backward .alone (b.room backward .alone r)
      else b.room backward .alone (a.room backward .alone r)
  | alt a b, .alone, r =>
    match (alt a b).branches.mapM text? with
    | some ts =>
      let words := ts.map (Room.bytesOf backward)
      (r.more 1 0).forWords ((words.map List.length).foldl Nat.max 0 + 1) words
    | none => b.room backward .second (a.room backward .alone r)
  | alt a b, s, r => b.room backward .later (s.link (a.room backward .alone r))
  | group _ a, s, r =>
    s.link <|
      if backward then a.room backward .alone r
      else (a.room backward .alone (r.more 1 0)).more 1 0
  | repeated min max _ a, s, r =>
    let once := a.room backward .alone
    s.link <|
      match max, min with
      | some 1, 0 => (once (r.more 1 8)).more 1 0
      | some n, min =>
        let r := if min = 0 then r.more 1 0 else Room.times once min r
        if min = n then r else Room.times (fun r => once (r.more 1 8)) (n - min) (r.more 1 0)
      | none, 0 => if a.consumes then once (r.more 1 8) else (once r).more 3 16
      | none, min => (Room.times once min r).more 1 8

/-- Room for the automaton of a pattern.  It can begin anywhere unless the pattern is bound to the
end of the text that is read first. -/
def wholeRoom (backward : Bool) (a : Pattern) : Room :=
  let bound := if backward then a.endsWith .textEnd else a.beginsWith .textStart
  let r : Room := if bound then ({} : Room).more 1 0 else ({} : Room).more 3 16
  if backward then (a.room true .alone r).more 1 0
  else (a.room false .alone (r.more 1 0)).more 2 0

/-- A bound on the room for a set. -/
def setBound (s : CharSet) : Nat :=
  if Room.isAscii s then 64 + 8 * s.ranges.length else 64 + 3840 * s.ranges.length

/-- A bound on the room for a pattern. -/
def sizeBound : Pattern → Nat
  | empty => 32
  | text t => 512 * t.length + 64
  | set s => setBound s
  | look _ => 32
  | seq a b => a.sizeBound + b.sizeBound
  | alt a b => a.sizeBound + b.sizeBound + 72
  | group _ a => a.sizeBound + 64
  | repeated min max _ a =>
    match max with
    | some n => Nat.max min n * (a.sizeBound + 40) + 96
    | none => Nat.max min 1 * a.sizeBound + 112

/-- Does an automaton of the pattern take more room than there is? -/
def tooBig (a : Pattern) : Bool :=
  Room.limit < a.sizeBound + 256 &&
    (Room.limit < (a.wholeRoom false).bytes || Room.limit < (a.wholeRoom true).bytes)

end Pattern

end SchemaFragments.Regex
