import SchemaFragments.Regex.CharSet
import SchemaFragments.Regex.Utf8
import Std.Data.HashMap

/-! # Room for an automaton

The states of an automaton are numbered in the order in which they are made, and each takes up some
bytes.  Both are counted by a `Room`.

Most of the room goes to sets of characters beyond ASCII.  Forwards, the sequences of byte ranges of
a set are put into a tree that shares beginnings, and a node that is complete becomes a state, or is
found among the states made before.  Backwards, ends are shared.  Which states are found again
depends on a table of limited length in which one entry may drive out another, so the table and the
numbers of the states have to be followed exactly. -/

namespace SchemaFragments.Regex

/-- The number of states made so far, and the bytes that they take. -/
structure Room where
  states : Nat := 0
  bytes : Nat := 0
  deriving DecidableEq, Repr

namespace Room

/-- The bytes of a state without its transitions. -/
def stateSize : Nat := 32

/-- `n` more states with `extra` bytes of transitions. -/
def more (n extra : Nat) (r : Room) : Room := ⟨r.states + n, r.bytes + n * stateSize + extra⟩

/-- More transitions for states that are there. -/
def link (extra : Nat) (r : Room) : Room := { r with bytes := r.bytes + extra }

/-! ### Tables of states -/

/-- States by what they were made for, each in the slot that its key has. -/
abbrev Table (κ : Type) := Std.HashMap Nat (κ × Nat)

/-- One more number mixed into a key's hash. -/
def mix (h : UInt64) (n : Nat) : UInt64 := (h ^^^ n.toUInt64) * 1099511628211

/-- The slot of a key that consists of some numbers. -/
def slot (slots : Nat) (key : List Nat) : Nat :=
  (key.foldl mix 14695981039346656037).toNat % slots

/-- The state made for a key, if it is still in its slot. -/
def find? {κ : Type} [DecidableEq κ] (t : Table κ) (slot : Nat) (key : κ) : Option Nat :=
  match t[slot]? with
  | some (key', state) => if key' = key then some state else none
  | none => none

/-! ### Forwards -/

/-- A transition: the bytes from `lo` to `hi` lead to the state `next`. -/
structure Edge where
  lo : Nat
  hi : Nat
  next : Nat
  deriving DecidableEq, Repr

/-- A node that is not complete: its transitions, the latest first, and the byte range of the one
whose state is not there yet. -/
structure OpenNode where
  edges : List Edge := []
  last : Option Utf8.ByteRange := none

/-- The node with its latest transition leading to a state. -/
def OpenNode.settle (next : Nat) (n : OpenNode) : OpenNode :=
  match n.last with
  | some (lo, hi) => ⟨⟨lo, hi, next⟩ :: n.edges, none⟩
  | none => n

/-- A set in the making: the state that all its sequences end in, the open nodes from the root on,
and the states made for nodes. -/
structure Growing where
  room : Room
  target : Nat
  nodes : List OpenNode
  table : Table (List Edge)

namespace Growing

/-- The number of slots for states. -/
def slots : Nat := 10000

/-- The state for a node. -/
def stateFor (n : OpenNode) (g : Growing) : Nat × Growing :=
  let key := n.edges.reverse
  let slot := slot slots (key.flatMap fun e => [e.lo, e.hi, e.next])
  match find? g.table slot key with
  | some state => (state, g)
  | none =>
    let state := g.room.states
    let table := g.table.insert slot (key, state)
    (state, { g with room := g.room.more 1 (8 * key.length), table })

/-- The state for the first of some nodes, each of which leads to the next one, and the last of them
to the target. -/
def stateForAll : List OpenNode → Growing → Nat × Growing
  | [], g => (g.target, g)
  | n :: deeper, g =>
    let (next, g) := stateForAll deeper g
    stateFor (n.settle next) g

/-- Completes all open nodes but the first `kept`. -/
def complete (kept : Nat) (g : Growing) : Growing :=
  let (next, g') := stateForAll (g.nodes.drop kept) g
  match (g.nodes.take kept).reverse with
  | [] => { g' with nodes := [] }
  | n :: before => { g' with nodes := (n.settle next :: before).reverse }

/-- How many byte ranges of a sequence agree with the open nodes. -/
def agreeing : List Utf8.ByteRange → List OpenNode → Nat
  | r :: rs, n :: ns => if n.last = some r then agreeing rs ns + 1 else 0
  | _, _ => 0

/-- One more sequence. -/
def add (g : Growing) (rs : List Utf8.ByteRange) : Growing :=
  let shared := agreeing rs g.nodes
  let g := g.complete (shared + 1)
  match rs.drop shared, g.nodes.reverse with
  | r :: rest, n :: before =>
    let opened := rest.map fun r => (⟨[], some r⟩ : OpenNode)
    { g with nodes := ({ n with last := some r } :: before).reverse ++ opened }
  | _, _ => g

end Growing

/-- Room for a set beyond ASCII, forwards. -/
def forwardSet (sequences : List (List Utf8.ByteRange)) (r : Room) : Room :=
  let start : Growing := ⟨r.more 1 0, r.states, [{}], {}⟩
  ((sequences.foldl Growing.add start).complete 0).room

/-! ### Backwards -/

/-- The number of slots for states, backwards. -/
def backwardSlots : Nat := 1000

/-- Room for a sequence that leads to the state `stop`: the state it begins in, and the table with
the states made for it. -/
def backwardSequence (stop : Nat) : List Utf8.ByteRange → Table (List Nat) → Room →
    Table (List Nat) × Room
  | [], table, r => (table, r)
  | (lo, hi) :: rest, table, r =>
    let key := [stop, lo, hi]
    let slot := slot backwardSlots key
    match find? table slot key with
    | some state => backwardSequence state rest table r
    | none =>
      backwardSequence r.states rest (table.insert slot (key, r.states)) (r.more 1 0)

/-- Room for a set beyond ASCII, backwards. -/
def backwardSet (sequences : List (List Utf8.ByteRange)) (r : Room) : Room :=
  let stop := r.states + 1
  let step := fun (table, r) s => backwardSequence stop s table (r.link 4)
  (sequences.foldl step (({} : Table (List Nat)), r.more 2 0)).2

/-! ### Sets -/

/-- Has the set ASCII members only? -/
def isAscii (s : CharSet) : Bool := s.ranges.all (·.2 < 0x80)

/-- Room for one character of a set. -/
def forSet (backward : Bool) (s : CharSet) (r : Room) : Room :=
  if isAscii s then r.more 2 (8 * s.ranges.length)
  else
    let sequences := Utf8.sequences s.ranges
    if backward then backwardSet sequences r else forwardSet sequences r

end Room

end SchemaFragments.Regex
