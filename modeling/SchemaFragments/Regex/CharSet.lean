import SchemaFragments.Unicode.Folding
import SchemaFragments.Unicode.Property
import SchemaFragments.Unicode.Word

/-! # Sets of characters

A set is kept as its ranges in increasing order, none of which touch.  So two sets with the same
members are equal, which matters where branches of an expression are compared. -/

namespace SchemaFragments.Regex

/-- A set of characters.  It is `bytewise` if it was written where only bytes count. -/
structure CharSet where
  ranges : CodeRanges
  bytewise : Bool := false
  deriving DecidableEq, Repr

namespace CharSet

/-- Is the character in the set? -/
def mem (s : CharSet) (c : Char) : Bool := s.ranges.mem c.toNat

/-- Has the set no members? -/
def isEmpty (s : CharSet) : Bool := s.ranges.isEmpty

/-- The only member, if there is just one. -/
def only? (s : CharSet) : Option Char :=
  match s.ranges with
  | [(lo, hi)] => if lo = hi then some (Char.ofNat lo) else none
  | _ => none

/-! ### Characters and surrogates -/

/-- A range without the surrogates at its ends; nothing if they are all it has. -/
def trim (r : Nat × Nat) : Option (Nat × Nat) :=
  let lo := if 0xd800 ≤ r.1 ∧ r.1 ≤ 0xdfff then 0xe000 else r.1
  let hi := if 0xd800 ≤ r.2 ∧ r.2 ≤ 0xdfff then 0xd7ff else r.2
  if lo ≤ hi then some (lo, hi) else none

/-- The characters among some code points. -/
def ofRanges (rs : CodeRanges) : CharSet := ⟨rs.filterMap trim, false⟩

/-! ### Sets -/

/-- The set without members. -/
def none : CharSet := ⟨[], false⟩

/-- The set of one character. -/
def single (c : Char) : CharSet := ⟨[(c.toNat, c.toNat)], false⟩

/-- The characters from `lo` to `hi`. -/
def between (lo hi : Char) : CharSet := ⟨[(lo.toNat, hi.toNat)], false⟩

/-- Every character. -/
def all : CharSet := ⟨.full, false⟩

/-- Word characters. -/
def word : CharSet := ⟨wordRanges, false⟩

/-- Decimal digits. -/
def digit : CharSet := ⟨digitRanges, false⟩

/-- White space. -/
def blank : CharSet := ⟨blankRanges, false⟩

/-! ### Operations -/

/-- The members of either set. -/
def union (s t : CharSet) : CharSet := ⟨s.ranges.union t.ranges, false⟩

/-- The members of both sets. -/
def inter (s t : CharSet) : CharSet := ⟨s.ranges.inter t.ranges, false⟩

/-- The members of the first set that are not in the second. -/
def diff (s t : CharSet) : CharSet := ofRanges (s.ranges.diff t.ranges)

/-- The members of exactly one of the sets. -/
def symmDiff (s t : CharSet) : CharSet := ofRanges (s.ranges.symmDiff t.ranges)

/-- The characters outside of the set.  When the two characters around the surrogates are both
members the gap between them is taken the other way round, as the range of these two. -/
def compl (s : CharSet) : CharSet :=
  ⟨s.ranges.compl.filterMap fun r => if r = (0xd800, 0xdfff) then some (0xd7ff, 0xe000) else trim r,
    false⟩

/-- Every character but those listed, which are in increasing order. -/
def allBut (cs : List Char) : CharSet := compl ⟨cs.map fun c => (c.toNat, c.toNat), false⟩

/-- Everything that differs from a member in case only. -/
def folded (s : CharSet) : CharSet := ⟨foldAll s.ranges, false⟩

/-- Every member and, of an ASCII letter, the other case. -/
def foldedAscii (s : CharSet) : CharSet := ⟨foldAscii s.ranges, false⟩

@[simp] theorem mem_single (c d : Char) : (single c).mem d = decide (d = c) := by
  have : (d = c) ↔ d.toNat = c.toNat := ⟨fun h => h ▸ rfl, fun h => Char.toNat_inj.1 h⟩
  simp only [single, mem, CodeRanges.mem, this]
  split
  · simp; omega
  · split <;> simp <;> omega

theorem mem_word (c : Char) : word.mem c = isWord c := rfl

theorem mem_blank (c : Char) : blank.mem c = isBlank c := rfl

end CharSet

end SchemaFragments.Regex
