/-! # Ranges of code points

A character property is held as the increasing list of the code point ranges that have it.
`CodeRanges.mem` stops at the first range past the code point, so on ASCII text a look-up
passes over at most a handful of ranges however long the table is. -/

namespace SchemaFragments

/-- Is `n` between two code points, both included? -/
def isBetween (lo hi n : Nat) : Bool := decide (lo ≤ n ∧ n ≤ hi)

/-- Ranges of code points, both ends included. -/
abbrev CodeRanges := List (Nat × Nat)

namespace CodeRanges

/-- Is `n` in one of the ranges?  The ranges are in increasing order. -/
def mem : CodeRanges → Nat → Bool
  | [], _ => false
  | (lo, hi) :: rest, n => if n < lo then false else if n ≤ hi then true else mem rest n

@[simp] theorem mem_nil (n : Nat) : mem [] n = false := rfl

theorem mem_cons (lo hi n : Nat) (rest : CodeRanges) :
    mem ((lo, hi) :: rest) n =
      if n < lo then false else if n ≤ hi then true else mem rest n := rfl

theorem exists_of_mem {rs : CodeRanges} {n : Nat} (h : rs.mem n = true) :
    ∃ r ∈ rs, r.1 ≤ n ∧ n ≤ r.2 := by
  induction rs with
  | nil => simp at h
  | cons r rest ih =>
    obtain ⟨lo, hi⟩ := r
    rw [mem_cons] at h
    split at h
    · simp at h
    · split at h
      · exact ⟨(lo, hi), by simp, by simp; omega⟩
      · obtain ⟨r, hr, hle⟩ := ih h
        exact ⟨r, by simp [hr], hle⟩

/-! ### Written form -/

/-- The value of a digit of base sixteen, lower-case letters only. -/
def hexValue? (c : Char) : Option Nat :=
  if '0' ≤ c ∧ c ≤ '9' then some (c.toNat - '0'.toNat)
  else if 'a' ≤ c ∧ c ≤ 'f' then some (c.toNat - 'a'.toNat + 10)
  else none

/-- Ranges with every `step`-th code point from `lo` to `hi`. -/
def stepping (step lo hi : Nat) : CodeRanges :=
  (List.range ((hi - lo) / step + 1)).map fun i => (lo + step * i, lo + step * i)

/-- Where the reading of one written range stands: before it, in its first number, in the second
after the hyphen, and in the step after the slash. -/
inductive Reading where
  | before
  | first (lo : Nat)
  | second (lo hi : Nat)
  | stepped (lo hi step : Nat)

namespace Reading

/-- The ranges that a finished reading stands for. -/
def ranges : Reading → CodeRanges
  | before => []
  | first lo => [(lo, lo)]
  | second lo hi => [(lo, hi)]
  | stepped lo hi step => stepping (if step = 0 then 2 else step) lo hi

/-- The reading after one more digit. -/
def digit (d : Nat) : Reading → Reading
  | before => first d
  | first lo => first (16 * lo + d)
  | second lo hi => second lo (16 * hi + d)
  | stepped lo hi step => stepped lo hi (16 * step + d)

/-- The reading after one more character of the range. -/
def next (r : Reading) (c : Char) : Reading :=
  match r, c with
  | first lo, '-' => second lo 0
  | second lo hi, '/' => stepped lo hi 0
  | r, c => (hexValue? c).elim r r.digit

end Reading

/-- Goes on reading ranges. -/
def parseFrom (r : Reading) : List Char → CodeRanges
  | [] => r.ranges
  | c :: cs =>
    if c = ' ' ∨ c = '\n' then r.ranges ++ parseFrom .before cs else parseFrom (r.next c) cs

/-- Reads ranges written in base sixteen and parted by blanks: `41` is one code point, `41-5a` a
range, `100-12e/` every second code point of a range and `ac00-d788/1c` every 28th. -/
def parse (s : String) : CodeRanges := parseFrom .before s.toList

end CodeRanges

end SchemaFragments
