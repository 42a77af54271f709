/-! # Ranges of characters as ranges of bytes

An automaton reads bytes, so a range of characters is taken apart into sequences of byte ranges:
a sequence stands for the characters whose first byte is in its first range, whose second byte is in
its second, and so on. -/

namespace SchemaFragments.Regex.Utf8

/-- A range of bytes, both ends included. -/
abbrev ByteRange := Nat × Nat

/-- The bytes of a code point. -/
def encode (n : Nat) : List Nat :=
  if n < 0x80 then [n]
  else if n < 0x800 then [0xc0 + n / 0x40, 0x80 + n % 0x40]
  else if n < 0x10000 then [0xe0 + n / 0x1000, 0x80 + n / 0x40 % 0x40, 0x80 + n % 0x40]
  else [0xf0 + n / 0x40000, 0x80 + n / 0x1000 % 0x40, 0x80 + n / 0x40 % 0x40, 0x80 + n % 0x40]

/-- The last code point before which the range from `lo` to `hi` has to be cut, if the low `6 * i`
bits do not go through all their values under each value of the others. -/
def unevenCut? (lo hi i : Nat) : Option Nat :=
  let block := 1 <<< (6 * i)
  if lo / block = hi / block then none
  else if lo % block ≠ 0 then some (lo - lo % block + block - 1)
  else if hi % block ≠ block - 1 then some (hi - hi % block - 1)
  else none

/-- The last code point before which the range from `lo` to `hi` has to be cut: where the number of
bytes changes, and where the later bytes do not go through all their values. -/
def cut? (lo hi : Nat) : Option Nat :=
  match [0x7f, 0x7ff, 0xffff].find? fun last => lo ≤ last && last < hi with
  | some last => some last
  | none => if hi < 0x80 then none else [1, 2, 3].findSome? (unevenCut? lo hi)

/-- The sequences for the range from `lo` to `hi`, cut at most `fuel` times on the way to one of
them.  Surrogates are left out. -/
def sequencesFrom : Nat → Nat → Nat → List (List ByteRange)
  | 0, _, _ => []
  | fuel + 1, lo, hi =>
    if hi < lo then []
    else if lo < 0xe000 ∧ 0xd7ff < hi then
      sequencesFrom fuel lo 0xd7ff ++ sequencesFrom fuel 0xe000 hi
    else
      match cut? lo hi with
      | some last => sequencesFrom fuel lo last ++ sequencesFrom fuel (last + 1) hi
      | none => [(encode lo).zip (encode hi)]

/-- The sequences for some ranges of code points.  No range takes as many as 32 cuts, one
within the other. -/
def sequences (rs : List (Nat × Nat)) : List (List ByteRange) :=
  rs.flatMap fun (lo, hi) => sequencesFrom 32 lo hi

end SchemaFragments.Regex.Utf8
