import SchemaFragments.Unicode.CodeRanges

/-! # Combining ranges

The edges of a set are the code points at which membership changes.  `CodeRanges.combine` goes
through the edges of two sets at once and finds the edges of any combination of the two.  What
comes out is increasing, and no two of its ranges touch. -/

namespace SchemaFragments.CodeRanges

/-- The code points at which membership changes; there is no edge where two ranges touch. -/
def edges : CodeRanges → List Nat
  | [] => []
  | (lo, hi) :: rest =>
    match edges rest with
    | [] => [lo, hi + 1]
    | e :: es => if e = hi + 1 then lo :: es else lo :: (hi + 1) :: e :: es

/-- The ranges between the first edge and the second, the third and the fourth, and so on. -/
def ofEdges : List Nat → CodeRanges
  | lo :: stop :: es => (lo, stop - 1) :: ofEdges es
  | _ => []

/-- The edges of the combination `f` of two sets with the edges `es` and `fs`, where `a` and `b` say
whether one is within the sets before these edges.  The fuel is the number of edges. -/
def sweep (f : Bool → Bool → Bool) : Nat → Bool → Bool → List Nat → List Nat → List Nat
  | 0, _, _, _, _ => []
  | fuel + 1, a, b, es, fs =>
    let pass (e : Nat) (a' b' : Bool) (es' fs' : List Nat) : List Nat :=
      let later := sweep f fuel a' b' es' fs'
      if f a' b' = f a b then later else e :: later
    match es, fs with
    | [], [] => []
    | e :: es', [] => pass e (!a) b es' []
    | [], e :: fs' => pass e a (!b) [] fs'
    | e :: es', e' :: fs' =>
      if e < e' then pass e (!a) b es' (e' :: fs')
      else if e' < e then pass e' a (!b) (e :: es') fs'
      else pass e (!a) (!b) es' fs'

/-- The code points for which `f` holds of their membership in two sets. -/
def combine (f : Bool → Bool → Bool) (r s : CodeRanges) : CodeRanges :=
  let es := r.edges
  let fs := s.edges
  ofEdges (sweep f (es.length + fs.length) false false es fs)

/-- Every code point. -/
def full : CodeRanges := [(0, 0x10ffff)]

/-- The members of either set. -/
def union (r s : CodeRanges) : CodeRanges :=
  match r, s with
  | [], s => s
  | r, [] => r
  | r, s => combine (· || ·) r s

/-- The members of all sets of a list. -/
def unionAll (rs : List CodeRanges) : CodeRanges := rs.foldr union []

/-- The members of both sets. -/
def inter : CodeRanges → CodeRanges → CodeRanges := combine (· && ·)

/-- The members of the first set that are not in the second. -/
def diff : CodeRanges → CodeRanges → CodeRanges := combine fun a b => a && !b

/-- The members of exactly one of the sets. -/
def symmDiff : CodeRanges → CodeRanges → CodeRanges := combine xor

/-- The code points outside of the set. -/
def compl (r : CodeRanges) : CodeRanges := full.diff r

end SchemaFragments.CodeRanges
