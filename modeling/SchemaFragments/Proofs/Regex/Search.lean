import SchemaFragments.Proofs.Regex.Follow

/-! # Where a search finds a match

A search goes from place to place until there is a match (`find?_of_matchAt?`, `find?_cons`).  A
pattern that never matches the empty text finds its matches one behind the other, wherever the match
before them ended (`matchesFrom_of_find?`). -/

namespace SchemaFragments.Regex.Pattern

variable {r : Pattern} {p q : Place} {m : Match}

theorem find?_of_matchAt? (h : r.matchAt? p = some m) : r.find? p = some m := by
  obtain ⟨before, rest, index⟩ := p
  unfold find?
  cases rest with
  | nil => exact h
  | cons c rest =>
      rw [findFrom?, h]

theorem find?_cons {before : Option Char} {c : Char} {rest : Text} {index : Nat}
    (h : r.matchAt? ⟨before, c :: rest, index⟩ = none) :
    r.find? ⟨before, c :: rest, index⟩ = r.find? ⟨some c, rest, index + 1⟩ := by
  unfold find?
  rw [findFrom?, h]

theorem find?_of_rest_nil (h : p.rest = []) : r.find? p = r.matchAt? p := by
  obtain ⟨before, rest, index⟩ := p
  subst h
  rfl

/-- What a search finds begins at some place further on in the text. -/
theorem exists_matchAt?_of_find? (h : r.find? p = some m) :
    ∃ n ≤ p.rest.length, r.matchAt? (p.ahead n) = some m := by
  obtain ⟨before, rest, index⟩ := p
  induction rest generalizing before index with
  | nil => exact ⟨0, Nat.le_refl _, h⟩
  | cons c rest ih =>
      cases hm : r.matchAt? ⟨before, c :: rest, index⟩ with
      | some m' =>
          rw [find?_of_matchAt? hm] at h
          exact ⟨0, Nat.zero_le _, hm.trans h⟩
      | none =>
          rw [find?_cons hm] at h
          obtain ⟨n, hn, hm⟩ := ih _ _ h
          refine ⟨n + 1, Nat.succ_le_succ hn, ?_⟩
          rw [Place.ahead_cons, hm]

/-- If nothing is found behind the first match, it is the only one. -/
theorem allMatches_of_find? {t : Text} (h : r.find? (Place.start t) = some m)
    (hend : r.find? m.stop = none) : r.allMatches t = [m] := by
  have hfirst : r.findPast? none (Place.start t) = some m := by
    unfold findPast?
    rw [h]
    exact if_neg (by simp)
  have hlast (barred : Option Nat) : r.findPast? barred m.stop = none := by
    unfold findPast?
    rw [hend]
  unfold allMatches
  rw [matchesFrom, hfirst]
  change m :: r.matchesFrom (t.length + 1) _ _ = [m]
  rw [matchesFrom, hlast]

/-- No match of the pattern is empty. -/
def NeverEmpty (r : Pattern) : Prop := ∀ p m, r.matchAt? p = some m → 0 < m.length

namespace NeverEmpty

theorem findPast?_eq (hr : r.NeverEmpty) (barred : Option Nat) (p : Place) :
    r.findPast? barred p = r.find? p := by
  unfold findPast?
  cases h : r.find? p with
  | none => rfl
  | some m =>
      obtain ⟨n, -, hn⟩ := exists_matchAt?_of_find? h
      have hlt := hr _ _ hn
      unfold Match.length at hlt
      simp only
      rw [if_neg (by omega)]

theorem matchesFrom_of_find? (hr : r.NeverEmpty) {fuel : Nat} {barred : Option Nat}
    (h : r.find? p = some m) :
    r.matchesFrom (fuel + 1) barred p = m :: r.matchesFrom fuel (some m.stop.index) m.stop := by
  rw [matchesFrom, hr.findPast?_eq, h]

theorem matchesFrom_of_find?_none (hr : r.NeverEmpty) {fuel : Nat} {barred : Option Nat}
    (h : r.find? p = none) : r.matchesFrom fuel barred p = [] := by
  cases fuel with
  | zero => rfl
  | succ fuel =>
      rw [matchesFrom, hr.findPast?_eq, h]

theorem matchesFrom_congr (hr : r.NeverEmpty) {fuel : Nat} {barred : Option Nat}
    (h : r.find? p = r.find? q) : r.matchesFrom fuel barred p = r.matchesFrom fuel barred q := by
  cases fuel with
  | zero => rfl
  | succ fuel =>
      rw [matchesFrom, matchesFrom, hr.findPast?_eq, hr.findPast?_eq, h]

end NeverEmpty

end SchemaFragments.Regex.Pattern
