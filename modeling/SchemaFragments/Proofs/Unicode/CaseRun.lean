import SchemaFragments.Unicode.Case
import Mathlib.Data.List.Chain

/-! # Runs of a case table

What a table of runs does to a code point is settled run by run.  A code point that one of its runs
covers goes where that run takes it, as long as the runs are in increasing order (`shiftBy_of_mem`).
That a run does part of what a table does (`CaseRun.isPartOf`) or has no code point in common with it
(`CaseRun.isClearOf`) is read off the bounds of the runs, so that a statement about all code points of a
table is one about its runs. -/

namespace SchemaFragments

variable {runs : List CaseRun} {r s u : CaseRun} {n m : Nat}

namespace CaseRun

theorem apply_eq_some :
    r.apply? n = some m ↔
      r.first ≤ n ∧ n ≤ r.last ∧ (n - r.first) % r.stride = 0 ∧ m = (n + r.shift).toNat := by
  unfold CaseRun.apply?
  constructor
  · intro h
    split at h
    · next hc =>
        cases h
        exact ⟨hc.1, hc.2.1, hc.2.2, rfl⟩
    · cases h
  · rintro ⟨hfirst, hlast, hstride, rfl⟩
    rw [if_pos ⟨hfirst, hlast, hstride⟩]

/-- The code points from the first to the last, by the stride. -/
def codes (r : CaseRun) : List Nat := List.range' r.first ((r.last - r.first) / r.stride + 1) r.stride

theorem mem_codes (h : r.apply? n = some m) : n ∈ r.codes := by
  obtain ⟨hfirst, hlast, hstride, -⟩ := apply_eq_some.mp h
  have hstep : n - r.first = r.stride * ((n - r.first) / r.stride) := by
    have hdiv := Nat.div_add_mod (n - r.first) r.stride
    omega
  have hle : (n - r.first) / r.stride ≤ (r.last - r.first) / r.stride :=
    Nat.div_le_div_right (by omega)
  exact List.mem_range'.mpr ⟨(n - r.first) / r.stride, by omega, by omega⟩

/-! ### Two runs -/

/-- The other run takes every second code point, and those of this run are not among them. -/
def Alternate (r u : CaseRun) : Prop :=
  u.stride = 2 ∧ (r.stride = 2 ∨ r.first = r.last) ∧ r.first % 2 ≠ u.first % 2

instance (r u : CaseRun) : Decidable (r.Alternate u) :=
  inferInstanceAs (Decidable (_ ∧ _ ∧ _))

theorem apply_of_alternate (h : r.Alternate u) (hr : r.apply? n = some m) : u.apply? n = none := by
  obtain ⟨htwo, hstep, hparity⟩ := h
  obtain ⟨hfirst, hlast, hstride, -⟩ := apply_eq_some.mp hr
  rw [Option.eq_none_iff_forall_ne_some]
  intro k hk
  obtain ⟨hfirst', hlast', hstride', -⟩ := apply_eq_some.mp hk
  rw [htwo] at hstride'
  rcases hstep with hstep | hstep
  · rw [hstep] at hstride
    omega
  · omega

/-- The code points of one run are code points of the other, and both move them by the same distance. -/
def Within (s u : CaseRun) : Prop :=
  s.shift = u.shift ∧ u.first ≤ s.first ∧ s.last ≤ u.last ∧ (s.first - u.first) % u.stride = 0 ∧
    s.stride % u.stride = 0

instance (s u : CaseRun) : Decidable (s.Within u) :=
  inferInstanceAs (Decidable (_ ∧ _ ∧ _ ∧ _ ∧ _))

theorem apply_of_within (h : s.Within u) (hs : s.apply? n = some m) : u.apply? n = some m := by
  obtain ⟨hshift, hbegin, hend, hoffset, hstride⟩ := h
  obtain ⟨hfirst, hlast, hmod, rfl⟩ := apply_eq_some.mp hs
  have hdvd : u.stride ∣ n - s.first :=
    Nat.dvd_trans (Nat.dvd_of_mod_eq_zero hstride) (Nat.dvd_of_mod_eq_zero hmod)
  have hsum : n - u.first = (s.first - u.first) + (n - s.first) := by omega
  refine apply_eq_some.mpr ⟨by omega, by omega, ?_, by rw [hshift]⟩
  rw [hsum]
  exact Nat.mod_eq_zero_of_dvd (Nat.dvd_add (Nat.dvd_of_mod_eq_zero hoffset) hdvd)

/-! ### The way back -/

theorem inverse_first (r : CaseRun) : r.inverse.first = (r.first + r.shift).toNat := rfl

theorem inverse_last (r : CaseRun) : r.inverse.last = (r.last + r.shift).toNat := rfl

theorem inverse_shift (r : CaseRun) : r.inverse.shift = -r.shift := rfl

/-- Where the run takes a code point is between where it takes its ends. -/
theorem inverse_bounds (h : r.apply? n = some m) : r.inverse.first ≤ m ∧ m ≤ r.inverse.last := by
  obtain ⟨hfirst, hlast, -, rfl⟩ := apply_eq_some.mp h
  rw [inverse_first, inverse_last]
  omega

theorem apply_inverse (h : r.apply? n = some m) (hshift : 0 ≤ r.first + r.shift) :
    r.inverse.apply? m = some n := by
  obtain ⟨hlo, hhi⟩ := inverse_bounds h
  obtain ⟨hfirst, hlast, hstride, rfl⟩ := apply_eq_some.mp h
  have hoffset : (n + r.shift).toNat - r.inverse.first = n - r.first := by
    rw [inverse_first]
    omega
  refine apply_eq_some.mpr ⟨hlo, hhi, ?_, ?_⟩
  · rw [hoffset]
    exact hstride
  · rw [inverse_shift]
    omega

end CaseRun

/-! ### Tables -/

/-- A code point that a table takes to another is covered by one of its runs. -/
theorem exists_apply_of_shiftBy (h : shiftBy runs n = some m) : ∃ r ∈ runs, r.apply? n = some m := by
  induction runs with
  | nil => cases h
  | cons r runs ih =>
      rw [shiftBy] at h
      split at h
      · cases h
      · split at h
        · next hr =>
            cases h
            exact ⟨r, List.mem_cons_self, hr⟩
        · obtain ⟨r', hr', happly⟩ := ih h
          exact ⟨r', List.mem_cons_of_mem _ hr', happly⟩

/-- Each run ends before the next one begins. -/
def Increasing (runs : List CaseRun) : Prop :=
  runs.IsChain fun r u => r.first ≤ r.last ∧ r.last < u.first

instance (runs : List CaseRun) : Decidable (Increasing runs) :=
  inferInstanceAs (Decidable (List.IsChain _ _))

theorem Increasing.pairwise (h : Increasing runs) :
    runs.Pairwise fun r u => r.first ≤ r.last ∧ r.last < u.first := by
  have : IsTrans CaseRun fun r u => r.first ≤ r.last ∧ r.last < u.first :=
    ⟨fun _ _ _ ⟨hr, hru⟩ ⟨hu, huv⟩ => ⟨hr, by omega⟩⟩
  exact List.isChain_iff_pairwise.mp h

/-- In a table in increasing order every run decides on the code points that it covers. -/
theorem shiftBy_of_mem (hruns : Increasing runs) (hr : r ∈ runs) (h : r.apply? n = some m) :
    shiftBy runs n = some m := by
  obtain ⟨hfirst, hlast, -, -⟩ := CaseRun.apply_eq_some.mp h
  have hpairwise := hruns.pairwise
  clear hruns
  induction runs with
  | nil => cases hr
  | cons u runs ih =>
      obtain ⟨hu, hpairwise⟩ := List.pairwise_cons.mp hpairwise
      rw [shiftBy]
      rcases List.mem_cons.mp hr with rfl | hr
      · rw [if_neg (by omega), h]
      · obtain ⟨hbounds, hbehind⟩ := hu r hr
        have hnot : u.apply? n = none := by
          rw [Option.eq_none_iff_forall_ne_some]
          intro k hk
          obtain ⟨-, hlast', -⟩ := CaseRun.apply_eq_some.mp hk
          omega
        rw [if_neg (by omega), hnot]
        exact ih hr hpairwise

namespace CaseRun

/-! ### A run and a table -/

/-- Is what the run does part of what a table does?  Only one run of a table in increasing order can
cover the first code point. -/
def isPartOf (s : CaseRun) (runs : List CaseRun) : Bool :=
  match runs.find? (s.first ≤ ·.last) with
  | some u => s.Within u
  | none => false

theorem shiftBy_of_isPartOf (hruns : Increasing runs) (h : s.isPartOf runs) (hs : s.apply? n = some m) :
    shiftBy runs n = some m := by
  unfold isPartOf at h
  split at h
  · next u hu =>
      have hwithin : s.Within u := of_decide_eq_true h
      exact shiftBy_of_mem hruns (List.mem_of_find?_eq_some hu) (apply_of_within hwithin hs)
  · cases h

/-- Does a table in increasing order leave the code points of the run alone? -/
def isClearOf (r : CaseRun) : List CaseRun → Bool
  | [] => true
  | u :: runs =>
    if u.last < r.first then r.isClearOf runs
    else r.last < u.first || r.Alternate u && r.isClearOf runs

theorem shiftBy_of_isClearOf (h : r.isClearOf runs) (hr : r.apply? n = some m) : shiftBy runs n = none := by
  obtain ⟨hfirst, hlast, -, -⟩ := apply_eq_some.mp hr
  induction runs with
  | nil => rfl
  | cons u runs ih =>
      rw [shiftBy]
      split
      · rfl
      · next hbegun =>
          have hboth : u.apply? n = none ∧ r.isClearOf runs := by
            rw [isClearOf] at h
            split at h
            · next hbehind =>
                refine ⟨?_, h⟩
                rw [Option.eq_none_iff_forall_ne_some]
                intro k hk
                have hlast' := (apply_eq_some.mp hk).2.1
                omega
            · rcases Bool.or_eq_true_iff.mp h with hbefore | halternate
              · have := of_decide_eq_true hbefore
                omega
              · obtain ⟨halternate, hrest⟩ := Bool.and_eq_true_iff.mp halternate
                exact ⟨apply_of_alternate (of_decide_eq_true halternate) hr, hrest⟩
          rw [hboth.1]
          exact ih hboth.2

end CaseRun

end SchemaFragments
