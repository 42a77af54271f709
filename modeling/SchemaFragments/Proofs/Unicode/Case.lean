import SchemaFragments.Unicode.Blank
import SchemaFragments.Proofs.Unicode.CaseRun

/-! # Characters that case mapping brings in

A character is mapped to itself, or to characters whose code points stand in the tables (`mem_mapCase`).
So what a mapping can bring in is read off its tables: lower case brings in no character below the small
letters (`mem_lowerChar_cases`), upper case none below the capitals (`mem_upperChar_cases`), and neither
brings in white space (`isBlank_lowerChar`, `isBlank_upperChar`). -/

namespace SchemaFragments

variable {runs : List CaseRun} {sequences : List (Nat × List Nat)} {c d : Char} {n : Nat}

theorem mem_of_lookup {ms : List Nat} (h : sequences.lookup n = some ms) : (n, ms) ∈ sequences := by
  induction sequences with
  | nil => cases h
  | cons s sequences ih =>
      rw [List.lookup_cons] at h
      split at h
      · next hs =>
          cases h
          rw [beq_iff_eq] at hs
          subst hs
          exact List.mem_cons_self
      · exact List.mem_cons_of_mem _ (ih h)

/-- The code points to which a table of runs and a table of sequences take a code point. -/
def mapCodes (runs : List CaseRun) (sequences : List (Nat × List Nat)) (n : Nat) : List Nat :=
  match shiftBy runs n with
  | some m => [m]
  | none => (sequences.lookup n).getD [n]

theorem mapCase_eq (c : Char) :
    mapCase runs sequences c = (mapCodes runs sequences c.toNat).map Char.ofNat := by
  unfold mapCase mapCodes
  cases shiftBy runs c.toNat with
  | some m => rfl
  | none =>
      dsimp only
      cases sequences.lookup c.toNat with
      | some ms => rfl
      | none => exact congrArg (fun d => [d]) (Char.ofNat_toNat c).symm

/-- A code point is moved by a run, is given a sequence, or stays. -/
theorem mapCodes_cases (runs : List CaseRun) (sequences : List (Nat × List Nat)) (n : Nat) :
    (∃ r ∈ runs, ∃ m, r.apply? n = some m ∧ mapCodes runs sequences n = [m]) ∨
      (∃ s ∈ sequences, s.1 = n ∧ mapCodes runs sequences n = s.2) ∨
      mapCodes runs sequences n = [n] := by
  unfold mapCodes
  split
  · next m hm =>
      obtain ⟨r, hr, happly⟩ := exists_apply_of_shiftBy hm
      exact .inl ⟨r, hr, m, happly, rfl⟩
  · cases hlookup : sequences.lookup n with
    | some ms => exact .inr (.inl ⟨_, mem_of_lookup hlookup, rfl, rfl⟩)
    | none => exact .inr (.inr rfl)

/-- What a character is mapped to is the character itself, or lies in the image of a run, or is part of
a sequence. -/
theorem mem_mapCase (h : d ∈ mapCase runs sequences c) :
    d = c ∨ ∃ m, d = Char.ofNat m ∧
      ((∃ r ∈ runs, (r.first + r.shift).toNat ≤ m ∧ m ≤ (r.last + r.shift).toNat) ∨
        ∃ s ∈ sequences, m ∈ s.2) := by
  rw [mapCase_eq] at h
  obtain ⟨k, hk, rfl⟩ := List.mem_map.mp h
  rcases mapCodes_cases runs sequences c.toNat with ⟨r, hr, m, happly, hm⟩ | ⟨s, hs, -, hms⟩ | hsame
  · rw [hm] at hk
    cases List.mem_singleton.mp hk
    exact .inr ⟨_, rfl, .inl ⟨r, hr, CaseRun.inverse_bounds happly⟩⟩
  · rw [hms] at hk
    exact .inr ⟨k, rfl, .inr ⟨s, hs, hk⟩⟩
  · rw [hsame] at hk
    cases List.mem_singleton.mp hk
    exact .inl (Char.ofNat_toNat c)

theorem mapCase_ne_nil (h : ∀ s ∈ sequences, s.2 ≠ []) : mapCase runs sequences c ≠ [] := by
  rw [mapCase_eq]
  rcases mapCodes_cases runs sequences c.toNat with ⟨-, -, m, -, hm⟩ | ⟨s, hs, -, hms⟩ | hsame
  · simp [hm]
  · simpa [hms] using h s hs
  · simp [hsame]

theorem toNat_ofNat (h : n.isValidChar) : (Char.ofNat n).toNat = n := by
  unfold Char.ofNat
  rw [dif_pos h]
  rfl

/-- A number that is not a code point stands for the null character. -/
theorem toNat_ofNat_cases (n : Nat) : (Char.ofNat n).toNat = 0 ∨ (Char.ofNat n).toNat = n := by
  by_cases h : n.isValidChar
  · exact .inr (toNat_ofNat h)
  · unfold Char.ofNat
    rw [dif_neg h]
    exact .inl rfl

theorem lowerChar_ne_nil (c : Char) : lowerChar c ≠ [] := by
  have hsequences : ∀ s ∈ lowerSequences, s.2 ≠ [] := by decide
  exact mapCase_ne_nil hsequences

/-! ### What the tables bring in -/

/-- A mapping brings in no character below all images in its tables. -/
theorem mem_mapCase_cases {lowest : Nat} (hruns : ∀ r ∈ runs, lowest ≤ (r.first + r.shift).toNat)
    (hsequences : ∀ s ∈ sequences, ∀ m ∈ s.2, lowest ≤ m) (h : d ∈ mapCase runs sequences c) :
    d = c ∨ d.toNat = 0 ∨ lowest ≤ d.toNat := by
  obtain rfl | ⟨m, rfl, hm⟩ := mem_mapCase h
  · exact .inl rfl
  · have hle : lowest ≤ m := by
      rcases hm with ⟨r, hr, hfirst, -⟩ | ⟨s, hs, hm⟩
      · exact Nat.le_trans (hruns r hr) hfirst
      · exact hsequences s hs m hm
    have hcode := toNat_ofNat_cases m
    omega

/-- Lower case brings in no character below the small letters. -/
theorem mem_lowerChar_cases (h : d ∈ lowerChar c) : d = c ∨ d.toNat = 0 ∨ 0x61 ≤ d.toNat :=
  mem_mapCase_cases (by decide +kernel) (by decide) h

/-- Upper case brings in no character below the capitals. -/
theorem mem_upperChar_cases (h : d ∈ upperChar c) : d = c ∨ d.toNat = 0 ∨ 0x41 ≤ d.toNat :=
  mem_mapCase_cases (by decide +kernel) (by decide +kernel) h

/-- A mapping brings in no white space if there is none between the ends of the images of its runs and in
its sequences. -/
theorem isBlank_mapCase (hruns : ∀ r ∈ runs, ∀ b ∈ blankRanges,
      (r.last + r.shift).toNat < b.1 ∨ b.2 < (r.first + r.shift).toNat)
    (hsequences : ∀ s ∈ sequences, ∀ m ∈ s.2, blankRanges.mem m = false)
    (hc : isBlank c = false) (h : d ∈ mapCase runs sequences c) : isBlank d = false := by
  obtain rfl | ⟨m, rfl, hm⟩ := mem_mapCase h
  · exact hc
  · have hnot : blankRanges.mem m = false := by
      rcases hm with ⟨r, hr, hfirst, hlast⟩ | ⟨s, hs, hm⟩
      · rw [← Bool.not_eq_true]
        intro hmem
        obtain ⟨b, hb, hlo, hhi⟩ := CodeRanges.exists_of_mem hmem
        rcases hruns r hr b hb with hbelow | habove
        · omega
        · omega
      · exact hsequences s hs m hm
    unfold isBlank
    rcases toNat_ofNat_cases m with hnull | hsame
    · rw [hnull]
      decide
    · rw [hsame]
      exact hnot

theorem isBlank_lowerChar (hc : isBlank c = false) (h : d ∈ lowerChar c) : isBlank d = false :=
  isBlank_mapCase (by decide +kernel) (by decide) hc h

theorem isBlank_upperChar (hc : isBlank c = false) (h : d ∈ upperChar c) : isBlank d = false :=
  isBlank_mapCase (by decide +kernel) (by decide +kernel) hc h

end SchemaFragments
