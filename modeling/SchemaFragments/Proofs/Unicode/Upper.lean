import SchemaFragments.Proofs.Unicode.Case

/-! # Upper case after case mapping

Upper case leaves alone what comes out of it (`upper_upperChar`), and it comes out the same with or
without lower case before it for all characters but six (`upper_lowerChar`).  The six are signs that look
like letters, and capitals that share their small letter with another capital: lower case takes them to
a letter that goes back somewhere else.

Both statements go through the tables run by run.  Most runs of lower case are the way back of part of a
run of upper case, and then it is enough that what comes out of upper case stays; the code points of the
few others, most of them of letters that have a title case, are gone through one by one. -/

namespace SchemaFragments

variable {r : CaseRun} {c d : Char} {n m : Nat}

/-! ### Code points -/

/-- The code points of the upper-case form. -/
def upperCodes (n : Nat) : List Nat := mapCodes upperRuns upperSequences n

theorem upperChar_eq (c : Char) : upperChar c = (upperCodes c.toNat).map Char.ofNat :=
  mapCase_eq c

theorem increasing_upperRuns : Increasing upperRuns := by decide +kernel

/-- The code points that are given a sequence, as runs. -/
def keyRuns (sequences : List (Nat × List Nat)) : List CaseRun :=
  sequences.map fun s => ⟨s.1, s.1, 1, 0⟩

theorem increasing_keyRuns : Increasing (keyRuns upperSequences) := by decide +kernel

theorem lookup_of_isClearOf (hclear : r.isClearOf (keyRuns upperSequences)) (hr : r.apply? n = some m) :
    upperSequences.lookup n = none := by
  rw [Option.eq_none_iff_forall_ne_some]
  intro ms hms
  have hkey : (⟨n, n, 1, 0⟩ : CaseRun) ∈ keyRuns upperSequences :=
    List.mem_map.mpr ⟨_, mem_of_lookup hms, rfl⟩
  have happly : CaseRun.apply? ⟨n, n, 1, 0⟩ n = some n :=
    CaseRun.apply_eq_some.mpr ⟨Nat.le_refl n, Nat.le_refl n, Nat.mod_one _, by simp⟩
  have hshift := shiftBy_of_mem increasing_keyRuns hkey happly
  rw [CaseRun.shiftBy_of_isClearOf hclear hr] at hshift
  cases hshift

theorem upperCodes_of_isClearOf (hruns : r.isClearOf upperRuns)
    (hkeys : r.isClearOf (keyRuns upperSequences)) (hr : r.apply? n = some m) : upperCodes n = [n] := by
  unfold upperCodes mapCodes
  rw [CaseRun.shiftBy_of_isClearOf hruns hr, lookup_of_isClearOf hkeys hr]
  rfl

theorem upperChar_ne_nil (c : Char) : upperChar c ≠ [] := by
  have hsequences : ∀ s ∈ upperSequences, s.2 ≠ [] := by decide +kernel
  exact mapCase_ne_nil hsequences

theorem upper_eq_nil {t : Text} : upper t = [] ↔ t = [] := by
  cases t with
  | nil => exact ⟨fun _ => rfl, fun _ => rfl⟩
  | cons c t => simp [upper, upperChar_ne_nil]

/-! ### Upper case of upper case -/

/-- Where upper case takes the code points of a run, no other run and no sequence begins. -/
theorem inverse_clear : ∀ r ∈ upperRuns, 0 ≤ r.first + r.shift ∧ r.inverse.isClearOf upperRuns ∧
    r.inverse.isClearOf (keyRuns upperSequences) := by
  decide +kernel

theorem upperCodes_of_mem_sequence : ∀ s ∈ upperSequences, ∀ m ∈ s.2, upperCodes m = [m] := by
  decide +kernel

theorem upperCodes_of_mem (h : m ∈ upperCodes n) : upperCodes m = [m] := by
  unfold upperCodes at h
  rcases mapCodes_cases upperRuns upperSequences n with ⟨r, hr, k, happly, hk⟩ | ⟨s, hs, -, hms⟩ | hsame
  · rw [hk] at h
    cases List.mem_singleton.mp h
    obtain ⟨hshift, hruns, hkeys⟩ := inverse_clear r hr
    exact upperCodes_of_isClearOf hruns hkeys (CaseRun.apply_inverse happly hshift)
  · rw [hms] at h
    exact upperCodes_of_mem_sequence s hs m h
  · rw [hsame] at h
    cases List.mem_singleton.mp h
    exact hsame

/-- What comes out of upper case stays in upper case. -/
theorem upperChar_of_mem (h : d ∈ upperChar c) : upperChar d = [d] := by
  rw [upperChar_eq] at h
  obtain ⟨m, hm, rfl⟩ := List.mem_map.mp h
  rw [upperChar_eq]
  rcases toNat_ofNat_cases m with hnull | hsame
  · have hd : Char.ofNat m = '\x00' := Char.toNat_inj.mp hnull
    rw [hd]
    decide
  · rw [hsame, upperCodes_of_mem hm]
    rfl

theorem upper_upperChar (c : Char) : upper (upperChar c) = upperChar c := by
  unfold upper
  rw [List.flatMap_congr fun d hd => upperChar_of_mem hd, List.flatMap_singleton']

theorem upper_upper (t : Text) : upper (upper t) = upper t := by
  unfold upper
  rw [List.flatMap_assoc]
  exact List.flatMap_congr fun c _ => upper_upperChar c

/-! ### Upper case of lower case -/

/-- The characters whose upper-case form changes if they are taken to lower case first: the dotted
capital I, the capital theta as a symbol, the capital sharp S, and the signs of the ohm, the kelvin and
the ångström. -/
def lostInLowerCase : List Char := ['\u0130', '\u03f4', '\u1e9e', '\u2126', '\u212a', '\u212b']

namespace CaseRun

/-- Each code point of the run is lost in lower case or has the upper case of its image. -/
def Kept (r : CaseRun) : Prop :=
  ∀ n ∈ r.codes, n ∈ lostInLowerCase.map Char.toNat ∨ upperCodes (n + r.shift).toNat = upperCodes n

instance (r : CaseRun) : Decidable r.Kept :=
  inferInstanceAs (Decidable (∀ _ ∈ _, _ ∨ _))

/-- The images of the run are code points of characters. -/
def Valid (r : CaseRun) : Prop :=
  0 ≤ r.first + r.shift ∧
    (r.inverse.last < 0xd800 ∨ (0xdfff < r.inverse.first ∧ r.inverse.last < 0x110000))

instance (r : CaseRun) : Decidable r.Valid :=
  inferInstanceAs (Decidable (_ ∧ _))

theorem toNat_ofNat_of_valid (h : r.Valid) (hr : r.apply? n = some m) : (Char.ofNat m).toNat = m := by
  obtain ⟨hlo, hhi⟩ := inverse_bounds hr
  have hvalid := h.2
  refine toNat_ofNat ?_
  unfold Nat.isValidChar
  omega

end CaseRun

theorem lowerRuns_kept : ∀ r ∈ lowerRuns, r.Valid ∧ (r.inverse.isPartOf upperRuns ∨ r.Kept) := by
  decide +kernel

theorem upperCodes_of_lowerRuns (hr : r ∈ lowerRuns) (h : r.apply? n = some m)
    (hn : n ∉ lostInLowerCase.map Char.toNat) : upperCodes m = upperCodes n := by
  obtain ⟨hvalid, hback | hkept⟩ := lowerRuns_kept r hr
  · have hm : upperCodes m = [n] := by
      unfold upperCodes mapCodes
      rw [CaseRun.shiftBy_of_isPartOf increasing_upperRuns hback (CaseRun.apply_inverse h hvalid.1)]
    have hn : n ∈ upperCodes m := hm ▸ List.mem_singleton_self n
    rw [hm, upperCodes_of_mem hn]
  · have hcodes := (hkept n (CaseRun.mem_codes h)).resolve_left hn
    rw [(CaseRun.apply_eq_some.mp h).2.2.2]
    exact hcodes

/-- Lower case before upper case changes the outcome for six characters and for no other. -/
theorem upper_lowerChar : upper (lowerChar c) = upperChar c ↔ c ∉ lostInLowerCase := by
  constructor
  · have hlost : lostInLowerCase.all fun d => upper (lowerChar d) ≠ upperChar d := by decide +kernel
    exact fun h hc => of_decide_eq_true (List.all_eq_true.mp hlost c hc) h
  · intro hc
    have hn : c.toNat ∉ lostInLowerCase.map Char.toNat := by
      rw [List.mem_map]
      rintro ⟨d, hd, hcode⟩
      exact hc (Char.toNat_inj.mp hcode ▸ hd)
    unfold lowerChar
    rw [mapCase_eq]
    rcases mapCodes_cases lowerRuns lowerSequences c.toNat with
      ⟨r, hr, m, happly, hm⟩ | ⟨s, hs, hkey, -⟩ | hsame
    · have hcode := CaseRun.toNat_ofNat_of_valid (lowerRuns_kept r hr).1 happly
      rw [hm, upperChar_eq c, ← upperCodes_of_lowerRuns hr happly hn]
      simp [upper, upperChar_eq, hcode]
    · have hlost : ∀ s ∈ lowerSequences, s.1 ∈ lostInLowerCase.map Char.toNat := by decide
      exact absurd (hkey ▸ hlost s hs) hn
    · rw [hsame]
      simp [upper]

end SchemaFragments
