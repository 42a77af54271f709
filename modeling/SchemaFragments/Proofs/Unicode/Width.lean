import SchemaFragments.Unicode.Width

/-! # Narrow texts

A character of ASCII that is shown, and the line of which the bars of a table consist, take one column
and join with nothing.  So a text of such characters takes as many columns as it has characters
(`width_eq_length`), and so does each part of it. -/

namespace SchemaFragments

/-- Does the character take one column, whatever stands next to it? -/
def isNarrow (c : Char) : Bool := isBetween 0x20 0x7e c.toNat || c = '─'

theorem isNarrow_of_isAlphanum {c : Char} (h : c.isAlphanum) : isNarrow c := by
  have hbetween : 0x20 ≤ c.toNat ∧ c.toNat ≤ 0x7e := by
    rcases Bool.or_eq_true_iff.mp h with halpha | hdigit
    · rcases Bool.or_eq_true_iff.mp halpha with hupper | hlower
      · obtain ⟨hlow, hhigh⟩ : 65 ≤ c.toNat ∧ c.toNat ≤ 90 := of_decide_eq_true hupper
        omega
      · obtain ⟨hlow, hhigh⟩ := Bool.and_eq_true_iff.mp hlower
        have hlow : 97 ≤ c.toNat := of_decide_eq_true hlow
        have hhigh : c.toNat ≤ 122 := of_decide_eq_true hhigh
        omega
    · obtain ⟨hlow, hhigh⟩ := Bool.and_eq_true_iff.mp hdigit
      have hlow : 48 ≤ c.toNat := of_decide_eq_true hlow
      have hhigh : c.toNat ≤ 57 := of_decide_eq_true hhigh
      omega
  unfold isNarrow isBetween
  rw [decide_eq_true hbetween, Bool.true_or]

/-- The only white space among narrow characters is the space. -/
theorem isBlank_of_isNarrow {c : Char} (h : isNarrow c) (hspace : c ≠ ' ') : isBlank c = false := by
  rcases Bool.or_eq_true .. ▸ h with h | h
  · obtain ⟨hlow, hhigh⟩ : 0x20 ≤ c.toNat ∧ c.toNat ≤ 0x7e := of_decide_eq_true h
    have hne : c.toNat ≠ 0x20 := fun heq => hspace (Char.toNat_inj.mp heq)
    unfold isBlank blankRanges
    rw [CodeRanges.mem, if_neg (by omega), if_neg (by omega), CodeRanges.mem, if_neg (by omega),
      if_neg (by omega), CodeRanges.mem, if_pos (by omega)]
  · rw [of_decide_eq_true h]
    decide

/-- A narrow character offers nothing to the character before it. -/
theorem joinable_of_narrow {c : Char} (h : isNarrow c) : Joinable.of c.toNat = .nothing := by
  rcases Bool.or_eq_true .. ▸ h with h | h
  · have hlt : c.toNat < 0x300 := by
      have := (of_decide_eq_true h).2
      omega
    exact if_pos hlt
  · rw [of_decide_eq_true h]
    decide +kernel

theorem charWidth_of_narrow {c : Char} (h : isNarrow c) : charWidth c = 1 := by
  rcases Bool.or_eq_true .. ▸ h with h | h
  · have hle : c.toNat ≤ 0x7e := (of_decide_eq_true h).2
    have hlt : c.toNat < 0x300 := by omega
    have hne : c.toNat ≠ 0xad := by omega
    simp only [charWidth, hlt, hne, if_true, if_false]
  · rw [of_decide_eq_true h]
    decide +kernel

/-- A narrow character takes one column in front of what does not join, and does not join either. -/
theorem addWidth_of_narrow {c : Char} (h : isNarrow c) (w : Int) : addWidth c (w, {}) = (w + 1, {}) := by
  have hsign : c.toNat ≠ 0xfe0f := by
    rcases Bool.or_eq_true .. ▸ h with h | h
    · have := (of_decide_eq_true h).2
      omega
    · rw [of_decide_eq_true h]
      decide
  have hfront : Follower.unasked {} = {} := rfl
  have hjoin : joinWidth? {} c.toNat = none := rfl
  have hpassed : Follower.passed? {} c.toNat = none := rfl
  have hasked : ¬(({} : Follower).asPicture = true ∧ hasPicture c.toNat = true) := fun hf => nomatch hf.1
  unfold addWidth
  simp only [hfront, hjoin, hpassed, hsign, if_neg hasked, if_false, charWidth_of_narrow h,
    joinable_of_narrow h, Int.natCast_one]

theorem foldr_addWidth {t : Text} (h : ∀ c ∈ t, isNarrow c) :
    t.foldr addWidth (0, {}) = ((t.length : Int), {}) := by
  induction t with
  | nil => rfl
  | cons c t ih =>
      rw [List.foldr_cons, ih fun d hd => h d (List.mem_cons_of_mem c hd),
        addWidth_of_narrow (h c List.mem_cons_self), List.length_cons, Int.natCast_succ]

/-- A narrow text takes as many columns as it has characters. -/
theorem width_eq_length {t : Text} (h : ∀ c ∈ t, isNarrow c) : Text.width t = t.length := by
  unfold Text.width
  rw [foldr_addWidth h, Int.toNat_natCast]

end SchemaFragments
