import Mathlib.Data.List.Basic
import Mathlib.Data.List.TakeWhile
import SchemaFragments.Text

/-! # Splitting and trimming

Splitting puts the pieces of two texts side by side when the separator stands between the texts
(`splitOn_append`), so that texts joined by it have the pieces of them all (`splitOn_intercalate`), and it
leaves a text without the separator whole.  Trimming takes away a part of a text and leaves a text that
neither begins nor ends with white space (`trimmed_trim`); such a text stays the same (`Trimmed.trim_eq`). -/

namespace SchemaFragments.Text

/-! ### Splitting at a character -/

theorem splitOn_ne_nil (sep : Char) (t : Text) : splitOn sep t ≠ [] := by
  induction t with
  | nil => simp [splitOn]
  | cons c t ih =>
      unfold splitOn
      split
      · simp
      · split <;> simp

theorem splitOn_cons_self (sep : Char) (t : Text) : splitOn sep (sep :: t) = [] :: splitOn sep t := by
  rw [splitOn, if_pos rfl]

theorem splitOn_cons_ne {sep c : Char} (h : c ≠ sep) {t piece : Text} {pieces : List Text}
    (ht : splitOn sep t = piece :: pieces) : splitOn sep (c :: t) = (c :: piece) :: pieces := by
  rw [splitOn, if_neg h, ht]

theorem splitOn_append (sep : Char) (a b : Text) :
    splitOn sep (a ++ sep :: b) = splitOn sep a ++ splitOn sep b := by
  induction a with
  | nil => rw [List.nil_append, splitOn_cons_self]; rfl
  | cons c a ih =>
      rw [List.cons_append]
      by_cases hc : c = sep
      · subst hc
        rw [splitOn_cons_self, splitOn_cons_self, ih, List.cons_append]
      · obtain ⟨piece, pieces, ha⟩ := List.exists_cons_of_ne_nil (splitOn_ne_nil sep a)
        rw [ha] at ih
        rw [splitOn_cons_ne hc ha, splitOn_cons_ne hc ih]
        rfl

theorem splitOn_of_not_mem {sep : Char} {t : Text} (h : sep ∉ t) : splitOn sep t = [t] := by
  induction t with
  | nil => rfl
  | cons c t ih =>
      rw [List.mem_cons, not_or] at h
      exact splitOn_cons_ne (Ne.symm h.1) (ih h.2)

/-- Texts that are joined by the separator are split where they were joined, and each of them as before. -/
theorem splitOn_intercalate (sep : Char) {ts : List Text} (h : ts ≠ []) :
    splitOn sep ([sep].intercalate ts) = ts.flatMap (splitOn sep) := by
  induction ts with
  | nil => exact absurd rfl h
  | cons t ts ih =>
      cases ts with
      | nil => simp
      | cons u ts =>
          rw [List.intercalate_cons_cons, List.append_assoc, List.singleton_append, splitOn_append,
            ih (List.cons_ne_nil u ts)]
          exact List.flatMap_cons.symm

/-- The pieces do not contain the separator, and nothing that is not in the text. -/
theorem mem_of_mem_splitOn {sep c : Char} {t piece : Text} (h : piece ∈ splitOn sep t) (hc : c ∈ piece) :
    c ≠ sep ∧ c ∈ t := by
  induction t generalizing piece with
  | nil =>
      rw [List.mem_singleton.mp h] at hc
      cases hc
  | cons d t ih =>
      by_cases hd : d = sep
      · subst hd
        rw [splitOn_cons_self, List.mem_cons] at h
        rcases h with rfl | h
        · cases hc
        · exact (ih h hc).imp_right (List.mem_cons_of_mem d)
      · obtain ⟨first, pieces, ht⟩ := List.exists_cons_of_ne_nil (splitOn_ne_nil sep t)
        rw [ht] at ih
        rw [splitOn_cons_ne hd ht, List.mem_cons] at h
        rcases h with rfl | h
        · rcases List.mem_cons.mp hc with rfl | hc
          · exact ⟨hd, List.mem_cons_self⟩
          · exact (ih List.mem_cons_self hc).imp_right (List.mem_cons_of_mem d)
        · exact (ih (List.mem_cons_of_mem first h) hc).imp_right (List.mem_cons_of_mem d)

/-- Pieces are not split again. -/
theorem flatMap_splitOn_splitOn (sep : Char) (t : Text) :
    (splitOn sep t).flatMap (splitOn sep) = splitOn sep t := by
  have hpiece : ∀ piece ∈ splitOn sep t, splitOn sep piece = [piece] := fun piece hp =>
    splitOn_of_not_mem fun hc => (mem_of_mem_splitOn hp hc).1 rfl
  rw [List.flatMap_congr hpiece, List.flatMap_singleton']

/-! ### White space at the ends -/

/-- The text neither begins nor ends with white space. -/
structure Trimmed (t : Text) : Prop where
  front : ∀ c ∈ t.head?, isBlank c = false
  back : ∀ c ∈ t.getLast?, isBlank c = false

theorem isBlank_head?_dropWhile {t : Text} : ∀ c ∈ (t.dropWhile isBlank).head?, isBlank c = false := by
  intro c hc
  have h := List.head?_dropWhile_not isBlank t
  rw [Option.mem_def.mp hc] at h
  simpa using h

theorem trimEnd_isPrefix (t : Text) : trimEnd t <+: t := by
  have h : t.reverse.dropWhile isBlank <:+ t.reverse := List.dropWhile_suffix isBlank
  unfold trimEnd
  rwa [← List.reverse_suffix, List.reverse_reverse]

/-- What is left of a text by trimming is trimmed. -/
theorem trimmed_trim (t : Text) : Trimmed (trim t) where
  front c hc := by
    obtain ⟨u, hu⟩ := trimEnd_isPrefix (t.dropWhile isBlank)
    refine isBlank_head?_dropWhile c (t := t) ?_
    rw [← hu, List.head?_append, show (trimEnd _).head? = some c from hc]
    rfl
  back c hc := by
    unfold trim trimEnd at hc
    rw [List.getLast?_reverse] at hc
    exact isBlank_head?_dropWhile c hc

theorem dropWhile_isBlank {t : Text} (h : ∀ c ∈ t.head?, isBlank c = false) :
    t.dropWhile isBlank = t := by
  cases t with
  | nil => rfl
  | cons c rest => exact List.dropWhile_cons_of_neg (by simp [h c rfl])

/-- Behind a text that does not end in white space, white space at the end is dropped as it is in front of
nothing. -/
theorem trimEnd_append {u : Text} (h : ∀ c ∈ u.getLast?, isBlank c = false) (v : Text) :
    trimEnd (u ++ v) = u ++ trimEnd v := by
  have hback : u.reverse.dropWhile isBlank = u.reverse := by
    refine dropWhile_isBlank ?_
    rw [List.head?_reverse]
    exact h
  unfold trimEnd
  rw [List.reverse_append, List.dropWhile_append]
  split
  · next hv =>
      rw [List.isEmpty_iff.mp hv, hback, List.reverse_reverse, List.reverse_nil, List.append_nil]
  · rw [List.reverse_append, List.reverse_reverse]

theorem trimEnd_eq_self {t : Text} (h : ∀ c ∈ t.getLast?, isBlank c = false) : trimEnd t = t := by
  have happend := trimEnd_append h []
  rwa [List.append_nil, show trimEnd [] = [] from rfl, List.append_nil] at happend

theorem Trimmed.trim_eq {t : Text} (h : Trimmed t) : trim t = t := by
  unfold trim
  rw [dropWhile_isBlank h.front, trimEnd_eq_self h.back]

theorem trim_of_forall {t : Text} (h : ∀ c ∈ t, isBlank c = false) : trim t = t :=
  Trimmed.trim_eq ⟨fun c hc => h c (List.mem_of_head? hc), fun c hc => h c (List.mem_of_getLast? hc)⟩

theorem trimEnd_of_forall {v : Text} (h : ∀ c ∈ v, isBlank c) : trimEnd v = [] := by
  unfold trimEnd
  rw [List.dropWhile_eq_nil_iff.mpr fun c hc => h c (List.mem_reverse.mp hc), List.reverse_nil]

/-- Trimming takes away the white space around a text. -/
theorem Trimmed.trim_append {t u v : Text} (h : Trimmed t) (hu : ∀ c ∈ u, isBlank c)
    (hv : ∀ c ∈ v, isBlank c) : trim (u ++ t ++ v) = t := by
  unfold trim
  rw [List.append_assoc, List.dropWhile_append_of_pos hu]
  cases t with
  | nil =>
      have hnil : v.dropWhile isBlank = [] := List.dropWhile_eq_nil_iff.mpr hv
      rw [List.nil_append, hnil]
      rfl
  | cons c t =>
      have hfront : (c :: t ++ v).dropWhile isBlank = c :: t ++ v := dropWhile_isBlank h.front
      rw [hfront, trimEnd_append h.back, trimEnd_of_forall hv, List.append_nil]

theorem trim_sublist (t : Text) : (trim t).Sublist t :=
  (trimEnd_isPrefix _).sublist.trans (List.dropWhile_sublist _)

/-! ### Digits -/

theorem isDigit_of_mem_ofNat {n : Nat} {c : Char} (h : c ∈ ofNat n) : c.isDigit := by
  unfold ofNat at h
  rw [show toString n = n.repr from rfl, Nat.toList_repr] at h
  exact Nat.isDigit_of_mem_toDigits (by decide : 0 < 10) (by decide : 10 ≤ 10) h

theorem ofNat_ne_nil (n : Nat) : ofNat n ≠ [] := by
  unfold ofNat
  rw [show toString n = n.repr from rfl, Nat.toList_repr]
  exact Nat.toDigits_ne_nil

theorem exists_head?_ofNat (n : Nat) : ∃ c, (ofNat n).head? = some c ∧ c.isDigit := by
  obtain ⟨c, digits, h⟩ := List.exists_cons_of_ne_nil (ofNat_ne_nil n)
  refine ⟨c, by rw [h]; rfl, isDigit_of_mem_ofNat (n := n) ?_⟩
  rw [h]
  exact List.mem_cons_self

/-! ### Characters of a kind -/

/-- A text whose characters are all of one kind has none of another kind. -/
theorem not_mem_of_forall {p : Char → Bool} {t : Text} {c : Char} (h : ∀ c ∈ t, p c)
    (hc : p c = false) : c ∉ t := by
  intro hmem
  rw [h c hmem] at hc
  cases hc

end SchemaFragments.Text
