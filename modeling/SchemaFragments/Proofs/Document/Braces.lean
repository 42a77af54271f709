import SchemaFragments.Proofs.Document.Rendered

/-! # The braces of a fragment

A fragment whose declaration has one pair of braces is balanced, and ends with a closing brace, unless
its declaration is `Crowded`: behind a field that is reduced to its name, further on in its line, there
is the closing brace or a reference (`balanced_fragmentOf_iff`).  There the reduction takes away the
closing brace, or the opening brace of a selection (`brace_lost_behind_field`).

`LosesBrace` follows the reading of a body and says that this happens somewhere in it. -/

namespace SchemaFragments

open Scan

variable {t u v behind entity newline : Text} {c : Char} {cs : Text} {s : LinePart}

/-! ### Balanced texts -/

/-- No beginning of the text closes more braces than it opens, and the whole closes as many as it
opens. -/
structure Balanced (t : Text) : Prop where
  covered : ∀ u, u <+: t → u.count '\x7d' ≤ u.count '\x7b'
  even : t.count '\x7b' = t.count '\x7d'

/-- The text closes one brace more than it opens, with its last character. -/
structure Closes (t : Text) : Prop where
  covered : ∀ u, u <+: t → u.count '\x7d' ≤ u.count '\x7b' + 1
  net : t.count '\x7d' = t.count '\x7b' + 1
  last : t.getLast? = some '\x7d'

/-- No braces. -/
def Braceless (t : Text) : Prop := '\x7b' ∉ t ∧ '\x7d' ∉ t

theorem Braceless.count (h : Braceless t) : t.count '\x7b' = 0 ∧ t.count '\x7d' = 0 :=
  ⟨List.count_eq_zero.mpr h.1, List.count_eq_zero.mpr h.2⟩

theorem Braceless.balanced (h : Braceless t) : Balanced t := by
  refine ⟨fun u hu => ?_, by rw [h.count.1, h.count.2]⟩
  rw [List.count_eq_zero.mpr fun hc => h.2 (hu.subset hc)]
  exact Nat.zero_le _

theorem closes_brace : Closes ['\x7d'] := by
  refine ⟨fun u hu => ?_, rfl, rfl⟩
  have h := hu.sublist.count_le '\x7d'
  change u.count '\x7d' ≤ 1 at h
  omega

theorem Closes.append (hu : Balanced u) (hv : Closes v) : Closes (u ++ v) := by
  have hne : v ≠ [] := by
    rintro rfl
    cases hv.last
  refine ⟨fun w hw => ?_, ?_, ?_⟩
  · rcases prefix_append_cases hw with hw' | ⟨w, rfl, hw'⟩
    · exact Nat.le_succ_of_le (hu.covered w hw')
    · have heven := hu.even
      have hcovered := hv.covered w hw'
      rw [List.count_append, List.count_append]
      omega
  · rw [List.count_append, List.count_append, hu.even, hv.net, Nat.add_assoc]
  · rw [List.getLast?_append_of_ne_nil _ hne, hv.last]

/-- A text without braces in front of an opening one and what closes it. -/
theorem balanced_iff_closes (hu : Braceless u) :
    Balanced (u ++ '\x7b' :: v) ∧ (u ++ '\x7b' :: v).getLast? = some '\x7d' ↔ Closes v := by
  have hcount (w : Text) : (u ++ '\x7b' :: w).count '\x7b' = w.count '\x7b' + 1 ∧
      (u ++ '\x7b' :: w).count '\x7d' = w.count '\x7d' := by
    rw [List.count_append, List.count_append, hu.count.1, hu.count.2, List.count_cons, List.count_cons]
    simp
  constructor
  · rintro ⟨hb, hl⟩
    refine ⟨fun w hw => ?_, ?_, ?_⟩
    · obtain ⟨x, rfl⟩ := hw
      have h := hb.covered (u ++ '\x7b' :: w) ⟨x, by simp⟩
      rw [(hcount w).1, (hcount w).2] at h
      exact h
    · have h := hb.even
      rw [(hcount v).1, (hcount v).2] at h
      exact h.symm
    · rw [List.getLast?_append_of_ne_nil _ (List.cons_ne_nil _ _)] at hl
      cases v with
      | nil => exact absurd hl (by decide)
      | cons c v => exact hl
  · intro h
    have hne : v ≠ [] := by
      rintro rfl
      cases h.last
    refine ⟨⟨fun w hw => ?_, ?_⟩, ?_⟩
    · rcases prefix_append_cases hw with hw' | ⟨w, rfl, hw'⟩
      · exact hu.balanced.covered w hw'
      · cases w with
        | nil => simp [hu.count]
        | cons c w =>
            obtain ⟨rfl, hwv⟩ := List.cons_prefix_cons.mp hw'
            rw [(hcount w).1, (hcount w).2]
            exact h.covered w hwv
    · rw [(hcount v).1, (hcount v).2, h.net]
    · rw [List.append_cons, List.getLast?_append_of_ne_nil _ hne, h.last]

theorem Braceless.of_isIdentifier (hi : isIdentifier entity) : Braceless entity :=
  ⟨Text.not_mem_of_forall (isIdentifier_iff.mp hi).2 (by decide),
    Text.not_mem_of_forall (isIdentifier_iff.mp hi).2 (by decide)⟩

theorem closes_selection (hn : IsNewline newline) (hi : isIdentifier entity) :
    Closes (selection newline entity) := by
  have hbody : Braceless (newline ++ ("    ..." ++ (entity ++ (newline ++ "  ")))) := by
    obtain ⟨hopen, hclose⟩ := Braceless.of_isIdentifier hi
    unfold Braceless
    simp only [List.mem_append]
    rcases hn with rfl | rfl <;> simp [hopen, hclose]
  have heq : selection newline entity =
      newline ++ ("    ..." ++ (entity ++ (newline ++ "  "))) ++ ['\x7d'] := by
    unfold selection
    simp
  rw [heq]
  exact Closes.append hbody.balanced closes_brace

theorem balanced_spread (hn : IsNewline newline) (hi : isIdentifier entity) :
    Balanced (spread newline entity) := by
  have hblank : Braceless [' '] := ⟨by decide, by decide⟩
  rw [spread_eq]
  exact ((balanced_iff_closes hblank).mpr (closes_selection hn hi)).1

/-! ### Where a brace gets lost -/

/-- Reading on from a part of a line, the closing brace or a selection comes to stand in a dropped part
of a line. -/
inductive LosesBrace : LinePart → Text → Prop
  | brace (cs : Text) : LosesBrace .gone ('\x7d' :: cs)
  | selection {u entity behind : Text} : Refers u entity behind → LosesBrace .gone (u ++ behind)
  | behind {s : LinePart} {u entity behind : Text} :
      Refers u entity behind → LosesBrace .rest behind → LosesBrace s (u ++ behind)
  | cons {s : LinePart} {c : Char} {cs : Text} :
      reference? (c :: cs) = none → LosesBrace (s.next c) cs → LosesBrace s (c :: cs)

theorem not_losesBrace_nil : ¬ LosesBrace s [] := by
  intro h
  generalize ht : ([] : Text) = t at h
  cases h with
  | brace cs => cases ht
  | selection hr => exact hr.ne_nil (List.append_eq_nil_iff.mp ht.symm).1
  | behind hr _ => exact hr.ne_nil (List.append_eq_nil_iff.mp ht.symm).1
  | cons _ _ => cases ht

theorem losesBrace_refers_iff (h : Refers u entity behind) :
    LosesBrace s (u ++ behind) ↔ s = .gone ∨ LosesBrace .rest behind := by
  constructor
  · intro hloses
    generalize ht : u ++ behind = t at hloses
    cases hloses with
    | brace cs => exact Or.inl rfl
    | selection _ => exact Or.inl rfl
    | behind hr hb => exact Or.inr (h.behind_eq hr ht ▸ hb)
    | cons hnone _ => cases (ht ▸ h.read).symm.trans hnone
  · rintro (rfl | hb)
    · exact .selection h
    · exact .behind h hb

theorem losesBrace_cons_iff (h : reference? (c :: cs) = none) :
    LosesBrace s (c :: cs) ↔ (s = .gone ∧ c = '\x7d') ∨ LosesBrace (s.next c) cs := by
  constructor
  · intro hloses
    generalize ht : c :: cs = t at hloses
    cases hloses with
    | brace cs => exact Or.inl ⟨rfl, (List.cons.inj ht).1⟩
    | selection hr => cases (ht ▸ h).symm.trans hr.read
    | behind hr _ => cases (ht ▸ h).symm.trans hr.read
    | cons _ hb =>
        cases ht
        exact Or.inr hb
  · rintro (⟨rfl, rfl⟩ | hb)
    · exact .brace cs
    · exact .cons h hb

/-! ### Bodies -/

/-- The body of a declaration with one pair of braces: the closing brace comes last. -/
inductive Body : Text → Prop
  | brace : Body ['\x7d']
  | cons {c : Char} {cs : Text} : Braceless [c] → Body cs → Body (c :: cs)

theorem not_body_nil : ¬ Body [] := nofun

theorem body_cons_iff : Body (c :: cs) ↔ (c = '\x7d' ∧ cs = []) ∨ (Braceless [c] ∧ Body cs) := by
  constructor
  · rintro (_ | ⟨hc, hb⟩)
    · exact Or.inl ⟨rfl, rfl⟩
    · exact Or.inr ⟨hc, hb⟩
  · rintro (⟨rfl, rfl⟩ | ⟨hc, hb⟩)
    · exact .brace
    · exact .cons hc hb

theorem Body.of_append (h : Body (u ++ v)) (hu : Braceless u) : Body v := by
  induction u with
  | nil => exact h
  | cons c u ih =>
      rcases body_cons_iff.mp h with ⟨rfl, -⟩ | ⟨-, hb⟩
      · exact absurd List.mem_cons_self hu.2
      · exact ih hb ⟨fun hc => hu.1 (List.mem_cons_of_mem c hc), fun hc => hu.2 (List.mem_cons_of_mem c hc)⟩

theorem Refers.braceless (h : Refers u entity behind) : Braceless u :=
  ⟨h.not_mem (by decide) (by decide), h.not_mem (by decide) (by decide)⟩

/-- A body in which no brace gets lost is closed. -/
theorem closes_rendered (hn : IsNewline newline) (hb : Body t) (h : ¬ LosesBrace s t) :
    Closes (rendered newline s t) := by
  induction t using reference_induction generalizing s with
  | nil => exact absurd hb not_body_nil
  | refers u entity behind hr ih =>
      rw [losesBrace_refers_iff hr, not_or] at h
      rw [rendered_refers hn hr h.1]
      exact Closes.append (balanced_spread hn hr.name) (ih (hb.of_append hr.braceless) h.2)
  | cons c cs hc ih =>
      rw [losesBrace_cons_iff hc, not_or] at h
      cases hb with
      | brace =>
          have hkept : s.next '\x7d' ≠ .gone := by
            rw [ne_eq, LinePart.next_eq_gone]
            rintro (⟨-, hcolon⟩ | ⟨rfl, -⟩)
            · exact absurd hcolon (by decide)
            · exact h.1 ⟨rfl, rfl⟩
          rw [rendered_cons hc hkept, rendered_nil]
          exact closes_brace
      | cons hc' hb =>
          by_cases hs : s.next c = .gone
          · rw [hs] at h
            rw [rendered_cons_gone hc hs]
            exact ih hb h.2
          · rw [rendered_cons hc hs]
            exact Closes.append (u := [c]) hc'.balanced (ih hb h.2)

/-- Where a brace gets lost, too few are opened, or the closing one is not the last character.  `u`
is what has been kept so far. -/
theorem count_rendered_lt (hn : IsNewline newline) (hb : Body t)
    (hu : s = .name ∨ s = .gone → u.getLast? ≠ some '\x7d')
    (hl : (u ++ rendered newline s t).getLast? = some '\x7d') :
    (rendered newline s t).count '\x7b' + 1 ≤ (rendered newline s t).count '\x7d' ∧
      (LosesBrace s t →
        (rendered newline s t).count '\x7b' + 1 < (rendered newline s t).count '\x7d') := by
  have hrest : ¬ (LinePart.rest = .name ∨ LinePart.rest = .gone) := by decide
  induction t using reference_induction generalizing s u with
  | nil => exact absurd hb not_body_nil
  | refers w entity behind hr ih =>
      have hbehind := hb.of_append hr.braceless
      rw [losesBrace_refers_iff hr]
      by_cases hs : s = .gone
      · -- The selection closes a brace that is not opened; what comes behind it cannot make up for that.
        have hnet := (closes_selection hn hr.name).net
        subst hs
        rw [rendered_refers_gone hn hr] at hl ⊢
        rw [← List.append_assoc] at hl
        obtain ⟨hle, -⟩ := ih hbehind (fun h => absurd h hrest) hl
        rw [List.count_append, List.count_append]
        exact ⟨by omega, fun _ => by omega⟩
      · have heven := (balanced_spread hn hr.name).even
        rw [rendered_refers hn hr hs] at hl ⊢
        rw [← List.append_assoc] at hl
        obtain ⟨hle, hlt⟩ := ih hbehind (fun h => absurd h hrest) hl
        rw [List.count_append, List.count_append]
        exact ⟨by omega, fun h => by have := hlt (h.resolve_left hs); omega⟩
  | cons c cs hc ih =>
      rw [losesBrace_cons_iff hc]
      by_cases hs : s.next c = .gone
      · -- If nothing more is kept, the text ends with the name of the field, which is not a brace.
        have hkept : u.getLast? ≠ some '\x7d' := by
          rcases LinePart.next_eq_gone.mp hs with ⟨rfl, -⟩ | ⟨rfl, -⟩
          · exact hu (Or.inl rfl)
          · exact hu (Or.inr rfl)
        rw [rendered_cons_gone hc hs] at hl ⊢
        rcases body_cons_iff.mp hb with ⟨rfl, rfl⟩ | ⟨⟨-, hclose⟩, hb⟩
        · rw [rendered_nil, List.append_nil] at hl
          exact absurd hl hkept
        · rw [hs]
          obtain ⟨hle, hlt⟩ := ih hb (fun _ => hkept) hl
          refine ⟨hle, fun h => hlt (h.resolve_left ?_)⟩
          rintro ⟨-, rfl⟩
          exact hclose List.mem_cons_self
      · rw [rendered_cons hc hs] at hl ⊢
        rcases body_cons_iff.mp hb with ⟨rfl, rfl⟩ | ⟨⟨hopen, hclose⟩, hb⟩
        · rw [rendered_nil]
          refine ⟨by decide, ?_⟩
          rintro (⟨rfl, -⟩ | h)
          · exact absurd (LinePart.next_gone_of_ne (by decide) (by decide)) hs
          · exact absurd h not_losesBrace_nil
        · rw [List.append_cons] at hl
          rw [List.mem_singleton] at hopen hclose
          obtain ⟨hle, hlt⟩ := ih hb (fun _ => by simpa using Ne.symm hclose) hl
          rw [List.count_cons_of_ne (Ne.symm hopen), List.count_cons_of_ne (Ne.symm hclose)]
          exact ⟨hle, fun h => hlt (h.resolve_left fun hcs => hclose hcs.2.symm)⟩

theorem closes_rendered_iff (hn : IsNewline newline) (hb : Body t) :
    Closes (rendered newline .rest t) ↔ ¬ LosesBrace .rest t := by
  refine ⟨fun h hloses => ?_, closes_rendered hn hb⟩
  have hcount := (@count_rendered_lt t [] newline .rest hn hb (by decide) h.last).2 hloses
  have hnet := h.net
  omega

end SchemaFragments
