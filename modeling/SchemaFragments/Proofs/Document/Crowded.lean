import SchemaFragments.Proofs.Document.Braces

/-! # Declarations whose fragments lose a brace

A declaration is `Crowded` if a field that is reduced to its name shares its line, further on, with a
closing brace or a reference.  The fragment of a declaration with one pair of braces is balanced and
ends with a closing brace if and only if the declaration is not crowded (`balanced_fragmentOf_iff`):
the reduction takes away what follows in the line, braces included (`brace_lost_behind_field`). -/

namespace SchemaFragments

open Scan

variable {t u v behind entity front indent name line : Text} {c : Char} {cs : Text} {s : LinePart}

/-! ### Crowded lines -/

/-- A closing brace or a reference stands further on in the line. -/
def MeetsBrace (t : Text) : Prop :=
  ∃ between hit, t = between ++ hit ∧ (∀ c ∈ between, c ≠ '\r' ∧ c ≠ '\n') ∧
    (hit.head? = some '\x7d' ∨ (reference? hit).isSome)

/-- The colon of a field that is not a reference, with a closing brace or a reference further on. -/
def CrowdedColon (t : Text) : Prop :=
  ∃ behind, t = ':' :: behind ∧ reference? (':' :: behind) = none ∧ MeetsBrace behind

/-- White space and the name of such a field. -/
def CrowdedField (t : Text) : Prop :=
  ∃ indent name behind, t = indent ++ (name ++ behind) ∧ indent ≠ [] ∧ (∀ c ∈ indent, isBlank c) ∧
    isIdentifier name ∧ CrowdedColon behind

/-- Some line behind the first is a crowded field. -/
def Crowded (t : Text) : Prop := ∃ front line, t = front ++ '\n' :: line ∧ CrowdedField line

theorem Crowded.append (h : Crowded v) (u : Text) : Crowded (u ++ v) := by
  obtain ⟨front, line, rfl, h⟩ := h
  exact ⟨u ++ front, line, (List.append_assoc ..).symm, h⟩

/-! ### A brace that gets lost is in a crowded line -/

/-- What stands ahead in a line in which a brace gets lost. -/
def Ahead : LinePart → Text → Prop
  | .start, t => CrowdedField t
  | .indent, t => ∃ indent name behind, t = indent ++ (name ++ behind) ∧ (∀ c ∈ indent, isBlank c) ∧
      isIdentifier name ∧ CrowdedColon behind
  | .name, t => ∃ name behind, t = name ++ behind ∧ (∀ c ∈ name, isWord c) ∧ CrowdedColon behind
  | .rest, _ => False
  | .gone, t => MeetsBrace t

/-- The same seen from one character before; a line break in between makes the line one behind the
first. -/
theorem ahead_cons (hc : reference? (c :: cs) = none) (h : Ahead (s.next c) cs) :
    Ahead s (c :: cs) ∨ Crowded (c :: cs) := by
  have hnewline (h : CrowdedField cs) : Crowded ('\n' :: cs) := ⟨[], cs, rfl, h⟩
  cases s with
  | start =>
      cases hb : isBlank c with
      | true =>
          rw [LinePart.next_start_of_isBlank hb] at h
          obtain ⟨indent, name, behind, rfl, hi, hrest⟩ := h
          exact Or.inl ⟨c :: indent, name, behind, rfl, by simp, List.forall_mem_cons.mpr ⟨hb, hi⟩, hrest⟩
      | false =>
          rw [LinePart.next_start_of_not_isBlank hb] at h
          cases h
  | indent =>
      cases hb : isBlank c with
      | true =>
          rw [LinePart.next_indent_of_isBlank hb] at h
          obtain ⟨indent, name, behind, rfl, hi, hrest⟩ := h
          exact Or.inl ⟨c :: indent, name, behind, rfl, List.forall_mem_cons.mpr ⟨hb, hi⟩, hrest⟩
      | false =>
          cases hw : isWord c with
          | true =>
              rw [LinePart.next_indent_of_isWord hw] at h
              obtain ⟨name, behind, rfl, hn, hrest⟩ := h
              exact Or.inl ⟨[], c :: name, behind, rfl, by simp,
                isIdentifier_iff.mpr ⟨by simp, List.forall_mem_cons.mpr ⟨hw, hn⟩⟩, hrest⟩
          | false =>
              rw [LinePart.next_indent_of_not hb hw] at h
              cases h
  | name =>
      cases hw : isWord c with
      | true =>
          rw [LinePart.next_name_of_isWord hw] at h
          obtain ⟨name, behind, rfl, hn, hrest⟩ := h
          exact Or.inl ⟨c :: name, behind, rfl, List.forall_mem_cons.mpr ⟨hw, hn⟩, hrest⟩
      | false =>
          by_cases hcolon : c = ':'
          · subst hcolon
            rw [LinePart.next_name_colon] at h
            exact Or.inl ⟨[], ':' :: cs, rfl, by simp, cs, rfl, hc, h⟩
          · by_cases hn : c = '\n'
            · subst hn
              rw [LinePart.next_name_newline] at h
              exact Or.inr (hnewline h)
            · rw [LinePart.next_name_of_not hw hcolon hn] at h
              cases h
  | rest =>
      by_cases hn : c = '\n'
      · subst hn
        exact Or.inr (hnewline h)
      · rw [LinePart.next_rest_of_ne hn] at h
        cases h
  | gone =>
      by_cases hn : c = '\n'
      · subst hn
        exact Or.inr (hnewline h)
      · by_cases hr : c = '\r'
        · subst hr
          cases h
        · rw [LinePart.next_gone_of_ne hn hr] at h
          obtain ⟨between, hit, rfl, hbetween, hrest⟩ := h
          exact Or.inl ⟨c :: between, hit, rfl, List.forall_mem_cons.mpr ⟨⟨hr, hn⟩, hbetween⟩, hrest⟩

theorem ahead_of_losesBrace (h : LosesBrace s t) : Ahead s t ∨ Crowded t := by
  induction h with
  | brace cs => exact Or.inl ⟨[], _, rfl, by simp, Or.inl rfl⟩
  | selection hr => exact Or.inl ⟨[], _, rfl, by simp, Or.inr (Option.isSome_of_eq_some hr.read)⟩
  | @behind s u entity behind _ _ ih => exact Or.inr ((ih.resolve_left id).append u)
  | @cons s c cs hc _ ih =>
      rcases ih with h | h
      · exact ahead_cons hc h
      · exact Or.inr (h.append [c])

/-! ### In a crowded line a brace gets lost -/

theorem losesBrace_of_isSome (h : (reference? t).isSome) : LosesBrace .gone t := by
  obtain ⟨⟨entity, n⟩, hfound⟩ := Option.isSome_iff_exists.mp h
  obtain ⟨u, behind, rfl, -, hr⟩ := exists_refers hfound
  exact .selection hr

theorem losesBrace_of_meetsBrace (h : MeetsBrace t) : LosesBrace .gone t := by
  obtain ⟨between, hit, rfl, hbetween, hhit⟩ := h
  induction between with
  | nil =>
      rcases hhit with hhead | hsome
      · obtain ⟨cs, rfl⟩ := List.head?_eq_some_iff.mp hhead
        exact .brace cs
      · exact losesBrace_of_isSome hsome
  | cons c between ih =>
      rw [List.forall_mem_cons] at hbetween
      cases hc : reference? (c :: (between ++ hit)) with
      | some found => exact losesBrace_of_isSome (Option.isSome_of_eq_some hc)
      | none =>
          have hnext : LinePart.gone.next c = .gone :=
            LinePart.next_gone_of_ne hbetween.1.2 hbetween.1.1
          exact .cons hc (hnext.symm ▸ ih hbetween.2)

/-- Characters that stay in one part of a line are passed over. -/
theorem losesBrace_run (hu : ':' ∉ u) (hs : ∀ c ∈ u, s.next c = s) (h : LosesBrace s v) :
    LosesBrace s (u ++ v) := by
  induction u with
  | nil => exact h
  | cons c u ih =>
      rw [List.mem_cons, not_or] at hu
      rw [List.forall_mem_cons] at hs
      exact .cons (reference?_of_ne (Ne.symm hu.1) _) (hs.1.symm ▸ ih hu.2 hs.2)

theorem losesBrace_of_crowdedField (h : CrowdedField t) (hs : s = .start ∨ s = .indent) :
    LosesBrace s t := by
  obtain ⟨indent, name, behind, rfl, hne, hi, hn, rest, rfl, hplain, hmeets⟩ := h
  obtain ⟨hname, hw⟩ := isIdentifier_iff.mp hn
  have hcolon : LosesBrace .name (':' :: rest) :=
    .cons hplain (LinePart.next_name_colon.symm ▸ losesBrace_of_meetsBrace hmeets)
  have hbehind : LosesBrace .indent (name ++ ':' :: rest) := by
    obtain ⟨w, name, rfl⟩ := List.exists_cons_of_ne_nil hname
    have habsent : ':' ∉ w :: name := Text.not_mem_of_forall hw (by decide)
    rw [List.mem_cons, not_or] at habsent
    rw [List.forall_mem_cons] at hw
    refine .cons (reference?_of_ne (Ne.symm habsent.1) _) ?_
    rw [LinePart.next_indent_of_isWord hw.1]
    exact losesBrace_run habsent.2 (fun c hc => LinePart.next_name_of_isWord (hw.2 c hc)) hcolon
  obtain ⟨b, indent, rfl⟩ := List.exists_cons_of_ne_nil hne
  have habsent : ':' ∉ b :: indent := Text.not_mem_of_forall hi (by decide)
  rw [List.mem_cons, not_or] at habsent
  rw [List.forall_mem_cons] at hi
  have hnext : s.next b = .indent := by
    rcases hs with rfl | rfl
    · exact LinePart.next_start_of_isBlank hi.1
    · exact LinePart.next_indent_of_isBlank hi.1
  refine .cons (reference?_of_ne (Ne.symm habsent.1) _) ?_
  rw [hnext]
  exact losesBrace_run habsent.2 (fun c hc => LinePart.next_indent_of_isBlank (hi.2 c hc)) hbehind

theorem losesBrace_of_crowded (h : Crowded t) : LosesBrace s t := by
  obtain ⟨front, line, ht, hline⟩ := h
  -- A reference does not go over the line break, so the reading comes to it in some part of a line.
  induction t using reference_induction generalizing s front with
  | nil => exact absurd ht.symm (by simp)
  | refers u entity behind hr ih =>
      refine .behind hr ?_
      rcases List.append_eq_append_iff.mp ht with ⟨x, rfl, hx⟩ | ⟨x, rfl, hx⟩
      · exact ih _ hx
      · cases x with
        | nil => exact ih [] hx.symm
        | cons c x =>
            cases hx
            have hnewline := hr.not_mem (c := '\n') (by decide) (by decide)
            exact absurd (List.mem_append_right front List.mem_cons_self) hnewline
  | cons c cs hc ih =>
      refine .cons hc ?_
      cases front with
      | nil =>
          cases ht
          refine losesBrace_of_crowdedField hline ?_
          cases s with
          | start => exact Or.inr (LinePart.next_start_newline)
          | indent => exact Or.inr (LinePart.next_indent_newline)
          | name => exact Or.inl LinePart.next_name_newline
          | rest => exact Or.inl rfl
          | gone => exact Or.inl rfl
      | cons d front =>
          cases ht
          exact ih front rfl

/-- A brace gets lost if and only if some line is crowded. -/
theorem losesBrace_rest_iff : LosesBrace .rest t ↔ Crowded t :=
  ⟨fun h => (ahead_of_losesBrace h).resolve_left id, losesBrace_of_crowded⟩

/-! ### The fragments of declarations -/

/-- Characters that begin no reference and break no line are passed over. -/
theorem losesBrace_rest_append (hc : ':' ∉ u) (hn : '\n' ∉ u) :
    LosesBrace .rest (u ++ v) ↔ LosesBrace .rest v := by
  induction u with
  | nil => rfl
  | cons c u ih =>
      rw [List.mem_cons, not_or] at hc hn
      have hnone := reference?_of_ne (Ne.symm hc.1) (u ++ v)
      rw [List.cons_append, losesBrace_cons_iff hnone, LinePart.next_rest_of_ne (Ne.symm hn.1), ih hc.2 hn.2]
      simp

theorem crowded_headerOf (hi : isIdentifier entity) (t : Text) :
    Crowded (dropRequired (headerOf (entity ++ "Gql") ++ t)) ↔ LosesBrace .rest (dropRequired t) := by
  have hcolon : ':' ∉ headerOf (entity ++ "Gql") :=
    not_mem_headerOf_entity hi (by decide) (by decide) (by decide)
  have hbreak : '\n' ∉ headerOf (entity ++ "Gql") :=
    not_mem_headerOf_entity hi (by decide) (by decide) (by decide)
  rw [dropRequired_headerOf hi, ← losesBrace_rest_iff, losesBrace_rest_append hcolon hbreak]

theorem Body.of_braceless (h : Braceless u) : Body (u ++ ['\x7d']) := by
  induction u with
  | nil => exact .brace
  | cons c u ih =>
      obtain ⟨ho, hc⟩ := h
      rw [List.mem_cons, not_or] at ho hc
      exact .cons ⟨by simpa using ho.1, by simpa using hc.1⟩ (ih ⟨ho.2, hc.2⟩)

/-- In a declaration with one pair of braces the closing one is the last character. -/
theorem body_of_count (ho : (headerOf (entity ++ "Gql") ++ (u ++ ['\x7d'])).count '\x7b' = 1)
    (hc : (headerOf (entity ++ "Gql") ++ (u ++ ['\x7d'])).count '\x7d' = 1) :
    Body (dropRequired (u ++ ['\x7d'])) := by
  have hopen : 0 < (headerOf (entity ++ "Gql")).count '\x7b' :=
    List.count_pos_iff.mpr (List.mem_append_right _ (by decide))
  simp only [List.count_append] at ho hc
  have hu : Braceless u := by
    constructor
    · exact List.count_eq_zero.mp (by omega)
    · have hlast : ['\x7d'].count '\x7d' = 1 := rfl
      exact List.count_eq_zero.mp (by omega)
  rw [dropRequired_append]
  exact Body.of_braceless ⟨fun h => hu.1 (List.mem_of_mem_filter h), fun h => hu.2 (List.mem_of_mem_filter h)⟩

theorem exists_fragmentHeader (hi : isIdentifier entity) :
    ∃ head, fragmentHeader entity = head ++ ['\x7b'] ∧ Braceless head := by
  obtain ⟨hopen, hclose⟩ := Braceless.of_isIdentifier hi
  refine ⟨"fragment " ++ (entity ++ (" on " ++ (entity ++ "Gql "))), ?_, ?_⟩
  · unfold fragmentHeader
    simp
  · unfold Braceless
    simp [hopen, hclose]

/-- The fragment of a declaration that has one pair of braces is balanced, and ends with a closing
brace, if and only if the declaration is not crowded. -/
theorem balanced_fragmentOf_iff {p : Patterns} {schema : Text} {ds : List Declaration} {d : Declaration}
    (hp : Patterns.compile Patterns.defaultBlock Patterns.defaultName = .ok p)
    (hx : p.extract schema = .ok ds) (hd : d ∈ ds) (ho : d.block.count '\x7b' = 1)
    (hc : d.block.count '\x7d' = 1) :
    Balanced (fragmentOf d.block) ∧ (fragmentOf d.block).getLast? = some '\x7d' ↔
      ¬ Crowded (dropRequired d.block) := by
  cases Patterns.compile_default.symm.trans hp
  cases (Patterns.extract_standard schema).symm.trans hx
  obtain ⟨hne, hw, c, u, hb⟩ := exists_of_mem_declarationsFrom hd
  have hi := isIdentifier_iff.mpr ⟨hne, hw⟩
  rw [hb] at ho hc ⊢
  obtain ⟨head, hhead, hplain⟩ := exists_fragmentHeader hi
  rw [crowded_headerOf hi, fragmentOf_headerOf hi, hhead, List.append_assoc,
    ← closes_rendered_iff (isNewline_newlineOf _) (body_of_count ho hc)]
  exact balanced_iff_closes hplain

/-- The closing brace behind a field is taken for what comes behind its colon. -/
theorem brace_lost_behind_field :
    ∃ p, Patterns.compile Patterns.defaultBlock Patterns.defaultName = .ok p ∧
      p.extract "type AGql \x7b\n  id: Int \x7d\n" = .ok [⟨"A", "type AGql \x7b\n  id: Int \x7d"⟩] ∧
      fragmentOf "type AGql \x7b\n  id: Int \x7d" = "fragment A on AGql \x7b\n  id" ∧
      ¬ (Balanced (fragmentOf "type AGql \x7b\n  id: Int \x7d") ∧
        (fragmentOf "type AGql \x7b\n  id: Int \x7d").getLast? = some '\x7d') := by
  have hextract : Patterns.standard.extract "type AGql \x7b\n  id: Int \x7d\n" =
      .ok [⟨"A", "type AGql \x7b\n  id: Int \x7d"⟩] := ok_of_toOption (by decide)
  have hmeets : MeetsBrace " Int \x7d" :=
    ⟨" Int ", "\x7d", by decide, forall_mem_of_all (by decide), Or.inl (by decide)⟩
  have hcrowded : Crowded (dropRequired "type AGql \x7b\n  id: Int \x7d") :=
    ⟨"type AGql \x7b", "  id: Int \x7d", by decide, "  ", "id", ": Int \x7d", by decide, by decide,
      forall_mem_of_all (by decide), by decide, " Int \x7d", by decide,
      by decide, hmeets⟩
  have hiff := balanced_fragmentOf_iff Patterns.compile_default hextract List.mem_cons_self
    (by decide) (by decide)
  refine ⟨Patterns.standard, Patterns.compile_default, hextract, by decide, ?_⟩
  exact fun h => hiff.mp h hcrowded

end SchemaFragments
