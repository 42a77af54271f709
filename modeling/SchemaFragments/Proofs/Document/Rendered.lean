import SchemaFragments.Proofs.Document.Collapse

/-! # Fragments, read from left to right

The steps of `fragmentOf` go over the whole text one after the other.  Here they are brought together:
behind the header, which is replaced as it is (`fragmentOf_headerOf`), the text is read once, and at
each place there is either a reference, which becomes a selection, or a character, which is kept or
dropped (`rendered_reference`, `rendered_gone`, `rendered_cons`).  `reference_induction` is induction
along this reading. -/

namespace SchemaFragments

open Scan

variable {t u v behind entity newline inside : Text} {c : Char} {cs : Text} {n : Nat} {s : LinePart}

/-! ### Names of types -/

/-- Of a name in front of `Gql` and a blank the longest stem is that name. -/
theorem longestStem?_word (hw : ∀ c ∈ entity, isWord c) (hne : entity ≠ []) (inside : Text) :
    longestStem? (entity ++ ("Gql \x7b" ++ inside)) = some entity := by
  have hblank : isWord ' ' = false := by decide
  have hnone : longestStem? ("Gql \x7b" ++ inside) = none := by
    change longestStem? ('G' :: 'q' :: 'l' :: ' ' :: '\x7b' :: inside) = none
    simp [longestStem?, hblank, typeEnding]
  induction entity with
  | nil => exact absurd rfl hne
  | cons c entity ih =>
      rw [List.forall_mem_cons] at hw
      rw [List.cons_append, longestStem?, if_pos hw.1]
      cases entity with
      | nil =>
          rw [List.nil_append, hnone]
          rfl
      | cons d entity => rw [ih hw.2 (List.cons_ne_nil d entity)]

theorem shortestStem?_cons (hc : isWord c) (cs : Text) :
    shortestStem? (c :: cs) =
      if typeEnding <+: cs then some [c] else (shortestStem? cs).map (c :: ·) := by
  rw [shortestStem?, if_pos hc]
  simp only [List.isPrefixOf_iff_prefix]

theorem isWord_of_shortestStem? (h : shortestStem? (c :: cs) = some entity) : isWord c := by
  rw [shortestStem?] at h
  split at h
  · assumption
  · cases h

theorem shortestStem?_eq_some (h : shortestStem? t = some entity) :
    isIdentifier entity ∧ ∃ behind, t = entity ++ (typeEnding ++ behind) := by
  induction t generalizing entity with
  | nil => cases h
  | cons c cs ih =>
      have hc := isWord_of_shortestStem? h
      rw [shortestStem?_cons hc] at h
      split at h
      · next hp =>
          cases h
          obtain ⟨behind, rfl⟩ := hp
          exact ⟨isIdentifier_iff.mpr ⟨by simp, by simpa using hc⟩, behind, rfl⟩
      · obtain ⟨stem, hs, rfl⟩ := Option.map_eq_some_iff.mp h
        obtain ⟨hi, behind, rfl⟩ := ih hs
        refine ⟨isIdentifier_iff.mpr ⟨by simp, ?_⟩, behind, rfl⟩
        exact List.forall_mem_cons.mpr ⟨hc, (isIdentifier_iff.mp hi).2⟩

/-! ### References -/

theorem drop_typeEnding (entity behind : Text) :
    (entity ++ (typeEnding ++ behind)).drop (entity.length + 3) = behind := by
  rw [← List.drop_drop, List.drop_left]
  rfl

/-- A reference to a declared type, as a list of them or not; brackets may be missing. -/
def referenceText (opening closing : Bool) (entity : Text) : Text :=
  ": " ++ ((if opening then ['['] else []) ++ (entity ++ (typeEnding ++ if closing then [']'] else [])))

theorem referenceText_append (opening closing : Bool) (entity behind : Text) :
    referenceText opening closing entity ++ behind = ": " ++
      ((if opening then ['['] else []) ++
        (entity ++ (typeEnding ++ ((if closing then [']'] else []) ++ behind)))) := by
  unfold referenceText
  simp only [List.append_assoc]

theorem length_referenceText (opening closing : Bool) (entity : Text) :
    (referenceText opening closing entity).length =
      2 + opening.toNat + entity.length + 3 + closing.toNat := by
  have hending : typeEnding.length = 3 := rfl
  unfold referenceText
  cases opening <;> cases closing <;> simp [hending] <;> omega

/-- What stands behind the colon, and a bracket behind it, decides over a reference. -/
theorem reference?_eq {opening : Bool} {named : Text} (h : opening = false → named.head? ≠ some '[') :
    reference? (": " ++ ((if opening then ['['] else []) ++ named)) =
      (shortestStem? named).map fun entity =>
        (entity, (referenceText opening ((named.drop (entity.length + 3)).head? = some ']')
          entity).length) := by
  have hbegins (t : Text) : (": " : Text).isPrefixOf (": " ++ t) = true :=
    List.isPrefixOf_iff_prefix.mpr (List.prefix_append _ _)
  have hbody (t : Text) : (": " ++ t : Text).drop 2 = t := rfl
  have hopening : (if ((if opening then ['['] else []) ++ named : Text).head? = some '[' then 1 else 0) =
      opening.toNat := by
    cases opening with
    | false => simp [h rfl]
    | true => rfl
  have hnamed : ((if opening then ['['] else []) ++ named : Text).drop opening.toNat = named := by
    cases opening <;> rfl
  unfold reference?
  rw [if_pos (hbegins _)]
  simp only [hbody, hopening, hnamed]
  cases shortestStem? named with
  | none => rfl
  | some entity =>
      have hending : typeEnding.length = 3 := rfl
      have hbehind : (": " ++ ((if opening then ['['] else []) ++ named) : Text).drop
          (2 + opening.toNat + entity.length + 3) = named.drop (entity.length + 3) := by
        rw [Nat.add_assoc, Nat.add_assoc, ← List.drop_drop, hbody, ← List.drop_drop, hnamed]
      simp only [Option.map_some, hending, hbehind, length_referenceText]
      by_cases hc : (named.drop (entity.length + 3)).head? = some ']'
      · rw [if_pos hc, decide_eq_true hc]
        rfl
      · rw [if_neg hc, decide_eq_false hc]
        rfl

theorem reference?_of_no_colon (h : ¬ (": " : Text) <+: t) : reference? t = none := by
  unfold reference?
  rw [if_neg (mt List.isPrefixOf_iff_prefix.mp h)]

/-- Every text is a name with a bracket in front of it, or without one. -/
theorem exists_opening (t : Text) : ∃ opening named,
    t = (if opening = true then ['['] else []) ++ named ∧
      (opening = false → named.head? ≠ some '[') := by
  by_cases hb : t.head? = some '['
  · obtain ⟨named, rfl⟩ := List.head?_eq_some_iff.mp hb
    exact ⟨true, named, rfl, fun hf => nomatch hf⟩
  · exact ⟨false, t, rfl, fun _ => hb⟩

/-- A text is read as a reference to an entity when another text comes behind it. -/
structure Refers (u entity behind : Text) : Prop where
  name : isIdentifier entity
  shape : ∃ opening closing, u = referenceText opening closing entity
  read : reference? (u ++ behind) = some (entity, u.length)

theorem exists_refers (h : reference? t = some (entity, n)) :
    ∃ u behind, t = u ++ behind ∧ n = u.length ∧ Refers u entity behind := by
  obtain ⟨body, rfl⟩ : (": " : Text) <+: t := by
    by_contra hcolon
    cases (reference?_of_no_colon hcolon).symm.trans h
  obtain ⟨opening, named, rfl, hopen⟩ := exists_opening body
  have hread := h
  rw [reference?_eq hopen] at h
  obtain ⟨stem, hstem, heq⟩ := Option.map_eq_some_iff.mp h
  cases heq
  obtain ⟨hi, behind, rfl⟩ := shortestStem?_eq_some hstem
  rw [drop_typeEnding] at hread ⊢
  generalize hclosing : decide (behind.head? = some ']') = closing at hread ⊢
  have hsplit : (": " ++ ((if opening = true then ['['] else []) ++
      (entity ++ (typeEnding ++ behind))) : Text) =
      referenceText opening closing entity ++ if closing then behind.tail else behind := by
    subst hclosing
    unfold referenceText
    by_cases hc : behind.head? = some ']'
    · obtain ⟨behind, rfl⟩ := List.head?_eq_some_iff.mp hc
      simp
    · simp [hc]
  exact ⟨_, _, hsplit, rfl, hi, ⟨opening, closing, rfl⟩, hsplit ▸ hread⟩

namespace Refers

theorem ne_nil (h : Refers u entity behind) : u ≠ [] := by
  obtain ⟨opening, closing, rfl⟩ := h.shape
  exact List.cons_ne_nil _ _

/-- A text is read in one way only. -/
theorem behind_eq {u' entity' behind' : Text} (h : Refers u entity behind)
    (h' : Refers u' entity' behind') (heq : u ++ behind = u' ++ behind') : behind = behind' := by
  have hread := h.read
  rw [heq, h'.read] at hread
  have hlen : u'.length = u.length := congrArg Prod.snd (Option.some.inj hread)
  exact (List.append_inj heq hlen.symm).2

theorem isWord_or_mem (h : Refers u entity behind) (hc : c ∈ u) :
    isWord c ∨ c ∈ (": []" : Text) := by
  obtain ⟨opening, closing, rfl⟩ := h.shape
  have hw := (isIdentifier_iff.mp h.name).2
  have hending : ∀ c ∈ typeEnding, isWord c := forall_mem_of_all (by decide)
  unfold referenceText at hc
  simp only [List.mem_append] at hc
  rcases hc with hc | hc | hc | hc | hc
  · exact Or.inr (List.mem_append_left "[]".toList hc)
  · cases opening with
    | false => cases hc
    | true =>
        rw [List.mem_singleton.mp hc]
        exact Or.inr (by decide)
  · exact Or.inl (hw c hc)
  · exact Or.inl (hending c hc)
  · cases closing with
    | false => cases hc
    | true =>
        rw [List.mem_singleton.mp hc]
        exact Or.inr (by decide)

theorem not_mem (h : Refers u entity behind) (hw : isWord c = false) (hm : c ∉ (": []" : Text)) :
    c ∉ u := by
  intro hc
  rcases h.isWord_or_mem hc with hword | hmem
  · rw [hw] at hword
    cases hword
  · exact hm hmem

end Refers

theorem reference?_of_ne (h : c ≠ ':') (cs : Text) : reference? (c :: cs) = none := by
  refine reference?_of_no_colon ?_
  rintro ⟨u, hu⟩
  exact h (List.cons.inj hu).1.symm

/-- What comes before a text does not matter for its references. -/
theorem expandFrom_eq (newline : Text) (before : Option Char) (t : Text) :
    sweepFrom (fun _ t => (reference? t).map fun (entity, n) => (spread newline entity, n)) 0 before t =
      expandReferences newline t := by
  cases t <;> rfl

theorem expandReferences_refers (h : Refers u entity behind) :
    expandReferences newline (u ++ behind) =
      spread newline entity ++ expandReferences newline behind := by
  rw [← expandFrom_eq newline u.getLast? behind]
  exact @sweepFrom_of_eq_some (fun _ t => (reference? t).map _) none _ u behind _ h.ne_nil rfl
    (by simp [h.read])

theorem expandReferences_cons (h : reference? (c :: cs) = none) :
    expandReferences newline (c :: cs) = c :: expandReferences newline cs := by
  rw [← expandFrom_eq newline (some c) cs]
  exact @sweepFrom_of_eq_none (fun _ t => (reference? t).map _) none c cs (by simp [h])

theorem expandReferences_append (h : ':' ∉ u) (v : Text) :
    expandReferences newline (u ++ v) = u ++ expandReferences newline v := by
  induction u with
  | nil => rfl
  | cons c u ih =>
      rw [List.mem_cons, not_or] at h
      rw [List.cons_append, expandReferences_cons (reference?_of_ne (Ne.symm h.1) _), ih h.2,
        List.cons_append]

/-! ### Reading a body -/

/-- What becomes of a text from a part of a line on. -/
def rendered (newline : Text) (s : LinePart) (t : Text) : Text :=
  collapseFrom s (expandReferences newline t)

theorem rendered_nil (newline : Text) (s : LinePart) : rendered newline s [] = [] := by
  cases s <;> rfl

theorem rendered_cons (h : reference? (c :: cs) = none) (hs : s.next c ≠ .gone) :
    rendered newline s (c :: cs) = c :: rendered newline (s.next c) cs := by
  unfold rendered
  rw [expandReferences_cons h, collapseFrom_kept rfl hs]

theorem rendered_cons_gone (h : reference? (c :: cs) = none) (hs : s.next c = .gone) :
    rendered newline s (c :: cs) = rendered newline .gone cs := by
  unfold rendered
  rw [expandReferences_cons h, collapseFrom_dropped hs]

/-- The line break of the selections in the fragment of a block. -/
def newlineOf (block : Text) : Text := if breaksWithReturn block then ['\r', '\n'] else ['\n']

/-- The line breaks that selections can have. -/
def IsNewline (newline : Text) : Prop := newline = ['\n'] ∨ newline = ['\r', '\n']

theorem isNewline_newlineOf (block : Text) : IsNewline (newlineOf block) := by
  unfold newlineOf
  split
  · exact Or.inr rfl
  · exact Or.inl rfl

theorem collapseFrom_newline (hn : IsNewline newline) (hs : s = .rest ∨ s = .gone) (v : Text) :
    collapseFrom s (newline ++ v) = newline ++ collapseFrom .start v := by
  rcases hn with rfl | rfl <;> rcases hs with rfl | rfl <;> rfl

/-- What comes behind the opening brace of a selection. -/
def selection (newline entity : Text) : Text :=
  newline ++ ("    ..." ++ (entity ++ (newline ++ "  \x7d")))

theorem spread_eq (newline entity : Text) : spread newline entity = " \x7b" ++ selection newline entity := by
  unfold spread selection
  simp

theorem newline_not_mem_of_isIdentifier (h : isIdentifier entity) : '\n' ∉ entity :=
  Text.not_mem_of_forall (isIdentifier_iff.mp h).2 (by decide)

/-- Behind its opening brace all of a selection is kept. -/
theorem collapseFrom_selection (hn : IsNewline newline) (hi : isIdentifier entity)
    (hs : s = .rest ∨ s = .gone) (v : Text) :
    collapseFrom s (selection newline entity ++ v) =
      selection newline entity ++ collapseFrom .rest v := by
  have hbreak : '\n' ∉ entity := newline_not_mem_of_isIdentifier hi
  have hindent : ∀ c ∈ ("    " : Text), isBlank c := forall_mem_of_all (by decide)
  have hclosing : ∀ c ∈ ("  " : Text), isBlank c := forall_mem_of_all (by decide)
  have hdot : isBlank '.' = false ∧ isWord '.' = false := by decide
  have hbrace : isBlank '\x7d' = false ∧ isWord '\x7d' = false := by decide
  have hline (v : Text) : collapseFrom .start ("    ..." ++ v) = "    ..." ++ collapseFrom .rest v := by
    have hdots := @collapseFrom_rest ".." (by decide) v
    change collapseFrom .start ("    " ++ '.' :: (".." ++ v)) = _
    rw [collapseFrom_other (by decide) hindent hdot.1 hdot.2, hdots]
    rfl
  have hclose (v : Text) : collapseFrom .start ("  \x7d" ++ v) = "  \x7d" ++ collapseFrom .rest v :=
    @collapseFrom_other '\x7d' "  " (by decide) hclosing hbrace.1 hbrace.2 v
  unfold selection
  simp only [List.append_assoc]
  rw [collapseFrom_newline hn hs, hline, collapseFrom_rest hbreak,
    collapseFrom_newline hn (Or.inl rfl), hclose]

/-- A selection loses its opening brace in a dropped part of a line. -/
theorem rendered_refers_gone (hn : IsNewline newline) (h : Refers u entity behind) :
    rendered newline .gone (u ++ behind) =
      selection newline entity ++ rendered newline .rest behind := by
  have hbrace (v : Text) : collapseFrom .gone (" \x7b" ++ v) = collapseFrom .gone v :=
    collapseFrom_gone (forall_mem_of_all (by decide)) v
  unfold rendered
  rw [expandReferences_refers h, spread_eq, List.append_assoc, hbrace,
    collapseFrom_selection hn h.name (Or.inr rfl)]

/-- Elsewhere a reference becomes a whole selection. -/
theorem rendered_refers (hn : IsNewline newline) (h : Refers u entity behind) (hs : s ≠ .gone) :
    rendered newline s (u ++ behind) = spread newline entity ++ rendered newline .rest behind := by
  have hblank : isBlank ' ' = true := by decide
  have hword : isWord ' ' = false := by decide
  have hopen : isBlank '\x7b' = false ∧ isWord '\x7b' = false := by decide
  have hbrace (v : Text) : collapseFrom s (" \x7b" ++ v) = " \x7b" ++ collapseFrom .rest v := by
    change collapseFrom s (' ' :: '\x7b' :: v) = ' ' :: '\x7b' :: collapseFrom .rest v
    cases s <;> simp_all [collapseFrom, LinePart.next]
  unfold rendered
  rw [expandReferences_refers h, spread_eq, List.append_assoc, hbrace,
    collapseFrom_selection hn h.name (Or.inl rfl), List.append_assoc]

/-- Induction along the reading of a text. -/
theorem reference_induction {motive : Text → Prop} (nil : motive [])
    (refers : ∀ u entity behind, Refers u entity behind → motive behind → motive (u ++ behind))
    (cons : ∀ c cs, reference? (c :: cs) = none → motive cs → motive (c :: cs)) (t : Text) :
    motive t := by
  induction hlen : t.length using Nat.strong_induction_on generalizing t with
  | _ k ih =>
      subst hlen
      cases t with
      | nil => exact nil
      | cons c cs =>
          cases h : reference? (c :: cs) with
          | none => exact cons c cs h (ih _ (Nat.lt_succ_self _) cs rfl)
          | some found =>
              obtain ⟨u, behind, ht, -, hr⟩ := exists_refers h
              have hlt : behind.length < (c :: cs).length := by
                have hpos := List.length_pos_iff.mpr hr.ne_nil
                rw [ht, List.length_append]
                omega
              rw [ht]
              exact refers u _ behind hr (ih _ hlt behind rfl)

/-! ### The fragment of a declaration -/

/-- The header of a fragment. -/
def fragmentHeader (entity : Text) : Text :=
  "fragment " ++ (entity ++ (" on " ++ (entity ++ "Gql \x7b")))

theorem openFragment_type (declared : Text) :
    openFragment ("type " ++ declared) =
      match longestStem? declared with
      | some entity => "fragment " ++ entity ++ " on " ++ declared
      | none => "type " ++ declared := by
  have htype : ("type " : Text).isPrefixOf ("type " ++ declared) = true :=
    List.isPrefixOf_iff_prefix.mpr (List.prefix_append _ _)
  unfold openFragment
  rw [if_pos htype]
  rfl

theorem openFragment_headerOf (hi : isIdentifier entity) (inside : Text) :
    openFragment (headerOf (entity ++ "Gql") ++ inside) = fragmentHeader entity ++ inside := by
  obtain ⟨hne, hw⟩ := isIdentifier_iff.mp hi
  have hsplit : headerOf (entity ++ "Gql") ++ inside = "type " ++ (entity ++ ("Gql \x7b" ++ inside)) := by
    unfold headerOf
    simp
  unfold fragmentHeader
  rw [hsplit, openFragment_type, longestStem?_word hw hne]
  simp only [List.append_assoc]

theorem mem_fragmentHeader (hi : isIdentifier entity) (hc : c ∈ fragmentHeader entity) :
    isWord c ∨ c = ' ' ∨ c = '\x7b' := by
  have hw := (isIdentifier_iff.mp hi).2
  have hfixed : ∀ c ∈ ("fragment " ++ " on " ++ "Gql \x7b" : Text), isWord c ∨ c = ' ' ∨ c = '\x7b' :=
    forall_mem_of_all (by decide)
  unfold fragmentHeader at hc
  simp only [List.mem_append] at hc hfixed
  rcases hc with hc | hc | hc | hc | hc
  · exact hfixed c (Or.inl (Or.inl hc))
  · exact Or.inl (hw c hc)
  · exact hfixed c (Or.inl (Or.inr hc))
  · exact Or.inl (hw c hc)
  · exact hfixed c (Or.inr hc)

theorem not_mem_fragmentHeader (hi : isIdentifier entity) (hc : isWord c = false) (hs : c ≠ ' ')
    (hb : c ≠ '\x7b') : c ∉ fragmentHeader entity := by
  intro h
  rcases mem_fragmentHeader hi h with h | h | h
  · rw [hc] at h
    cases h
  · exact hs h
  · exact hb h

theorem dropRequired_append (u v : Text) : dropRequired (u ++ v) = dropRequired u ++ dropRequired v :=
  List.filter_append ..

theorem dropRequired_eq_self (h : '!' ∉ u) : dropRequired u = u := by
  refine List.filter_eq_self.mpr fun c hc => decide_eq_true ?_
  rintro rfl
  exact h hc

theorem not_mem_headerOf_entity (hi : isIdentifier entity) (hc : isWord c = false) (hs : c ≠ ' ')
    (hb : c ≠ '\x7b') : c ∉ headerOf (entity ++ "Gql") :=
  not_mem_headerOf (fun _ => Patterns.isWord_of_mem_word (isIdentifier_iff.mp hi).2) hc hs hb

/-- In the header of a declaration nothing is marked as required. -/
theorem dropRequired_headerOf (hi : isIdentifier entity) (t : Text) :
    dropRequired (headerOf (entity ++ "Gql") ++ t) = headerOf (entity ++ "Gql") ++ dropRequired t := by
  rw [dropRequired_append,
    dropRequired_eq_self (not_mem_headerOf_entity hi (by decide) (by decide) (by decide))]

/-- The header of a declaration becomes that of a fragment, whatever stands behind it. -/
theorem fragmentOf_headerOf (hi : isIdentifier entity) (inside : Text) :
    fragmentOf (headerOf (entity ++ "Gql") ++ inside) =
      fragmentHeader entity ++
        rendered (newlineOf (headerOf (entity ++ "Gql") ++ inside)) .rest (dropRequired inside) := by
  have hmark : '!' ∉ fragmentHeader entity :=
    not_mem_fragmentHeader hi (by decide) (by decide) (by decide)
  have hcolon : ':' ∉ fragmentHeader entity :=
    not_mem_fragmentHeader hi (by decide) (by decide) (by decide)
  have hbreak : '\n' ∉ fragmentHeader entity :=
    not_mem_fragmentHeader hi (by decide) (by decide) (by decide)
  have hkept (v : Text) : collapseFrom .start (fragmentHeader entity ++ v) =
      fragmentHeader entity ++ collapseFrom .rest v := by
    have hf : isBlank 'f' = false := by decide
    obtain ⟨rest, hrest⟩ : ∃ rest, fragmentHeader entity = 'f' :: rest := ⟨_, rfl⟩
    rw [hrest] at hbreak ⊢
    rw [List.cons_append, collapseFrom_kept (LinePart.next_start_of_not_isBlank hf) (by decide),
      collapseFrom_rest (fun h => hbreak (List.mem_cons_of_mem _ h)), List.cons_append]
  change collapseFields (expandReferences (newlineOf _) (dropRequired (openFragment _))) = _
  rw [openFragment_headerOf hi, dropRequired_append, dropRequired_eq_self hmark,
    expandReferences_append hcolon, collapseFields_eq, hkept]
  rfl

end SchemaFragments
