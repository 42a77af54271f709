import SchemaFragments.Proofs.Document.Fields
import SchemaFragments.Proofs.Document.Returns

/-! # Nothing is left to be done in a fragment

`fragmentOf` makes one pass for each of its steps, and no pass makes work for another one: a text is
`Settled` when no reference begins anywhere in it, expanding the references of any text gives a settled one
(`settled_expandReferences`), and dropping the types of fields leaves it settled (`Settled.collapseFrom`).
A settled text stays the same when its references are expanded, and dropping the types of fields a second
time changes nothing, so the fragment of a fragment is that fragment (`fragmentOf_settled`). -/

namespace SchemaFragments

variable {t u v w entity newline : Text} {c : Char} {cs : Text} {s s' : LinePart}

/-! ### References -/

/-- No reference begins anywhere in the text. -/
def Settled (t : Text) : Prop := ∀ v, v <:+ t → reference? v = none

theorem settled_nil : Settled [] := by
  intro v hv
  rw [List.suffix_nil.mp hv]
  rfl

theorem settled_cons : Settled (c :: cs) ↔ reference? (c :: cs) = none ∧ Settled cs := by
  unfold Settled
  simp only [List.suffix_cons_iff, or_imp, forall_and, forall_eq]

theorem Settled.append (hu : ':' ∉ u) (hv : Settled v) : Settled (u ++ v) := by
  induction u with
  | nil => exact hv
  | cons c u ih =>
      rw [List.mem_cons, not_or] at hu
      exact settled_cons.mpr ⟨reference?_of_ne (Ne.symm hu.1) _, ih hu.2⟩

/-- What is written as a reference is read as one, whatever comes behind it. -/
theorem isSome_reference?_of_prefix {opening closing : Bool} (hi : isIdentifier entity)
    (h : referenceText opening closing entity <+: t) : (reference? t).isSome := by
  obtain ⟨behind, rfl⟩ := h
  rw [referenceText_append, reference?_typeEnding hi]
  rfl

theorem Settled.not_refers (h : Settled t) {opening closing : Bool} (hi : isIdentifier entity) :
    ¬ referenceText opening closing entity <:+: t := by
  rintro ⟨front, behind, rfl⟩
  have hread : reference? (referenceText opening closing entity ++ behind) = none := by
    refine h _ ⟨front, ?_⟩
    rw [List.append_assoc]
  have hsome : (reference? (referenceText opening closing entity ++ behind)).isSome :=
    isSome_reference?_of_prefix hi (List.prefix_append _ _)
  rw [hread] at hsome
  cases hsome

/-- A colon begins a reference because of some text behind it, which ends in a name and has no brace and
no line feed in it. -/
theorem exists_named_of_reference? (h : (reference? (':' :: t)).isSome) :
    ∃ w, w <+: t ∧ '\x7b' ∉ w ∧ '\n' ∉ w ∧ w.getLast? ≠ some ' ' ∧
      ∀ u, w <+: u → (reference? (':' :: u)).isSome := by
  obtain ⟨⟨entity, n⟩, hread⟩ := Option.isSome_iff_exists.mp h
  obtain ⟨u, behind, ht, -, hr⟩ := exists_refers hread
  obtain ⟨opening, closing, rfl⟩ := hr.shape
  have hopen : referenceText opening false entity = ':' :: (referenceText opening false entity).tail := rfl
  have hclosed : referenceText opening false entity <+: referenceText opening closing entity := by
    unfold referenceText
    cases closing <;> simp
  have hmem {c : Char} (hw : isWord c = false) (hc : c ∉ (": []" : Text)) :
      c ∉ (referenceText opening false entity).tail := fun h =>
    hr.not_mem hw hc (hclosed.subset (List.mem_of_mem_tail h))
  refine ⟨(referenceText opening false entity).tail, ?_, hmem (by decide) (by decide),
    hmem (by decide) (by decide), ?_, fun u hu => ?_⟩
  · have hbegins : referenceText opening false entity <+: ':' :: t :=
      ht ▸ hclosed.trans (List.prefix_append _ _)
    rw [hopen] at hbegins
    exact (List.cons_prefix_cons.mp hbegins).2
  · have hlast : (referenceText opening false entity).tail =
        (' ' :: (if opening then ['['] else []) ++ (entity ++ ['G', 'q'])) ++ ['l'] := by
      unfold referenceText typeEnding
      simp
    rw [hlast, List.getLast?_concat]
    decide
  · have hbegins : referenceText opening false entity <+: ':' :: u :=
      hopen ▸ List.cons_prefix_cons.mpr ⟨rfl, hu⟩
    exact isSome_reference?_of_prefix hr.name hbegins

/-- A colon begins no reference if what stands behind it stood already behind one that begins none. -/
theorem reference?_colon_eq_none (h : reference? (':' :: t) = none)
    (hp : ∀ w, '\x7b' ∉ w → '\n' ∉ w → w.getLast? ≠ some ' ' → w <+: u → w <+: t) :
    reference? (':' :: u) = none := by
  refine Option.not_isSome_iff_eq_none.mp fun hsome => ?_
  obtain ⟨w, hw, hbrace, hline, hlast, hread⟩ := exists_named_of_reference? hsome
  have hstood := hread t (hp w hbrace hline hlast hw)
  rw [h] at hstood
  cases hstood

/-! ### Expanding references -/

theorem Settled.expandReferences (h : Settled t) : expandReferences newline t = t := by
  induction t with
  | nil => rfl
  | cons c t ih =>
      obtain ⟨hread, hrest⟩ := settled_cons.mp h
      rw [expandReferences_cons hread, ih hrest]

/-- Where there is no brace, the references have not been reached yet. -/
theorem prefix_of_prefix_expandReferences (hbrace : '\x7b' ∉ w) (hlast : w.getLast? ≠ some ' ')
    (h : w <+: expandReferences newline t) : w <+: t := by
  induction t using reference_induction generalizing w with
  | nil => exact h
  | refers u entity behind hr ih =>
      rw [expandReferences_refers hr, spread_eq] at h
      change w <+: ' ' :: '\x7b' :: (selection newline entity ++ expandReferences newline behind) at h
      -- Only the blank in front of the brace can have been reached, and no such text ends in it.
      match w, hbrace, hlast with
      | [], _, _ => exact List.nil_prefix
      | [c], _, hlast =>
          obtain ⟨rfl, -⟩ := List.cons_prefix_cons.mp h
          exact absurd rfl hlast
      | c :: d :: w, hbrace, _ =>
          obtain ⟨-, hd⟩ := List.cons_prefix_cons.mp h
          obtain ⟨rfl, -⟩ := List.cons_prefix_cons.mp hd
          exact absurd (by simp) hbrace
  | cons c cs hc ih =>
      rw [expandReferences_cons hc] at h
      cases w with
      | nil => exact List.nil_prefix
      | cons d w =>
          obtain ⟨rfl, hw⟩ := List.cons_prefix_cons.mp h
          rw [List.mem_cons, not_or] at hbrace
          have hnext : w.getLast? ≠ some ' ' := by
            cases w with
            | nil => simp
            | cons e w => rwa [List.getLast?_cons_cons] at hlast
          exact List.cons_prefix_cons.mpr ⟨rfl, ih hbrace.2 hnext hw⟩

theorem not_mem_spread (hn : IsNewline newline) (hi : isIdentifier entity) (hw : isWord c = false)
    (hc : c ∉ (" .\x7b\x7d\r\n" : Text)) : c ∉ spread newline entity := by
  have hentity : c ∉ entity := Text.not_mem_of_forall (isIdentifier_iff.mp hi).2 hw
  rcases hn with rfl | rfl <;> simp_all [spread]

theorem mark_not_mem_expandReferences (hn : IsNewline newline) (h : '!' ∉ t) :
    '!' ∉ expandReferences newline t := by
  induction t using reference_induction with
  | nil => exact h
  | refers u entity behind hr ih =>
      rw [List.mem_append, not_or] at h
      rw [expandReferences_refers hr, List.mem_append, not_or]
      exact ⟨not_mem_spread hn hr.name (by decide) (by decide), ih h.2⟩
  | cons c cs hc ih =>
      rw [List.mem_cons, not_or] at h
      rw [expandReferences_cons hc, List.mem_cons, not_or]
      exact ⟨h.1, ih h.2⟩

theorem settled_expandReferences (hn : IsNewline newline) (t : Text) :
    Settled (expandReferences newline t) := by
  induction t using reference_induction with
  | nil => exact settled_nil
  | refers u entity behind hr ih =>
      rw [expandReferences_refers hr]
      exact ih.append (not_mem_spread hn hr.name (by decide) (by decide))
  | cons c cs hc ih =>
      rw [expandReferences_cons hc]
      refine settled_cons.mpr ⟨?_, ih⟩
      by_cases hcolon : c = ':'
      · subst hcolon
        exact reference?_colon_eq_none hc fun w hbrace _ hlast =>
          prefix_of_prefix_expandReferences hbrace hlast
      · exact reference?_of_ne hcolon _

/-! ### Dropping the types of fields -/

theorem collapseFrom_sublist (s : LinePart) (t : Text) : (collapseFrom s t).Sublist t := by
  induction t generalizing s with
  | nil => cases s <;> exact List.Sublist.refl _
  | cons c t ih =>
      by_cases h : s.next c = .gone
      · rw [collapseFrom_dropped h]
        exact (ih .gone).cons c
      · rw [collapseFrom_kept rfl h]
        exact (ih _).cons_cons c

/-- Kept text is kept to the end of its line. -/
theorem prefix_of_prefix_collapseFrom (hline : '\n' ∉ w) (h : w <+: collapseFrom .rest t) : w <+: t := by
  induction w generalizing t with
  | nil => exact List.nil_prefix
  | cons d w ih =>
      rw [List.mem_cons, not_or] at hline
      cases t with
      | nil => exact h
      | cons c t =>
          have hkept : LinePart.rest.next c ≠ .gone := by
            simp [LinePart.next_eq_gone]
          rw [collapseFrom_kept rfl hkept] at h
          obtain ⟨rfl, hw⟩ := List.cons_prefix_cons.mp h
          rw [LinePart.next_rest_of_ne (Ne.symm hline.1)] at hw
          exact List.cons_prefix_cons.mpr ⟨rfl, ih hline.2 hw⟩

theorem next_colon (h : s.next ':' ≠ .gone) : s.next ':' = .rest := by
  revert h
  cases s <;> decide

theorem Settled.collapseFrom (h : Settled t) (s : LinePart) : Settled (collapseFrom s t) := by
  induction t generalizing s with
  | nil => exact h
  | cons c t ih =>
      obtain ⟨hread, hrest⟩ := settled_cons.mp h
      by_cases hs : s.next c = .gone
      · rw [collapseFrom_dropped hs]
        exact ih hrest .gone
      · rw [collapseFrom_kept rfl hs]
        refine settled_cons.mpr ⟨?_, ih hrest _⟩
        by_cases hc : c = ':'
        · subst hc
          rw [next_colon hs]
          exact reference?_colon_eq_none hread fun w _ hline _ => prefix_of_prefix_collapseFrom hline
        · exact reference?_of_ne hc _

/-- A second time nothing is dropped: the colons behind the names of fields are gone. -/
theorem collapseFrom_collapseFrom (h : s = s' ∧ s ≠ .gone ∨ s = .gone ∧ s' = .name) (t : Text) :
    collapseFrom s' (collapseFrom s t) = collapseFrom s t := by
  induction t generalizing s s' with
  | nil => cases s <;> cases s' <;> rfl
  | cons c t ih =>
      by_cases hs : s.next c = .gone
      · -- The second run stands still behind the name while the first drops the rest of the line.
        rw [collapseFrom_dropped hs]
        refine ih (Or.inr ⟨rfl, ?_⟩)
        rcases LinePart.next_eq_gone.mp hs with ⟨rfl, -⟩ | ⟨rfl, -⟩ <;> simp_all
      · have hnext : s'.next c = s.next c := by
          rcases h with ⟨rfl, -⟩ | ⟨rfl, rfl⟩
          · rfl
          · have hends : c = '\n' ∨ c = '\r' := by
              simpa [LinePart.next_eq_gone, or_iff_not_imp_left] using hs
            rcases hends with rfl | rfl <;> decide
        rw [collapseFrom_kept rfl hs, collapseFrom_kept hnext hs, ih (Or.inl ⟨rfl, hs⟩)]

/-! ### Fragments -/

theorem settled_fragmentOf (b : Text) : Settled (fragmentOf b) := by
  rw [fragmentOf_eq]
  exact (settled_expandReferences (isNewline_newlineOf b) _).collapseFrom .start

theorem mark_not_mem_fragmentOf (b : Text) : '!' ∉ fragmentOf b := by
  have hdropped : '!' ∉ dropRequired (openFragment b) := fun h => by
    simpa using (List.mem_filter.mp h).2
  rw [fragmentOf_eq]
  exact fun h => mark_not_mem_expandReferences (isNewline_newlineOf b) hdropped
    ((collapseFrom_sublist _ _).subset h)

/-- A fragment that is not opened once more stays the same. -/
theorem fragmentOf_fragmentOf_of_no_type {b : Text} (h : ¬ ("type " : Text) <+: fragmentOf b) :
    fragmentOf (fragmentOf b) = fragmentOf b := by
  calc fragmentOf (fragmentOf b)
    _ = collapseFrom .start (expandReferences (newlineOf (fragmentOf b)) (fragmentOf b)) := by
        rw [fragmentOf_eq (fragmentOf b), openFragment_of_no_type h,
          dropRequired_eq_self (mark_not_mem_fragmentOf b)]
    _ = collapseFrom .start (fragmentOf b) := by rw [(settled_fragmentOf b).expandReferences]
    _ = fragmentOf b := by
        rw [fragmentOf_eq b]
        exact collapseFrom_collapseFrom (Or.inl ⟨rfl, by decide⟩) _

theorem isSome_longestStem? (hi : isIdentifier entity) (behind : Text) :
    (longestStem? (entity ++ (typeEnding ++ behind))).isSome := by
  obtain ⟨hne, hw⟩ := isIdentifier_iff.mp hi
  induction entity with
  | nil => exact absurd rfl hne
  | cons c entity ih =>
      rw [List.forall_mem_cons] at hw
      rw [List.cons_append, longestStem?, if_pos hw.1]
      cases entity with
      | nil =>
          rw [List.nil_append, List.isPrefixOf_iff_prefix.mpr (List.prefix_append typeEnding behind)]
          split <;> rfl
      | cons d entity =>
          obtain ⟨stem, hstem⟩ := Option.isSome_iff_exists.mp
            (ih (isIdentifier_iff.mpr ⟨by simp, hw.2⟩) (by simp) hw.2)
          rw [hstem]
          rfl

/-- What has been opened as a fragment begins like one. -/
theorem head?_fragmentOf (hi : isIdentifier entity) (behind : Text) :
    (fragmentOf ("type " ++ (entity ++ (typeEnding ++ behind)))).head? = some 'f' := by
  obtain ⟨stem, hstem⟩ := Option.isSome_iff_exists.mp (isSome_longestStem? hi behind)
  have hdropped (t : Text) : dropRequired ('f' :: t) = 'f' :: dropRequired t := rfl
  have hopened : openFragment ("type " ++ (entity ++ (typeEnding ++ behind))) =
      'f' :: ("ragment " ++ stem ++ " on " ++ (entity ++ (typeEnding ++ behind))) := by
    rw [openFragment_type, hstem]
    rfl
  rw [fragmentOf_eq, hopened, hdropped, expandReferences_cons (reference?_of_ne (by decide) _),
    collapseFrom_kept (LinePart.next_start_of_not_isBlank (by decide)) (by decide), List.head?_cons]

/-- A fragment has no mark of what is required in it and nothing that is written as a reference, and the
fragment of what has been opened as a fragment is the same one. -/
theorem fragmentOf_settled (b : Text) :
    '!' ∉ fragmentOf b ∧
      (∀ opening closing entity, isIdentifier entity →
        ¬ referenceText opening closing entity <:+: fragmentOf b) ∧
      (∀ entity behind, isIdentifier entity → b = "type " ++ (entity ++ (typeEnding ++ behind)) →
        fragmentOf (fragmentOf b) = fragmentOf b) := by
  refine ⟨mark_not_mem_fragmentOf b, fun _ _ _ hi => (settled_fragmentOf b).not_refers hi, ?_⟩
  rintro entity behind hi rfl
  refine fragmentOf_fragmentOf_of_no_type ?_
  rintro ⟨rest, hrest⟩
  have hhead := head?_fragmentOf hi behind
  rw [← hrest] at hhead
  change some 't' = some 'f' at hhead
  exact absurd hhead (by decide)

/-- What stands behind the name of a type: a reference that is complete only without its marks, with a name,
a bracket and a colon behind it. -/
def brokenReference : Text := " \x7b\n  a:! [!BGqlGql]]: b:!\n  :\x7d"

theorem fragmentOf_settled_broken :
    isIdentifier ['A'] ∧ isIdentifier ['B'] ∧
      fragmentOf ("type " ++ (['A'] ++ (typeEnding ++ brokenReference))) =
        "fragment A on AGql \x7b\n  a \x7b\n    ...B\n  \x7dGql]]: b:\n  :\x7d" ∧
      '!' ∉ fragmentOf ("type " ++ (['A'] ++ (typeEnding ++ brokenReference))) ∧
      ¬ referenceText true true ['B'] <:+:
        fragmentOf ("type " ++ (['A'] ++ (typeEnding ++ brokenReference))) ∧
      fragmentOf (fragmentOf ("type " ++ (['A'] ++ (typeEnding ++ brokenReference)))) =
        fragmentOf ("type " ++ (['A'] ++ (typeEnding ++ brokenReference))) := by
  have ha : isIdentifier ['A'] := by decide
  have hb : isIdentifier ['B'] := by decide
  obtain ⟨hmark, hreference, hagain⟩ :=
    fragmentOf_settled ("type " ++ (['A'] ++ (typeEnding ++ brokenReference)))
  exact ⟨ha, hb, by decide, hmark, hreference true true _ hb, hagain _ _ ha rfl⟩

end SchemaFragments
