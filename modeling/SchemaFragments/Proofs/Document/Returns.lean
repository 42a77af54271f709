import SchemaFragments.Proofs.Document.Rendered
import SchemaFragments.Proofs.Extraction.Returns

/-! # Fragments of blocks with carriage returns

Each of the steps of `fragmentOf` comes to the same, up to line ends, for a block with a carriage return
in front of every line feed: a reference has no line end in it (`reference?_withReturns`), and from every
part of a line the two characters lead to where the line feed alone leads (`collapseFrom_withReturns`).
The selections break lines as the block does, so that the fragment of such a block is that of the block
with a carriage return in front of every line feed; a block in one line stays the same one
(`fragmentOf_withReturns`). -/

namespace SchemaFragments

open Scan Text

variable {t u behind entity : Text} {c : Char} {s : LinePart}

/-! ### Names of types -/

theorem typeEnding_isPrefixOf_withReturns (t : Text) :
    typeEnding.isPrefixOf (withReturns t) = typeEnding.isPrefixOf t := by
  have hprefix : typeEnding <+: withReturns t ↔ typeEnding <+: t :=
    prefix_withReturns_iff (by decide) (by decide)
  rw [Bool.eq_iff_iff, List.isPrefixOf_iff_prefix, List.isPrefixOf_iff_prefix, hprefix]

theorem longestStem?_of_not_isWord (h : isWord c = false) (t : Text) : longestStem? (c :: t) = none :=
  if_neg (ne_true_of_eq_false h)

theorem longestStem?_withReturns (t : Text) : longestStem? (withReturns t) = longestStem? t := by
  induction t with
  | nil => rfl
  | cons c t ih =>
      by_cases hc : c = '\n'
      · subst hc
        rw [withReturns_newline, longestStem?_of_not_isWord (by decide),
          longestStem?_of_not_isWord (by decide)]
      · rw [withReturns_cons hc, longestStem?, longestStem?, ih, typeEnding_isPrefixOf_withReturns]

theorem isWord_of_longestStem? (h : longestStem? t = some entity) : ∀ c ∈ entity, isWord c := by
  induction t generalizing entity with
  | nil => cases h
  | cons c t ih =>
      rw [longestStem?] at h
      split at h
      · next hc =>
          split at h
          · next stem hs =>
              cases h
              exact List.forall_mem_cons.mpr ⟨hc, ih hs⟩
          · split at h
            · cases h
              exact List.forall_mem_singleton.mpr hc
            · cases h
      · cases h

theorem shortestStem?_of_not_isWord (h : isWord c = false) (t : Text) : shortestStem? (c :: t) = none :=
  if_neg (ne_true_of_eq_false h)

theorem shortestStem?_withReturns (t : Text) : shortestStem? (withReturns t) = shortestStem? t := by
  induction t with
  | nil => rfl
  | cons c t ih =>
      by_cases hc : c = '\n'
      · subst hc
        rw [withReturns_newline, shortestStem?_of_not_isWord (by decide),
          shortestStem?_of_not_isWord (by decide)]
      · rw [withReturns_cons hc, shortestStem?, shortestStem?, ih, typeEnding_isPrefixOf_withReturns]

/-! ### Headers and exclamation marks -/

theorem openFragment_of_no_type (h : ¬ ("type " : Text) <+: t) : openFragment t = t := by
  unfold openFragment
  rw [if_neg (mt List.isPrefixOf_iff_prefix.mp h)]

theorem openFragment_withReturns (t : Text) :
    openFragment (withReturns t) = withReturns (openFragment t) := by
  have hline : '\n' ∉ ("type " : Text) := by decide
  by_cases htype : ("type " : Text) <+: t
  · obtain ⟨declared, rfl⟩ := htype
    rw [withReturns_line hline, openFragment_type, openFragment_type, longestStem?_withReturns]
    cases hstem : longestStem? declared with
    | none => exact (withReturns_line hline declared).symm
    | some entity =>
        have hentity : '\n' ∉ entity :=
          Text.not_mem_of_forall (isWord_of_longestStem? hstem) (by decide)
        have hopened : '\n' ∉ ("fragment " ++ entity ++ " on " : Text) := by
          simp [hentity]
        exact (withReturns_line hopened declared).symm
  · have hnot : ¬ ("type " : Text) <+: withReturns t :=
      mt (prefix_withReturns_iff hline (by decide)).mp htype
    rw [openFragment_of_no_type htype, openFragment_of_no_type hnot]

theorem dropRequired_withReturns (t : Text) :
    dropRequired (withReturns t) = withReturns (dropRequired t) := by
  induction t with
  | nil => rfl
  | cons c t ih =>
      by_cases hc : c = '\n'
      · subst hc
        have hbreak : dropRequired ['\r', '\n'] = ['\r', '\n'] := by decide
        have hfeed : dropRequired ('\n' :: t) = '\n' :: dropRequired t := rfl
        have hsplit : withReturns ('\n' :: t) = ['\r', '\n'] ++ withReturns t := rfl
        rw [hsplit, dropRequired_append, hbreak, ih, hfeed]
        rfl
      · have hkept (t : Text) : dropRequired (c :: t) = dropRequired [c] ++ dropRequired t :=
          dropRequired_append [c] t
        have hline : '\n' ∉ dropRequired [c] := by
          intro hmem
          exact hc (List.mem_singleton.mp (List.mem_of_mem_filter hmem)).symm
        rw [withReturns_cons hc, hkept (withReturns t), hkept t, ih, withReturns_line hline]

/-! ### References -/

/-- A reference is read as before, whatever has become of the line ends behind it. -/
theorem reference?_withReturns (t : Text) : reference? (withReturns t) = reference? t := by
  have hcolon : '\n' ∉ (": " : Text) := by decide
  by_cases hprefix : (": " : Text) <+: t
  · obtain ⟨body, rfl⟩ := hprefix
    obtain ⟨opening, named, rfl, hopen⟩ := exists_opening body
    have hbracket : '\n' ∉ (if opening = true then ['['] else [] : Text) := by
      cases opening <;> decide
    have hopen' : opening = false → (withReturns named).head? ≠ some '[' := fun h =>
      mt (head?_withReturns_iff (by decide) (by decide)).mp (hopen h)
    rw [withReturns_line hcolon, withReturns_line hbracket, reference?_eq hopen, reference?_eq hopen',
      shortestStem?_withReturns]
    cases hstem : shortestStem? named with
    | none => rfl
    | some entity =>
        obtain ⟨hi, behind, rfl⟩ := shortestStem?_eq_some hstem
        -- The bracket that may close the reference is the next character behind it.
        have hclosing : (withReturns behind).head? = some ']' ↔ behind.head? = some ']' :=
          head?_withReturns_iff (by decide) (by decide)
        rw [withReturns_line (newline_not_mem_of_isIdentifier hi), withReturns_line (by decide)]
        simp only [Option.map_some, drop_typeEnding, hclosing]
  · rw [reference?_of_no_colon hprefix,
      reference?_of_no_colon (mt (prefix_withReturns_iff hcolon (by decide)).mp hprefix)]

theorem Refers.newline_not_mem (h : Refers u entity behind) : '\n' ∉ u :=
  h.not_mem (by decide) (by decide)

theorem Refers.withReturns (h : Refers u entity behind) : Refers u entity (Text.withReturns behind) where
  name := h.name
  shape := h.shape
  read := by rw [← withReturns_line h.newline_not_mem, reference?_withReturns, h.read]

theorem withReturns_spread (hi : isIdentifier entity) :
    withReturns (spread ['\n'] entity) = spread ['\r', '\n'] entity := by
  unfold spread
  simp only [withReturns_append, withReturns_eq_self (newline_not_mem_of_isIdentifier hi)]
  rfl

/-- The references become selections that break lines with a carriage return, too. -/
theorem expandReferences_withReturns (t : Text) :
    expandReferences ['\r', '\n'] (withReturns t) = withReturns (expandReferences ['\n'] t) := by
  induction t using reference_induction with
  | nil => rfl
  | refers u entity behind h ih =>
      rw [withReturns_line h.newline_not_mem, expandReferences_refers h.withReturns,
        expandReferences_refers h, withReturns_append, withReturns_spread h.name, ih]
  | cons c t hc ih =>
      by_cases hfeed : c = '\n'
      · subst hfeed
        rw [withReturns_newline, expandReferences_cons (reference?_of_ne (by decide) _),
          expandReferences_cons (reference?_of_ne (by decide) _), expandReferences_cons hc,
          withReturns_newline, ih]
      · have hread : reference? (c :: withReturns t) = none := by
          rw [← withReturns_cons hfeed, reference?_withReturns, hc]
        rw [withReturns_cons hfeed, expandReferences_cons hread, expandReferences_cons hc,
          withReturns_cons hfeed, ih]

/-! ### Fields -/

/-- A line end leads to the same part of a line with a carriage return and without, and is kept. -/
theorem collapseFrom_return_newline (s : LinePart) (t : Text) :
    collapseFrom s ('\r' :: '\n' :: t) = '\r' :: '\n' :: collapseFrom (s.next '\n') t := by
  have hreturn : s.next '\r' ≠ .gone := by
    cases s <;> decide
  have hfeed : (s.next '\r').next '\n' = s.next '\n' := by
    cases s <;> decide
  have hkept : s.next '\n' ≠ .gone := by
    cases s <;> decide
  rw [collapseFrom_kept rfl hreturn, collapseFrom_kept hfeed hkept]

theorem collapseFrom_withReturns (s : LinePart) (t : Text) :
    collapseFrom s (withReturns t) = withReturns (collapseFrom s t) := by
  induction t generalizing s with
  | nil => cases s <;> rfl
  | cons c t ih =>
      by_cases hc : c = '\n'
      · subst hc
        have hkept : s.next '\n' ≠ .gone := by
          cases s <;> decide
        rw [withReturns_newline, collapseFrom_return_newline, collapseFrom_kept rfl hkept,
          withReturns_newline, ih]
      · rw [withReturns_cons hc]
        by_cases hs : s.next c = .gone
        · rw [collapseFrom_dropped hs, collapseFrom_dropped hs, ih]
        · rw [collapseFrom_kept rfl hs, collapseFrom_kept rfl hs, withReturns_cons hc, ih]

/-! ### Fragments -/

theorem breaksWithReturn_iff : breaksWithReturn t ↔ ['\r', '\n'] <:+: t := by
  unfold breaksWithReturn
  induction t with
  | nil => simp [Text.contains]
  | cons c t ih => rw [Text.contains, Bool.or_eq_true, List.isPrefixOf_iff_prefix, ih, List.infix_cons_iff]

theorem breaksWithReturn_eq_false (h : '\r' ∉ t) : breaksWithReturn t = false := by
  rw [Bool.eq_false_iff, ne_eq, breaksWithReturn_iff]
  exact fun hbreaks => h (hbreaks.subset List.mem_cons_self)

theorem breaksWithReturn_withReturns (t : Text) :
    breaksWithReturn (withReturns t) = decide ('\n' ∈ t) := by
  induction t with
  | nil => rfl
  | cons c t ih =>
      by_cases hc : c = '\n'
      · subst hc
        simp [breaksWithReturn, Text.contains, List.isPrefixOf]
      · have hhead : (withReturns t).head? ≠ some '\n' := head?_withReturns_ne t
        have hne : (['\r', '\n'] : Text).isPrefixOf (c :: withReturns t) = false := by
          cases ht : withReturns t with
          | nil => simp [List.isPrefixOf]
          | cons d u =>
              rw [ht] at hhead
              simp only [List.head?_cons, ne_eq, Option.some.injEq] at hhead
              simp [List.isPrefixOf, Ne.symm hhead]
        unfold breaksWithReturn at ih ⊢
        rw [withReturns_cons hc, Text.contains, hne, Bool.false_or, ih]
        simp [Ne.symm hc]

theorem fragmentOf_eq (block : Text) :
    fragmentOf block =
      collapseFrom .start (expandReferences (newlineOf block) (dropRequired (openFragment block))) :=
  collapseFields_eq _

/-- The fragment of a block in several lines has a carriage return in front of its line feeds when the
block has; a block in one line has the same fragment. -/
theorem fragmentOf_withReturns {block : Text} (h : '\r' ∉ block) :
    fragmentOf (withReturns block) =
      if '\n' ∈ block then withReturns (fragmentOf block) else fragmentOf block := by
  by_cases hn : '\n' ∈ block
  · have hfeed : newlineOf block = ['\n'] := by
      unfold newlineOf
      rw [breaksWithReturn_eq_false h]
      rfl
    have hreturn : newlineOf (withReturns block) = ['\r', '\n'] := by
      unfold newlineOf
      rw [breaksWithReturn_withReturns, decide_eq_true hn]
      rfl
    rw [if_pos hn, fragmentOf_eq, fragmentOf_eq, hfeed, hreturn, openFragment_withReturns,
      dropRequired_withReturns, expandReferences_withReturns, collapseFrom_withReturns]
  · rw [if_neg hn, withReturns_eq_self hn]

end SchemaFragments
