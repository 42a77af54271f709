import SchemaFragments.Proofs.Document.Settled

/-! # Fields that are overlooked behind a carriage return

Extraction takes a carriage return for the end of a line, with a line feed behind it or without one, and so
does `Text.lines`.  The reduction of fields stops at a carriage return, too, but looks for the next field
only behind a line feed.

So the lines of a fragment still show a field with its colon if and only if, in the declaration, a field that
is no reference stands behind a carriage return and its line has begun before that, seen from the line feeds
alone (`Overlooked`, `lines_fragmentOf_iff`).  The text between two line feeds is followed character by
character: `BehindFrom` carries along whether something other than white space has been read since the last
line feed. -/

namespace SchemaFragments

open Scan

variable {t u v entity newline : Text} {c : Char} {cs : Text} {s : LinePart} {begun : Bool}

/-! ### Lines that show a field -/

/-- The lines of a text: they end at a carriage return, at a line feed, or at the two together. -/
def Text.lines : Text → List Text
  | [] => [[]]
  | '\r' :: '\n' :: t => [] :: lines t
  | c :: t =>
    if c = '\r' ∨ c = '\n' then [] :: lines t
    else
      match lines t with
      | [] => [[c]]
      | line :: later => (c :: line) :: later

/-- Spaces or tabs, at least one, and a name. -/
def IndentedName (u : Text) : Prop :=
  ∃ indent name, u = indent ++ name ∧ indent ≠ [] ∧ (∀ c ∈ indent, c = ' ' ∨ c = '\t') ∧
    isIdentifier name

/-- An indented name, a colon, and anything behind it. -/
def ShowsField (t : Text) : Prop := ∃ u behind, t = u ++ ':' :: behind ∧ IndentedName u

/-- An indented name and a colon that is not the colon of a reference. -/
def ShowsScalar (t : Text) : Prop :=
  ∃ u behind, t = u ++ ':' :: behind ∧ IndentedName u ∧ reference? (':' :: behind) = none

theorem IndentedName.not_mem (h : IndentedName u) (hw : isWord c = false) (hc : c ≠ ' ' ∧ c ≠ '\t') :
    c ∉ u := by
  obtain ⟨indent, name, rfl, -, hi, hn⟩ := h
  rw [List.mem_append, not_or]
  refine ⟨fun hmem => ?_, Text.not_mem_of_forall (isIdentifier_iff.mp hn).2 hw⟩
  exact (hi c hmem).elim hc.1 hc.2

theorem showsField_iff : ShowsField t ↔ ∃ u, IndentedName u ∧ u ++ [':'] <+: t := by
  constructor
  · rintro ⟨u, behind, rfl, hu⟩
    exact ⟨u, hu, behind, by simp⟩
  · rintro ⟨u, hu, behind, rfl⟩
    exact ⟨u, behind, by simp, hu⟩

theorem not_showsField_cons (h : c ≠ ' ' ∧ c ≠ '\t') (t : Text) : ¬ ShowsField (c :: t) := by
  rintro ⟨u, behind, ht, indent, name, rfl, hne, hi, -⟩
  obtain ⟨d, indent, rfl⟩ := List.exists_cons_of_ne_nil hne
  cases ht
  exact (hi c List.mem_cons_self).elim h.1 h.2

/-- Two texts begin with the same texts without line ends. -/
def BeginAlike (t u : Text) : Prop := ∀ w, '\r' ∉ w → '\n' ∉ w → (w <+: t ↔ w <+: u)

namespace BeginAlike

theorem showsField_iff (h : BeginAlike t u) : ShowsField t ↔ ShowsField u := by
  rw [SchemaFragments.showsField_iff, SchemaFragments.showsField_iff]
  refine exists_congr fun front => and_congr_right fun hfront => h _ ?_ ?_
  · simpa using hfront.not_mem (by decide) (by decide)
  · simpa using hfront.not_mem (by decide) (by decide)

/-- A text that begins with a line end begins with nothing else. -/
theorem nil_of_ends (hc : c = '\r' ∨ c = '\n') (t : Text) : BeginAlike [] (c :: t) := by
  intro w hr hn
  cases w with
  | nil => simp
  | cons d w =>
      rw [List.mem_cons, not_or] at hr hn
      rw [List.cons_prefix_cons]
      refine iff_of_false (by simp) ?_
      rintro ⟨rfl, -⟩
      exact hc.elim (Ne.symm hr.1) (Ne.symm hn.1)

theorem cons (h : BeginAlike t u) (c : Char) : BeginAlike (c :: t) (c :: u) := by
  intro w hr hn
  cases w with
  | nil => simp
  | cons d w =>
      rw [List.mem_cons, not_or] at hr hn
      rw [List.cons_prefix_cons, List.cons_prefix_cons, h w hr.2 hn.2]

end BeginAlike

/-- A field is shown behind a line end. -/
def ShownBehind : Text → Prop
  | [] => False
  | c :: t => ((c = '\r' ∨ c = '\n') ∧ ShowsField t) ∨ ShownBehind t

/-- The first line begins as the text does, and the others show a field if one is shown behind a line
end. -/
theorem exists_lines (t : Text) : ∃ line later, t.lines = line :: later ∧ BeginAlike line t ∧
    ((∃ l ∈ later, ShowsField l) ↔ ShownBehind t) := by
  fun_induction Text.lines t with
  | case1 => exact ⟨[], [], rfl, fun _ _ _ => Iff.rfl, by simp [ShownBehind]⟩
  | case2 t ih =>
      obtain ⟨line, later, heq, hline, hlater⟩ := ih
      refine ⟨[], _, rfl, .nil_of_ends (Or.inl rfl) _, ?_⟩
      rw [heq, List.exists_mem_cons_iff, hline.showsField_iff, hlater]
      simp [ShownBehind, not_showsField_cons]
  | case3 c t _ hc ih =>
      obtain ⟨line, later, heq, hline, hlater⟩ := ih
      refine ⟨[], _, rfl, .nil_of_ends hc _, ?_⟩
      rw [heq, List.exists_mem_cons_iff, hline.showsField_iff, hlater]
      simp [ShownBehind, hc]
  | case4 c t _ hc hnil ih =>
      obtain ⟨line, later, heq, -⟩ := ih
      cases hnil.symm.trans heq
  | case5 c t _ hc line later heq ih =>
      obtain ⟨line', later', heq', hline, hlater⟩ := ih
      cases heq.symm.trans heq'
      exact ⟨_, _, rfl, hline.cons c, by simp [ShownBehind, hc, hlater]⟩

theorem exists_line_iff : (∃ l ∈ t.lines, ShowsField l) ↔ ShowsField t ∨ ShownBehind t := by
  obtain ⟨line, later, heq, hline, hlater⟩ := exists_lines t
  rw [heq, List.exists_mem_cons_iff, hline.showsField_iff, hlater]

theorem shownBehind_append (hr : '\r' ∉ u) (hn : '\n' ∉ u) : ShownBehind (u ++ v) ↔ ShownBehind v := by
  induction u with
  | nil => rfl
  | cons c u ih =>
      rw [List.mem_cons, not_or] at hr hn
      rw [List.cons_append, ShownBehind, ih hr.2 hn.2]
      simp [Ne.symm hr.1, Ne.symm hn.1]

/-! ### Behind a carriage return -/

section Behind

variable {P : Text → Prop}

/-- `P` holds of what comes behind some carriage return that has no line feed in front of it. -/
def BehindReturn (P : Text → Prop) (t : Text) : Prop :=
  ∃ u v, t = u ++ '\r' :: v ∧ '\n' ∉ u ∧ P v

/-- The same in a line that has begun with something other than white space, if line feeds alone end
lines. -/
def BehindBegun (P : Text → Prop) (t : Text) : Prop :=
  ∃ front c later, t = front ++ c :: later ∧ isBlank c = false ∧ BehindReturn P later

/-- The same character by character: `begun` says that something other than white space has been read since
the last line feed. -/
def BehindFrom (P : Text → Prop) : Bool → Text → Prop
  | _, [] => False
  | begun, c :: cs =>
    (c = '\r' ∧ begun ∧ P cs) ∨ BehindFrom P (c ≠ '\n' && (begun || !isBlank c)) cs

theorem behindReturn_cons :
    BehindReturn P (c :: t) ↔ c = '\r' ∧ P t ∨ c ≠ '\n' ∧ BehindReturn P t := by
  constructor
  · rintro ⟨u, v, heq, hn, hv⟩
    cases u with
    | nil =>
        cases heq
        exact Or.inl ⟨rfl, hv⟩
    | cons d u =>
        cases heq
        rw [List.mem_cons, not_or] at hn
        exact Or.inr ⟨Ne.symm hn.1, u, v, rfl, hn.2, hv⟩
  · rintro (⟨rfl, hv⟩ | ⟨hc, u, v, rfl, hn, hv⟩)
    · exact ⟨[], t, rfl, List.not_mem_nil, hv⟩
    · exact ⟨c :: u, v, rfl, by simp [Ne.symm hc, hn], hv⟩

theorem behindBegun_cons :
    BehindBegun P (c :: t) ↔ isBlank c = false ∧ BehindReturn P t ∨ BehindBegun P t := by
  constructor
  · rintro ⟨front, d, later, heq, hd, h⟩
    cases front with
    | nil =>
        cases heq
        exact Or.inl ⟨hd, h⟩
    | cons e front =>
        cases heq
        exact Or.inr ⟨front, d, later, rfl, hd, h⟩
  · rintro (⟨hc, h⟩ | ⟨front, d, later, rfl, hd, h⟩)
    · exact ⟨[], c, t, rfl, hc, h⟩
    · exact ⟨c :: front, d, later, rfl, hd, h⟩

theorem behindFrom_iff : BehindFrom P begun t ↔ BehindBegun P t ∨ begun ∧ BehindReturn P t := by
  have hblank : isBlank '\n' = true := by decide
  induction t generalizing begun with
  | nil => simp [BehindFrom, BehindBegun, BehindReturn]
  | cons c t ih =>
      simp only [BehindFrom, ih, behindReturn_cons, behindBegun_cons]
      grind

theorem behindFrom_append (hr : '\r' ∉ u) (hn : '\n' ∉ u) :
    BehindFrom P begun (u ++ v) ↔ BehindFrom P (begun || u.any fun c => !isBlank c) v := by
  induction u generalizing begun with
  | nil => simp
  | cons c u ih =>
      rw [List.mem_cons, not_or] at hr hn
      rw [List.cons_append, BehindFrom, ih hr.2 hn.2]
      simp [Ne.symm hr.1, Ne.symm hn.1, Bool.or_assoc]

end Behind

/-! ### Reducing fields -/

namespace LinePart

/-- Has something other than white space been read since the last line feed? -/
def isBegun : LinePart → Bool
  | start => false
  | indent => false
  | name => true
  | rest => true
  | gone => true

theorem isBegun_next (h : s.next c ≠ .gone) :
    (s.next c).isBegun = (c ≠ '\n' && (s.isBegun || !isBlank c)) := by
  have hblank : isBlank '\n' = true := by decide
  have hword : isWord '\n' = false := by decide
  revert h
  cases s <;> simp only [next] <;> grind [isBegun]

end LinePart

/-- Where a field could begin none is left. -/
theorem not_showsField_collapseFrom (hs : s = .start ∨ s = .indent) (t : Text) :
    ¬ ShowsField (collapseFrom s t) := by
  rintro ⟨u, behind, heq, indent, name, rfl, hne, hi, hn⟩
  have hblank : ∀ c ∈ indent, isBlank c := by
    intro c hc
    rcases hi c hc with rfl | rfl <;> decide
  have hreduced : collapseFrom s (indent ++ (name ++ ':' :: behind)) =
      indent ++ (name ++ collapseFrom .gone behind) := by
    rcases hs with rfl | rfl
    · rw [collapseFrom_start hne hblank, collapseFrom_indent hn,
        collapseFrom_dropped LinePart.next_name_colon]
    · rw [collapseFrom_run (by decide) (fun c hc => LinePart.next_indent_of_isBlank (hblank c hc)),
        collapseFrom_indent hn, collapseFrom_dropped LinePart.next_name_colon]
  -- A second run changes nothing, and yet it would drop the colon.
  have hagain : collapseFrom s (collapseFrom s t) = collapseFrom s t :=
    collapseFrom_collapseFrom (Or.inl ⟨rfl, by rcases hs with rfl | rfl <;> decide⟩) t
  rw [heq, List.append_assoc, hreduced] at hagain
  have hlength := congrArg List.length hagain
  have hle := (collapseFrom_sublist .gone behind).length_le
  simp only [List.length_append, List.length_cons] at hlength
  omega

theorem showsField_collapseFrom_rest : ShowsField (collapseFrom .rest t) ↔ ShowsField t := by
  refine BeginAlike.showsField_iff fun w _ hn => ⟨prefix_of_prefix_collapseFrom hn, ?_⟩
  rintro ⟨v, rfl⟩
  rw [collapseFrom_rest hn]
  exact List.prefix_append _ _

/-- What is left of fields is shown behind carriage returns, in lines that have begun before. -/
theorem shownBehind_collapseFrom : ShownBehind (collapseFrom s t) ↔ BehindFrom ShowsField s.isBegun t := by
  induction t generalizing s with
  | nil => cases s <;> rfl
  | cons c t ih =>
      by_cases hs : s.next c = .gone
      · have hbegun : s.isBegun = true ∧ c ≠ '\r' ∧ c ≠ '\n' := by
          rcases LinePart.next_eq_gone.mp hs with ⟨rfl, rfl⟩ | ⟨rfl, hn, hr⟩
          · exact ⟨rfl, by decide, by decide⟩
          · exact ⟨rfl, hr, hn⟩
        have hgone : LinePart.gone.isBegun = true := rfl
        rw [collapseFrom_dropped hs, ih, BehindFrom, hgone]
        simp [hbegun]
      · have hshows : (c = '\r' ∨ c = '\n') ∧ ShowsField (collapseFrom (s.next c) t) ↔
            c = '\r' ∧ s.isBegun ∧ ShowsField t := by
          -- A line feed leads to where no field is left, a carriage return does so in white space only.
          by_cases hn : c = '\n'
          · subst hn
            have hstart : s.next '\n' = .start ∨ s.next '\n' = .indent := by cases s <;> decide
            simp [not_showsField_collapseFrom hstart]
          · by_cases hr : c = '\r'
            · subst hr
              have hreturn : (s = .start ∨ s = .indent) ∧ s.next '\r' = .indent ∨
                  s.isBegun ∧ s.next '\r' = .rest := by
                cases s <;> decide
              rcases hreturn with ⟨hstart, hnext⟩ | ⟨hbegun, hnext⟩
              · have hnot : s.isBegun = false := by rcases hstart with rfl | rfl <;> rfl
                simp [hnext, not_showsField_collapseFrom (Or.inr rfl), hnot]
              · simp [hnext, showsField_collapseFrom_rest, hbegun]
            · simp [hn, hr]
        rw [collapseFrom_kept rfl hs, ShownBehind, hshows, ih, LinePart.isBegun_next hs, BehindFrom]

/-! ### Expanding references -/

theorem showsField_expandReferences : ShowsField (expandReferences newline t) ↔ ShowsScalar t := by
  constructor
  · rintro ⟨u, behind, heq, hu⟩
    have hcolon : ':' ∉ u := hu.not_mem (by decide) (by decide)
    have hprefix : u ++ [':'] <+: t := by
      have hbrace : '\x7b' ∉ u ++ [':'] := by simpa using hu.not_mem (by decide) (by decide)
      have hbegins : u ++ [':'] <+: expandReferences newline t := ⟨behind, by simp [heq]⟩
      exact prefix_of_prefix_expandReferences hbrace (by simp) hbegins
    obtain ⟨rest, rfl⟩ := hprefix
    rw [List.append_assoc, expandReferences_append hcolon] at heq
    refine ⟨u, rest, by simp, hu, ?_⟩
    cases hread : reference? (':' :: rest) with
    | none => rfl
    | some found =>
        obtain ⟨front, later, hsplit, -, hr⟩ := exists_refers hread
        have hexpanded := List.append_cancel_left heq
        rw [List.singleton_append, hsplit, expandReferences_refers hr] at hexpanded
        cases hexpanded
  · rintro ⟨u, behind, rfl, hu, hnone⟩
    have hcolon : ':' ∉ u := hu.not_mem (by decide) (by decide)
    rw [expandReferences_append hcolon, expandReferences_cons hnone]
    exact ⟨u, _, rfl, hu⟩

theorem behindFrom_newline (hn : IsNewline newline) :
    BehindFrom ShowsField begun (newline ++ v) ↔ BehindFrom ShowsField false v := by
  rcases hn with rfl | rfl
  · simp [BehindFrom]
  · simp [BehindFrom, not_showsField_cons]

theorem behindFrom_expandReferences (hn : IsNewline newline) :
    BehindFrom ShowsField begun (expandReferences newline t) ↔ BehindFrom ShowsScalar begun t := by
  induction t using reference_induction generalizing begun with
  | nil => rfl
  | refers u entity behind hr ih =>
      have hreturn : '\r' ∉ u := hr.not_mem (by decide) (by decide)
      have hfeed : '\n' ∉ u := hr.newline_not_mem
      have hcolon : (u.any fun c => !isBlank c) = true := by
        obtain ⟨opening, closing, rfl⟩ := hr.shape
        exact List.any_eq_true.mpr ⟨':', List.mem_cons_self, by decide⟩
      have hentity : '\r' ∉ ("    ..." ++ entity : Text) ∧ '\n' ∉ ("    ..." ++ entity : Text) := by
        have hreturn : '\r' ∉ entity :=
          Text.not_mem_of_forall (isIdentifier_iff.mp hr.name).2 (by decide)
        simp [hreturn, newline_not_mem_of_isIdentifier hr.name]
      have hspread : spread newline entity ++ expandReferences newline behind =
          " \x7b" ++ (newline ++ (("    ..." ++ entity) ++ (newline ++ ("  \x7d" ++
            expandReferences newline behind)))) := by
        unfold spread
        simp
      have hclosing : (("  \x7d" : Text).any fun c => !isBlank c) = true := by decide
      rw [expandReferences_refers hr, hspread, behindFrom_append (by decide) (by decide),
        behindFrom_newline hn, behindFrom_append hentity.1 hentity.2, behindFrom_newline hn,
        behindFrom_append (by decide) (by decide), hclosing, Bool.or_true, ih,
        behindFrom_append hreturn hfeed, hcolon, Bool.or_true]
  | cons c cs hc ih => rw [expandReferences_cons hc, BehindFrom, BehindFrom, showsField_expandReferences, ih]

/-! ### The lines of fragments -/

/-- A field that is no reference stands behind a carriage return, in a line that has begun before if line
feeds alone end lines. -/
def Overlooked (t : Text) : Prop := BehindBegun ShowsScalar t

theorem overlooked_headerOf (hi : isIdentifier entity) (t : Text) :
    Overlooked (dropRequired (headerOf (entity ++ "Gql") ++ t)) ↔
      BehindFrom ShowsScalar true (dropRequired t) := by
  have hreturn : '\r' ∉ headerOf (entity ++ "Gql") :=
    not_mem_headerOf_entity hi (by decide) (by decide) (by decide)
  have hfeed : '\n' ∉ headerOf (entity ++ "Gql") :=
    not_mem_headerOf_entity hi (by decide) (by decide) (by decide)
  have hbegun : ((headerOf (entity ++ "Gql")).any fun c => !isBlank c) = true :=
    List.any_eq_true.mpr ⟨'\x7b', List.mem_append_right _ (by decide), by decide⟩
  have hfrom : BehindFrom ShowsScalar false (headerOf (entity ++ "Gql") ++ dropRequired t) ↔
      Overlooked (headerOf (entity ++ "Gql") ++ dropRequired t) := by
    rw [behindFrom_iff]
    simp [Overlooked]
  rw [dropRequired_headerOf hi, ← hfrom, behindFrom_append hreturn hfeed, hbegun]
  rfl

/-- No line of the fragment of a declaration shows a field with its colon if and only if no field of the
declaration is overlooked. -/
theorem lines_fragmentOf_iff {p : Patterns} {schema : Text} {ds : List Declaration} {d : Declaration}
    (hp : Patterns.compile Patterns.defaultBlock Patterns.defaultName = .ok p)
    (hx : p.extract schema = .ok ds) (hd : d ∈ ds) :
    (∀ line ∈ (fragmentOf d.block).lines, ¬ ShowsField line) ↔ ¬ Overlooked (dropRequired d.block) := by
  cases Patterns.compile_default.symm.trans hp
  cases (Patterns.extract_standard schema).symm.trans hx
  obtain ⟨hne, hw, c, u, hb⟩ := exists_of_mem_declarationsFrom hd
  have hi := isIdentifier_iff.mpr ⟨hne, hw⟩
  have hreturn : '\r' ∉ fragmentHeader d.entity :=
    not_mem_fragmentHeader hi (by decide) (by decide) (by decide)
  have hfeed : '\n' ∉ fragmentHeader d.entity :=
    not_mem_fragmentHeader hi (by decide) (by decide) (by decide)
  have hheader (v : Text) : ¬ ShowsField (fragmentHeader d.entity ++ v) :=
    not_showsField_cons (c := 'f') (by decide) _
  have hsome : (∃ line ∈ (fragmentOf d.block).lines, ShowsField line) ↔
      Overlooked (dropRequired d.block) := by
    rw [hb, exists_line_iff, fragmentOf_headerOf hi, or_iff_right (hheader _),
      shownBehind_append hreturn hfeed, overlooked_headerOf hi]
    exact shownBehind_collapseFrom.trans (behindFrom_expandReferences (isNewline_newlineOf _))
  rw [← hsome]
  simp only [not_exists, not_and]

/-- The lines of a declaration end in carriage returns, and the line of its field is taken for a part of
that of its header. -/
theorem field_overlooked_behind_return :
    ∃ p, Patterns.compile Patterns.defaultBlock Patterns.defaultName = .ok p ∧
      p.extract "type AGql \x7b\r  id: Int\r\x7d\r" = .ok [⟨"A", "type AGql \x7b\r  id: Int\r\x7d"⟩] ∧
      fragmentOf "type AGql \x7b\r  id: Int\r\x7d" = "fragment A on AGql \x7b\r  id: Int\r\x7d" ∧
      ¬ ∀ line ∈ (fragmentOf "type AGql \x7b\r  id: Int\r\x7d").lines, ¬ ShowsField line := by
  have hextract : Patterns.standard.extract "type AGql \x7b\r  id: Int\r\x7d\r" =
      .ok [⟨"A", "type AGql \x7b\r  id: Int\r\x7d"⟩] := ok_of_toOption (by decide)
  have hscalar : ShowsScalar "  id: Int\r\x7d" :=
    ⟨"  id", " Int\r\x7d", by decide,
      ⟨"  ", "id", by decide, by decide, forall_mem_of_all (by decide), by decide⟩, by decide⟩
  have hoverlooked : Overlooked (dropRequired "type AGql \x7b\r  id: Int\r\x7d") :=
    ⟨"type AGql ", '\x7b', "\r  id: Int\r\x7d", by decide, by decide, [], _, rfl, by decide, hscalar⟩
  have hiff := lines_fragmentOf_iff Patterns.compile_default hextract List.mem_cons_self
  refine ⟨Patterns.standard, Patterns.compile_default, hextract, by decide, ?_⟩
  exact fun h => hiff.mp h hoverlooked

end SchemaFragments
