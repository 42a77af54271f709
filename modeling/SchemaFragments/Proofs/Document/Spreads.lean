import SchemaFragments.Document.Operation
import SchemaFragments.Proofs.Document.Rendered
import SchemaFragments.Proofs.Unicode.Case

/-! # The fragments that a document spreads

`spreads` gives the names behind the three dots in a document.  In a fragment they are the entities of
the references that are read in the declaration, in their order (`Spreading`); in an operation there
is one, the entity of the operation (`spreads_saveMutation`, `spreads_byIdQuery`). -/

namespace SchemaFragments

variable {t u v w behind entity newline name : Text} {c d : Char} {cs : Text} {s : LinePart}
  {names : List Text}

/-- The words behind three dots. -/
def spreads : Text → List Text
  | [] => []
  | c :: cs =>
    if ("..." : Text).isPrefixOf (c :: cs) then (cs.drop 2).takeWhile isWord :: spreads cs else spreads cs

theorem spreads_cons (h : ¬ ("..." : Text) <+: c :: cs) : spreads (c :: cs) = spreads cs := by
  rw [spreads, if_neg (mt List.isPrefixOf_iff_prefix.mp h)]

theorem spreads_cons_of_ne (h : c ≠ '.') : spreads (c :: cs) = spreads cs := by
  apply spreads_cons
  rintro ⟨u, hu⟩
  exact h (List.cons.inj hu).1.symm

theorem spreads_append (h : '.' ∉ u) : spreads (u ++ v) = spreads v := by
  induction u with
  | nil => rfl
  | cons c u ih =>
      rw [List.mem_cons, not_or] at h
      rw [List.cons_append, spreads_cons_of_ne (Ne.symm h.1), ih h.2]

theorem dot_not_mem (h : ∀ c ∈ name, isWord c) : '.' ∉ name :=
  Text.not_mem_of_forall h (by decide)

/-- Three dots and a name that ends there. -/
theorem spreads_dots (hi : isIdentifier name) (hv : v.takeWhile isWord = []) :
    spreads ("..." ++ (name ++ v)) = name :: spreads v := by
  obtain ⟨hne, hw⟩ := isIdentifier_iff.mp hi
  have habsent := dot_not_mem hw
  have hlater : spreads ('.' :: '.' :: (name ++ v)) = spreads v := by
    obtain ⟨c, name, rfl⟩ := List.exists_cons_of_ne_nil hne
    have hc : c ≠ '.' := fun h => habsent (h ▸ List.mem_cons_self)
    rw [spreads_cons, spreads_cons, spreads_append habsent]
    · rintro ⟨x, hx⟩
      exact hc (List.cons.inj (List.cons.inj hx).2).1.symm
    · rintro ⟨x, hx⟩
      exact hc (List.cons.inj (List.cons.inj (List.cons.inj hx).2).2).1.symm
  have hdots : ("..." : Text).isPrefixOf ('.' :: '.' :: '.' :: (name ++ v)) = true :=
    List.isPrefixOf_iff_prefix.mpr ⟨name ++ v, rfl⟩
  change spreads ('.' :: '.' :: '.' :: (name ++ v)) = _
  rw [spreads, if_pos hdots, hlater]
  change (name ++ v).takeWhile isWord :: _ = _
  rw [List.takeWhile_append_of_pos hw, hv, List.append_nil]

/-! ### Fragments -/

theorem spreads_selection (hn : IsNewline newline) (hi : isIdentifier entity) (v : Text) :
    spreads (selection newline entity ++ v) = entity :: spreads v := by
  have hnot : '.' ∉ newline := by rcases hn with rfl | rfl <;> decide
  have hstop : (newline ++ ("  \x7d" ++ v)).takeWhile isWord = [] := by
    have hbreaks : ¬ isWord '\n' = true ∧ ¬ isWord '\r' = true := by decide
    rcases hn with rfl | rfl
    · exact List.takeWhile_cons_of_neg hbreaks.1
    · exact List.takeWhile_cons_of_neg hbreaks.2
  have hblanks (x : Text) : spreads ("    ..." ++ x) = spreads ("..." ++ x) :=
    @spreads_append "    " ("..." ++ x) (by decide)
  have hclose : spreads ("  \x7d" ++ v) = spreads v := spreads_append (by decide)
  unfold selection
  simp only [List.append_assoc]
  rw [spreads_append hnot, hblanks, spreads_dots hi hstop, spreads_append hnot, hclose]

/-- What becomes of a text spreads some fragments, whatever the part of the line it begins in. -/
def Spreading (newline t : Text) (names : List Text) : Prop :=
  ∀ s, spreads (rendered newline s t) = names

namespace Spreading

theorem nil (newline : Text) : Spreading newline [] [] := fun s => by
  rw [rendered_nil]
  rfl

theorem refers (hn : IsNewline newline) (hr : Refers u entity behind)
    (h : Spreading newline behind names) : Spreading newline (u ++ behind) (entity :: names) := by
  intro s
  by_cases hs : s = .gone
  · subst hs
    rw [rendered_refers_gone hn hr, spreads_selection hn hr.name, h]
  · have hbrace (x : Text) : spreads (" \x7b" ++ x) = spreads x := spreads_append (by decide)
    rw [rendered_refers hn hr hs, spread_eq, List.append_assoc, hbrace, spreads_selection hn hr.name, h]

theorem cons (hr : reference? (c :: cs) = none) (hc : c ≠ '.') (h : Spreading newline cs names) :
    Spreading newline (c :: cs) names := by
  intro s
  by_cases hs : s.next c = .gone
  · rw [rendered_cons_gone hr hs, h]
  · rw [rendered_cons hr hs, spreads_cons_of_ne hc, h]

/-- Text without references and dots. -/
theorem run (hcolon : ':' ∉ u) (hdot : '.' ∉ u) (h : Spreading newline v names) :
    Spreading newline (u ++ v) names := by
  induction u with
  | nil => exact h
  | cons c u ih =>
      rw [List.mem_cons, not_or] at hcolon hdot
      exact cons (reference?_of_ne (Ne.symm hcolon.1) _) (Ne.symm hdot.1) (ih hcolon.2 hdot.2)

end Spreading

/-! ### Operations -/

theorem dot_not_mem_decapitalized (h : '.' ∉ t) : '.' ∉ decapitalized t := by
  cases t with
  | nil => exact h
  | cons c t =>
      rw [List.mem_cons, not_or] at h
      unfold decapitalized
      rw [List.mem_append, not_or]
      refine ⟨fun hc => ?_, h.2⟩
      rcases mem_lowerChar_cases hc with heq | hcode
      · exact h.1 heq
      · exact absurd hcode (by decide)

/-- The last lines of an operation, from its selection on. -/
theorem spreads_lastLines (hi : isIdentifier entity) (hu : '.' ∉ u) :
    spreads (u ++ ("..." ++ (entity ++ "\n  \x7d\n\x7d"))) = [entity] := by
  have hstop : ("\n  \x7d\n\x7d" : Text).takeWhile isWord = [] := by decide
  have hlast : spreads "\n  \x7d\n\x7d" = [] := by decide
  rw [spreads_append hu, spreads_dots hi hstop, hlast]

theorem spreads_saveMutation (hi : isIdentifier entity) : spreads (saveMutation entity) = [entity] := by
  have hw := (isIdentifier_iff.mp hi).2
  have hdot := dot_not_mem hw
  have hlower := dot_not_mem_decapitalized hdot
  have hname : '.' ∉ mutationName entity := by
    unfold mutationName
    simp [hdot]
  have hnameLower := dot_not_mem_decapitalized hname
  unfold saveMutation
  simp only [List.append_assoc]
  rw [spreads_append (by decide), spreads_append hname, spreads_append (by decide),
    spreads_append hlower, spreads_append (by decide), spreads_append hdot, spreads_append (by decide),
    spreads_append (by decide), spreads_append hnameLower, spreads_append (by decide),
    spreads_append hlower, spreads_append (by decide), spreads_append hlower]
  exact @spreads_lastLines ") \x7b\n    " entity hi (by decide)

theorem spreads_byIdQuery (hi : isIdentifier entity) : spreads (byIdQuery entity) = [entity] := by
  have hw := (isIdentifier_iff.mp hi).2
  have hdot := dot_not_mem hw
  have hlower := dot_not_mem_decapitalized hdot
  unfold byIdQuery queryName
  simp only [List.append_assoc]
  rw [spreads_append (by decide), spreads_append hdot, spreads_append (by decide),
    spreads_append hlower]
  exact @spreads_lastLines "(id: $id) \x7b\n    " entity hi (by decide)

end SchemaFragments
