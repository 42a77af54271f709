import SchemaFragments.Proofs.Extraction.Scan

/-! # Line ends with a carriage return

`Text.withReturns` puts a carriage return in front of every line feed.  The scan reads the same
declarations then, with their blocks changed in the same way (`declarations_withReturns`): no header has
a line end in it, and a line that ended before a line feed ends before the carriage return. -/

namespace SchemaFragments

variable {c : Char} {t u v : Text}

namespace Text

/-- The text with a carriage return in front of every line feed. -/
def withReturns (t : Text) : Text := t.flatMap fun c => if c = '\n' then ['\r', '\n'] else [c]

@[simp] theorem withReturns_nil : withReturns [] = [] := rfl

@[simp] theorem withReturns_newline (t : Text) : withReturns ('\n' :: t) = '\r' :: '\n' :: withReturns t :=
  rfl

theorem withReturns_cons (hc : c ≠ '\n') (t : Text) : withReturns (c :: t) = c :: withReturns t := by
  unfold withReturns
  rw [List.flatMap_cons, if_neg hc, List.singleton_append]

theorem withReturns_append (t u : Text) : withReturns (t ++ u) = withReturns t ++ withReturns u :=
  List.flatMap_append

theorem withReturns_eq_self (h : '\n' ∉ t) : withReturns t = t := by
  induction t with
  | nil => rfl
  | cons c t ih =>
      rw [List.mem_cons, not_or] at h
      rw [withReturns_cons (Ne.symm h.1), ih h.2]

/-- A line without its end stays as it is in front of a text. -/
theorem withReturns_line (h : '\n' ∉ u) (t : Text) : withReturns (u ++ t) = u ++ withReturns t := by
  rw [withReturns_append, withReturns_eq_self h]

/-- A text without line ends is in front if it was in front before. -/
theorem prefix_withReturns_iff (hn : '\n' ∉ u) (hr : '\r' ∉ u) : u <+: withReturns t ↔ u <+: t := by
  induction u generalizing t with
  | nil => simp
  | cons c u ih =>
      rw [List.mem_cons, not_or] at hn hr
      cases t with
      | nil => simp
      | cons d t =>
          by_cases hd : d = '\n'
          · subst hd
            rw [withReturns_newline, List.cons_prefix_cons, List.cons_prefix_cons]
            constructor
            · rintro ⟨rfl, -⟩
              exact absurd rfl hr.1
            · rintro ⟨rfl, -⟩
              exact absurd rfl hn.1
          · rw [withReturns_cons hd, List.cons_prefix_cons, List.cons_prefix_cons, ih hn.2 hr.2]

/-- A character that ends no line is the first one if it was the first one before. -/
theorem head?_withReturns_iff (hn : c ≠ '\n') (hr : c ≠ '\r') :
    (withReturns t).head? = some c ↔ t.head? = some c := by
  have hprefix (t : Text) : [c] <+: t ↔ t.head? = some c := by
    cases t with
    | nil => simp
    | cons d t => simp [List.cons_prefix_cons, eq_comm]
  rw [← hprefix, ← hprefix]
  exact prefix_withReturns_iff (by simpa using hn.symm) (by simpa using hr.symm)

/-- No line feed is left without a carriage return in front of it, so none is the first character. -/
theorem head?_withReturns_ne (t : Text) : (withReturns t).head? ≠ some '\n' := by
  cases t with
  | nil => simp
  | cons c t =>
      by_cases hc : c = '\n'
      · subst hc
        simp
      · rw [withReturns_cons hc]
        simpa using hc

end Text

open Text

/-- The declaration with a carriage return in front of every line feed. -/
def Declaration.withReturns (d : Declaration) : Declaration := { d with block := Text.withReturns d.block }

namespace Scan

variable {word inside : Text} {before : Option Char}

/-! ### Headers -/

theorem header?_of_ne (hc : c ≠ 't') (t : Text) : header? (c :: t) = none := by
  cases h : header? (c :: t) with
  | none => rfl
  | some found =>
      obtain ⟨ht, -⟩ := header?_eq_some.mp h
      exact absurd (List.cons.inj ht).1 hc

theorem begins?_of_ne (hc : c ≠ 't') (t : Text) : begins? before (c :: t) = none := by
  unfold begins?
  rw [header?_of_ne hc, ite_self]

theorem header?_withReturns (t : Text) :
    header? (withReturns t) = (header? t).map fun found => (found.1, withReturns found.2) := by
  cases h : header? t with
  | some found =>
      obtain ⟨rfl, hw, hl, hg⟩ := header?_eq_some.mp h
      rw [withReturns_line (newline_not_mem_headerOf hw)]
      exact header?_headerOf hw hl hg _
  | none => exact header?_eq_none_of_prefix h fun u hn hr => (prefix_withReturns_iff hn hr).mp

theorem begins?_withReturns (before : Option Char) (t : Text) :
    begins? before (withReturns t) = (begins? before t).map fun found => (found.1, withReturns found.2) := by
  cases t with
  | nil => simp
  | cons c t =>
      by_cases hc : c = '\n'
      · subst hc
        rw [withReturns_newline, begins?_of_ne (by decide), begins?_of_ne (by decide)]
        rfl
      · have hhead : (withReturns (c :: t)).head? = (c :: t).head? := by
          rw [withReturns_cons hc]
          rfl
        unfold begins?
        rw [hhead, header?_withReturns]
        split
        · rfl
        · rfl

/-! ### Bodies -/

theorem endsLine_withReturns (t : Text) : endsLine (withReturns t).head? = endsLine t.head? := by
  cases t with
  | nil => rfl
  | cons c t =>
      by_cases hc : c = '\n'
      · subst hc
        rfl
      · rw [withReturns_cons hc]
        rfl

theorem closing?_newline (t : Text) :
    closing? ('\r' :: '\n' :: t) = (closing? t).map fun found => ('\r' :: '\n' :: found.1, found.2) := by
  have hreturn : ¬ ('\r' = '\x7d' ∧ endsLine ('\n' :: t).head?) := fun h => absurd h.1 (by decide)
  have hfeed : ¬ ('\n' = '\x7d' ∧ endsLine t.head?) := fun h => absurd h.1 (by decide)
  rw [closing?, if_neg hreturn, closing?, if_neg hfeed, Option.map_map]
  rfl

theorem closing?_withReturns (t : Text) :
    closing? (withReturns t) =
      (closing? t).map fun found => (withReturns found.1, withReturns found.2) := by
  induction t with
  | nil => rfl
  | cons c t ih =>
      by_cases hc : c = '\n'
      · subst hc
        have hfeed : ¬ ('\n' = '\x7d' ∧ endsLine t.head?) := fun h => absurd h.1 (by decide)
        rw [withReturns_newline, closing?_newline, ih, closing?, if_neg hfeed, Option.map_map,
          Option.map_map]
        rfl
      · rw [withReturns_cons hc, closing?, closing?, endsLine_withReturns]
        split
        · next hend =>
            rw [hend.1]
            rfl
        · rw [ih, Option.map_map, Option.map_map]
          refine congrArg (Option.map · (closing? t)) (funext fun found => ?_)
          simp [withReturns_cons hc]

theorem inside?_withReturns (t : Text) :
    inside? (withReturns t) =
      (inside? t).map fun found => (withReturns found.1, withReturns found.2) := by
  cases t with
  | nil => rfl
  | cons c t =>
      by_cases hc : c = '\n'
      · subst hc
        have hfeed : ¬ ('\n' = '\x7d' ∧ endsLine (withReturns t).head?) :=
          fun h => absurd h.1 (by decide)
        rw [withReturns_newline, inside?, closing?, if_neg hfeed, closing?_withReturns, inside?]
        simp only [Option.map_map]
        rfl
      · rw [withReturns_cons hc, inside?, inside?, closing?_withReturns, Option.map_map, Option.map_map]
        refine congrArg (Option.map · (closing? t)) (funext fun found => ?_)
        simp [withReturns_cons hc]

/-! ### Declarations -/

theorem declarationOf_withReturns (hw : ∀ c ∈ word, isWord c) (inside : Text) :
    declarationOf word (withReturns inside) = (declarationOf word inside).withReturns := by
  unfold declarationOf Declaration.withReturns
  rw [withReturns_line (newline_not_mem_headerOf hw)]

/-- A line feed behind a carriage return starts the next line just as one alone does. -/
theorem declarationsFrom_withReturns (before : Option Char) (t : Text) :
    declarationsFrom before (withReturns t) =
      (declarationsFrom before t).map Declaration.withReturns := by
  fun_induction declarationsFrom before t with
  | case1 before => rw [withReturns_nil, declarationsFrom, List.map_nil]
  | case2 before c rest hh ih =>
      -- Neither the carriage return nor the line feed begins a header, and behind both of them the
      -- scan is where it was behind the line feed.
      by_cases hc : c = '\n'
      · subst hc
        rw [withReturns_newline, declarationsFrom_cons (begins?_of_ne (by decide) _),
          declarationsFrom_cons (begins?_of_ne (by decide) _), ih]
      · have hnone : begins? before (c :: withReturns rest) = none := by
          rw [← withReturns_cons hc, begins?_withReturns, hh]
          rfl
        rw [withReturns_cons hc, declarationsFrom_cons hnone, ih]
  | case3 before c rest word behindBrace hh hi =>
      have hbegins : begins? before (withReturns (c :: rest)) = some (word, withReturns behindBrace) := by
        rw [begins?_withReturns, hh]
        rfl
      have hinside : inside? (withReturns behindBrace) = none := by
        rw [inside?_withReturns, hi]
        rfl
      rw [declarationsFrom_of_inside?_eq_none hbegins hinside, List.map_nil]
  | case4 before c rest word behindBrace hh inside behind hi ih =>
      have hbegins : begins? before (withReturns (c :: rest)) = some (word, withReturns behindBrace) := by
        rw [begins?_withReturns, hh]
        rfl
      have hinside : inside? (withReturns behindBrace) = some (withReturns inside, withReturns behind) := by
        rw [inside?_withReturns, hi]
        rfl
      obtain ⟨-, hw, -⟩ := header?_eq_some.mp (begins?_eq_some.mp hh).2
      rw [declarationsFrom_of_begins? hbegins hinside, ih, declarationOf_withReturns hw, List.map_cons]

/-- The declarations are the same ones, with a carriage return in front of every line feed. -/
theorem declarations_withReturns (schema : Text) :
    declarations (withReturns schema) = (declarations schema).map Declaration.withReturns :=
  declarationsFrom_withReturns none schema

end Scan

end SchemaFragments
