import SchemaFragments.Proofs.Extraction.Names

/-! # Schemas that go on

A line that is put behind a schema leaves alone what has been read in the schema: no header goes on behind
a line feed (`header?_append_line`), and a brace at the end of the text is at the end of its line as well
(`closing?_append_line`).  A header that has no end in the schema may find one further on, but nothing is
declared behind it until then.  So the declarations of the schema come first among those of the longer one
(`declarationsFrom_append_line`, `extract_append_line`). -/

namespace SchemaFragments

variable {t u v inside behind : Text} {before : Option Char}

namespace Scan

/-! ### Headers -/

/-- A text without line feeds that begins a longer text begins its first lines. -/
theorem prefix_append_line_iff (h : '\n' ∉ u) : u <+: t ++ '\n' :: v ↔ u <+: t := by
  refine ⟨fun hu => ?_, fun hu => hu.trans (List.prefix_append _ _)⟩
  rcases prefix_append_cases hu with hu | ⟨rest, rfl, hrest⟩
  · exact hu
  · cases rest with
    | nil => simp
    | cons c rest =>
        rw [(List.cons_prefix_cons.mp hrest).1] at h
        exact absurd (List.mem_append_right t List.mem_cons_self) h

theorem header?_append_line (t v : Text) :
    header? (t ++ '\n' :: v) = (header? t).map fun found => (found.1, found.2 ++ '\n' :: v) := by
  cases h : header? t with
  | some found =>
      obtain ⟨rfl, hw, hl, hg⟩ := header?_eq_some.mp h
      rw [List.append_assoc]
      exact header?_headerOf hw hl hg _
  | none => exact header?_eq_none_of_prefix h fun u hn _ => (prefix_append_line_iff hn).mp

theorem begins?_append_line (h : t ≠ []) (v : Text) :
    begins? before (t ++ '\n' :: v) =
      (begins? before t).map fun found => (found.1, found.2 ++ '\n' :: v) := by
  unfold begins?
  rw [List.head?_append_of_ne_nil _ h, header?_append_line]
  split
  · rfl
  · rfl

/-! ### Bodies -/

theorem endsLine_append_line (t v : Text) : endsLine (t ++ '\n' :: v).head? = endsLine t.head? := by
  cases t with
  | nil => rfl
  | cons c t => rfl

theorem closing?_append_line (h : closing? t = some (inside, behind)) (v : Text) :
    closing? (t ++ '\n' :: v) = some (inside, behind ++ '\n' :: v) := by
  induction t generalizing inside with
  | nil => cases h
  | cons c t ih =>
      rw [closing?] at h
      rw [List.cons_append, closing?, endsLine_append_line]
      split at h
      · next hend =>
          cases h
          rw [if_pos hend]
      · next hgo =>
          obtain ⟨⟨inside', behind'⟩, hf, heq⟩ := Option.map_eq_some_iff.mp h
          cases heq
          rw [if_neg hgo, ih hf]
          rfl

theorem inside?_append_line (h : inside? t = some (inside, behind)) (v : Text) :
    inside? (t ++ '\n' :: v) = some (inside, behind ++ '\n' :: v) := by
  cases t with
  | nil => cases h
  | cons c t =>
      obtain ⟨⟨inside', behind'⟩, hf, heq⟩ := Option.map_eq_some_iff.mp h
      cases heq
      rw [List.cons_append, inside?, closing?_append_line hf]
      rfl

/-! ### Declarations -/

/-- What the scan reads in a text it reads as well when a line feed and more text come behind it. -/
theorem declarationsFrom_append_line (before : Option Char) (t v : Text) :
    declarationsFrom before t <+: declarationsFrom before (t ++ '\n' :: v) := by
  fun_induction declarationsFrom before t with
  | case1 before => exact List.nil_prefix
  | case2 before c rest hh ih =>
      have hnone : begins? before (c :: (rest ++ '\n' :: v)) = none := by
        rw [← List.cons_append, begins?_append_line (List.cons_ne_nil c rest), hh]
        rfl
      rw [List.cons_append, declarationsFrom_cons hnone]
      exact ih
  | case3 before c rest word behindBrace hh hi => exact List.nil_prefix
  | case4 before c rest word behindBrace hh inside behind hi ih =>
      have hbegins : begins? before (c :: rest ++ '\n' :: v) = some (word, behindBrace ++ '\n' :: v) := by
        rw [begins?_append_line (List.cons_ne_nil c rest), hh]
        rfl
      rw [declarationsFrom_of_begins? hbegins (inside?_append_line hi v), List.cons_prefix_cons]
      exact ⟨rfl, ih⟩

end Scan

/-- By the default patterns, the declarations of a schema are extracted first when a line feed and any other
text come behind the schema. -/
theorem extract_append_line :
    ∃ p, Patterns.compile Patterns.defaultBlock Patterns.defaultName = .ok p ∧
      ∀ s t : Text, ∃ ds later, p.extract s = .ok ds ∧ p.extract (s ++ '\n' :: t) = .ok (ds ++ later) := by
  refine ⟨Patterns.standard, Patterns.compile_default, fun s t => ?_⟩
  obtain ⟨later, hlater⟩ := Scan.declarationsFrom_append_line none s t
  refine ⟨Scan.declarations s, later, Patterns.extract_standard s, ?_⟩
  rw [Patterns.extract_standard, Scan.declarations, ← hlater]
  rfl

end SchemaFragments
