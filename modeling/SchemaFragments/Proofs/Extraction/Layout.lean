import SchemaFragments.Proofs.Extraction.Names

/-! # Schemas that are written one type after the other

`LaidOut` says that a text consists of types, each from the start of a line to the end of a line and
without a closing brace between its braces, with texts between them that contain no header at the
start of a line.  Extraction gives one declaration for each of these types, in their order, if and
only if something stands between the braces of every one of them (`extract_laidOut`): a pair of
braces with nothing in it does not end a declaration (`empty_braces_swallow_next`). -/

namespace SchemaFragments

open Scan Regex

/-- A type as it is written in a schema. -/
structure WrittenType where
  entity : Text
  /-- What stands between the braces. -/
  body : Text

namespace WrittenType

/-- The text from `type` to the closing brace. -/
def text (d : WrittenType) : Text := headerOf (d.entity ++ "Gql") ++ (d.body ++ ['\x7d'])

/-- What is to be extracted. -/
def declaration (d : WrittenType) : Declaration := ⟨d.entity, d.text⟩

end WrittenType

/-- No header stands at the start of a line in a text that comes behind a character. -/
def NoHeader (before : Option Char) (t : Text) : Prop :=
  ∀ n < t.length, begins? ((t.take n).getLast?.or before) (t.drop n) = none

instance (before : Option Char) (t : Text) : Decidable (NoHeader before t) :=
  inferInstanceAs (Decidable (∀ n < t.length, _ = none))

/-- The text that comes behind a character consists of some types and texts between them. -/
inductive LaidOut : Option Char → List WrittenType → Text → Prop
  | last {before : Option Char} {t : Text} (clear : NoHeader before t) : LaidOut before [] t
  | type {before : Option Char} {between rest : Text} {d : WrittenType} {ds : List WrittenType}
      (clear : NoHeader before between)
      (line : startsLine (between.getLast?.or before) (some 't'))
      (name : isIdentifier d.entity) (body : '\x7d' ∉ d.body) (ends : endsLine rest.head?)
      (later : LaidOut (some '\x7d') ds rest) : LaidOut before (d :: ds) (between ++ (d.text ++ rest))

/-! ### Between the types -/

variable {before : Option Char} {t between rest : Text} {d : WrittenType} {ds : List WrittenType}

theorem declarationsFrom_append
    (h : ∀ n < between.length, begins? ((between.take n).getLast?.or before)
      (between.drop n ++ rest) = none) :
    declarationsFrom before (between ++ rest) = declarationsFrom (between.getLast?.or before) rest := by
  induction between generalizing before with
  | nil => rfl
  | cons c between ih =>
      have hfirst : begins? before (c :: (between ++ rest)) = none := h 0 (Nat.zero_lt_succ _)
      rw [List.cons_append, declarationsFrom_cons hfirst, getLast?_cons_or]
      apply ih
      intro n hn
      have hnext := h (n + 1) (Nat.succ_lt_succ hn)
      rw [List.take_succ_cons, getLast?_cons_or] at hnext
      exact hnext

theorem not_break_of_mem_headerOf {word : Text} (hw : ∀ c ∈ word, isWord c) {c : Char}
    (hc : c ∈ headerOf word) : c ≠ '\n' ∧ c ≠ '\r' :=
  ⟨ne_of_mem_of_not_mem hc (newline_not_mem_headerOf hw), ne_of_mem_of_not_mem hc (return_not_mem_headerOf hw)⟩

/-- No header begins between two types and reaches into the second, which starts a line. -/
theorem begins?_append (hn : NoHeader before between)
    (hl : startsLine (between.getLast?.or before) (some 't')) {n : Nat} (hlt : n < between.length) :
    begins? ((between.take n).getLast?.or before) (between.drop n ++ rest) = none := by
  have hne : between.drop n ≠ [] := by
    rw [ne_eq, List.drop_eq_nil_iff]
    omega
  cases hb : begins? ((between.take n).getLast?.or before) (between.drop n ++ rest) with
  | none => rfl
  | some found =>
      obtain ⟨hs, hh⟩ := begins?_eq_some.mp hb
      obtain ⟨heq, hw, hlen, hg⟩ := header?_eq_some.mp hh
      rcases List.append_eq_append_iff.mp heq with ⟨u, hhead, -⟩ | ⟨u, hdrop, -⟩
      · -- The header would go on behind the line break at the end of the text.
        have hlast : between.getLast? = some ((between.drop n).getLast hne) := by
          rw [← List.getLast?_eq_some_getLast, List.getLast?_drop, if_neg (by omega)]
        have hmem : (between.drop n).getLast hne ∈ headerOf found.1 := by
          rw [hhead]
          exact List.mem_append_left _ (List.getLast_mem hne)
        generalize (between.drop n).getLast hne = c at hlast hmem
        have hbreak := not_break_of_mem_headerOf hw hmem
        rw [hlast, Option.some_or] at hl
        simp [startsLine, hbreak] at hl
      · have hsome : begins? ((between.take n).getLast?.or before) (between.drop n) =
            some (found.1, u) := by
          rw [List.head?_append_of_ne_nil _ hne] at hs
          exact begins?_eq_some.mpr ⟨hs, header?_eq_some.mpr ⟨hdrop, hw, hlen, hg⟩⟩
        cases (hn n hlt).symm.trans hsome

/-! ### A type -/

theorem begins?_text (hl : startsLine before (some 't')) (hi : isIdentifier d.entity) :
    begins? before (d.text ++ rest) = some (d.entity ++ "Gql", d.body ++ '\x7d' :: rest) := by
  obtain ⟨hne, hw⟩ := isIdentifier_iff.mp hi
  have hlen : 0 < d.entity.length := List.length_pos_iff.mpr hne
  rw [begins?_eq_some, header?_eq_some]
  refine ⟨hl, ?_, fun c => Patterns.isWord_of_mem_word hw, ?_, List.suffix_append _ _⟩
  · unfold WrittenType.text
    rw [List.append_assoc, List.append_assoc]
    rfl
  · rw [List.length_append]
    change 4 ≤ d.entity.length + 3
    omega

theorem declarationsFrom_text (hl : startsLine before (some 't')) (hi : isIdentifier d.entity)
    (hb : '\x7d' ∉ d.body) (hne : d.body ≠ []) (he : endsLine rest.head?) :
    declarationsFrom before (d.text ++ rest) = d.declaration :: declarationsFrom (some '\x7d') rest := by
  obtain ⟨c, u, hu⟩ := List.exists_cons_of_ne_nil hne
  have hinside : inside? (d.body ++ '\x7d' :: rest) = some (d.body ++ ['\x7d'], rest) := by
    rw [hu, List.mem_cons, not_or] at hb
    rw [hu, List.cons_append, inside?, closing?_append hb.2 he]
    rfl
  rw [declarationsFrom_of_begins? (begins?_text hl hi) hinside]
  have hd : declarationOf (d.entity ++ "Gql") (d.body ++ ['\x7d']) = d.declaration := by
    refine congrArg₂ Declaration.mk ?_ rfl
    exact entity_declarationOf d.entity (d.body ++ ['\x7d'])
  rw [hd]

/-- The types of a schema are its declarations if something stands between all their braces. -/
theorem declarationsFrom_laidOut (h : LaidOut before ds t) (hne : ∀ d ∈ ds, d.body ≠ []) :
    declarationsFrom before t = ds.map WrittenType.declaration := by
  induction h with
  | last hn =>
      have hskip := @declarationsFrom_append _ _ [] fun n hlt => by
        rw [List.append_nil]
        exact hn n hlt
      rw [List.append_nil] at hskip
      rw [hskip, declarationsFrom]
      rfl
  | type hn hl hi hb he _ ih =>
      rw [List.forall_mem_cons] at hne
      rw [declarationsFrom_append fun n hlt => begins?_append hn hl hlt,
        declarationsFrom_text hl hi hb hne.1 he, ih hne.2]
      rfl

/-- Two characters at least stand behind the header of a declaration. -/
theorem length_of_mem_declarationsFrom {d : Declaration} (hd : d ∈ declarationsFrom before t) :
    d.entity.length + 12 ≤ d.block.length := by
  obtain ⟨-, -, c, u, hb⟩ := exists_of_mem_declarationsFrom hd
  have hlen := congrArg List.length hb
  rw [List.length_append, length_headerOf, List.length_append, List.length_append, List.length_cons] at hlen
  change d.block.length = d.entity.length + 3 + 7 + (u.length + 1 + 1) at hlen
  omega

/-- Extraction by the default patterns gives the types of a schema, each with its own text and in
their order, if and only if something stands between the braces of every one of them. -/
theorem extract_laidOut {schema : Text} (h : LaidOut none ds schema) :
    ∃ p, Patterns.compile Patterns.defaultBlock Patterns.defaultName = .ok p ∧
      (p.extract schema = .ok (ds.map WrittenType.declaration) ↔ ∀ d ∈ ds, d.body ≠ []) := by
  refine ⟨Patterns.standard, Patterns.compile_default, ?_⟩
  rw [Patterns.extract_standard]
  unfold declarations
  constructor
  · intro heq d hd hnil
    have hmem : d.declaration ∈ declarationsFrom none schema := by
      rw [Except.ok.inj heq]
      exact List.mem_map_of_mem hd
    have hlen := length_of_mem_declarationsFrom hmem
    change d.entity.length + 12 ≤ d.text.length at hlen
    unfold WrittenType.text at hlen
    rw [hnil, List.length_append, length_headerOf, List.length_append] at hlen
    change d.entity.length + 12 ≤ d.entity.length + 3 + 7 + 1 at hlen
    omega
  · intro hne
    rw [declarationsFrom_laidOut h hne]

/-- Two types with other text around them. -/
def twoTypes : List WrittenType := [⟨"A", " id: Int "⟩, ⟨"BGql", "\r\n  a: AGql\r\n"⟩]

/-- A schema that consists of them. -/
def twoTypesSchema : Text :=
  "# \x7b\ntype AGql \x7b id: Int \x7d\n\n\x7d\r\ntype BGqlGql \x7b\r\n  a: AGql\r\n\x7d\r\n"

theorem extract_twoTypes :
    LaidOut none twoTypes twoTypesSchema ∧
      ∃ p, Patterns.compile Patterns.defaultBlock Patterns.defaultName = .ok p ∧
        p.extract twoTypesSchema = .ok (twoTypes.map WrittenType.declaration) := by
  have hlast : LaidOut (some '\x7d') [] "\r\n" := .last (by decide)
  have hsecond := @LaidOut.type (some '\x7d') "\n\n\x7d\r\n" _ ⟨"BGql", "\r\n  a: AGql\r\n"⟩ _
    (by decide) (by decide) (by decide) (by decide) (by decide) hlast
  have hfirst := @LaidOut.type none "# \x7b\n" _ ⟨"A", " id: Int "⟩ _
    (by decide) (by decide) (by decide) (by decide) (by decide) hsecond
  obtain ⟨p, hp, hiff⟩ := extract_laidOut hfirst
  exact ⟨hfirst, p, hp, hiff.mpr (by decide)⟩

/-- A type with nothing between its braces, and then another one. -/
def emptyThenFull : List WrittenType := [⟨"A", ""⟩, ⟨"B", "\n  id: Int\n"⟩]

/-- A schema that consists of them. -/
def emptyThenFullSchema : Text := "type AGql \x7b\x7d\n\ntype BGql \x7b\n  id: Int\n\x7d\n"

/-- The first type goes on to the closing brace of the second, which is lost. -/
theorem empty_braces_swallow_next :
    LaidOut none emptyThenFull emptyThenFullSchema ∧
      ∃ p, Patterns.compile Patterns.defaultBlock Patterns.defaultName = .ok p ∧
        p.extract emptyThenFullSchema =
          .ok [⟨"A", "type AGql \x7b\x7d\n\ntype BGql \x7b\n  id: Int\n\x7d"⟩] ∧
        p.extract emptyThenFullSchema ≠ .ok (emptyThenFull.map WrittenType.declaration) := by
  have hlast : LaidOut (some '\x7d') [] "\n" := .last (by decide)
  have hsecond := @LaidOut.type (some '\x7d') "\n\n" _ ⟨"B", "\n  id: Int\n"⟩ _
    (by decide) (by decide) (by decide) (by decide) (by decide) hlast
  have hfirst := @LaidOut.type none "" _ ⟨"A", ""⟩ _
    (by decide) (by decide) (by decide) (by decide) (by decide) hsecond
  have hextract : Patterns.standard.extract emptyThenFullSchema =
      .ok [⟨"A", "type AGql \x7b\x7d\n\ntype BGql \x7b\n  id: Int\n\x7d"⟩] :=
    ok_of_toOption (by decide)
  refine ⟨hfirst, Patterns.standard, Patterns.compile_default, hextract, ?_⟩
  rw [hextract]
  intro heq
  exact absurd (Except.ok.inj heq) (by decide)

end SchemaFragments
