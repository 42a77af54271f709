import SchemaFragments.Proofs.Document.Fields
import SchemaFragments.Proofs.Document.Returns

/-! # The fragment of a declaration, line by line

Where all lines of a `LinedType` end in the same way, its fragment is known line for line: of each field
the fragment selects its name and, if its type is a declared one, the fragment of that type
(`Field.selected`).  What one line becomes does not depend on the lines around it, since every line leaves
the reading at the start of a line (`Field.Plain.rendered_text`); the fields follow by induction
(`rendered_fields`), and `fragmentOf_lines` puts the header and the closing brace around them. -/

namespace SchemaFragments

open Scan

variable {newline t : Text} {f : Field}

/-! ### Plain fields -/

namespace NamedType

/-- The name without the ending that marks a declared type. -/
def stem : NamedType → Text
  | scalar name => name
  | reference entity => entity

/-- A word, in which the ending occurs only where it marks a declared type. -/
def Plain (type : NamedType) : Prop := isIdentifier type.stem ∧ ¬ typeEnding <:+: type.stem

instance (type : NamedType) : Decidable type.Plain := inferInstanceAs (Decidable (_ ∧ _))

end NamedType

namespace Field

/-- A field behind spaces and tabs, at least one, with a name and a plain type. -/
structure Plain (f : Field) : Prop where
  indent_ne_nil : f.indent ≠ []
  indent : ∀ c ∈ f.indent, c = ' ' ∨ c = '\t'
  name : isIdentifier f.name
  type : f.type.named.Plain

theorem plain_iff (f : Field) : f.Plain ↔
    f.indent ≠ [] ∧ (f.indent.all fun c => c = ' ' ∨ c = '\t') ∧ isIdentifier f.name ∧
      f.type.named.Plain := by
  constructor
  · intro hf
    exact ⟨hf.indent_ne_nil, by simpa using hf.indent, hf.name, hf.type⟩
  · rintro ⟨hne, hi, hn, ht⟩
    exact ⟨hne, forall_mem_of_all hi, hn, ht⟩

instance (f : Field) : Decidable f.Plain := decidable_of_iff _ f.plain_iff.symm

/-- What the fragment selects for a field. -/
def selected (newline : Text) (f : Field) : Text :=
  match f.type.named with
  | .scalar _ => f.indent ++ f.name
  | .reference entity =>
    f.indent ++ f.name ++ " \x7b" ++ newline ++ "    ..." ++ entity ++ newline ++ "  \x7d"

namespace Plain

theorem isBlank_indent (hf : f.Plain) : ∀ c ∈ f.indent, isBlank c := by
  intro c hc
  rcases hf.indent c hc with rfl | rfl <;> decide

theorem isIdentifier_of_mem (hf : f.Plain) : ∀ e ∈ f.references, isIdentifier e := by
  intro e he
  have htype := hf.type
  unfold references at he
  generalize f.type.named = type at he htype
  cases type with
  | scalar name => cases he
  | reference entity =>
      rw [List.mem_singleton.mp he]
      exact htype.1

theorem proper (hf : f.Plain) : f.Proper f.references where
  indent := fun c hc => by
    rcases hf.indent c hc with rfl | rfl <;> decide
  name := hf.name
  type := by
    have htype := hf.type
    unfold references
    generalize f.type.named = type at htype
    cases type with
    | scalar name => exact htype
    | reference entity => exact List.mem_singleton.mpr rfl

end Plain

end Field

/-! ### One line -/

theorem rendered_newline (hn : IsNewline newline) {s : LinePart} (hs : s = .rest ∨ s = .gone) (t : Text) :
    rendered newline s (newline ++ t) = newline ++ rendered newline .start t := by
  have hcolon : ':' ∉ newline := by
    rcases hn with rfl | rfl <;> decide
  unfold rendered
  rw [expandReferences_append hcolon, collapseFrom_newline hn hs]

/-- White space and a name in front of a colon are kept. -/
theorem Field.Plain.rendered_name (hf : f.Plain) (t : Text) :
    rendered newline .start (f.indent ++ (f.name ++ t)) =
      f.indent ++ (f.name ++ rendered newline .name t) := by
  have hindent : ':' ∉ f.indent := Text.not_mem_of_forall hf.isBlank_indent (by decide)
  have hname : ':' ∉ f.name := Text.not_mem_of_forall (isIdentifier_iff.mp hf.name).2 (by decide)
  unfold rendered
  rw [expandReferences_append hindent, expandReferences_append hname,
    collapseFrom_start hf.indent_ne_nil hf.isBlank_indent, collapseFrom_indent hf.name]

/-- The colon of a field and the type behind it are a reference when the type is a declared one. -/
theorem Field.Plain.refers (hf : f.Plain) {entity : Text} (htype : f.type.named = .reference entity)
    (hb : t.head? ≠ some ']') :
    Refers (':' :: ' ' :: f.type.plain) entity t := by
  obtain ⟨hi, hg⟩ : isIdentifier entity ∧ ¬ typeEnding <:+: entity := by
    have hplain := hf.type
    rw [htype] at hplain
    exact hplain
  have hself : stemOf entity = entity :=
    (stemOf_eq_self_iff hi).mpr fun h => hg (h.trans (List.tail_suffix entity).isInfix)
  generalize hopening : f.type.brackets.isSome = opening
  have htext : ':' :: ' ' :: f.type.plain = referenceText opening opening entity := by
    unfold FieldType.plain referenceText
    rw [htype, hopening]
    simp [NamedType.text]
  have hclosing : ((if opening then [']'] else []) ++ t).head? = some ']' ↔ opening = true := by
    cases opening with
    | false => exact iff_of_false hb (by decide)
    | true => exact iff_of_true rfl rfl
  refine ⟨hi, ⟨opening, opening, htext⟩, ?_⟩
  rw [htext, referenceText_append, reference?_typeEnding hi, hself, drop_typeEnding]
  simp only [hclosing, Bool.decide_eq_true]

/-- The colon of a scalar field and the type behind it are dropped. -/
theorem Field.Plain.rendered_scalar (hf : f.Plain) (hn : IsNewline newline)
    (hbreak : f.lineBreak.text = newline) {name : Text} (htype : f.type.named = .scalar name) (t : Text) :
    rendered newline .name (':' :: (' ' :: f.type.plain ++ (newline ++ t))) =
      newline ++ rendered newline .start t := by
  have hnot {c : Char} (hw : isWord c = false) (hc : c ∉ ("[]" : Text)) : c ∉ f.type.plain :=
    hf.proper.not_mem_plain hf.isIdentifier_of_mem hw hc
  have hnone : reference? (':' :: (' ' :: f.type.plain ++ (newline ++ t))) = none := by
    have hread := hf.proper.reference?_text hf.isIdentifier_of_mem t
    unfold Field.references at hread
    rw [htype, hbreak, List.cons_append, List.append_assoc] at hread
    exact Option.toList_eq_nil_iff.mp (List.map_eq_nil_iff.mp hread)
  have hcolon : ':' ∉ ' ' :: f.type.plain := by
    simpa using hnot (by decide) (by decide)
  have hgone : ∀ c ∈ ' ' :: f.type.plain, c ≠ '\r' ∧ c ≠ '\n' := by
    refine List.forall_mem_cons.mpr ⟨by decide, fun c hc => ⟨?_, ?_⟩⟩
    · rintro rfl
      exact hnot (by decide) (by decide) hc
    · rintro rfl
      exact hnot (by decide) (by decide) hc
  have hline := rendered_newline hn (Or.inr rfl) t
  rw [rendered_cons_gone hnone LinePart.next_name_colon]
  unfold rendered at hline ⊢
  rw [expandReferences_append hcolon, collapseFrom_gone hgone, hline]

/-- A line of the declaration becomes what the fragment selects for the field, and a line starts behind. -/
theorem Field.Plain.rendered_text (hf : f.Plain) (hn : IsNewline newline)
    (hbreak : f.lineBreak.text = newline) (t : Text) :
    rendered newline .start (dropRequired f.text ++ t) =
      f.selected newline ++ (newline ++ rendered newline .start t) := by
  have hbracket : (newline ++ t).head? ≠ some ']' := by
    rcases hn with rfl | rfl <;> simp
  have hsplit : dropRequired f.text ++ t =
      f.indent ++ (f.name ++ (':' :: (' ' :: f.type.plain ++ (newline ++ t)))) := by
    rw [hf.proper.dropRequired_text hf.isIdentifier_of_mem, hbreak]
    simp
  unfold Field.selected
  rw [hsplit, hf.rendered_name]
  cases htype : f.type.named with
  | scalar name =>
      rw [hf.rendered_scalar hn hbreak htype]
      simp
  | reference entity =>
      have hread := rendered_refers hn (hf.refers htype hbracket) (s := .name) (by decide)
      rw [List.cons_append] at hread
      rw [hread, rendered_newline hn (Or.inl rfl)]
      unfold spread
      simp

/-! ### All lines -/

theorem rendered_fields {fs : List Field} (hn : IsNewline newline)
    (hf : ∀ f ∈ fs, f.Plain ∧ f.lineBreak.text = newline) (t : Text) :
    rendered newline .start (dropRequired (fs.flatMap Field.text) ++ t) =
      (fs.flatMap fun f => f.selected newline ++ newline) ++ rendered newline .start t := by
  induction fs with
  | nil => rfl
  | cons f fs ih =>
      rw [List.forall_mem_cons] at hf
      rw [List.flatMap_cons, dropRequired_append, List.append_assoc, hf.1.1.rendered_text hn hf.1.2,
        ih hf.2, List.flatMap_cons]
      simp

theorem Field.Plain.return_not_mem (hf : f.Plain) (hbreak : f.lineBreak = .feed) : '\r' ∉ f.text := by
  have hindent : '\r' ∉ f.indent := fun h => absurd (hf.indent _ h) (by decide)
  exact hf.proper.not_mem_text hf.isIdentifier_of_mem (by decide) hindent (hbreak ▸ by decide) (by decide)

/-- Selections break lines as the declaration does. -/
theorem newlineOf_written {d : LinedType} (hd : isIdentifier d.entity)
    (hf : ∀ f ∈ d.fields, f.Plain ∧ f.lineBreak = d.lineBreak) (hb : d.lineBreak ≠ .carriage) :
    newlineOf d.written.text = d.lineBreak.text := by
  have htext : d.written.text = headerOf (d.entity ++ "Gql") ++
      (d.lineBreak.text ++ (d.fields.flatMap Field.text ++ ['\x7d'])) := by
    unfold WrittenType.text LinedType.written
    rw [List.append_assoc]
  unfold newlineOf
  cases hl : d.lineBreak with
  | carriage => exact absurd hl hb
  | feed =>
      have hheader : '\r' ∉ headerOf (d.entity ++ "Gql") :=
        not_mem_headerOf_entity hd (by decide) (by decide) (by decide)
      have hfields : '\r' ∉ d.fields.flatMap Field.text := by
        rw [List.mem_flatMap]
        rintro ⟨f, hmem, hreturn⟩
        exact (hf f hmem).1.return_not_mem ((hf f hmem).2.trans hl) hreturn
      have hreturn : '\r' ∉ d.written.text := by
        rw [htext, hl, List.mem_append, not_or]
        exact ⟨hheader, by simp [hfields, LineBreak.text]⟩
      rw [breaksWithReturn_eq_false hreturn]
      rfl
  | both =>
      have hbreaks : breaksWithReturn d.written.text = true := by
        rw [breaksWithReturn_iff, htext, hl]
        exact List.infix_append' _ _ _
      rw [hbreaks]
      rfl

/-- Lines with a break between each two of them. -/
theorem intercalate_concat (newline last : Text) (lines : List Text) :
    List.intercalate newline (lines ++ [last]) = lines.flatMap (· ++ newline) ++ last := by
  induction lines with
  | nil => simp
  | cons line lines ih =>
      cases lines with
      | nil => simp
      | cons next lines => simpa using ih

/-- The header, what is selected for each field in their order, and the closing brace, with the line break
of the declaration between them. -/
theorem fragmentOf_lines {d : LinedType} (hd : isIdentifier d.entity)
    (hf : ∀ f ∈ d.fields, f.Plain ∧ f.lineBreak = d.lineBreak) (hb : d.lineBreak ≠ .carriage) :
    fragmentOf d.written.text = List.intercalate d.lineBreak.text
      ([("fragment " ++ d.entity ++ " on " ++ d.entity ++ "Gql \x7b" : Text)] ++
        d.fields.map (Field.selected d.lineBreak.text) ++ [['\x7d']]) := by
  have hn : IsNewline d.lineBreak.text := newlineOf_written hd hf hb ▸ isNewline_newlineOf _
  have hmark : dropRequired d.lineBreak.text = d.lineBreak.text :=
    dropRequired_eq_self fun h => absurd (LineBreak.mem_text h) (by decide)
  have hbrace : rendered d.lineBreak.text .start ['\x7d'] = ['\x7d'] := by
    rw [rendered_cons (reference?_of_ne (by decide) _) (by decide), rendered_nil]
  have hplain : ∀ f ∈ d.fields, f.Plain ∧ f.lineBreak.text = d.lineBreak.text := fun f h =>
    ⟨(hf f h).1, congrArg LineBreak.text (hf f h).2⟩
  have hread := fragmentOf_headerOf hd (d.written.body ++ ['\x7d'])
  rw [show headerOf (d.entity ++ "Gql") ++ (d.written.body ++ ['\x7d']) = d.written.text from rfl,
    newlineOf_written hd hf hb] at hread
  have hbody : dropRequired (d.written.body ++ ['\x7d']) =
      d.lineBreak.text ++ (dropRequired (d.fields.flatMap Field.text) ++ ['\x7d']) := by
    change dropRequired (d.lineBreak.text ++ d.fields.flatMap Field.text ++ ['\x7d']) = _
    rw [dropRequired_append, dropRequired_append, hmark, List.append_assoc]
    rfl
  rw [hread, hbody, rendered_newline hn (Or.inl rfl), rendered_fields hn hplain, hbrace, intercalate_concat]
  unfold fragmentHeader
  simp [List.flatMap_map]

/-- A type with a scalar field, a reference and a list of references, all required. -/
def orderLines : LinedType where
  entity := "Order"
  lineBreak := .both
  fields :=
    [⟨"  ", "id", ⟨.scalar "Int", true, none⟩, .both⟩,
      ⟨"\t", "customer", ⟨.reference "Customer", true, none⟩, .both⟩,
      ⟨" \t", "lines", ⟨.reference "Line", true, some true⟩, .both⟩]

theorem fragmentOf_lines_order :
    isIdentifier orderLines.entity ∧
      (∀ f ∈ orderLines.fields, f.Plain ∧ f.lineBreak = orderLines.lineBreak) ∧
      orderLines.lineBreak ≠ .carriage ∧
      orderLines.written.text =
        "type OrderGql \x7b\r\n  id: Int!\r\n\tcustomer: CustomerGql!\r\n \tlines: [LineGql!]!\r\n\x7d" ∧
      fragmentOf orderLines.written.text =
        "fragment Order on OrderGql \x7b\r\n  id\r\n\tcustomer \x7b\r\n    ...Customer\r\n  \x7d\r\n" ++
          " \tlines \x7b\r\n    ...Line\r\n  \x7d\r\n\x7d" := by
  have hentity : isIdentifier orderLines.entity := by decide
  have hfields : ∀ f ∈ orderLines.fields, f.Plain ∧ f.lineBreak = orderLines.lineBreak := by decide +kernel
  have hbreak : orderLines.lineBreak ≠ .carriage := by decide
  have hlines := @fragmentOf_lines orderLines hentity hfields hbreak
  refine ⟨hentity, hfields, hbreak, by decide, ?_⟩
  rw [hlines]
  decide

end SchemaFragments
