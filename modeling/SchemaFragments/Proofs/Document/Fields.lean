import SchemaFragments.Proofs.Document.Spreads
import SchemaFragments.Proofs.Extraction.Layout

/-! # Declarations written field by field

A `LinedType` is a type of the schema with a line for its header, one for each of its fields and one for
its closing brace.  `linedSchema` writes such types one after the other, which is one of the layouts that
extraction reads (`laidOut_linedSchema`).

The fragment of a `LinedType` spreads one fragment for each field of another declared type, in their
order (`spreads_fragmentOf_text`).  It is not always that of the declared type: of the name the shortest
part in front of a `Gql` is taken, and that is the whole name in front of the last one if and only if
there is no `Gql` in it behind its first character (`stemOf_eq_self_iff`). -/

namespace SchemaFragments

open Scan

variable {t u v w behind entity newline name stem : Text} {c : Char} {cs : Text}
  {names declared : List Text}

/-! ### Shortest stems -/

theorem shortestStem?_append (h : shortestStem? u = some stem) (v : Text) :
    shortestStem? (u ++ v) = some stem := by
  induction u generalizing stem with
  | nil => cases h
  | cons c u ih =>
      have hc := isWord_of_shortestStem? h
      rw [shortestStem?_cons hc] at h
      rw [List.cons_append, shortestStem?_cons hc]
      split at h
      · next hp => rw [if_pos (hp.trans (List.prefix_append u v)), h]
      · next hp =>
          obtain ⟨found, hfound, rfl⟩ := Option.map_eq_some_iff.mp h
          obtain ⟨-, behind, hu⟩ := shortestStem?_eq_some hfound
          have hlen : typeEnding.length ≤ u.length := by
            rw [hu, List.length_append, List.length_append]
            omega
          have hlonger : ¬ typeEnding <+: u ++ v := fun h =>
            hp (List.prefix_of_prefix_length_le h (List.prefix_append u v) hlen)
          rw [if_neg hlonger, ih hfound, Option.map_some]

theorem isSome_shortestStem? (hi : isIdentifier entity) :
    (shortestStem? (entity ++ typeEnding)).isSome := by
  obtain ⟨hne, hw⟩ := isIdentifier_iff.mp hi
  induction entity with
  | nil => exact absurd rfl hne
  | cons c entity ih =>
      rw [List.forall_mem_cons] at hw
      rw [List.cons_append, shortestStem?_cons hw.1]
      split
      · rfl
      · next hp =>
          rw [Option.isSome_map]
          cases entity with
          | nil => exact absurd (List.prefix_refl _) hp
          | cons d entity => exact ih (isIdentifier_iff.mpr ⟨by simp, hw.2⟩) (by simp) hw.2

/-- The part of a declared name in front of the first `Gql` that is not at its start. -/
def stemOf (entity : Text) : Text := (shortestStem? (entity ++ typeEnding)).getD entity

theorem shortestStem?_typeEnding (hi : isIdentifier entity) :
    shortestStem? (entity ++ typeEnding) = some (stemOf entity) := by
  obtain ⟨stem, hstem⟩ := Option.isSome_iff_exists.mp (isSome_shortestStem? hi)
  unfold stemOf
  rw [hstem]
  rfl

/-- Of a name with its ending the stem is read, whatever comes behind it. -/
theorem reference?_typeEnding (hi : isIdentifier entity) (opening : Bool) (behind : Text) :
    reference? (": " ++ ((if opening then ['['] else []) ++ (entity ++ (typeEnding ++ behind)))) =
      some (stemOf entity, (referenceText opening
        (((entity ++ (typeEnding ++ behind)).drop ((stemOf entity).length + 3)).head? = some ']')
        (stemOf entity)).length) := by
  obtain ⟨hne, hw⟩ := isIdentifier_iff.mp hi
  have hopen : opening = false → (entity ++ (typeEnding ++ behind)).head? ≠ some '[' := by
    intro _ hhead
    rw [List.head?_append_of_ne_nil _ hne] at hhead
    exact Text.not_mem_of_forall hw (by decide) (List.mem_of_head? hhead)
  have hread : shortestStem? (entity ++ (typeEnding ++ behind)) = some (stemOf entity) := by
    rw [← List.append_assoc]
    exact shortestStem?_append (shortestStem?_typeEnding hi) behind
  rw [reference?_eq hopen, hread, Option.map_some]

/-- The ending overlaps no name that comes in front of it. -/
theorem typeEnding_prefix_append_iff (hne : name ≠ []) :
    typeEnding <+: name ++ typeEnding ↔ typeEnding <+: name := by
  refine ⟨fun h => ?_, fun h => h.trans (List.prefix_append _ _)⟩
  match name, hne with
  | [a], _ =>
      change ['G', 'q', 'l'] <+: [a, 'G', 'q', 'l'] at h
      simp at h
  | [a, b], _ =>
      change ['G', 'q', 'l'] <+: [a, b, 'G', 'q', 'l'] at h
      simp at h
  | a :: b :: c :: name, _ =>
      refine List.prefix_of_prefix_length_le h (List.prefix_append _ _) ?_
      change 3 ≤ name.length + 3
      omega

/-- The stem of a name is the whole name if and only if there is no `Gql` behind its first character. -/
theorem stemOf_eq_self_iff (hi : isIdentifier entity) :
    stemOf entity = entity ↔ ¬ typeEnding <:+: entity.tail := by
  have hstem := shortestStem?_typeEnding hi
  rw [← Option.some_inj, ← hstem]
  clear hstem
  induction entity with
  | nil => cases hi
  | cons c entity ih =>
      obtain ⟨-, hw⟩ := isIdentifier_iff.mp hi
      rw [List.forall_mem_cons] at hw
      rw [List.cons_append, shortestStem?_cons hw.1, List.tail_cons]
      cases entity with
      | nil =>
          have hnone : ¬ typeEnding <:+: [] := by decide
          simp [hnone]
      | cons d entity =>
          have hnext := isIdentifier_iff.mpr ⟨List.cons_ne_nil d entity, hw.2⟩
          have hiff := typeEnding_prefix_append_iff (List.cons_ne_nil d entity)
          rw [List.infix_cons_iff]
          by_cases hp : typeEnding <+: d :: entity
          · rw [if_pos (hiff.mpr hp)]
            simp [hp]
          · have htail := ih hnext
            rw [List.tail_cons] at htail
            rw [if_neg (mt hiff.mp hp), not_or, and_iff_right hp]
            refine Iff.trans ?_ htail
            cases shortestStem? (d :: entity ++ typeEnding) <;> simp

/-- The ending does not go on behind a word. -/
theorem typeEnding_prefix_of_append (h : typeEnding <+: name ++ v) (hv : v.takeWhile isWord = []) :
    typeEnding <+: name := by
  have hw : ∀ c ∈ typeEnding, isWord c := forall_mem_of_all (by decide)
  rcases prefix_append_cases h with h | ⟨ending, heq, behind, rfl⟩
  · exact h
  · cases ending with
    | nil =>
        have hwhole : typeEnding = name := heq.trans (List.append_nil name)
        exact ⟨[], (List.append_nil typeEnding).trans hwhole⟩
    | cons c ending =>
        rw [heq] at hw
        have hc := hw c (List.mem_append_right _ List.mem_cons_self)
        rw [List.cons_append, List.takeWhile_cons_of_pos hc] at hv
        cases hv

/-- A name without `Gql` has no stem. -/
theorem shortestStem?_eq_none (hw : ∀ c ∈ name, isWord c) (hg : ¬ typeEnding <:+: name)
    (hv : v.takeWhile isWord = []) : shortestStem? (name ++ v) = none := by
  induction name with
  | nil =>
      cases v with
      | nil => rfl
      | cons c v =>
          rw [List.nil_append, shortestStem?, if_neg]
          intro hc
          rw [List.takeWhile_cons_of_pos hc] at hv
          cases hv
  | cons c name ih =>
      rw [List.forall_mem_cons] at hw
      rw [List.infix_cons_iff, not_or] at hg
      have hbegins : ¬ typeEnding <+: name ++ v := fun hp =>
        hg.2 (typeEnding_prefix_of_append hp hv).isInfix
      rw [List.cons_append, shortestStem?_cons hw.1, if_neg hbegins, ih hw.2 hg.2]
      rfl

/-! ### Fields -/

/-- The ways to end a line. -/
inductive LineBreak where
  | feed
  | carriage
  | both
  deriving DecidableEq, Repr

def LineBreak.text : LineBreak → Text
  | feed => ['\n']
  | carriage => ['\r']
  | both => ['\r', '\n']

/-- The names of types that fields can have. -/
inductive NamedType where
  | scalar (name : Text)
  | reference (entity : Text)
  deriving DecidableEq, Repr

namespace NamedType

def text : NamedType → Text
  | scalar name => name
  | reference entity => entity ++ typeEnding

/-- The declared types that it names. -/
def references : NamedType → List Text
  | scalar _ => []
  | reference entity => [entity]

/-- Scalars are told from declared types by their name, and entities have to be declared. -/
def Known (declared : List Text) : NamedType → Prop
  | scalar name => isIdentifier name ∧ ¬ typeEnding <:+: name
  | reference entity => entity ∈ declared

end NamedType

/-- The mark of what is required. -/
def mark (required : Bool) : Text := if required then ['!'] else []

/-- A type: a name, perhaps in brackets; a mark can stand behind both. -/
structure FieldType where
  named : NamedType
  required : Bool
  /-- Are there brackets, and is there a mark behind them? -/
  brackets : Option Bool
  deriving DecidableEq, Repr

def FieldType.text (t : FieldType) : Text :=
  match t.brackets with
  | none => t.named.text ++ mark t.required
  | some required => ['['] ++ (t.named.text ++ (mark t.required ++ ([']'] ++ mark required)))

/-- A field in a line of its own. -/
structure Field where
  indent : Text
  name : Text
  type : FieldType
  lineBreak : LineBreak
  deriving DecidableEq, Repr

namespace Field

def text (f : Field) : Text := f.indent ++ (f.name ++ (": " ++ (f.type.text ++ f.lineBreak.text)))

/-- The declared types that a field refers to. -/
def references (f : Field) : List Text := f.type.named.references

/-- White space, a name, and a type that is known. -/
structure Proper (declared : List Text) (f : Field) : Prop where
  indent : ∀ c ∈ f.indent, isBlank c ∧ c ≠ '\n' ∧ c ≠ '\r'
  name : isIdentifier f.name
  type : f.type.named.Known declared

end Field

/-! ### Types -/

/-- A type with its fields, in one line each. -/
structure LinedType where
  entity : Text
  lineBreak : LineBreak
  fields : List Field
  deriving DecidableEq, Repr

namespace LinedType

/-- The type as it is written. -/
def written (d : LinedType) : WrittenType := ⟨d.entity, d.lineBreak.text ++ d.fields.flatMap Field.text⟩

/-- The declared types that its fields refer to. -/
def references (d : LinedType) : List Text := d.fields.flatMap Field.references

/-- A type whose name and fields are proper. -/
structure Proper (declared : List Text) (d : LinedType) : Prop where
  entity : isIdentifier d.entity
  fields : ∀ f ∈ d.fields, f.Proper declared

end LinedType

/-- Types one after the other, each with the break behind its closing brace. -/
def linedSchema (ds : List (LinedType × LineBreak)) : Text :=
  ds.flatMap fun d => d.1.written.text ++ d.2.text

/-! ### What fields spread -/

namespace LineBreak

theorem takeWhile_text_append (b : LineBreak) (t : Text) : (b.text ++ t).takeWhile isWord = [] := by
  have hbreaks : ¬ isWord '\n' = true ∧ ¬ isWord '\r' = true := by decide
  cases b with
  | feed => exact List.takeWhile_cons_of_neg hbreaks.1
  | carriage => exact List.takeWhile_cons_of_neg hbreaks.2
  | both => exact List.takeWhile_cons_of_neg hbreaks.2

theorem mem_text {b : LineBreak} (hc : c ∈ b.text) : c = '\r' ∨ c = '\n' := by
  cases b with
  | feed => exact Or.inr (List.mem_singleton.mp hc)
  | carriage => exact Or.inl (List.mem_singleton.mp hc)
  | both => simpa [text] using hc

theorem exists_mem_text (b : LineBreak) : ∃ c ∈ b.text, c = '\r' ∨ c = '\n' := by
  cases b <;> simp [text]

end LineBreak

/-- A colon and the rest of its line. -/
theorem Spreading.colon (hn : IsNewline newline) (hcolon : ':' ∉ w) (hdot : '.' ∉ w)
    (hbreak : ∃ c ∈ w, c = '\r' ∨ c = '\n') (h : Spreading newline t names) :
    Spreading newline (':' :: (w ++ t)) ((reference? (':' :: (w ++ t))).toList.map Prod.fst ++ names) := by
  cases hread : reference? (':' :: (w ++ t)) with
  | none => exact Spreading.cons hread (by decide) (Spreading.run hcolon hdot h)
  | some found =>
      obtain ⟨u, behind, heq, -, hr⟩ := exists_refers hread
      rw [heq]
      refine Spreading.refers hn hr ?_
      have hsplit : (':' :: w) ++ t = u ++ behind := heq
      rcases List.append_eq_append_iff.mp hsplit with ⟨x, hu, -⟩ | ⟨x, hw, rfl⟩
      · obtain ⟨c, hc, hends⟩ := hbreak
        have hmem : c ∈ u := hu ▸ List.mem_append_left x (List.mem_cons_of_mem ':' hc)
        rcases hends with rfl | rfl
        · exact absurd hmem (hr.not_mem (by decide) (by decide))
        · exact absurd hmem (hr.not_mem (by decide) (by decide))
      · obtain ⟨d, u, rfl⟩ := List.exists_cons_of_ne_nil hr.ne_nil
        have htail : w = u ++ x := (List.cons.inj hw).2
        rw [htail, List.mem_append, not_or] at hcolon hdot
        exact Spreading.run hcolon.2 hdot.2 h

namespace NamedType.Known

variable {type : NamedType}

theorem isIdentifier_text (hk : type.Known declared) (hd : ∀ e ∈ declared, isIdentifier e) :
    isIdentifier type.text := by
  cases type with
  | scalar name => exact hk.1
  | reference entity =>
      obtain ⟨hne, hw⟩ := isIdentifier_iff.mp (hd entity hk)
      refine isIdentifier_iff.mpr ⟨by simp [text, hne], fun c hc => ?_⟩
      exact Patterns.isWord_of_mem_word hw hc

/-- The stem of a name is that of the declared type, if it names one. -/
theorem shortestStem?_text (hk : type.Known declared) (hd : ∀ e ∈ declared, isIdentifier e)
    (hv : v.takeWhile isWord = []) :
    (shortestStem? (type.text ++ v)).toList = type.references.map stemOf := by
  cases type with
  | scalar name =>
      have hnone := shortestStem?_eq_none (isIdentifier_iff.mp hk.1).2 hk.2 hv
      change (shortestStem? (name ++ v)).toList = []
      rw [hnone]
      rfl
  | reference entity =>
      have hsome := shortestStem?_append (shortestStem?_typeEnding (hd entity hk)) v
      change (shortestStem? (entity ++ typeEnding ++ v)).toList = [stemOf entity]
      rw [hsome]
      rfl

end NamedType.Known

/-- A type without its marks. -/
def FieldType.plain (t : FieldType) : Text :=
  (if t.brackets.isSome = true then ['['] else []) ++
    (t.named.text ++ if t.brackets.isSome = true then [']'] else [])

theorem dropRequired_mark (required : Bool) : dropRequired (mark required) = [] := by
  cases required <;> rfl

theorem FieldType.dropRequired_text {type : FieldType} (h : '!' ∉ type.named.text) :
    dropRequired type.text = type.plain := by
  have hnamed := dropRequired_eq_self h
  unfold text plain
  cases type.brackets with
  | none => simp [dropRequired_append, dropRequired_mark, hnamed]
  | some required =>
      have hopen : dropRequired ['['] = ['['] := rfl
      have hclose : dropRequired [']'] = [']'] := rfl
      simp only [dropRequired_append, dropRequired_mark, hnamed, hopen, hclose]
      simp

namespace Field.Proper

variable {f : Field}

/-- The line of a field without its marks. -/
theorem dropRequired_text (hf : f.Proper declared) (hd : ∀ e ∈ declared, isIdentifier e) :
    dropRequired f.text =
      f.indent ++ (f.name ++ ':' :: (' ' :: (f.type.plain ++ f.lineBreak.text))) := by
  have hmark : isBlank '!' = false ∧ isWord '!' = false := by decide
  have hindent : '!' ∉ f.indent := Text.not_mem_of_forall (fun c hc => (hf.indent c hc).1) hmark.1
  have hword {u : Text} (hi : isIdentifier u) : '!' ∉ u :=
    Text.not_mem_of_forall (isIdentifier_iff.mp hi).2 hmark.2
  have hbreak : '!' ∉ f.lineBreak.text := fun h => absurd (LineBreak.mem_text h) (by decide)
  have hcolon : dropRequired ": " = ": " := rfl
  unfold text
  rw [dropRequired_append, dropRequired_append, dropRequired_append, dropRequired_append,
    dropRequired_eq_self hindent, dropRequired_eq_self (hword hf.name), hcolon,
    FieldType.dropRequired_text (hword (hf.type.isIdentifier_text hd)), dropRequired_eq_self hbreak]
  rfl

theorem not_mem_named (hf : f.Proper declared) (hd : ∀ e ∈ declared, isIdentifier e)
    (hw : isWord c = false) : c ∉ f.type.named.text :=
  Text.not_mem_of_forall (isIdentifier_iff.mp (hf.type.isIdentifier_text hd)).2 hw

theorem not_mem_plain (hf : f.Proper declared) (hd : ∀ e ∈ declared, isIdentifier e)
    (hw : isWord c = false) (hc : c ∉ ("[]" : Text)) : c ∉ f.type.plain := by
  have hnamed := hf.not_mem_named hd hw
  unfold FieldType.plain
  cases f.type.brackets <;> simp_all

/-- Behind the colon stand words, blanks, brackets and a line break. -/
theorem not_mem_behind (hf : f.Proper declared) (hd : ∀ e ∈ declared, isIdentifier e)
    (hw : isWord c = false) (hc : c ∉ (" []\r\n" : Text)) :
    c ∉ ' ' :: (f.type.plain ++ f.lineBreak.text) := by
  have hplain : c ∉ f.type.plain := hf.not_mem_plain hd hw fun h => hc (by simp_all)
  have hbreak : c ∉ f.lineBreak.text := fun h => by
    rcases LineBreak.mem_text h with rfl | rfl
    · exact hc (by decide)
    · exact hc (by decide)
  simp_all

/-- In the line of a field stand words, what it is indented by, its line break, and a few marks. -/
theorem not_mem_text (hf : f.Proper declared) (hd : ∀ e ∈ declared, isIdentifier e)
    (hw : isWord c = false) (hi : c ∉ f.indent) (hb : c ∉ f.lineBreak.text) (hc : c ∉ (": []!" : Text)) :
    c ∉ f.text := by
  have hname := Text.not_mem_of_forall (isIdentifier_iff.mp hf.name).2 hw
  have hnamed := hf.not_mem_named hd hw
  have hmark (required : Bool) : c ∉ mark required := by
    cases required <;> simp_all [mark]
  have hfixed : c ≠ ':' ∧ c ≠ ' ' ∧ c ≠ '[' ∧ c ≠ ']' ∧ c ≠ '!' := by simpa using hc
  unfold text FieldType.text
  cases f.type.brackets <;> simp [hi, hname, hnamed, hmark, hb, hfixed]

/-- The reference that is read at the colon of a field. -/
theorem reference?_text (hf : f.Proper declared) (hd : ∀ e ∈ declared, isIdentifier e) (t : Text) :
    (reference? (':' :: (' ' :: (f.type.plain ++ f.lineBreak.text) ++ t))).toList.map Prod.fst =
      f.references.map stemOf := by
  obtain ⟨hne, hw⟩ := isIdentifier_iff.mp (hf.type.isIdentifier_text hd)
  generalize hv : (if f.type.brackets.isSome = true then [']'] else []) ++ (f.lineBreak.text ++ t) = v
  have hstop : v.takeWhile isWord = [] := by
    have hbracket : ¬ isWord ']' = true := by decide
    rw [← hv]
    cases f.type.brackets with
    | none => exact LineBreak.takeWhile_text_append _ t
    | some required => exact List.takeWhile_cons_of_neg hbracket
  have hsplit : ':' :: (' ' :: (f.type.plain ++ f.lineBreak.text) ++ t) =
      ": " ++ ((if f.type.brackets.isSome = true then ['['] else []) ++ (f.type.named.text ++ v)) := by
    unfold FieldType.plain
    rw [← hv]
    simp
  have hopen : (f.type.named.text ++ v).head? ≠ some '[' := by
    rw [List.head?_append_of_ne_nil _ hne]
    intro hhead
    exact Text.not_mem_of_forall hw (by decide) (List.mem_of_head? hhead)
  rw [hsplit, reference?_eq fun _ => hopen, Option.toList_map, List.map_map]
  exact (List.map_id _).trans (hf.type.shortestStem?_text hd hstop)

/-- A field spreads what it refers to. -/
theorem spreading (hn : IsNewline newline) (hf : f.Proper declared)
    (hd : ∀ e ∈ declared, isIdentifier e) (h : Spreading newline t names) :
    Spreading newline (dropRequired f.text ++ t) (f.references.map stemOf ++ names) := by
  have hword : isWord ':' = false ∧ isWord '.' = false := by decide
  have hblank : isBlank ':' = false ∧ isBlank '.' = false := by decide
  have hindent : ∀ c ∈ f.indent, isBlank c := fun c hc => (hf.indent c hc).1
  have hname := (isIdentifier_iff.mp hf.name).2
  have hbreak : ∃ c ∈ ' ' :: (f.type.plain ++ f.lineBreak.text), c = '\r' ∨ c = '\n' := by
    obtain ⟨c, hc, hends⟩ := f.lineBreak.exists_mem_text
    exact ⟨c, List.mem_cons_of_mem _ (List.mem_append_right _ hc), hends⟩
  have hcolon := Spreading.colon hn (hf.not_mem_behind hd hword.1 (by decide))
    (hf.not_mem_behind hd hword.2 (by decide)) hbreak h
  rw [hf.reference?_text hd] at hcolon
  rw [hf.dropRequired_text hd, List.append_assoc, List.append_assoc]
  exact Spreading.run (Text.not_mem_of_forall hindent hblank.1) (Text.not_mem_of_forall hindent hblank.2)
    (Spreading.run (Text.not_mem_of_forall hname hword.1) (Text.not_mem_of_forall hname hword.2) hcolon)

theorem spreading_flatMap {fs : List Field} (hn : IsNewline newline) (hf : ∀ f ∈ fs, f.Proper declared)
    (hd : ∀ e ∈ declared, isIdentifier e) (h : Spreading newline t names) :
    Spreading newline (dropRequired (fs.flatMap text) ++ t)
      ((fs.flatMap references).map stemOf ++ names) := by
  induction fs with
  | nil => exact h
  | cons f fs ih =>
      rw [List.forall_mem_cons] at hf
      rw [List.flatMap_cons, List.flatMap_cons, dropRequired_append, List.append_assoc, List.map_append,
        List.append_assoc]
      exact hf.1.spreading hn hd (ih hf.2)

end Field.Proper

theorem LinedType.Proper.spreading {d : LinedType} (hn : IsNewline newline) (hp : d.Proper declared)
    (hd : ∀ e ∈ declared, isIdentifier e) :
    Spreading newline (dropRequired (d.written.body ++ ['\x7d'])) (d.references.map stemOf) := by
  have hmark : '!' ∉ d.lineBreak.text := fun h => absurd (LineBreak.mem_text h) (by decide)
  have hcolon : ':' ∉ d.lineBreak.text := fun h => absurd (LineBreak.mem_text h) (by decide)
  have hdot : '.' ∉ d.lineBreak.text := fun h => absurd (LineBreak.mem_text h) (by decide)
  have hbrace : Spreading newline ['\x7d'] [] :=
    Spreading.run (u := ['\x7d']) (by decide) (by decide) (Spreading.nil newline)
  have hfields := Field.Proper.spreading_flatMap hn hp.fields hd hbrace
  rw [List.append_nil] at hfields
  change Spreading newline (dropRequired (d.lineBreak.text ++ d.fields.flatMap Field.text ++ ['\x7d'])) _
  rw [dropRequired_append, dropRequired_append, dropRequired_eq_self hmark, List.append_assoc]
  exact Spreading.run hcolon hdot hfields

/-- The fragment of a type spreads one fragment for each of its references, in their order. -/
theorem LinedType.Proper.spreads_fragmentOf_text {d : LinedType} (hp : d.Proper declared)
    (hd : ∀ e ∈ declared, isIdentifier e) :
    spreads (fragmentOf d.written.text) = d.references.map stemOf := by
  have hdot : '.' ∉ fragmentHeader d.entity :=
    not_mem_fragmentHeader hp.entity (by decide) (by decide) (by decide)
  change spreads (fragmentOf (headerOf (d.entity ++ "Gql") ++ (d.written.body ++ ['\x7d']))) = _
  rw [fragmentOf_headerOf hp.entity, spreads_append hdot, hp.spreading (isNewline_newlineOf _) hd]

/-! ### Their layout -/

theorem Field.Proper.brace_not_mem {f : Field} (hf : f.Proper declared)
    (hd : ∀ e ∈ declared, isIdentifier e) : '\x7d' ∉ f.text := by
  have hbrace : isBlank '\x7d' = false ∧ isWord '\x7d' = false := by decide
  have hindent := Text.not_mem_of_forall (fun c hc => (hf.indent c hc).1) hbrace.1
  have hbreak : '\x7d' ∉ f.lineBreak.text := fun h => absurd (LineBreak.mem_text h) (by decide)
  exact hf.not_mem_text hd hbrace.2 hindent hbreak (by decide)

theorem LinedType.Proper.brace_not_mem {d : LinedType} (hp : d.Proper declared)
    (hd : ∀ e ∈ declared, isIdentifier e) : '\x7d' ∉ d.written.body := by
  have hbreak : '\x7d' ∉ d.lineBreak.text := fun h => absurd (LineBreak.mem_text h) (by decide)
  change '\x7d' ∉ d.lineBreak.text ++ d.fields.flatMap Field.text
  rw [List.mem_append, not_or, List.mem_flatMap]
  refine ⟨hbreak, ?_⟩
  rintro ⟨f, hf, hmem⟩
  exact (hp.fields f hf).brace_not_mem hd hmem

/-- A line break between two types has no header in it, and a line starts behind it. -/
theorem LineBreak.between (b : LineBreak) :
    NoHeader (some '\x7d') b.text ∧ startsLine (b.text.getLast?.or (some '\x7d')) (some 't') ∧
      ∀ t, endsLine (b.text ++ t).head? := by
  cases b <;> exact ⟨by decide, by decide, fun _ => rfl⟩

theorem laidOut_between {ds : List (LinedType × LineBreak)} (h : ∀ d ∈ ds, d.1.Proper declared)
    (hd : ∀ e ∈ declared, isIdentifier e) {before : Option Char} {between : Text}
    (hclear : NoHeader before between) (hline : startsLine (between.getLast?.or before) (some 't')) :
    LaidOut before (ds.map fun d => d.1.written) (between ++ linedSchema ds) := by
  induction ds generalizing before between with
  | nil =>
      unfold linedSchema
      rw [List.flatMap_nil, List.append_nil]
      exact .last hclear
  | cons d ds ih =>
      rw [List.forall_mem_cons] at h
      obtain ⟨hbreak, hstart, hends⟩ := d.2.between
      have hrest : linedSchema (d :: ds) = d.1.written.text ++ (d.2.text ++ linedSchema ds) := by
        unfold linedSchema
        rw [List.flatMap_cons, List.append_assoc]
      rw [hrest, List.map_cons]
      exact .type hclear hline h.1.entity (h.1.brace_not_mem hd) (hends _) (ih h.2 hbreak hstart)

/-- Types that are written line by line are laid out for extraction. -/
theorem laidOut_linedSchema {ds : List (LinedType × LineBreak)} (h : ∀ d ∈ ds, d.1.Proper declared)
    (hd : ∀ e ∈ declared, isIdentifier e) :
    LaidOut none (ds.map fun d => d.1.written) (linedSchema ds) :=
  @laidOut_between _ ds h hd none [] nofun rfl

end SchemaFragments
