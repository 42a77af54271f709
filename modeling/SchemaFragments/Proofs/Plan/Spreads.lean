import SchemaFragments.Run
import SchemaFragments.Proofs.Document.Fields
import SchemaFragments.Proofs.Plan.Entities

/-! # The fragments that the documents of a plan spread

Where a schema consists of types that are written line by line, and every field that is not of a scalar
type is of one of them, each document of the plan spreads the fragments of planned entities only, and a
fragment those of the types that its fields have, if and only if no type that a field has contains `Gql`
behind its first character and in front of its end (`spreads_iff`).  Otherwise the reference is cut short
(`spread_cut_short`). -/

namespace SchemaFragments

open Scan

variable {ds : List LinedType} {d : LinedType} {schema : Text} {declared : List Text}

theorem LinedType.Proper.mem_of_mem_references (hp : d.Proper declared) {entity : Text}
    (h : entity ∈ d.references) : entity ∈ declared := by
  obtain ⟨f, hf, hmem⟩ := List.mem_flatMap.mp h
  have hk := (hp.fields f hf).type
  unfold Field.references at hmem
  cases hn : f.type.named with
  | scalar name =>
      rw [hn] at hmem
      cases hmem
  | reference name =>
      rw [hn] at hmem hk
      rw [List.mem_singleton.mp hmem]
      exact hk

/-- The plan has an entity for every type. -/
theorem ofSchema_laidOut (hl : LaidOut none (ds.map LinedType.written) schema) (allowed : AllowList) :
    ∃ p, Plan.ofSchema Patterns.standard allowed schema = .ok p ∧
      p.entities = ds.map fun d => Plan.entityOf allowed d.written.declaration := by
  have hne : ∀ d ∈ ds.map LinedType.written, d.body ≠ [] := by
    intro d hd
    obtain ⟨d, -, rfl⟩ := List.mem_map.mp hd
    obtain ⟨c, hc, -⟩ := d.lineBreak.exists_mem_text
    exact List.ne_nil_of_mem (List.mem_append_left _ hc)
  refine ⟨Plan.ofDeclarations allowed ((ds.map LinedType.written).map WrittenType.declaration), ?_, ?_⟩
  · refine Plan.ofSchema_of_extract ?_ allowed
    rw [Patterns.extract_standard, declarations, declarationsFrom_laidOut hl hne]
  · rw [Plan.entities_ofDeclarations, List.map_map, List.map_map]
    rfl

/-- Every operation of an entity spreads the fragment of the entity alone. -/
theorem spreads_document (hi : isIdentifier d.entity) (allowed : AllowList) {k : DocumentKind}
    {document : Text} (hk : k ≠ .fragment)
    (h : (Plan.entityOf allowed d.written.declaration).document? k = some document) :
    spreads document = [d.entity] := by
  cases k with
  | fragment => exact absurd rfl hk
  | mutation =>
      obtain ⟨-, hdocument⟩ := Option.ite_none_right_eq_some.mp h
      cases hdocument
      exact spreads_saveMutation hi
  | query =>
      obtain ⟨-, hdocument⟩ := Option.ite_none_right_eq_some.mp h
      cases hdocument
      exact spreads_byIdQuery hi

/-- References are spread under their stems: under their names if these do not contain `Gql` behind
their first character. -/
theorem map_stemOf_eq_self_iff {references : List Text} (hi : ∀ e ∈ references, isIdentifier e) :
    references.map stemOf = references ↔ ∀ e ∈ references, ¬ typeEnding <:+: e.tail := by
  induction references with
  | nil => simp
  | cons e references ih =>
      rw [List.forall_mem_cons] at hi ⊢
      rw [List.map_cons, List.cons.injEq, stemOf_eq_self_iff hi.1, ih hi.2]

/-- Each document spreads fragments of planned entities, and each fragment those of the types that its
fields have, if and only if no such type contains `Gql` behind its first character and in front of its
end. -/
theorem spreads_iff (hl : LaidOut none (ds.map LinedType.written) schema)
    (hp : ∀ d ∈ ds, d.Proper (ds.map LinedType.entity)) (allowed : AllowList) :
    ∃ patterns p, Patterns.compile Patterns.defaultBlock Patterns.defaultName = .ok patterns ∧
      Plan.ofSchema patterns allowed schema = .ok p ∧
      p.entities.map Entity.name = ds.map LinedType.entity ∧
      ((p.entities.map (fun e => spreads e.fragment) = ds.map LinedType.references ∧
          ∀ e ∈ p.entities, ∀ k document, e.document? k = some document →
            ∀ name ∈ spreads document, name ∈ p.entities.map Entity.name) ↔
        ∀ d ∈ ds, ∀ entity ∈ d.references, ¬ typeEnding <:+: entity.tail) := by
  obtain ⟨p, hplan, hentities⟩ := ofSchema_laidOut hl allowed
  have hdeclared : ∀ e ∈ ds.map LinedType.entity, isIdentifier e := by
    intro e he
    obtain ⟨d, hd, rfl⟩ := List.mem_map.mp he
    exact (hp d hd).entity
  have hreferences (d : LinedType) (hd : d ∈ ds) : ∀ e ∈ d.references, isIdentifier e := fun e he =>
    hdeclared e ((hp d hd).mem_of_mem_references he)
  have hnames : p.entities.map Entity.name = ds.map LinedType.entity := by
    rw [hentities, List.map_map]
    rfl
  have hfragments : p.entities.map (fun e => spreads e.fragment) =
      ds.map fun d => d.references.map stemOf := by
    rw [hentities, List.map_map]
    exact List.map_congr_left fun d hd => (hp d hd).spreads_fragmentOf_text hdeclared
  refine ⟨Patterns.standard, p, Patterns.compile_default, hplan, hnames, ?_⟩
  rw [hfragments, hnames]
  constructor
  · rintro ⟨heq, -⟩ d hd
    exact (map_stemOf_eq_self_iff (hreferences d hd)).mp (List.map_inj_left.mp heq d hd)
  · intro hwhole
    have hstems (d : LinedType) (hd : d ∈ ds) : d.references.map stemOf = d.references :=
      (map_stemOf_eq_self_iff (hreferences d hd)).mpr (hwhole d hd)
    refine ⟨List.map_congr_left hstems, ?_⟩
    rw [hentities]
    intro e he k document hdocument name hname
    obtain ⟨d, hd, rfl⟩ := List.mem_map.mp he
    by_cases hk : k = .fragment
    · subst hk
      cases hdocument
      change name ∈ spreads (fragmentOf d.written.text) at hname
      rw [(hp d hd).spreads_fragmentOf_text hdeclared, hstems d hd] at hname
      exact (hp d hd).mem_of_mem_references hname
    · rw [spreads_document (hp d hd).entity allowed hk hdocument] at hname
      rw [List.mem_singleton.mp hname]
      exact List.mem_map_of_mem hd

/-- A type with `Gql` in its name, and a field of that type. -/
def cutShort : LinedType :=
  ⟨"AGql", .feed, [⟨"  ", "parent", ⟨.reference "AGql", false, none⟩, .feed⟩]⟩

/-- The reference ends at the first `Gql`: no entity is called `A`. -/
theorem spread_cut_short :
    LaidOut none [cutShort.written] "type AGqlGql \x7b\n  parent: AGqlGql\n\x7d\n" ∧
      ∃ patterns p, Patterns.compile Patterns.defaultBlock Patterns.defaultName = .ok patterns ∧
        Plan.ofSchema patterns (.parse []) "type AGqlGql \x7b\n  parent: AGqlGql\n\x7d\n" = .ok p ∧
        p.entities.map Entity.name = ["AGql"] ∧
        p.entities.map Entity.fragment =
          ["fragment AGql on AGqlGql \x7b\n  parent \x7b\n    ...A\n  \x7dGql\n\x7d"] ∧
        ¬ (p.entities.map (fun e => spreads e.fragment) = [cutShort.references] ∧
          ∀ e ∈ p.entities, ∀ k document, e.document? k = some document →
            ∀ name ∈ spreads document, name ∈ p.entities.map Entity.name) := by
  have hproper : ∀ d ∈ [cutShort], d.Proper [cutShort.entity] := by
    intro d hd
    cases List.mem_singleton.mp hd
    refine ⟨by decide, ?_⟩
    intro f hf
    cases List.mem_singleton.mp hf
    exact ⟨forall_mem_of_all (by decide), by decide, List.mem_singleton_self _⟩
  have hidentifier : ∀ e ∈ [cutShort.entity], isIdentifier e :=
    List.forall_mem_singleton.mpr (by decide)
  have hl : LaidOut none [cutShort.written] "type AGqlGql \x7b\n  parent: AGqlGql\n\x7d\n" :=
    @laidOut_linedSchema _ [(cutShort, .feed)] (by simpa using hproper) hidentifier
  obtain ⟨patterns, p, hpatterns, hplan, hnames, hiff⟩ :=
    @spreads_iff [cutShort] _ hl hproper (.parse [])
  refine ⟨hl, patterns, p, hpatterns, hplan, hnames, ?_, ?_⟩
  · cases Patterns.compile_default.symm.trans hpatterns
    have hfragment : (Plan.ofSchema Patterns.standard (.parse [])
        "type AGqlGql \x7b\n  parent: AGqlGql\n\x7d\n").toOption.map
          (fun p => p.entities.map Entity.fragment) =
        some [("fragment AGql on AGqlGql \x7b\n  parent \x7b\n    ...A\n  \x7dGql\n\x7d" : Text)] := by
      decide
    rw [hplan] at hfragment
    exact Option.some.inj hfragment
  · intro h
    have hwhole := hiff.mp h cutShort List.mem_cons_self "AGql" (by decide)
    exact absurd hwhole (by decide)

end SchemaFragments
