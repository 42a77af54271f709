import SchemaFragments.Proofs.Document.Returns
import SchemaFragments.Proofs.Plan.Stats

/-! # Plans for schemas with carriage returns

What is planned besides the fragments, and all that is counted and warned about, depends on the names of
the declared entities.  These are the same ones when a carriage return is put in front of every line feed
of the schema, and the fragments are the same up to line ends (`withReturns_same_plan`). -/

namespace SchemaFragments

open Text

/-- Two entities with the same operations, whose fragments differ at most in their line ends. -/
structure Entity.SameUpToReturns (e e' : Entity) : Prop where
  name : e'.name = e.name
  mutation? : e'.mutation? = e.mutation?
  query? : e'.query? = e.query?
  fragment : e'.fragment = e.fragment ∨ e'.fragment = withReturns e.fragment

namespace Plan

theorem sameUpToReturns_entityOf (allowed : AllowList) {d : Declaration} (h : '\r' ∉ d.block) :
    (entityOf allowed d).SameUpToReturns (entityOf allowed d.withReturns) where
  name := rfl
  mutation? := rfl
  query? := rfl
  fragment := by
    change fragmentOf (withReturns d.block) = fragmentOf d.block ∨
      fragmentOf (withReturns d.block) = withReturns (fragmentOf d.block)
    rw [fragmentOf_withReturns h]
    by_cases hn : '\n' ∈ d.block
    · exact .inr (if_pos hn)
    · exact .inl (if_neg hn)

theorem stats_withReturns (allowed : AllowList) (ds : List Declaration) :
    (ofDeclarations allowed (ds.map Declaration.withReturns)).stats =
      (ofDeclarations allowed ds).stats := by
  have hnames : (ds.map Declaration.withReturns).map (·.entity) = ds.map (·.entity) := List.map_map
  rw [stats_ofDeclarations, stats_ofDeclarations, hnames]

theorem entities_withReturns (allowed : AllowList) {ds : List Declaration}
    (h : ∀ d ∈ ds, '\r' ∉ d.block) :
    List.Forall₂ Entity.SameUpToReturns (ofDeclarations allowed ds).entities
      (ofDeclarations allowed (ds.map Declaration.withReturns)).entities := by
  rw [entities_ofDeclarations, entities_ofDeclarations, List.map_map, List.forall₂_map_left_iff,
    List.forall₂_map_right_iff, List.forall₂_same]
  exact fun d hd => sameUpToReturns_entityOf allowed (h d hd)

end Plan

/-- By the default patterns a schema declares the same entities when a carriage return is put in front of
every line feed, each with its block changed in the same way.  A block in several lines has its fragment
changed in the same way, a block in one line has the same fragment.  So the plans have the same
operations and the same statistics. -/
theorem withReturns_same_plan :
    ∃ patterns, Patterns.compile Patterns.defaultBlock Patterns.defaultName = .ok patterns ∧
      (∀ schema, ∃ ds, patterns.extract schema = .ok ds ∧
        patterns.extract (withReturns schema) = .ok (ds.map Declaration.withReturns)) ∧
      (∀ block, '\r' ∉ block → fragmentOf (withReturns block) =
        if '\n' ∈ block then withReturns (fragmentOf block) else fragmentOf block) ∧
      ∀ allowed schema, '\r' ∉ schema → ∃ p p',
        Plan.ofSchema patterns allowed schema = .ok p ∧
        Plan.ofSchema patterns allowed (withReturns schema) = .ok p' ∧
        List.Forall₂ Entity.SameUpToReturns p.entities p'.entities ∧ p'.stats = p.stats := by
  have hextract (schema : Text) : Patterns.standard.extract (withReturns schema) =
      .ok ((Scan.declarations schema).map Declaration.withReturns) := by
    rw [Patterns.extract_standard, Scan.declarations_withReturns]
  refine ⟨Patterns.standard, Patterns.compile_default,
    fun schema => ⟨_, Patterns.extract_standard schema, hextract schema⟩,
    fun block => fragmentOf_withReturns, fun allowed schema hr => ?_⟩
  have hblocks : ∀ d ∈ Scan.declarations schema, '\r' ∉ d.block := fun d hd hmem =>
    hr (Scan.block_subset_of_mem_declarationsFrom hd hmem)
  refine ⟨Plan.ofDeclarations allowed (Scan.declarations schema),
    Plan.ofDeclarations allowed ((Scan.declarations schema).map Declaration.withReturns), ?_, ?_,
    Plan.entities_withReturns allowed hblocks, Plan.stats_withReturns allowed _⟩
  · unfold Plan.ofSchema
    rw [Patterns.extract_standard]
  · unfold Plan.ofSchema
    rw [hextract]

/-- A type in several lines and one in a single line, which refer to each other. -/
def mixedSchema : Text := "type AGql \x7b\n  b: BGql!\n\x7d\n\ntype BGql \x7b a: AGql \x7d\n"

/-- The selection of the first type breaks lines with carriage returns, that of the second without. -/
theorem withReturns_same_plan_mixed :
    '\r' ∉ mixedSchema ∧ ∃ patterns p p',
      Patterns.compile Patterns.defaultBlock Patterns.defaultName = .ok patterns ∧
      Plan.ofSchema patterns (.parse ["saveA,b"]) mixedSchema = .ok p ∧
      Plan.ofSchema patterns (.parse ["saveA,b"]) (withReturns mixedSchema) = .ok p' ∧
      List.Forall₂ Entity.SameUpToReturns p.entities p'.entities ∧ p'.stats = p.stats ∧
      p'.entities.map Entity.fragment =
        ["fragment A on AGql \x7b\r\n  b \x7b\r\n    ...B\r\n  \x7d\r\n\x7d",
         "fragment B on BGql \x7b a \x7b\n    ...A\n  \x7d \x7d"] := by
  have hline : '\r' ∉ mixedSchema := by decide
  obtain ⟨patterns, hpatterns, -, -, hplans⟩ := withReturns_same_plan
  obtain ⟨p, p', hp, hp', hsame, hstats⟩ := hplans (.parse ["saveA,b"]) mixedSchema hline
  refine ⟨hline, patterns, p, p', hpatterns, hp, hp', hsame, hstats, ?_⟩
  cases Patterns.compile_default.symm.trans hpatterns
  have hfragments : (Plan.ofSchema Patterns.standard (.parse ["saveA,b"])
      (withReturns mixedSchema)).toOption.map (fun p => p.entities.map Entity.fragment) =
      some [("fragment A on AGql \x7b\r\n  b \x7b\r\n    ...B\r\n  \x7d\r\n\x7d" : Text),
        "fragment B on BGql \x7b a \x7b\n    ...A\n  \x7d \x7d"] := by
    decide +kernel
  rw [hp'] at hfragments
  exact Option.some.inj hfragments

end SchemaFragments
