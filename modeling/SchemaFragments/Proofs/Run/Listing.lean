import SchemaFragments.Proofs.Plan.Stats
import SchemaFragments.Proofs.Run.Failed

/-! # What a listing says about a run

A listing shows the entities of the plan that a run with the same options would carry out
(`list_eq_planned`).  It fails if and only if that run fails before it touches a file, and then for the
same reason; otherwise its rows are the planned entities with their operations
(`listing_predicts_run`). -/

namespace SchemaFragments

open CommandLine

variable {t : FileTree} {f : Failure} {p : Plan} {m : Medium}

/-- The row of a planned entity. -/
def Entity.listed (e : Entity) : Listed where
  entity := e.name
  mutationName := mutationName e.name
  mutationEnabled := e.mutation?.isSome
  queryName := queryName e.name
  queryEnabled := e.query?.isSome

theorem listed_entityOf (allowed : AllowList) (d : Declaration) :
    (Plan.entityOf allowed d).listed = .ofDeclaration allowed d := by
  unfold Entity.listed Listed.ofDeclaration
  rw [Plan.isSome_mutation?_entityOf, Plan.isSome_query?_entityOf]
  rfl

theorem map_listed (allowed : AllowList) (ds : List Declaration) :
    (ds.map (Plan.entityOf allowed)).map Entity.listed = ds.map (.ofDeclaration allowed) := by
  rw [List.map_map]
  exact List.map_congr_left fun d _ => listed_entityOf allowed d

/-- A listing shows the entities of the plan, or fails as planning does. -/
theorem list_eq_planned (s : Source) (t : FileTree) :
    list s t = (s.planned t).map fun p => p.entities.map Entity.listed := by
  unfold list Source.planned Plan.ofSchema
  cases s.read t with
  | error e => rfl
  | ok schema =>
      cases hx : s.patterns.extract schema with
      | error e =>
          simp only [hx]
          rfl
      | ok ds =>
          simp only [hx, Except.map, Plan.entities_ofDeclarations, map_listed]

/-- What a run with some options plans before it touches a file. -/
def CommandLine.SchemaOptions.planned (o : SchemaOptions) (t : FileTree) : Except Failure Plan :=
  o.source.bind (·.planned t)

theorem listing_eq_planned (o : SchemaOptions) (t : FileTree) :
    o.source.bind (list · t) = (o.planned t).map fun p => p.entities.map Entity.listed := by
  unfold SchemaOptions.planned
  cases o.source with
  | error e => rfl
  | ok s => exact list_eq_planned s t

theorem listing_eq_error_iff {o : SchemaOptions} :
    o.source.bind (list · t) = .error f ↔ o.planned t = .error f := by
  rw [listing_eq_planned]
  cases o.planned t <;> simp [Except.map]

theorem listing_eq_ok_iff {o : SchemaOptions} {rows : List Listed} :
    o.source.bind (list · t) = .ok rows ↔
      ∃ p, o.planned t = .ok p ∧ rows = p.entities.map Entity.listed := by
  rw [listing_eq_planned]
  cases o.planned t <;> simp [Except.map, eq_comm]

/-! ### Failures -/

/-- The failure arises before a file is touched. -/
def Failure.IsEarly : Failure → Prop
  | invalidPattern _ _ _ | namelessBlock _ | unreadableSchema _ _ => True
  | createFolder _ _ | write _ _ | remove _ _ => False

theorem Source.isEarly_of_planned {s : Source} (h : s.planned t = .error f) : f.IsEarly := by
  unfold planned at h
  cases hr : s.read t with
  | error e =>
      rw [hr] at h
      cases h
      obtain ⟨path, fault, rfl⟩ := read_failed hr
      trivial
  | ok schema =>
      rw [hr] at h
      obtain ⟨excerpt, rfl⟩ := ofSchema_failed h
      trivial

theorem isEarly_of_planned {o : SchemaOptions} (h : o.planned t = .error f) : f.IsEarly := by
  unfold SchemaOptions.planned at h
  cases hs : o.source with
  | error e =>
      rw [hs] at h
      cases h
      obtain ⟨option, pattern, fault, rfl⟩ := source_failed hs
      trivial
  | ok s =>
      rw [hs] at h
      exact s.isEarly_of_planned h

/-- Once a file is touched no early failure arises. -/
theorem not_isEarly_of_actions {root : Path} (hi : ∀ e ∈ p.entities, isIdentifier e.name)
    (h : (runActions t (p.actions root) m).2 = .error f) : ¬ f.IsEarly := by
  have hrun : runActions t (p.actions root) m = ((runActions t (p.actions root) m).1, .error f) :=
    Prod.ext rfl h
  rcases actions_failed hi hrun with ⟨k, fault, rfl, -⟩ | ⟨e, k, fault, t₁, rfl, -⟩
  · exact id
  · unfold Entity.failure
    cases e.document? k with
    | some document => exact id
    | none => exact id

/-! ### Runs -/

theorem outcome_of_not_planned {g : GenerateOptions} (h : g.schema.planned t = .error f) (c : Console)
    (m : Medium) :
    (g.outcome c t m).tree = t ∧ ∃ attempt?, (g.outcome c t m).result = .error ⟨f, attempt?⟩ := by
  unfold SchemaOptions.planned at h
  unfold GenerateOptions.outcome
  cases hs : g.schema.source with
  | error e =>
      rw [hs] at h
      cases h
      exact ⟨rfl, none, rfl⟩
  | ok s =>
      rw [hs] at h
      exact generate_of_not_planned h g.outputFolder c m

theorem outcome_of_planned {g : GenerateOptions} (h : g.schema.planned t = .ok p) (c : Console)
    (m : Medium) :
    (g.outcome c t m).tree = (runActions t (p.actions g.outputFolder) m).1 ∧
      (g.outcome c t m).result =
        match (runActions t (p.actions g.outputFolder) m).2 with
        | .ok () => .ok p.stats
        | .error e => .error ⟨e, none⟩ := by
  unfold SchemaOptions.planned at h
  unfold GenerateOptions.outcome
  cases hs : g.schema.source with
  | error e =>
      rw [hs] at h
      cases h
  | ok s =>
      rw [hs] at h
      exact generate_of_planned h g.outputFolder c m

theorem ofSchema_of_planned {o : SchemaOptions} (h : o.planned t = .ok p) :
    ∃ s schema, o.source = .ok s ∧ s.read t = .ok schema ∧
      Plan.ofSchema s.patterns s.allowed schema = .ok p := by
  unfold SchemaOptions.planned at h
  cases hs : o.source with
  | error e =>
      rw [hs] at h
      cases h
  | ok s =>
      rw [hs] at h
      obtain ⟨schema, hr, hp⟩ := Source.planned_eq_ok.mp h
      exact ⟨s, schema, rfl, hr, hp⟩

/-- Without a plan a run fails early, and early failures come from nothing else. -/
theorem planned_eq_error_iff {g : GenerateOptions} (c : Console) (m : Medium) :
    g.schema.planned t = .error f ↔
      f.IsEarly ∧ ∃ attempt?, (g.outcome c t m).result = .error ⟨f, attempt?⟩ := by
  constructor
  · intro h
    exact ⟨isEarly_of_planned h, (outcome_of_not_planned h c m).2⟩
  · rintro ⟨hearly, attempt?, hresult⟩
    cases hp : g.schema.planned t with
    | error e =>
        obtain ⟨-, attempt'?, hresult'⟩ := outcome_of_not_planned hp c m
        cases hresult.symm.trans hresult'
        rfl
    | ok p =>
        obtain ⟨s, schema, -, -, hplan⟩ := ofSchema_of_planned hp
        rw [(outcome_of_planned hp c m).2] at hresult
        cases hrun : (runActions t (p.actions g.outputFolder) m).2 with
        | error e =>
            rw [hrun] at hresult
            cases hresult
            exact absurd hearly (not_isEarly_of_actions (fun e => Plan.isIdentifier_name hplan) hrun)
        | ok u =>
            rw [hrun] at hresult
            cases hresult

/-- The statistics of a run that succeeds are those of its plan. -/
theorem stats_of_outcome {g : GenerateOptions} {c : Console} {stats : Stats}
    (h : g.schema.planned t = .ok p) (hresult : (g.outcome c t m).result = .ok stats) :
    stats = p.stats := by
  rw [(outcome_of_planned h c m).2] at hresult
  cases hrun : (runActions t (p.actions g.outputFolder) m).2 with
  | error e =>
      rw [hrun] at hresult
      cases hresult
  | ok u =>
      rw [hrun] at hresult
      cases hresult
      rfl

/-! ### Listings -/

theorem tree_execute_list {call : Call} {a : Arguments} {o : SchemaOptions} (h : a.list? = some o)
    (t : FileTree) (m : Medium) : (execute call a t m).tree = t := by
  unfold execute
  rw [h]
  dsimp only
  cases o.source.bind (list · t) <;> rfl

/-- The rows of a plan with an operation enabled are as many as its statistics count. -/
theorem countP_listed {patterns : Patterns} {allowed : AllowList} {schema : Text}
    (h : Plan.ofSchema patterns allowed schema = .ok p) :
    (p.entities.map Entity.listed).countP (·.mutationEnabled) = p.stats.mutations ∧
      (p.entities.map Entity.listed).countP (·.queryEnabled) = p.stats.queries := by
  obtain ⟨ds, -, rfl⟩ := Plan.ofSchema_ok h
  rw [Plan.entities_ofDeclarations, Plan.stats_ofDeclarations, map_listed]
  unfold Plan.statsFor
  simp only [List.countP_map]
  exact ⟨rfl, rfl⟩

/-- A listing fails if and only if a run with the same options fails before it touches a file, and for
the same reason.  Otherwise there is a plan that the run carries out: the rows are its entities, and as
many operations are enabled as its statistics count.  A listing changes no file. -/
theorem listing_predicts_run (g : GenerateOptions) (c : Console) (t : FileTree) (m : Medium) :
    (∀ f, g.schema.source.bind (list · t) = .error f ↔
      f.IsEarly ∧ ∃ attempt?, (g.outcome c t m).result = .error ⟨f, attempt?⟩) ∧
    (∀ f, g.schema.source.bind (list · t) = .error f → (g.outcome c t m).tree = t) ∧
    (∀ rows, g.schema.source.bind (list · t) = .ok rows → ∃ s schema p,
      g.schema.source = .ok s ∧ s.read t = .ok schema ∧
      Plan.ofSchema s.patterns s.allowed schema = .ok p ∧
      (g.outcome c t m).tree = (runActions t (p.actions g.outputFolder) m).1 ∧
      (∀ stats, (g.outcome c t m).result = .ok stats → stats = p.stats) ∧
      rows = p.entities.map Entity.listed ∧
      rows.countP (·.mutationEnabled) = p.stats.mutations ∧
      rows.countP (·.queryEnabled) = p.stats.queries) ∧
    ∀ (call : Call) (a : Arguments), a.list? = some g.schema → (execute call a t m).tree = t := by
  refine ⟨fun f => ?_, fun f hf => ?_, fun rows hrows => ?_, fun call a h => tree_execute_list h t m⟩
  · rw [listing_eq_error_iff, planned_eq_error_iff c m]
  · exact (outcome_of_not_planned (listing_eq_error_iff.mp hf) c m).1
  · obtain ⟨p, hp, rfl⟩ := listing_eq_ok_iff.mp hrows
    obtain ⟨s, schema, hs, hr, hplan⟩ := ofSchema_of_planned hp
    obtain ⟨hmutations, hqueries⟩ := countP_listed hplan
    exact ⟨s, schema, p, hs, hr, hplan, (outcome_of_planned hp c m).1,
      fun stats => stats_of_outcome hp, rfl, hmutations, hqueries⟩

/-- The second entity cannot be dealt with: the run fails there, and the listing does not. -/
theorem listing_predicts_run_blocked :
    (blockedOptions.outcome silentConsole blockedTree).result =
        .error ⟨.remove "o/mutations/SaveBMutation.graphql" .isAFolder, none⟩ ∧
      ∃ s schema p, blockedOptions.schema.source = .ok s ∧ s.read blockedTree = .ok schema ∧
        Plan.ofSchema s.patterns s.allowed schema = .ok p ∧
        [⟨"A", "SaveA", true, "a", false⟩, ⟨"B", "SaveB", false, "b", false⟩] =
          p.entities.map Entity.listed ∧
        1 = p.stats.mutations ∧ 0 = p.stats.queries := by
  have hresult : (blockedOptions.outcome silentConsole blockedTree).result =
      .error ⟨.remove "o/mutations/SaveBMutation.graphql" .isAFolder, none⟩ :=
    error_of_failure (by decide +kernel)
  have hrows : blockedOptions.schema.source.bind (list · blockedTree) =
      .ok [⟨"A", "SaveA", true, "a", false⟩, ⟨"B", "SaveB", false, "b", false⟩] :=
    ok_of_toOption (by decide +kernel)
  obtain ⟨-, -, hplan, -⟩ := listing_predicts_run blockedOptions silentConsole blockedTree .boundless
  obtain ⟨s, schema, p, hs, hr, hp, -, -, hentities, hmutations, hqueries⟩ := hplan _ hrows
  exact ⟨hresult, s, schema, p, hs, hr, hp, hentities, hmutations, hqueries⟩

end SchemaFragments
