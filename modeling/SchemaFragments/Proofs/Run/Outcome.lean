import SchemaFragments.Proofs.Extraction.Standard
import SchemaFragments.Proofs.Plan.Entities
import SchemaFragments.Proofs.Run.Sync

/-! # What a successful run leaves

A run that succeeds has read a schema, planned it, made the folders and carried out the actions of
all planned entities (`generate_ok`).  `Synced` says all that this means for the tree: the files of
the planned entities, of several entities of one name those of the last, and the frame around them.
Every successful run leaves a tree that is `Synced` with its plan (`generate_synced`). -/

namespace SchemaFragments

open SchemaFragments.Path

variable {t t' : FileTree} {root : Path}

/-! ### Steps and actions -/

/-- The actions among some steps. -/
def actionsOf (ss : List Step) : List Action :=
  ss.filterMap fun s =>
    match s with
    | .say _ => none
    | .act a => some a

theorem actionsOf_say_cons (line : Line) (ss : List Step) :
    actionsOf (.say line :: ss) = actionsOf ss := rfl

theorem actionsOf_act_cons (a : Action) (ss : List Step) :
    actionsOf (.act a :: ss) = a :: actionsOf ss := rfl

/-- What is said between the actions does not matter to the tree. -/
theorem runSteps_eq (t : FileTree) (ss : List Step) (m : Medium) :
    ((runSteps t ss m).tree, (runSteps t ss m).result) = runActions t (actionsOf ss) m := by
  induction ss generalizing t with
  | nil => rfl
  | cons s ss ih =>
      cases s with
      | say line => exact ih t
      | act a =>
          rw [actionsOf_act_cons, runActions_cons, runSteps]
          rcases a.run t m with ⟨t₁, ⟨⟩ | ⟨⟩⟩
          · rfl
          · exact ih t₁

/-- The actions that bring the output root in line with a plan. -/
def Plan.actions (root : Path) (p : Plan) : List Action :=
  prepareActions root ++ p.entities.flatMap (·.actions root)

theorem actionsOf_append (ss ss' : List Step) : actionsOf (ss ++ ss') = actionsOf ss ++ actionsOf ss' :=
  List.filterMap_append

theorem actionsOf_map_act (as : List Action) : actionsOf (as.map .act) = as := by
  induction as with
  | nil => rfl
  | cons a as ih =>
      rw [List.map_cons, actionsOf_act_cons, ih]

theorem actionsOf_map_say (lines : List Line) : actionsOf (lines.map .say) = [] := by
  simp [actionsOf]

theorem actionsOf_steps (root : Path) (p : Plan) : actionsOf (p.steps root) = p.actions root := by
  have he (es : List Entity) :
      actionsOf (es.flatMap fun e => .say e.line :: (e.actions root).map .act) =
        es.flatMap (·.actions root) := by
    induction es with
    | nil => rfl
    | cons e es ih =>
        rw [List.flatMap_cons, actionsOf_append, ih, List.flatMap_cons, actionsOf_say_cons,
          actionsOf_map_act]
  unfold Plan.steps Plan.actions
  rw [actionsOf_append, actionsOf_append, actionsOf_map_act, actionsOf_map_say, he, List.append_nil]

/-- A run that has planned its schema does what the actions of the plan do. -/
theorem generate_of_plan {s : Source} {schema : Text} {p : Plan} (hr : s.read t = .ok schema)
    (hp : Plan.ofSchema s.patterns s.allowed schema = .ok p) (root : Path) (c : Console)
    (m : Medium := .boundless) :
    (generate s root c t m).tree = (runActions t (p.actions root) m).1 ∧
      (generate s root c t m).result =
        match (runActions t (p.actions root) m).2 with
        | .ok () => .ok p.stats
        | .error e => .error ⟨e, none⟩ := by
  have hs := runSteps_eq t (p.steps root) m
  rw [actionsOf_steps] at hs
  unfold generate trace
  simp only [hr, Source.plan, hp]
  rw [← hs]
  exact ⟨rfl, rfl⟩

/-- A run that succeeds, on whatever medium, has carried out the actions of its plan. -/
theorem generate_ok {s : Source} {c : Console} {m : Medium} {stats : Stats}
    (h : (generate s root c t m).result = .ok stats) :
    ∃ schema p, s.read t = .ok schema ∧ Plan.ofSchema s.patterns s.allowed schema = .ok p ∧
      stats = p.stats ∧ runActions t (p.actions root) = ((generate s root c t m).tree, .ok ()) := by
  cases hr : s.read t with
  | error e => simp [generate, trace, hr] at h
  | ok schema =>
      cases hp : Plan.ofSchema s.patterns s.allowed schema with
      | error e => simp [generate, trace, hr, Source.plan, hp] at h
      | ok p =>
          obtain ⟨ht, hres⟩ := generate_of_plan hr hp root c m
          rw [hres] at h
          rw [ht]
          rcases hd : runActions t (p.actions root) m with ⟨t₁, ⟨⟩ | ⟨⟩⟩
          · simp [hd] at h
          · simp only [hd] at h
            cases h
            exact ⟨schema, p, rfl, hp, rfl, runActions_boundless hd⟩

/-- The tree after the actions of a plan: folders are made, then the files are changed in turn. -/
theorem Plan.actions_ok {p : Plan} (hi : ∀ e ∈ p.entities, isIdentifier e.name)
    (h : runActions t (p.actions root) = (t', .ok ())) :
    ∃ t₀, FileTree.FoldersAdded
        (fun l => FileTree.OnWay (names root) l ∨ ∃ k : DocumentKind, l = k.folderLocation root)
        t t₀ ∧
      (∀ k : DocumentKind, t'.locate (k.folder root) = .ok (k.folderLocation root) ∧
        t'.entry? (k.folderLocation root) = some .folder) ∧
      (∀ e ∈ p.entities, ∀ k : DocumentKind,
        t'.locate (k.path root e.name) = .ok (k.location root e.name)) ∧
      t' = t₀.putAll (changesOf root (jobsOf p.entities)) := by
  obtain ⟨t₀, h₀, h₁⟩ := runActions_append_ok h
  obtain ⟨hw, ha⟩ := prepare_ok h₀
  rw [flatMap_actions] at h₁
  obtain ⟨ht, hwithin, hl⟩ := run_jobs_ok (fun k => (hw k k.mem_all).1)
    (fun j hj => slash_not_mem_of_isIdentifier (hi j.1 (entity_of_mem_jobsOf hj))) h₁
  have hfolder (k : DocumentKind) := hwithin _ (entry?_folderLocation (hw k k.mem_all).1)
  exact ⟨t₀, ha, fun k => ⟨hwithin.locate (hw k k.mem_all).2, hfolder k⟩,
    fun e he k => hl _ (mem_jobsOf he k), ht⟩

/-! ### The files of a plan -/

/-- Among the elements of one name there is a last one. -/
theorem exists_last {α : Type} {f : α → Text} {xs : List α} {name : Text} (h : name ∈ xs.map f) :
    ∃ before last after, xs = before ++ last :: after ∧ f last = name ∧
      ∀ x ∈ after, f x ≠ name := by
  induction xs with
  | nil => cases h
  | cons x xs ih =>
      by_cases hxs : name ∈ xs.map f
      · obtain ⟨before, last, after, rfl, hl, ha⟩ := ih hxs
        exact ⟨x :: before, last, after, rfl, hl, ha⟩
      · rw [List.map_cons, List.mem_cons] at h
        refine ⟨[], x, xs, rfl, (h.resolve_right hxs).symm, fun y hy hn => ?_⟩
        exact hxs (List.mem_map.mpr ⟨y, hy, hn⟩)

theorem changesOf_append (root : Path) (js js' : List (Entity × DocumentKind)) :
    changesOf root (js ++ js') = changesOf root js ++ changesOf root js' := List.map_append

theorem mem_changesOf {js : List (Entity × DocumentKind)} {c : FileChange}
    (h : c ∈ changesOf root js) : ∃ j ∈ js, c = j.1.change root j.2 := by
  obtain ⟨j, hj, rfl⟩ := List.mem_map.mp h
  exact ⟨j, hj, rfl⟩

/-- After the changes for some entities the file of a document is as the last entity of its name
has it. -/
theorem entry?_document {before after : List Entity} {e : Entity} (h : ∀ x ∈ after, x.name ≠ e.name)
    (k : DocumentKind) (t : FileTree) :
    FileTree.entry? (t.putAll (changesOf root (jobsOf (before ++ e :: after))))
        (k.location root e.name) =
      (e.document? k).map fun document => .file (.text (fileText document)) := by
  obtain ⟨ks, ks', hks⟩ := List.append_of_mem k.mem_all
  have hnodup : DocumentKind.all.Nodup := by decide
  rw [hks, List.nodup_append] at hnodup
  have hk : k ∉ ks' := (List.nodup_cons.mp hnodup.2.1).1
  have hjobs : jobsOf (before ++ e :: after) =
      (jobsOf before ++ ks.map fun k' => (e, k')) ++ (e, k) ::
        ((ks'.map fun k' => (e, k')) ++ jobsOf after) := by
    simp [jobsOf, hks]
  have hlast : ∀ d ∈ changesOf root ((ks'.map fun k' => (e, k')) ++ jobsOf after),
      (e.change root k).location ≠ d.location := by
    intro d hd hl
    obtain ⟨⟨x, k'⟩, hj, rfl⟩ := mem_changesOf hd
    rw [Entity.location_change, Entity.location_change] at hl
    obtain ⟨rfl, hn⟩ := DocumentKind.location_inj hl
    rcases List.mem_append.mp hj with hj | hj
    · obtain ⟨k'', hk'', he⟩ := List.mem_map.mp hj
      cases he
      exact hk hk''
    · exact h x (entity_of_mem_jobsOf hj) hn.symm
  rw [hjobs, changesOf_append]
  refine (FileTree.entry?_putAll_last hlast t).trans ?_
  rw [Entity.change, Option.map_map]
  rfl

/-- What the changes for some entities do not name stays. -/
theorem entry?_of_ne_location {es : List Entity} {l : Location}
    (h : ∀ e ∈ es, ∀ k : DocumentKind, l ≠ k.location root e.name) (t : FileTree) :
    FileTree.entry? (t.putAll (changesOf root (jobsOf es))) l = t.entry? l := by
  apply FileTree.entry?_putAll_of_ne
  intro c hc
  obtain ⟨j, hj, rfl⟩ := mem_changesOf hc
  exact h j.1 (entity_of_mem_jobsOf hj) j.2

theorem fileText_of_last {front ending : Text} {c : Char} (h : ending.getLast? = some c)
    (hc : isBlank c = false) : fileText (front ++ ending) = front ++ ending ++ ['\n'] := by
  unfold fileText
  rw [Text.trimEnd_eq_self fun d hd => ?_]
  rw [List.getLast?_append, h] at hd
  cases hd
  exact hc

theorem fileText_saveMutation (entity : Text) :
    fileText (saveMutation entity) = saveMutation entity ++ ['\n'] :=
  fileText_of_last (c := '}') (by decide) (by decide)

theorem fileText_byIdQuery (entity : Text) :
    fileText (byIdQuery entity) = byIdQuery entity ++ ['\n'] :=
  fileText_of_last (c := '}') (by decide) (by decide)

/-! ### Trees in line with a plan -/

/-- The tree `t'` is what a run makes of the tree `t` when it carries out a plan for an allow-list.
-/
structure Synced (root : Path) (allowed : AllowList) (p : Plan) (t t' : FileTree) : Prop where
  /-- The three folders are there. -/
  folders : ∀ k : DocumentKind, t'.locate (k.folder root) = .ok (k.folderLocation root) ∧
    t'.entry? (k.folderLocation root) = some .folder
  /-- The path of every document leads to its location. -/
  located : ∀ e ∈ p.entities, ∀ k : DocumentKind,
    t'.locate (k.path root e.name) = .ok (k.location root e.name)
  /-- The fragment is that of the last entity of the name. -/
  fragment : ∀ before e after, p.entities = before ++ e :: after → (∀ x ∈ after, x.name ≠ e.name) →
    t'.entry? (DocumentKind.fragment.location root e.name) =
      some (.file (.text (Text.trimEnd e.fragment ++ ['\n'])))
  mutation : ∀ e ∈ p.entities, t'.entry? (DocumentKind.mutation.location root e.name) =
    if allowed.contains ("Save" ++ e.name) then
      some (.file (.text (saveMutation e.name ++ ['\n'])))
    else none
  query : ∀ e ∈ p.entities, t'.entry? (DocumentKind.query.location root e.name) =
    if allowed.contains (queryName e.name) then
      some (.file (.text (byIdQuery e.name ++ ['\n'])))
    else none
  /-- Whatever else was there is there unchanged. -/
  kept : ∀ l entry, (∀ e ∈ p.entities, ∀ k : DocumentKind, l ≠ k.location root e.name) →
    t.entry? l = some entry → t'.entry? l = some entry
  /-- Whatever else is new is one of the three folders or a folder on the way to the root. -/
  added : ∀ l, (∀ e ∈ p.entities, ∀ k : DocumentKind, l ≠ k.location root e.name) →
    t.entry? l = none → t'.entry? l ≠ none →
    t'.entry? l = some .folder ∧
      (FileTree.OnWay (names root) l ∨ ∃ k : DocumentKind, l = k.folderLocation root)

/-- The actions of a plan that all succeed leave a tree in line with the plan. -/
theorem synced_of_actions {patterns : Patterns} {allowed : AllowList} {schema : Text} {p : Plan}
    (hp : Plan.ofSchema patterns allowed schema = .ok p)
    (h : runActions t (p.actions root) = (t', .ok ())) : Synced root allowed p t t' := by
  obtain ⟨t₀, ha, hf, hl, rfl⟩ := Plan.actions_ok (fun e => Plan.isIdentifier_name hp) h
  have hdoc : ∀ e ∈ p.entities, ∀ k : DocumentKind, ∃ last ∈ p.entities, last.name = e.name ∧
      FileTree.entry? (t₀.putAll (changesOf root (jobsOf p.entities))) (k.location root e.name) =
        (last.document? k).map fun document => .file (.text (fileText document)) := by
    intro e he k
    obtain ⟨before, last, after, hes, hn, hlast⟩ := exists_last (List.mem_map_of_mem he)
    refine ⟨last, by simp [hes], hn, ?_⟩
    rw [hes, ← hn]
    exact entry?_document (by rwa [hn]) k t₀
  refine
    { folders := hf
      located := hl
      fragment := fun before e after hes hlast => ?_
      mutation := fun e he => ?_
      query := fun e he => ?_
      kept := fun l entry hne hent => ?_
      added := fun l hne hnone hsome => ?_ }
  · rw [hes, entry?_document hlast]
    rfl
  · obtain ⟨last, hlast, hn, hent⟩ := hdoc e he .mutation
    rw [hent, Entity.document?, Plan.mutation?_eq hp hlast, hn, ← fileText_saveMutation, mutationName]
    split_ifs <;> rfl
  · obtain ⟨last, hlast, hn, hent⟩ := hdoc e he .query
    rw [hent, Entity.document?, Plan.query?_eq hp hlast, hn, ← fileText_byIdQuery]
    split_ifs <;> rfl
  · rw [entry?_of_ne_location hne]
    exact ha.kept l entry hent
  · rw [entry?_of_ne_location hne] at hsome ⊢
    exact ha.added l hnone hsome

/-- A run that succeeds has read and planned a schema, and leaves a tree in line with the plan. -/
theorem generate_synced (s : Source) (root : Path) (c : Console) (t : FileTree) (m : Medium)
    {stats : Stats} (h : (generate s root c t m).result = .ok stats) :
    ∃ schema p, s.read t = .ok schema ∧ Plan.ofSchema s.patterns s.allowed schema = .ok p ∧
      stats = p.stats ∧ Synced root s.allowed p t (generate s root c t m).tree := by
  obtain ⟨schema, p, hr, hp, hs, hrun⟩ := generate_ok h
  exact ⟨schema, p, hr, hp, hs, synced_of_actions hp hrun⟩

/-- A console that shows nothing. -/
def silentConsole : Console where
  palette := .choose {} false .never .dark
  quiet := true
  clock := []

/-- The entity `A` declared twice, and a query of it left from an earlier run beside other files. -/
def repeatedTree : FileTree :=
  ((((FileTree.empty.set ["s"] (.file (.text
    "type AGql \x7b\n  id: Int\n\x7d\ntype BGql \x7b\n  a: AGql\n\x7d\ntype AGql \x7b\n  x: Int\n\x7d\n"))).set
      ["o"] .folder).set ["o", "queries"] .folder).set ["o", "queries", "AQuery.graphql"]
        (.file (.text "old"))).set ["o", "queries", "notes"] (.file (.bytes [255]))

/-- What is read from `repeatedTree`: the save mutation of `A` and the query of `B` are asked for. -/
def repeatedSource : Source := ⟨"s", .standard, .parse ["saveA, b"]⟩

theorem generate_synced_repeated :
    (generate repeatedSource "x/../o" silentConsole repeatedTree).result =
        .ok ⟨3, 2, 1, [.repeatedEntity "A"]⟩ ∧
      ∃ schema p, repeatedSource.read repeatedTree = .ok schema ∧
        Plan.ofSchema repeatedSource.patterns repeatedSource.allowed schema = .ok p ∧
        ⟨3, 2, 1, [.repeatedEntity "A"]⟩ = p.stats ∧
        Synced "x/../o" repeatedSource.allowed p repeatedTree
          (generate repeatedSource "x/../o" silentConsole repeatedTree).tree := by
  have h : (generate repeatedSource "x/../o" silentConsole repeatedTree).result =
      .ok ⟨3, 2, 1, [.repeatedEntity "A"]⟩ := ok_of_toOption (by decide +kernel)
  exact ⟨h, generate_synced _ _ _ _ _ h⟩

end SchemaFragments
