import Mathlib.Data.Finset.Image
import SchemaFragments.Proofs.Plan.Asked
import SchemaFragments.Proofs.Run.Absorb

/-! # What is counted and what is written

The statistics of a plan count its documents (`accounted_ofSchema`).  Documents of one kind and one
name share a file, so a run writes fewer files than it counts documents when an entity is declared
again; the warnings about repeated entities are the difference (`generate_accounts`). -/

namespace SchemaFragments

variable {t t' : FileTree} {root : Path} {k : DocumentKind} {l : Location}

/-! ### Statistics of a plan -/

/-- The plan has an entity for every declared name, in the order of the declarations, and its statistics
count the entities and their documents.  They warn, before anything else, of every declared name that
stands further in front as well. -/
structure Plan.Accounted (declared : List Text) (p : Plan) : Prop where
  names : p.entities.map Entity.name = declared
  fragments : p.stats.fragments = p.entities.length
  mutations : p.stats.mutations = p.entities.countP (·.mutation?.isSome)
  queries : p.stats.queries = p.entities.countP (·.query?.isSome)
  warnings : p.stats.warnings =
    (laterOccurrences declared).map .repeatedEntity ++ p.stats.unknown.map .unknownName

namespace Plan

variable {patterns : Patterns} {allowed : AllowList} {schema : Text} {p : Plan} {e : Entity}

theorem accounted_ofSchema (h : ofSchema patterns allowed schema = .ok p) :
    ∃ ds, patterns.extract schema = .ok ds ∧ p.Accounted (ds.map (·.entity)) := by
  have hunknown : p.stats.unknown = unansweredNames allowed (p.entities.map Entity.name) := by
    rw [stats_ofSchema h, unknown_statsFor]
  have hstats := stats_ofSchema h
  obtain ⟨ds, hds, rfl⟩ := ofSchema_ok h
  have hnames := names_ofDeclarations allowed ds
  refine ⟨ds, hds, hnames, ?_, ?_, ?_, ?_⟩
  · rw [hstats, statsFor, List.length_map]
  · rw [hstats, entities_ofDeclarations]
    simp only [statsFor, List.countP_map, List.map_map, Function.comp_def, isSome_mutation?_entityOf]
    rfl
  · rw [hstats, entities_ofDeclarations]
    simp only [statsFor, List.countP_map, List.map_map, Function.comp_def, isSome_query?_entityOf]
    rfl
  · rw [hunknown, hstats, statsFor, repeatedNames_nil, hnames]

theorem count_statsFor (allowed : AllowList) (names : List Text) (k : DocumentKind) :
    (statsFor allowed names).count k = names.countP (k.isAsked allowed) := by
  cases k with
  | fragment => exact (congrFun List.countP_true names).symm
  | mutation => rfl
  | query => rfl

theorem isSome_document? (h : ofSchema patterns allowed schema = .ok p) (he : e ∈ p.entities)
    (k : DocumentKind) : (e.document? k).isSome = k.isAsked allowed e.name := by
  obtain ⟨d, -, rfl⟩ := exists_of_mem_entities h he
  exact document?_entityOf allowed d k

end Plan

/-! ### Files written -/

/-- The path that an action writes to. -/
def Action.written? : Action → Option Path
  | makeFolders _ | remove _ => none
  | write p _ => some p

/-- The files right in the folder of a kind that some actions write, as a tree has them: each once. -/
def writtenFiles (t : FileTree) (root : Path) (k : DocumentKind) (as : List Action) : Finset Location :=
  ((as.filterMap Action.written?).filterMap fun p => (t.locate p).toOption).toFinset.filter
    fun l => l.dropLast = k.folderLocation root

theorem mem_writtenFiles {as : List Action} :
    l ∈ writtenFiles t root k as ↔
      (∃ p text, .write p text ∈ as ∧ t.locate p = .ok l) ∧ l.dropLast = k.folderLocation root := by
  have hlocate (p : Path) : (t.locate p).toOption = some l ↔ t.locate p = .ok l := by
    cases t.locate p <;> simp [Except.toOption]
  have hwrite (p : Path) : (∃ a ∈ as, a.written? = some p) ↔ ∃ text, .write p text ∈ as := by
    constructor
    · rintro ⟨a, ha, hp⟩
      cases a with
      | write p' text =>
          cases hp
          exact ⟨text, ha⟩
      | makeFolders _ => cases hp
      | remove _ => cases hp
    · rintro ⟨text, ha⟩
      exact ⟨_, ha, rfl⟩
  unfold writtenFiles
  simp only [Finset.mem_filter, List.mem_toFinset, List.mem_filterMap, hlocate, hwrite]
  simp only [exists_and_right]

/-- A plan writes its documents, each to the path of its kind and entity. -/
theorem write_mem_actions_iff {p : Plan} {path : Path} {text : Text} :
    .write path text ∈ p.actions root ↔
      ∃ e ∈ p.entities, ∃ k document, e.document? k = some document ∧
        path = k.path root e.name ∧ text = fileText document := by
  have haction (e : Entity) (k : DocumentKind) : e.action root k = .write path text ↔
      ∃ document, e.document? k = some document ∧ path = k.path root e.name ∧
        text = fileText document := by
    unfold Entity.action
    cases e.document? k with
    | none => simp
    | some document => simp [eq_comm]
  have hprepare : .write path text ∉ prepareActions root := by simp [prepareActions]
  simp only [Plan.actions, List.mem_append, hprepare, false_or, List.mem_flatMap, Entity.actions,
    List.mem_map, haction, DocumentKind.mem_all, true_and]

/-- In a tree where the paths of a plan's documents lead to their locations, the files that the plan
writes for a kind are those of the entities that have a document of the kind. -/
theorem writtenFiles_actions {p : Plan}
    (hlocated : ∀ e ∈ p.entities, ∀ k : DocumentKind,
      t.locate (k.path root e.name) = .ok (k.location root e.name)) (k : DocumentKind) :
    writtenFiles t root k (p.actions root) =
      ((p.entities.filter fun e => (e.document? k).isSome).map Entity.name).toFinset.image
        fun name => k.location root name := by
  ext l
  rw [mem_writtenFiles]
  simp only [Finset.mem_image, List.mem_toFinset, List.mem_map, List.mem_filter]
  constructor
  · rintro ⟨⟨path, text, hwrite, hl⟩, hfolder⟩
    obtain ⟨e, he, k', document, hdocument, rfl, -⟩ := write_mem_actions_iff.mp hwrite
    cases (hlocated e he k').symm.trans hl
    obtain rfl : k' = k := by
      rw [DocumentKind.location, List.dropLast_concat] at hfolder
      exact DocumentKind.plural_inj (List.singleton_inj.mp (List.append_cancel_left hfolder))
    exact ⟨e.name, ⟨e, ⟨he, by rw [hdocument]; rfl⟩, rfl⟩, rfl⟩
  · rintro ⟨name, ⟨e, ⟨he, hsome⟩, rfl⟩, rfl⟩
    obtain ⟨document, hdocument⟩ := Option.isSome_iff_exists.mp hsome
    exact ⟨⟨_, _, write_mem_actions_iff.mpr ⟨e, he, k, document, hdocument, rfl, rfl⟩, hlocated e he k⟩,
      List.dropLast_concat⟩

/-! ### Files and warnings -/

/-- The warning is about an entity that is declared again, and there is a document of the kind for an
entity of its name. -/
def Plan.repeatsDocument (p : Plan) (k : DocumentKind) : Warning → Bool
  | .repeatedEntity name => p.entities.any fun e => e.name = name && (e.document? k).isSome
  | .unknownName _ => false

namespace Plan

variable {patterns : Patterns} {allowed : AllowList} {schema : Text} {p : Plan}

theorem countP_warnings (h : ofSchema patterns allowed schema = .ok p) {f : Warning → Bool}
    (hunknown : ∀ name, f (.unknownName name) = false) :
    p.stats.warnings.countP f =
      (repeatedNames [] (p.entities.map Entity.name)).countP fun name => f (.repeatedEntity name) := by
  obtain ⟨ds, -, haccounted⟩ := accounted_ofSchema h
  rw [haccounted.warnings, haccounted.names, repeatedNames_nil, List.countP_append, List.countP_map,
    List.countP_map]
  simp [Function.comp_def, hunknown]

theorem countP_overwrites (h : ofSchema patterns allowed schema = .ok p) :
    p.stats.warnings.countP Warning.overwrites =
      (repeatedNames [] (p.entities.map Entity.name)).countP
        fun name => DocumentKind.isAsked allowed name .fragment :=
  countP_warnings h fun _ => rfl

theorem countP_repeatsDocument (h : ofSchema patterns allowed schema = .ok p) (k : DocumentKind) :
    p.stats.warnings.countP (p.repeatsDocument k) =
      (repeatedNames [] (p.entities.map Entity.name)).countP fun name => k.isAsked allowed name := by
  rw [countP_warnings h fun _ => rfl]
  refine List.countP_congr fun name hname => ?_
  obtain ⟨e, he, rfl⟩ := List.mem_map.mp ((repeatedNames_sublist _ _).subset hname)
  unfold repeatsDocument
  rw [List.any_eq_true]
  constructor
  · rintro ⟨e', he', hsome⟩
    rw [Bool.and_eq_true, decide_eq_true_iff, isSome_document? h he'] at hsome
    rw [← hsome.1]
    exact hsome.2
  · intro hasked
    refine ⟨e, he, ?_⟩
    rw [isSome_document? h he, hasked, Bool.and_true]
    exact decide_eq_true rfl

/-- The different files of a kind that a plan writes and the repeated documents are together all
documents of the kind. -/
theorem card_writtenFiles_add (h : ofSchema patterns allowed schema = .ok p)
    (hlocated : ∀ e ∈ p.entities, ∀ k : DocumentKind,
      t.locate (k.path root e.name) = .ok (k.location root e.name)) (k : DocumentKind) :
    (writtenFiles t root k (p.actions root)).card +
        (repeatedNames [] (p.entities.map Entity.name)).countP (fun name => k.isAsked allowed name) =
      p.stats.count k := by
  have hinjective : Function.Injective fun name => k.location root name :=
    fun _ _ hname => (DocumentKind.location_inj hname).2
  have hnames : (p.entities.filter fun e => (e.document? k).isSome).map Entity.name =
      (p.entities.map Entity.name).filter fun name => k.isAsked allowed name := by
    rw [List.filter_map]
    exact congrArg _ (List.filter_congr fun e he => isSome_document? h he k)
  have hcard := card_add_countP_repeatedNames (fun name => k.isAsked allowed name) []
    (p.entities.map Entity.name)
  rw [List.toFinset_nil, Finset.sdiff_empty] at hcard
  rw [writtenFiles_actions hlocated, Finset.card_image_of_injective _ hinjective, hnames, hcard,
    stats_ofSchema h, count_statsFor]

end Plan

/-- The files that a plan has written are in the tree, and they are as many as its statistics count
documents, without those of the entities that are warned about. -/
structure Plan.FilesAccounted (root : Path) (p : Plan) (t : FileTree) : Prop where
  there : ∀ k, ∀ l ∈ writtenFiles t root k (p.actions root), t.HasFile l
  fragments : (writtenFiles t root .fragment (p.actions root)).card +
    p.stats.warnings.countP Warning.overwrites = p.stats.fragments
  mutations : (writtenFiles t root .mutation (p.actions root)).card +
    p.stats.warnings.countP (p.repeatsDocument .mutation) = p.stats.mutations
  queries : (writtenFiles t root .query (p.actions root)).card +
    p.stats.warnings.countP (p.repeatsDocument .query) = p.stats.queries

theorem filesAccounted_of_synced {patterns : Patterns} {allowed : AllowList} {schema : Text} {p : Plan}
    (h : Plan.ofSchema patterns allowed schema = .ok p) (hs : Synced root allowed p t t') :
    p.FilesAccounted root t' := by
  constructor
  · intro k l hl
    rw [writtenFiles_actions hs.located, Finset.mem_image] at hl
    obtain ⟨name, hname, rfl⟩ := hl
    obtain ⟨e, he, rfl⟩ := List.mem_map.mp (List.mem_toFinset.mp hname)
    obtain ⟨he, hsome⟩ := List.mem_filter.mp he
    rw [hs.hasFile_planned (List.mem_map_of_mem he), ← Plan.isSome_document? h he]
    exact hsome
  · rw [Plan.countP_overwrites h]
    exact Plan.card_writtenFiles_add h hs.located .fragment
  · rw [Plan.countP_repeatsDocument h]
    exact Plan.card_writtenFiles_add h hs.located .mutation
  · rw [Plan.countP_repeatsDocument h]
    exact Plan.card_writtenFiles_add h hs.located .query

/-- The statistics of every plan count its documents and warn of its repeated declarations.  The files that a
run has written when it succeeds are as many, for each kind, as its statistics count documents, less one
for each warning about a repeated entity that has a document of the kind. -/
theorem generate_accounts :
    (∀ (patterns : Patterns) (allowed : AllowList) (schema : Text) (p : Plan),
      Plan.ofSchema patterns allowed schema = .ok p →
        ∃ ds, patterns.extract schema = .ok ds ∧ p.Accounted (ds.map (·.entity))) ∧
    ∀ (s : Source) (root : Path) (c : Console) (t : FileTree) (m : Medium) (stats : Stats),
      (generate s root c t m).result = .ok stats →
        ∃ schema p, s.read t = .ok schema ∧ Plan.ofSchema s.patterns s.allowed schema = .ok p ∧
          stats = p.stats ∧ runActions t (p.actions root) = ((generate s root c t m).tree, .ok ()) ∧
          p.FilesAccounted root (generate s root c t m).tree := by
  refine ⟨fun _ _ _ _ => Plan.accounted_ofSchema, fun s root c t m stats h => ?_⟩
  obtain ⟨schema, p, hr, hp, hstats, hrun⟩ := generate_ok h
  exact ⟨schema, p, hr, hp, hstats, hrun, filesAccounted_of_synced hp (synced_of_actions hp hrun)⟩

/-- The plan of `repeatedTree` for what is asked for. -/
def repeatedPlan : Plan := .ofDeclarations repeatedSource.allowed repeatedDeclarations

/-- The run over `repeatedTree` counts three fragments and two mutations, and writes two files and one:
the entity `A`, whose mutation is asked for, is declared twice. -/
theorem generate_accounts_repeated :
    (generate repeatedSource "x/../o" silentConsole repeatedTree).result = .ok repeatedPlan.stats ∧
      (∃ declared, repeatedPlan.Accounted declared) ∧
      (writtenFiles (generate repeatedSource "x/../o" silentConsole repeatedTree).tree "x/../o" .fragment
        (repeatedPlan.actions "x/../o")).card = 2 ∧
      (writtenFiles (generate repeatedSource "x/../o" silentConsole repeatedTree).tree "x/../o" .mutation
        (repeatedPlan.actions "x/../o")).card = 1 ∧
      (writtenFiles (generate repeatedSource "x/../o" silentConsole repeatedTree).tree "x/../o" .query
        (repeatedPlan.actions "x/../o")).card = 1 := by
  have h : (generate repeatedSource "x/../o" silentConsole repeatedTree).result =
      .ok repeatedPlan.stats := ok_of_toOption (by decide +kernel)
  have hknown : ((repeatedSource.read repeatedTree).toOption.bind fun schema =>
      (Plan.ofSchema repeatedSource.patterns repeatedSource.allowed schema).toOption) =
        some repeatedPlan := by decide +kernel
  obtain ⟨schema, p, hr, hp, -, -, hfiles⟩ := generate_accounts.2 _ _ _ _ _ _ h
  obtain rfl : p = repeatedPlan := by
    rw [hr] at hknown
    simpa [Except.toOption, hp] using hknown
  have hfragments := hfiles.fragments
  have hmutations := hfiles.mutations
  have hqueries := hfiles.queries
  have hcounts : repeatedPlan.stats = ⟨3, 2, 1, [.repeatedEntity "A"]⟩ := by decide +kernel
  have hwarned : [Warning.repeatedEntity "A"].countP Warning.overwrites = 1 := by decide
  have hmutation : [Warning.repeatedEntity "A"].countP (repeatedPlan.repeatsDocument .mutation) = 1 := by
    decide +kernel
  have hquery : [Warning.repeatedEntity "A"].countP (repeatedPlan.repeatsDocument .query) = 0 := by
    decide +kernel
  rw [hcounts, hwarned] at hfragments
  rw [hcounts, hmutation] at hmutations
  rw [hcounts, hquery] at hqueries
  obtain ⟨ds, -, haccounted⟩ := generate_accounts.1 _ _ _ _ hp
  exact ⟨h, ⟨_, haccounted⟩, Nat.succ.inj hfragments, Nat.succ.inj hmutations, hqueries⟩

end SchemaFragments
