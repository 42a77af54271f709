import SchemaFragments.Program
import SchemaFragments.Proofs.Run.Outcome

/-! # What a failed run leaves

A run stops at its first failure and keeps what was done before (`runActions_failed`).  A file that
cannot be removed stays as it is, and one that cannot be written stays too unless it has been opened,
for then it may hold a part of its document (`run_action_failed`).  A folder that cannot be made leaves
at most some of the folders above it (`prepare_failed`).

So a run that fails before it makes folders leaves the tree as it was, one that fails to make a folder
changes no file, and one that fails at a document has dealt with exactly the documents before it in
the plan and has changed nothing else but, if it could not write it, the file of that document
(`outcome_failed`). -/

namespace SchemaFragments

open SchemaFragments.Path

variable {t t' : FileTree} {root : Path} {k : DocumentKind} {f : Failure} {m : Medium}

/-! ### Actions -/

/-- Actions that fail have been carried out up to the first one that fails. -/
theorem runActions_failed {as : List Action} (h : runActions t as m = (t', .error f)) :
    ∃ before a after t₁, as = before ++ a :: after ∧ runActions t before m = (t₁, .ok ()) ∧
      a.run t₁ m = (t', .error f) := by
  induction as generalizing t with
  | nil => cases h
  | cons a as ih =>
      rw [runActions_cons] at h
      rcases ha : a.run t m with ⟨t₁, e | ⟨⟩⟩
      · rw [ha] at h
        cases h
        exact ⟨[], a, as, t, rfl, rfl, ha⟩
      · rw [ha] at h
        obtain ⟨before, b, after, t₂, rfl, hbefore, hb⟩ := ih h
        refine ⟨a :: before, b, after, t₂, rfl, ?_, hb⟩
        rw [runActions_cons, ha]
        exact hbefore

/-- The failure to bring the file of a document in line with the plan. -/
def Entity.failure (root : Path) (e : Entity) (k : DocumentKind) (fault : FileFault) : Failure :=
  match e.document? k with
  | some _ => .write (k.path root e.name) fault
  | none => .remove (k.path root e.name) fault

/-- What is left when the file of a document cannot be brought in line with the plan: the tree as it was,
unless the file was to be written and has been opened. -/
def Entity.LeftUndone (root : Path) (e : Entity) (k : DocumentKind) (t t' : FileTree) : Prop :=
  match e.document? k with
  | some document => t.FailedWrite (k.path root e.name) (.text (fileText document)) t'
  | none => t' = t

theorem run_action_failed {e : Entity} (h : (e.action root k).run t m = (t', .error f)) :
    e.LeftUndone root k t t' ∧ ∃ fault, f = e.failure root k fault := by
  unfold Entity.action at h
  unfold Entity.LeftUndone Entity.failure
  cases hd : e.document? k with
  | some document =>
      simp only [hd, Action.run] at h
      rcases hw : t.write (k.path root e.name) (.text (fileText document)) m with ⟨t₁, fault | ⟨⟩⟩
      · simp only [hw] at h
        cases h
        exact ⟨FileTree.write_failed hw, fault, rfl⟩
      · simp [hw] at h
  | none =>
      simp only [hd, Action.run] at h
      cases hr : t.remove (k.path root e.name) with
      | ok t₁ => simp [hr] at h
      | error fault =>
          cases fault with
          | notFound => simp [hr] at h
          | _ =>
              simp only [hr] at h
              cases h
              exact ⟨rfl, _, rfl⟩

/-- The locations on the way to the folder of a kind. -/
def OnWayToDocuments (root : Path) (l : Location) : Prop :=
  ∃ k : DocumentKind, FileTree.OnWay (names (k.folder root)) l

/-- Making folders changes no entry and adds only folders on the way, even if it fails. -/
theorem foldersAdded_prepare (t : FileTree) (root : Path) (ks : List DocumentKind) (m : Medium) :
    FileTree.FoldersAdded (OnWayToDocuments root) t
      (runActions t (ks.map fun k => .makeFolders (k.folder root)) m).1 := by
  induction ks generalizing t with
  | nil => exact .refl _ t
  | cons k ks ih =>
      have hk : FileTree.FoldersAdded (OnWayToDocuments root) t (t.makeFolders (k.folder root)).1 :=
        (FileTree.foldersAdded_makeFolders t (k.folder root)).mono fun l hl => ⟨k, hl⟩
      rw [List.map_cons, runActions_cons]
      rcases hm : t.makeFolders (k.folder root) with ⟨t₁, e | ⟨⟩⟩
      · simp only [Action.run, hm]
        rw [hm] at hk
        exact hk
      · simp only [Action.run, hm]
        rw [hm] at hk
        exact hk.trans (ih t₁)

theorem foldersAdded_prepareActions (t : FileTree) (root : Path) (m : Medium) :
    FileTree.FoldersAdded (OnWayToDocuments root) t (runActions t (prepareActions root) m).1 :=
  foldersAdded_prepare t root DocumentKind.all m

theorem prepare_failed {ks : List DocumentKind}
    (h : runActions t (ks.map fun k => .makeFolders (k.folder root)) m = (t', .error f)) :
    ∃ k : DocumentKind, ∃ fault, f = .createFolder (k.folder root) fault := by
  obtain ⟨before, a, after, t₁, has, -, ha⟩ := runActions_failed h
  have hmem : a ∈ ks.map fun k => Action.makeFolders (k.folder root) := by
    rw [has]
    exact List.mem_append_right _ List.mem_cons_self
  obtain ⟨k, -, rfl⟩ := List.mem_map.mp hmem
  unfold Action.run at ha
  rcases hm : t₁.makeFolders (k.folder root) with ⟨t₂, e | ⟨⟩⟩
  · simp only [hm] at ha
    cases ha
    exact ⟨k, e, rfl⟩
  · simp [hm] at ha

/-! ### Documents -/

/-- The document at a place in the order in which some entities are dealt with: the entities before
it, the entity, and the kinds before it. -/
theorem jobsOf_eq_append_cons {es : List Entity} {js js' : List (Entity × DocumentKind)} {e : Entity}
    (h : jobsOf es = js ++ (e, k) :: js') :
    ∃ before after ks ks', es = before ++ e :: after ∧ DocumentKind.all = ks ++ k :: ks' ∧
      js = jobsOf before ++ ks.map fun k' => (e, k') := by
  induction es generalizing js with
  | nil => cases js <;> cases h
  | cons x es ih =>
      have hcons : jobsOf (x :: es) = (DocumentKind.all.map fun k' => (x, k')) ++ jobsOf es := rfl
      rw [hcons] at h
      have hlater {u : List (Entity × DocumentKind)}
          (hes : jobsOf es = u ++ (e, k) :: js') (hjs : js = (DocumentKind.all.map fun k' => (x, k')) ++ u) :
          ∃ before after ks ks', x :: es = before ++ e :: after ∧ DocumentKind.all = ks ++ k :: ks' ∧
            js = jobsOf before ++ ks.map fun k' => (e, k') := by
        obtain ⟨before, after, ks, ks', rfl, hks, rfl⟩ := ih hes
        refine ⟨x :: before, after, ks, ks', rfl, hks, ?_⟩
        rw [hjs, ← List.append_assoc]
        rfl
      rcases List.append_eq_append_iff.mp h with ⟨u, hjs, hes⟩ | ⟨u, hall, hes⟩
      · exact hlater hes hjs
      · cases u with
        | nil => exact hlater (u := []) hes.symm (by rw [hall, List.append_nil, List.append_nil])
        | cons y u =>
            obtain ⟨ks, rest, hks, rfl, hrest⟩ := List.map_eq_append_iff.mp hall
            obtain ⟨k', ks', rfl, hk', -⟩ := List.map_eq_cons_iff.mp hrest
            rw [List.cons_append, List.cons.injEq, ← hk'] at hes
            cases hes.1
            exact ⟨[], es, ks, ks', rfl, hks, rfl⟩

/-- The folders of all kinds are made, and nothing else is changed. -/
structure Prepared (root : Path) (t t' : FileTree) : Prop where
  made : runActions t (prepareActions root) = (t', .ok ())
  folders : ∀ k : DocumentKind, t'.locate (k.folder root) = .ok (k.folderLocation root) ∧
    t'.entry? (k.folderLocation root) = some .folder
  added : FileTree.FoldersAdded (OnWayToDocuments root) t t'

theorem prepared_of_ok (h : runActions t (prepareActions root) = (t', .ok ())) :
    Prepared root t t' := by
  have hadded := foldersAdded_prepareActions t root .boundless
  rw [h] at hadded
  refine ⟨h, fun k => ?_, hadded⟩
  obtain ⟨hw, hl⟩ := (prepare_ok h).1 k k.mem_all
  exact ⟨hl, entry?_folderLocation hw⟩

/-- The tree that is left when a plan is carried out up to a document of an entity: the folders are
made, the files of the entities before it are in line with the plan, and so are its own files of the
kinds before. -/
structure StoppedAt (root : Path) (p : Plan) (e : Entity) (k : DocumentKind) (t t' : FileTree) :
    Prop where
  carried_out : ∃ t₀ before after ks ks', Prepared root t t₀ ∧ p.entities = before ++ e :: after ∧
    DocumentKind.all = ks ++ k :: ks' ∧
    t' = t₀.putAll (changesOf root (jobsOf before ++ ks.map fun k' => (e, k')))

theorem fileText_ne_nil (document : Text) : fileText document ≠ [] := by simp [fileText]

/-- No file is empty at such a moment that was not empty before: every document ends in a line feed. -/
theorem StoppedAt.entry?_ne_empty {p : Plan} {e : Entity} {l : Location} (h : StoppedAt root p e k t t')
    (hl : t.entry? l ≠ some (.file (.text []))) : t'.entry? l ≠ some (.file (.text [])) := by
  obtain ⟨t₀, before, after, ks, ks', hprep, -, -, rfl⟩ := h.carried_out
  by_cases hchanged : l ∈ (changesOf root (jobsOf before ++ ks.map fun k' => (e, k'))).map (·.location)
  · obtain ⟨c, hc, hentry⟩ := FileTree.exists_entry?_putAll hchanged t₀
    obtain ⟨j, -, rfl⟩ := List.mem_map.mp hc
    rw [hentry, Entity.change]
    cases j.1.document? j.2 with
    | none => simp
    | some document => simp [fileText_ne_nil]
  · rw [FileTree.entry?_putAll_of_not_mem hchanged]
    exact hprep.added.entry?_ne_file hl

/-- The actions of a plan fail at a folder or at a document. -/
theorem actions_failed {p : Plan} (hi : ∀ e ∈ p.entities, isIdentifier e.name)
    (h : runActions t (p.actions root) m = (t', .error f)) :
    (∃ k : DocumentKind, ∃ fault, f = .createFolder (k.folder root) fault ∧
        FileTree.FoldersAdded (OnWayToDocuments root) t t') ∨
      ∃ e k fault t₁, f = e.failure root k fault ∧ StoppedAt root p e k t t₁ ∧
        e.LeftUndone root k t₁ t' := by
  unfold Plan.actions at h
  rw [runActions_append] at h
  rcases hprep : runActions t (prepareActions root) m with ⟨t₀, fault | ⟨⟩⟩
  · rw [hprep] at h
    cases h
    obtain ⟨k, fault, rfl⟩ := prepare_failed hprep
    have hadded := foldersAdded_prepareActions t root m
    rw [hprep] at hadded
    exact .inl ⟨k, fault, rfl, hadded⟩
  · rw [hprep] at h
    replace hprep := runActions_boundless hprep
    simp only [flatMap_actions] at h
    obtain ⟨before, a, after, t₁, has, hdone, ha⟩ := runActions_failed h
    obtain ⟨js, rest, hjobs, rfl, hrest⟩ := List.map_eq_append_iff.mp has
    obtain ⟨⟨e, k⟩, js', rfl, rfl, -⟩ := List.map_eq_cons_iff.mp hrest
    obtain ⟨hundone, fault, rfl⟩ := run_action_failed ha
    have hmem (j : Entity × DocumentKind) (hj : j ∈ js) : '/' ∉ j.1.name := by
      have hjob : j ∈ jobsOf p.entities := by
        rw [hjobs]
        exact List.mem_append_left _ hj
      exact slash_not_mem_of_isIdentifier (hi j.1 (entity_of_mem_jobsOf hjob))
    obtain ⟨rfl, -, -⟩ := run_jobs_ok (fun k => ((prepare_ok hprep).1 k k.mem_all).1) hmem
      (runActions_boundless hdone)
    obtain ⟨before, after, ks, ks', hes, hks, rfl⟩ := jobsOf_eq_append_cons hjobs
    exact .inr ⟨e, k, fault, _, rfl,
      ⟨t₀, before, after, ks, ks', prepared_of_ok hprep, hes, hks, rfl⟩, hundone⟩

/-! ### Runs -/

theorem source_failed {o : CommandLine.SchemaOptions} (h : o.source = .error f) :
    ∃ option pattern fault, f = .invalidPattern option pattern fault := by
  unfold CommandLine.SchemaOptions.source Patterns.compile at h
  cases hb : Regex.Pattern.compile Patterns.blockFlags o.fragmentRegex with
  | error fault =>
      rw [hb] at h
      cases h
      exact ⟨_, _, _, rfl⟩
  | ok b =>
      cases hn : Regex.Pattern.compile Patterns.nameFlags o.fragmentNameRegex with
      | error fault =>
          rw [hb, hn] at h
          cases h
          exact ⟨_, _, _, rfl⟩
      | ok n =>
          rw [hb, hn] at h
          cases h

theorem ofSchema_failed {patterns : Patterns} {allowed : AllowList} {schema : Text}
    (h : Plan.ofSchema patterns allowed schema = .error f) : ∃ excerpt, f = .namelessBlock excerpt := by
  cases hx : patterns.extract schema with
  | error e =>
      rw [Plan.ofSchema_of_extract_error hx] at h
      cases h
      obtain ⟨_, block, _, -, -, hblock⟩ := Patterns.mapM_declaration_eq_error.mp hx
      exact ⟨_, (Patterns.declaration_eq_error.mp hblock).2⟩
  | ok ds =>
      rw [Plan.ofSchema_of_extract hx] at h
      cases h

theorem read_failed {s : Source} (h : s.read t = .error f) :
    ∃ path fault, f = .unreadableSchema path fault := by
  unfold Source.read at h
  cases hread : t.read s.schemaFile with
  | error fault =>
      rw [hread] at h
      cases h
      exact ⟨_, _, rfl⟩
  | ok schema =>
      rw [hread] at h
      cases h

theorem generate_of_unreadable {s : Source} (hr : s.read t = .error f) (root : Path) (c : Console)
    (m : Medium) :
    (generate s root c t m).tree = t ∧ (generate s root c t m).result = .error ⟨f, none⟩ := by
  unfold generate trace
  simp only [hr]
  exact ⟨trivial, trivial⟩

theorem generate_of_nameless {s : Source} {schema : Text} (hr : s.read t = .ok schema)
    (hp : Plan.ofSchema s.patterns s.allowed schema = .error f) (root : Path) (c : Console)
    (m : Medium) :
    (generate s root c t m).tree = t ∧
      ∃ attempt?, (generate s root c t m).result = .error ⟨f, attempt?⟩ := by
  unfold generate trace
  simp only [hr, Source.plan, hp]
  exact ⟨trivial, _, rfl⟩

/-- What a run plans before it touches a file. -/
def Source.planned (s : Source) (t : FileTree) : Except Failure Plan :=
  match s.read t with
  | .error e => .error e
  | .ok schema => Plan.ofSchema s.patterns s.allowed schema

theorem Source.planned_eq_ok {s : Source} {p : Plan} :
    s.planned t = .ok p ↔
      ∃ schema, s.read t = .ok schema ∧ Plan.ofSchema s.patterns s.allowed schema = .ok p := by
  unfold planned
  cases s.read t <;> simp

/-- A run that cannot plan fails for that reason and leaves the tree as it was. -/
theorem generate_of_not_planned {s : Source} (h : s.planned t = .error f) (root : Path) (c : Console)
    (m : Medium) :
    (generate s root c t m).tree = t ∧
      ∃ attempt?, (generate s root c t m).result = .error ⟨f, attempt?⟩ := by
  unfold Source.planned at h
  cases hr : s.read t with
  | error e =>
      rw [hr] at h
      cases h
      obtain ⟨htree, hresult⟩ := generate_of_unreadable hr root c m
      exact ⟨htree, none, hresult⟩
  | ok schema =>
      rw [hr] at h
      exact generate_of_nameless hr h root c m

/-- A run that has a plan carries it out. -/
theorem generate_of_planned {s : Source} {p : Plan} (h : s.planned t = .ok p) (root : Path)
    (c : Console) (m : Medium) :
    (generate s root c t m).tree = (runActions t (p.actions root) m).1 ∧
      (generate s root c t m).result =
        match (runActions t (p.actions root) m).2 with
        | .ok () => .ok p.stats
        | .error e => .error ⟨e, none⟩ := by
  obtain ⟨schema, hr, hp⟩ := Source.planned_eq_ok.mp h
  exact generate_of_plan hr hp root c m

/-- A run that fails for a pattern, for the schema file or for a block without a name leaves the tree
as it was.  If it fails to make a folder, no entry is changed, and nothing is new but folders that the
paths of the kinds' folders pass through.  If it fails to write or to remove a file, that is the file of
a document of the plan, the documents before it are dealt with, and nothing else is; but a file that
could not be written may have been opened, and then it is there with a part of the document, shorter
than the whole. -/
theorem outcome_failed (o : CommandLine.GenerateOptions) (c : Console) (t : FileTree) (m : Medium)
    {f : RunFailure} (h : (o.outcome c t m).result = .error f) :
    match f.failure with
    | .invalidPattern _ _ _ | .unreadableSchema _ _ | .namelessBlock _ => (o.outcome c t m).tree = t
    | .createFolder path _ => (∃ k : DocumentKind, path = k.folder o.outputFolder) ∧
        FileTree.FoldersAdded (OnWayToDocuments o.outputFolder) t (o.outcome c t m).tree
    | .write path _ => ∃ s schema p e k document t₁, o.schema.source = .ok s ∧ s.read t = .ok schema ∧
        Plan.ofSchema s.patterns s.allowed schema = .ok p ∧ e.document? k = some document ∧
        path = k.path o.outputFolder e.name ∧ StoppedAt o.outputFolder p e k t t₁ ∧
        t₁.FailedWrite path (.text (fileText document)) (o.outcome c t m).tree
    | .remove path _ => ∃ s schema p e k, o.schema.source = .ok s ∧ s.read t = .ok schema ∧
        Plan.ofSchema s.patterns s.allowed schema = .ok p ∧ e.document? k = none ∧
        path = k.path o.outputFolder e.name ∧
        StoppedAt o.outputFolder p e k t (o.outcome c t m).tree := by
  unfold CommandLine.GenerateOptions.outcome at h ⊢
  cases hs : o.schema.source with
  | error e =>
      obtain ⟨option, pattern, fault, rfl⟩ := source_failed hs
      rw [hs] at h
      cases h
      rfl
  | ok s =>
      simp only [hs] at h ⊢
      cases hr : s.read t with
      | error e =>
          obtain ⟨path, fault, rfl⟩ := read_failed hr
          obtain ⟨htree, hresult⟩ := generate_of_unreadable hr o.outputFolder c m
          cases hresult.symm.trans h
          exact htree
      | ok schema =>
          cases hp : Plan.ofSchema s.patterns s.allowed schema with
          | error e =>
              obtain ⟨excerpt, rfl⟩ := ofSchema_failed hp
              obtain ⟨htree, attempt?, hresult⟩ := generate_of_nameless hr hp o.outputFolder c m
              cases hresult.symm.trans h
              exact htree
          | ok p =>
              obtain ⟨htree, hresult⟩ := generate_of_plan hr hp o.outputFolder c m
              rw [hresult] at h
              rw [htree]
              rcases hrun : runActions t (p.actions o.outputFolder) m with ⟨t', e | ⟨⟩⟩
              · rw [hrun] at h
                cases h
                rcases actions_failed (fun e => Plan.isIdentifier_name hp) hrun with
                  ⟨k, fault, rfl, hadded⟩ | ⟨e, k, fault, t₁, rfl, hstop, hundone⟩
                · exact ⟨⟨k, rfl⟩, hadded⟩
                · unfold Entity.LeftUndone at hundone
                  unfold Entity.failure
                  cases hd : e.document? k with
                  | some document =>
                      rw [hd] at hundone
                      exact ⟨s, schema, p, e, k, document, t₁, rfl, hr, hp, hd, rfl, hstop, hundone⟩
                  | none =>
                      rw [hd] at hundone
                      rw [hundone]
                      exact ⟨s, schema, p, e, k, rfl, hr, hp, hd, rfl, hstop⟩
              · rw [hrun] at h
                cases h

/-- A result whose failure is known is that failure. -/
theorem error_of_failure {ε α : Type} {x : Except ε α} {e : ε}
    (h : (match x with | .error e' => some e' | .ok _ => none) = some e) : x = .error e := by
  cases x with
  | error e' =>
      cases h
      rfl
  | ok a => cases h

/-- A schema of two entities, and a folder where the mutation of the second one would lie. -/
def blockedTree : FileTree :=
  ((((FileTree.empty.set ["s"] (.file (.text
    "type AGql \x7b\n  id: Int\n\x7d\ntype BGql \x7b\n  a: AGql\n\x7d\n"))).set
      ["o"] .folder).set ["o", "mutations"] .folder).set
        ["o", "mutations", "SaveBMutation.graphql"] .folder)

/-- The save mutation of the first entity is asked for. -/
def blockedOptions : CommandLine.GenerateOptions :=
  ⟨⟨"s", ["SaveA"], Patterns.defaultBlock, Patterns.defaultName⟩, "o", false, true⟩

/-- A medium with no room left. -/
def Medium.full : Medium := ⟨fun _ _ _ => .cutShort 0 (.system 28 "No space left on device")⟩

/-- A schema of one entity, and the fragment that an earlier run has left. -/
def earlierTree : FileTree :=
  ((((FileTree.empty.set ["s"] (.file (.text "type AGql \x7b\n  id: Int\n\x7d\n"))).set
    ["o"] .folder).set ["o", "fragments"] .folder).set ["o", "fragments", "AFragment.graphql"]
      (.file (.text "old")))

/-- No operation is asked for. -/
def fragmentsOnly (root : Path) : CommandLine.GenerateOptions :=
  ⟨⟨"s", [], Patterns.defaultBlock, Patterns.defaultName⟩, root, false, true⟩

/-- The mutation of `B` cannot be removed, for a folder lies in its place; and on a medium with no room
left the fragment of `A` cannot be written. -/
theorem outcome_failed_blocked :
    (blockedOptions.outcome silentConsole blockedTree).result =
        .error ⟨.remove "o/mutations/SaveBMutation.graphql" .isAFolder, none⟩ ∧
      (∃ s schema p e k, blockedOptions.schema.source = .ok s ∧ s.read blockedTree = .ok schema ∧
        Plan.ofSchema s.patterns s.allowed schema = .ok p ∧ e.document? k = none ∧
        ("o/mutations/SaveBMutation.graphql" : Path) = k.path "o" e.name ∧
        StoppedAt "o" p e k blockedTree (blockedOptions.outcome silentConsole blockedTree).tree) ∧
      ((fragmentsOnly "o").outcome silentConsole earlierTree .full).result =
        .error ⟨.write "o/fragments/AFragment.graphql" (.system 28 "No space left on device"), none⟩ ∧
      ∃ s schema p e k document t₁, (fragmentsOnly "o").schema.source = .ok s ∧
        s.read earlierTree = .ok schema ∧ Plan.ofSchema s.patterns s.allowed schema = .ok p ∧
        e.document? k = some document ∧ ("o/fragments/AFragment.graphql" : Path) = k.path "o" e.name ∧
        StoppedAt "o" p e k earlierTree t₁ ∧
        t₁.FailedWrite "o/fragments/AFragment.graphql" (.text (fileText document))
          ((fragmentsOnly "o").outcome silentConsole earlierTree .full).tree := by
  have hblocked : (blockedOptions.outcome silentConsole blockedTree).result =
      .error ⟨.remove "o/mutations/SaveBMutation.graphql" .isAFolder, none⟩ :=
    error_of_failure (by decide +kernel)
  have hfull : ((fragmentsOnly "o").outcome silentConsole earlierTree .full).result =
      .error ⟨.write "o/fragments/AFragment.graphql" (.system 28 "No space left on device"), none⟩ :=
    error_of_failure (by decide +kernel)
  exact ⟨hblocked, outcome_failed blockedOptions silentConsole blockedTree .boundless hblocked,
    hfull, outcome_failed (fragmentsOnly "o") silentConsole earlierTree .full hfull⟩

/-- The same schema, and a file where the folder of the fragments below `b` would lie. -/
def hinderedTree : FileTree :=
  ((FileTree.empty.set ["s"] (.file (.text "type AGql \x7b\n  id: Int\n\x7d\n"))).set
    ["b"] .folder).set ["b", "fragments"] (.file (.text "x"))

/-- On a medium with no room left the fragment of the earlier run is emptied, which no document before
that of `A` accounts for.  And a run that cannot make its folders may leave a folder that is above none of
them, if the path of the output root goes through it and out again. -/
theorem failed_run_leaves_more :
    ((fragmentsOnly "o").outcome silentConsole earlierTree .full).result =
        .error ⟨.write "o/fragments/AFragment.graphql" (.system 28 "No space left on device"), none⟩ ∧
      (∀ p e k, ¬ StoppedAt "o" p e k earlierTree
        ((fragmentsOnly "o").outcome silentConsole earlierTree .full).tree) ∧
      ((fragmentsOnly "a/../b").outcome silentConsole hinderedTree).result =
        .error ⟨.createFolder "a/../b/fragments" .alreadyExists, none⟩ ∧
      hinderedTree.entry? ["a"] = none ∧
      ((fragmentsOnly "a/../b").outcome silentConsole hinderedTree).tree.entry? ["a"] = some .folder ∧
      ∀ k : DocumentKind, ¬ (["a"] : Location) <+: k.folderLocation "a/../b" := by
  have hbefore : earlierTree.entry? ["o", "fragments", "AFragment.graphql"] ≠ some (.file (.text [])) := by
    decide +kernel
  have hafter : ((fragmentsOnly "o").outcome silentConsole earlierTree .full).tree.entry?
      ["o", "fragments", "AFragment.graphql"] = some (.file (.text [])) := by decide +kernel
  refine ⟨error_of_failure (by decide +kernel), fun p e k hstop => ?_,
    error_of_failure (by decide +kernel), by decide +kernel, by decide +kernel, fun k => ?_⟩
  · exact hstop.entry?_ne_empty hbefore hafter
  · cases k <;> decide +kernel

end SchemaFragments
