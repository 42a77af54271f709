import SchemaFragments.Proofs.Extraction.Names
import SchemaFragments.Proofs.Run.Failed
import SchemaFragments.Proofs.Run.Success

/-! # Where a run may write

The path of a document is the output root, the name of one of the three folders and the name of a file,
each parted from the next by a slash (`path_eq_slashed`).  Whatever the patterns make of a schema, the
names of its entities are single identifiers, so the name of the file is a single name and cannot lead
anywhere else (`isFileName_fileNameFor`).

Hence every action of a run is `Confined` to the three folders, and nothing changes in the tree but the
files of planned entities and folders on the way to them, however the run ends (`generate_confined`). -/

namespace SchemaFragments

open SchemaFragments.Path

variable {t t' : FileTree} {root : Path} {k k' : DocumentKind} {entity entity' : Text} {l : Location}
  {m : Medium}

/-! ### Paths of documents -/

namespace Path

/-- The path of a folder as it stands in front of a name: a slash comes behind it unless it is empty
or ends in one. -/
def slashed (base : Path) : Path :=
  if base = [] ∨ base.getLast? = some '/' then base else base ++ ['/']

/-- A name that can only be that of a file right in a folder. -/
structure IsFileName (name : Text) : Prop where
  plain : Plain name
  no_null : '\x00' ∉ name

theorem join_plain (base : Path) {name : Text} (h : Plain name) : join base name = slashed base ++ name := by
  unfold join slashed
  rw [if_neg h.head?_ne]
  split_ifs <;> rfl

theorem slashed_append_plain (front : Path) {name : Text} (h : Plain name) :
    slashed (front ++ name) = front ++ name ++ ['/'] := by
  unfold slashed
  rw [if_neg]
  rintro (hnil | hlast)
  · exact h.ne_nil (List.append_eq_nil_iff.mp hnil).2
  · rw [List.getLast?_append_of_ne_nil _ h.ne_nil] at hlast
    exact h.noSlash (List.mem_of_getLast? hlast)

end Path

theorem isFileName_fileNameFor (he : isIdentifier entity) (k : DocumentKind) :
    IsFileName (k.fileNameFor entity) := by
  have hnull : '\x00' ∉ entity :=
    Text.not_mem_of_forall (isIdentifier_iff.mp he).2 (by decide)
  refine ⟨k.plain_fileNameFor (slash_not_mem_of_isIdentifier he), ?_⟩
  cases k with
  | fragment => simp [DocumentKind.fileNameFor, hnull]
  | mutation => simp [DocumentKind.fileNameFor, mutationName, hnull]
  | query => simp [DocumentKind.fileNameFor, hnull]

theorem folder_eq_slashed (root : Path) (k : DocumentKind) : k.folder root = slashed root ++ k.plural :=
  join_plain root k.plain_plural

theorem path_eq_slashed (root : Path) (k : DocumentKind) (he : '/' ∉ entity) :
    k.path root entity = slashed root ++ (k.plural ++ '/' :: k.fileNameFor entity) := by
  unfold DocumentKind.path
  rw [join_plain _ (k.plain_fileNameFor he), folder_eq_slashed, slashed_append_plain _ k.plain_plural]
  simp

theorem resolve_names_path (root : Path) (k : DocumentKind) (he : '/' ∉ entity) :
    resolve (names (k.path root entity)) = k.location root entity := by
  have hnames : names (k.path root entity) = names (k.folder root) ++ [k.fileNameFor entity] :=
    names_join _ (k.plain_fileNameFor he)
  rw [hnames, resolve_concat_plain _ (k.plain_fileNameFor he), k.resolve_names_folder]
  rfl

/-- The documents of different entities, or of different kinds, have different paths. -/
theorem path_inj (he : isIdentifier entity) (he' : isIdentifier entity')
    (h : k.path root entity = k'.path root entity') : k = k' ∧ entity = entity' := by
  have hl := congrArg (fun p => resolve (names p)) h
  simp only [resolve_names_path root _ (slash_not_mem_of_isIdentifier he),
    resolve_names_path root _ (slash_not_mem_of_isIdentifier he')] at hl
  exact DocumentKind.location_inj hl

/-! ### Actions -/

/-- The action makes one of the three folders, or writes or removes a file right in one of them. -/
def Action.Confined (root : Path) : Action → Prop
  | makeFolders p => ∃ k : DocumentKind, p = slashed root ++ k.plural
  | write p _ | remove p => ∃ (k : DocumentKind) (file : Text),
      p = slashed root ++ (k.plural ++ '/' :: file) ∧ IsFileName file

theorem confined_action {e : Entity} (he : isIdentifier e.name) (root : Path) (k : DocumentKind) :
    (e.action root k).Confined root := by
  have hpath : ∃ (k' : DocumentKind) (file : Text),
      k.path root e.name = slashed root ++ (k'.plural ++ '/' :: file) ∧ IsFileName file :=
    ⟨k, k.fileNameFor e.name, path_eq_slashed root k (slash_not_mem_of_isIdentifier he),
      isFileName_fileNameFor he k⟩
  unfold Entity.action
  cases e.document? k with
  | some document => exact hpath
  | none => exact hpath

theorem confined_actions {p : Plan} (hi : ∀ e ∈ p.entities, isIdentifier e.name) (root : Path) :
    ∀ a ∈ p.actions root, a.Confined root := by
  intro a ha
  rcases List.mem_append.mp ha with ha | ha
  · obtain ⟨k, -, rfl⟩ := List.mem_map.mp ha
    exact ⟨k, folder_eq_slashed root k⟩
  · obtain ⟨e, he, ha⟩ := List.mem_flatMap.mp ha
    obtain ⟨k, -, rfl⟩ := List.mem_map.mp ha
    exact confined_action (hi e he) root k

/-! ### Trees -/

/-- The change is one of the file of an entity's document. -/
def FileChange.IsAbout (root : Path) (e : Entity) (c : FileChange) : Prop :=
  ∃ k : DocumentKind, c.location = k.location root e.name

theorem isAbout_of_mem_changesOf {js : List (Entity × DocumentKind)} {c : FileChange}
    (h : c ∈ changesOf root js) : ∃ j ∈ js, c.IsAbout root j.1 := by
  obtain ⟨j, hj, rfl⟩ := mem_changesOf h
  exact ⟨j, hj, j.2, rfl⟩

/-- A document that could not be dealt with leaves at most a change of its own file. -/
theorem Entity.LeftUndone.changes {e : Entity} (he : '/' ∉ e.name) (h : e.LeftUndone root k t t') :
    ∃ cs : List FileChange, (∀ c ∈ cs, c.IsAbout root e) ∧ t' = t.putAll cs := by
  unfold Entity.LeftUndone at h
  cases hd : e.document? k with
  | none =>
      rw [hd] at h
      exact ⟨[], by simp, h⟩
  | some document =>
      rw [hd] at h
      cases h with
      | unopened => exact ⟨[], by simp, rfl⟩
      | @cutShort l n hl =>
          obtain rfl : l = k.location root e.name :=
            (FileTree.follow_ok (FileTree.follow_of_locate hl)).trans (resolve_names_path root k he)
          refine ⟨[⟨k.folderLocation root, k.fileNameFor e.name, some _⟩], fun c hc => ?_, rfl⟩
          rw [List.mem_singleton.mp hc]
          exact ⟨k, rfl⟩

/-- However far the actions of a plan come, they have made folders and then changed files of planned
entities. -/
theorem runActions_changes {p : Plan} (hi : ∀ e ∈ p.entities, isIdentifier e.name) :
    ∃ t₀ cs, FileTree.FoldersAdded (OnWayToDocuments root) t t₀ ∧
      (∀ c ∈ cs, ∃ e ∈ p.entities, c.IsAbout root e) ∧
      (runActions t (p.actions root) m).1 = t₀.putAll cs := by
  rcases h : runActions t (p.actions root) m with ⟨t', f | ⟨⟩⟩
  · rcases actions_failed hi h with ⟨k, fault, -, hadded⟩ | ⟨e, k, fault, t₁, -, hstop, hundone⟩
    · exact ⟨t', [], hadded, by simp, rfl⟩
    · obtain ⟨t₀, before, after, ks, ks', hprep, hes, -, rfl⟩ := hstop.carried_out
      have he : e ∈ p.entities := by simp [hes]
      obtain ⟨cs, hcs, rfl⟩ := hundone.changes (slash_not_mem_of_isIdentifier (hi e he))
      refine ⟨t₀, _, hprep.added, fun c hc => ?_, (FileTree.putAll_append _ _ _).symm⟩
      rcases List.mem_append.mp hc with hc | hc
      · obtain ⟨j, hj, habout⟩ := isAbout_of_mem_changesOf hc
        refine ⟨j.1, ?_, habout⟩
        rw [hes]
        rcases List.mem_append.mp hj with hj | hj
        · exact List.mem_append_left _ (entity_of_mem_jobsOf hj)
        · obtain ⟨k', -, rfl⟩ := List.mem_map.mp hj
          exact List.mem_append_right _ List.mem_cons_self
      · exact ⟨e, he, hcs c hc⟩
  · obtain ⟨t₀, h₀, -, rfl⟩ := (runActions_plan_iff hi).mp (runActions_boundless h)
    refine ⟨t₀, _, (prepared_of_ok h₀).added, fun c hc => ?_, rfl⟩
    obtain ⟨j, hj, habout⟩ := isAbout_of_mem_changesOf hc
    exact ⟨j.1, entity_of_mem_jobsOf hj, habout⟩

/-- What the actions of a plan change is the file of a planned entity, or a folder that is new. -/
theorem changed_of_runActions {p : Plan} (hi : ∀ e ∈ p.entities, isIdentifier e.name)
    (h : FileTree.entry? (runActions t (p.actions root) m).1 l ≠ t.entry? l) :
    (∃ e ∈ p.entities, ∃ k : DocumentKind, l = k.location root e.name) ∨
      t.entry? l = none ∧ FileTree.entry? (runActions t (p.actions root) m).1 l = some .folder ∧
        OnWayToDocuments root l := by
  obtain ⟨t₀, cs, hadded, hcs, htree⟩ := @runActions_changes t root m p hi
  rw [htree] at h ⊢
  by_cases hl : ∃ c ∈ cs, l = c.location
  · obtain ⟨c, hc, rfl⟩ := hl
    obtain ⟨e, he, k, hlocation⟩ := hcs c hc
    exact .inl ⟨e, he, k, hlocation⟩
  · have hkept : FileTree.entry? (t₀.putAll cs) l = t₀.entry? l :=
      FileTree.entry?_putAll_of_ne (fun c hc heq => hl ⟨c, hc, heq⟩) t₀
    rw [hkept] at h ⊢
    cases hent : t.entry? l with
    | some entry => exact absurd ((hadded.kept l entry hent).trans hent.symm) h
    | none =>
        rw [hent] at h
        exact .inr ⟨rfl, hadded.added l hent h⟩

/-! ### Runs -/

namespace Source

/-- What a run sets out to do to the files. -/
def actions (s : Source) (root : Path) (t : FileTree) : List Action :=
  match s.planned t with
  | .error _ => []
  | .ok p => p.actions root

theorem isIdentifier_planned {s : Source} {p : Plan} (h : s.planned t = .ok p) {e : Entity}
    (he : e ∈ p.entities) : isIdentifier e.name := by
  obtain ⟨schema, -, hp⟩ := planned_eq_ok.mp h
  exact Plan.isIdentifier_name hp he

end Source

theorem tree_generate (s : Source) (root : Path) (c : Console) (t : FileTree) (m : Medium) :
    (generate s root c t m).tree = (runActions t (s.actions root t) m).1 := by
  unfold Source.actions
  cases h : s.planned t with
  | error f => exact (generate_of_not_planned h root c m).1
  | ok p => exact (generate_of_planned h root c m).1

/-- Whatever the patterns, the schema and the medium, a run does nothing but make the three folders and
write or remove files right in them; all that changes in the tree, however the run ends, is such a file
or a folder that was not there on the way to the three; and no two documents share a path. -/
theorem generate_confined (s : Source) (root : Path) (c : Console) (t : FileTree) (m : Medium) :
    (generate s root c t m).tree = (runActions t (s.actions root t) m).1 ∧
      (∀ a ∈ s.actions root t, a.Confined root) ∧
      (∀ l, (generate s root c t m).tree.entry? l ≠ t.entry? l →
        (∃ (k : DocumentKind) (file : Text), IsFileName file ∧ l = k.folderLocation root ++ [file]) ∨
          t.entry? l = none ∧ (generate s root c t m).tree.entry? l = some .folder ∧
            OnWayToDocuments root l) ∧
      ∀ (k k' : DocumentKind) (entity entity' : Text), isIdentifier entity → isIdentifier entity' →
        (k.path root entity = k'.path root entity' ↔ k = k' ∧ entity = entity') := by
  have htree := tree_generate s root c t m
  refine ⟨htree, ?_, fun l hl => ?_, fun k k' entity entity' he he' => ?_⟩
  · unfold Source.actions
    cases h : s.planned t with
    | error f => simp
    | ok p => exact confined_actions (fun e => Source.isIdentifier_planned h) root
  · rw [htree] at hl ⊢
    unfold Source.actions at hl ⊢
    cases h : s.planned t with
    | error f =>
        rw [h] at hl
        exact absurd rfl hl
    | ok p =>
        rw [h] at hl
        refine (changed_of_runActions (fun e => Source.isIdentifier_planned h) hl).imp_left ?_
        rintro ⟨e, he, k, rfl⟩
        exact ⟨k, _, isFileName_fileNameFor (Source.isIdentifier_planned h he) k, rfl⟩
  · constructor
    · exact path_inj he he'
    · rintro ⟨rfl, rfl⟩
      rfl

/-- Relative paths, one to a line. -/
def linesTree : FileTree := FileTree.empty.set ["s"] (.file (.text "../A.\n../B.\n"))

/-- The actions for `linesTree` with some patterns and the absolute root `/o/`. -/
def linesActions (patterns : Patterns) : List Action :=
  (Source.mk "s" patterns (.parse ["saveA"])).actions "/o/" linesTree

/-- What a run does for `linesTree` when each line gives the name behind its last slash. -/
def linesExpected : List Action :=
  [.makeFolders "/o/fragments", .makeFolders "/o/mutations", .makeFolders "/o/queries",
   .write "/o/fragments/AFragment.graphql" "../A.\n",
   .write "/o/mutations/SaveAMutation.graphql"
    "mutation SaveA($a: InputAGql!) \x7b\n  saveAResult(a: $a) \x7b\n    ...A\n  \x7d\n\x7d\n",
   .remove "/o/queries/AQuery.graphql", .write "/o/fragments/BFragment.graphql" "../B.\n",
   .remove "/o/mutations/SaveBMutation.graphql", .remove "/o/queries/BQuery.graphql"]

/-- With patterns that name an entity by what stands between the last slash and the dot, the run stays
in its three folders; with the whole line as a name it does nothing. -/
theorem generate_confined_lines :
    (∃ patterns, Patterns.compile "^.*?\\.$" "^.*/(.*)\\.$" = .ok patterns ∧
      linesActions patterns = linesExpected ∧
      ∀ a ∈ linesActions patterns, a.Confined "/o/") ∧
    ∃ patterns, Patterns.compile "^.*?\\.$" "^(.*)\\.$" = .ok patterns ∧ linesActions patterns = [] := by
  have hlast : (Patterns.compile "^.*?\\.$" "^.*/(.*)\\.$").toOption.map linesActions =
      some linesExpected := by
    decide +kernel
  have hwhole : (Patterns.compile "^.*?\\.$" "^(.*)\\.$").toOption.map linesActions = some [] := by
    decide +kernel
  obtain ⟨patterns, hcompile, hactions⟩ := Option.map_eq_some_iff.mp hlast
  obtain ⟨patterns', hcompile', hactions'⟩ := Option.map_eq_some_iff.mp hwhole
  obtain ⟨-, hconfined, -⟩ :=
    generate_confined (Source.mk "s" patterns (.parse ["saveA"])) "/o/" silentConsole linesTree
      .boundless
  exact ⟨⟨patterns, ok_of_toOption hcompile, hactions, hconfined⟩,
    patterns', ok_of_toOption hcompile', hactions'⟩

end SchemaFragments
