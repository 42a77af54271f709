import SchemaFragments.Proofs.Run.Outcome

/-! # Histories of runs

`History root runs t` says that the tree `t` has come about by successful runs into one output root
that was empty at first, with any schema and any names asked for in each run, and any changes
elsewhere between the runs.  The latest run stands first in the list.

A run deals with the files of the entities that it plans, and with no others.  So the file of a
document is there if and only if the last run that planned its entity asked for the document
(`History.hasFile_iff`).  After the last run an operation file that is not asked for is there if and
only if a former entity was asked for when it was planned for the last time and is not any more
(`no_stale_operation_iff`); that happens when the entity goes from the schema
(`stale_operation_of_former_entity`). -/

namespace SchemaFragments

open SchemaFragments.Path

variable {root : Path} {t t' : FileTree}

/-- Is the document of a kind asked for?  Fragments always are. -/
def DocumentKind.isAsked (allowed : AllowList) (entity : Text) : DocumentKind → Bool
  | fragment => true
  | mutation => allowed.contains (mutationName entity)
  | query => allowed.contains (queryName entity)

/-- Is there a file at a location? -/
def FileTree.HasFile (t : FileTree) (l : Location) : Prop := ∃ c, t.entry? l = some (.file c)

theorem FileTree.not_hasFile_of_none {l : Location} (h : t.entry? l = none) : ¬ t.HasFile l := by
  rintro ⟨c, hc⟩
  rw [h] at hc
  cases hc

theorem exists_file_ite {b : Prop} [Decidable b] (x : Content) :
    (∃ c, (if b then some (Entry.file x) else none) = some (.file c)) ↔ b := by
  split_ifs with h
  · exact ⟨fun _ => h, fun _ => ⟨x, rfl⟩⟩
  · constructor
    · rintro ⟨c, hc⟩
      cases hc
    · exact fun hb => absurd hb h

/-! ### One run -/

namespace Synced

variable {allowed : AllowList} {p : Plan} {entity : Text}

theorem hasFile_planned (h : Synced root allowed p t t') (he : entity ∈ p.entities.map (·.name))
    (k : DocumentKind) : t'.HasFile (k.location root entity) ↔ k.isAsked allowed entity := by
  obtain ⟨before, e, after, hes, rfl, hlast⟩ := exists_last he
  have hmem : e ∈ p.entities := by simp [hes]
  unfold FileTree.HasFile
  cases k with
  | fragment =>
      rw [h.fragment before e after hes hlast]
      exact ⟨fun _ => rfl, fun _ => ⟨_, rfl⟩⟩
  | mutation =>
      rw [h.mutation e hmem]
      exact exists_file_ite _
  | query =>
      rw [h.query e hmem]
      exact exists_file_ite _

theorem hasFile_of_not_planned (h : Synced root allowed p t t')
    (he : entity ∉ p.entities.map (·.name)) (k : DocumentKind) :
    t'.HasFile (k.location root entity) ↔ t.HasFile (k.location root entity) := by
  have hne : ∀ e ∈ p.entities, ∀ k' : DocumentKind,
      k.location root entity ≠ k'.location root e.name := by
    intro e hmem k' hl
    obtain ⟨rfl, rfl⟩ := DocumentKind.location_inj hl
    exact he (List.mem_map_of_mem hmem)
  constructor
  · rintro ⟨c, hc⟩
    cases ht : t.entry? (k.location root entity) with
    | none =>
        obtain ⟨hf, -⟩ := h.added _ hne ht (by simp [hc])
        rw [hc] at hf
        cases hf
    | some x =>
        have hk := h.kept _ x hne ht
        rw [hc] at hk
        cases hk
        exact ⟨c, ht⟩
  · rintro ⟨c, hc⟩
    exact ⟨c, h.kept _ _ hne hc⟩

end Synced

/-! ### Many runs -/

/-- A run that has succeeded: what was asked for, and the names of the entities that were planned.
-/
structure PastRun where
  allowed : AllowList
  entities : List Text

/-- The tree has come about by some successful runs, the latest first, from an empty output root. -/
inductive History (root : Path) : List PastRun → FileTree → Prop
  | start {t : FileTree} (empty : ∀ l, resolve (names root) <+: l → l ≠ resolve (names root) →
      t.entry? l = none) : History root [] t
  /-- Between the runs anything may change but what lies where documents lie. -/
  | edit {runs : List PastRun} {t t' : FileTree} (before : History root runs t)
      (same : ∀ entity (k : DocumentKind),
        t'.entry? (k.location root entity) = t.entry? (k.location root entity)) :
      History root runs t'
  | run {runs : List PastRun} {t : FileTree} {s : Source} {c : Console} {m : Medium} {schema : Text}
      {p : Plan} {stats : Stats} (before : History root runs t) (read : s.read t = .ok schema)
      (plan : Plan.ofSchema s.patterns s.allowed schema = .ok p)
      (success : (generate s root c t m).result = .ok stats) :
      History root (⟨s.allowed, p.entities.map (·.name)⟩ :: runs) (generate s root c t m).tree

/-- The last run that planned an entity. -/
def lastPlanning (entity : Text) (runs : List PastRun) : Option PastRun :=
  runs.find? fun r => r.entities.contains entity

theorem lastPlanning_cons (entity : Text) (r : PastRun) (runs : List PastRun) :
    lastPlanning entity (r :: runs) =
      if entity ∈ r.entities then some r else lastPlanning entity runs := by
  unfold lastPlanning
  rw [List.find?_cons]
  split_ifs with h <;> simp [h]

/-- The file of a document is there if and only if the last run that planned the entity asked for
the document. -/
theorem History.hasFile_iff {runs : List PastRun} (h : History root runs t) (entity : Text)
    (k : DocumentKind) :
    t.HasFile (k.location root entity) ↔
      ∃ r, lastPlanning entity runs = some r ∧ k.isAsked r.allowed entity := by
  induction h with
  | start empty =>
      have hnone := empty (k.location root entity)
        ⟨[k.plural, k.fileNameFor entity], by simp [DocumentKind.location, DocumentKind.folderLocation]⟩
        (by simp [DocumentKind.location, DocumentKind.folderLocation])
      constructor
      · intro hf
        exact absurd hf (FileTree.not_hasFile_of_none hnone)
      · rintro ⟨r, hr, -⟩
        cases hr
  | edit _ same ih =>
      rw [← ih]
      unfold FileTree.HasFile
      rw [same]
  | @run runs t s c m schema p stats _ read plan success ih =>
      obtain ⟨schema', p', hr, hp, -, hrun⟩ := generate_ok success
      rw [read] at hr
      cases hr
      rw [plan] at hp
      cases hp
      have hsync := synced_of_actions plan hrun
      rw [lastPlanning_cons]
      by_cases he : entity ∈ p.entities.map (·.name)
      · rw [hsync.hasFile_planned he, if_pos he]
        simp
      · rw [hsync.hasFile_of_not_planned he, if_neg he, ih]

/-- A document is asked for if it is there after the last run, if and only if that is so when the last
run did not plan its entity and an earlier one left it. -/
theorem History.not_stale_iff {last : PastRun} {runs : List PastRun} (h : History root (last :: runs) t)
    (entity : Text) (k : DocumentKind) :
    (t.HasFile (k.location root entity) → k.isAsked last.allowed entity) ↔
      ∀ r, entity ∉ last.entities → lastPlanning entity runs = some r →
        k.isAsked r.allowed entity → k.isAsked last.allowed entity := by
  rw [h.hasFile_iff, lastPlanning_cons]
  constructor
  · intro hno r hnot hr ha
    rw [if_neg hnot] at hno
    exact hno ⟨r, hr, ha⟩
  · rintro hstill ⟨r, hr, ha⟩
    split_ifs at hr with hmem
    · cases hr
      exact ha
    · exact hstill r hmem hr ha

/-- After the last run no operation file is there that is not asked for, if and only if whatever a
former entity was asked for when it was planned for the last time is still asked for. -/
theorem no_stale_operation_iff {last : PastRun} {runs : List PastRun}
    (h : History root (last :: runs) t) :
    (∀ entity,
        (t.HasFile (DocumentKind.mutation.location root entity) →
          last.allowed.contains ("Save" ++ entity)) ∧
        (t.HasFile (DocumentKind.query.location root entity) →
          last.allowed.contains (queryName entity))) ↔
      ∀ entity r, entity ∉ last.entities → lastPlanning entity runs = some r →
        (r.allowed.contains ("Save" ++ entity) → last.allowed.contains ("Save" ++ entity)) ∧
        (r.allowed.contains (queryName entity) → last.allowed.contains (queryName entity)) := by
  constructor
  · intro hno entity r hnot hr
    constructor
    · exact (h.not_stale_iff entity .mutation).mp (hno entity).1 r hnot hr
    · exact (h.not_stale_iff entity .query).mp (hno entity).2 r hnot hr
  · intro hstill entity
    constructor
    · exact (h.not_stale_iff entity .mutation).mpr fun r hnot hr => (hstill entity r hnot hr).1
    · exact (h.not_stale_iff entity .query).mpr fun r hnot hr => (hstill entity r hnot hr).2

/-- A schema that declares one entity. -/
def schemaOf (entity : Text) : Text := "type " ++ entity ++ "Gql \x7b\n  id: Int\n\x7d\n"

/-- The file of a schema read with some operations asked for. -/
def sourceFor (names : List Text) : Source := ⟨"s", .standard, .parse names⟩

/-- A tree with nothing but a schema that declares the entity `A`. -/
def formerTree : FileTree := FileTree.empty.set ["s".toList] (.file (.text (schemaOf "A")))

theorem history_formerTree : History "o" [] formerTree := by
  refine .start fun l hl _ => ?_
  have hs : l ≠ ["s".toList] := by
    rintro rfl
    revert hl
    decide
  have hnil : l ≠ [] := by
    rintro rfl
    revert hl
    decide
  unfold formerTree
  rw [FileTree.entry?_set _ (by simp), if_neg hs]
  unfold FileTree.entry? FileTree.empty
  rw [if_neg hnil]
  simp

/-- The tree after a run for the save mutation of `A`, with a schema that declares `B` instead. -/
def latterTree : FileTree :=
  (generate (sourceFor ["SaveA"]) "o" silentConsole formerTree).tree.set ["s".toList]
    (.file (.text (schemaOf "B")))

/-- The save mutation of `A` is asked for while the schema declares `A`.  Then the schema declares
`B` in its place and nothing is asked for, and the mutation is still there. -/
theorem stale_operation_of_former_entity :
    ∃ t, History "o" [⟨.parse [], ["B"]⟩, ⟨.parse ["SaveA"], ["A"]⟩] t ∧
      ¬ ∀ entity,
        (t.HasFile (DocumentKind.mutation.location "o" entity) →
          (AllowList.parse []).contains ("Save" ++ entity)) ∧
        (t.HasFile (DocumentKind.query.location "o" entity) →
          (AllowList.parse []).contains (queryName entity)) := by
  have r1 : (sourceFor ["SaveA"]).read formerTree = .ok (schemaOf "A") :=
    ok_of_toOption (by decide +kernel)
  have p1 : Plan.ofSchema (sourceFor ["SaveA"]).patterns (sourceFor ["SaveA"]).allowed (schemaOf "A") =
      .ok (.ofDeclarations (.parse ["SaveA"]) [⟨"A", "type AGql \x7b\n  id: Int\n\x7d"⟩]) :=
    ok_of_toOption (by decide +kernel)
  have g1 : (generate (sourceFor ["SaveA"]) "o" silentConsole formerTree).result = .ok ⟨1, 1, 0, []⟩ :=
    ok_of_toOption (by decide +kernel)
  have h1 : History "o" _ latterTree := (history_formerTree.run r1 p1 g1).edit fun entity k => by
    unfold latterTree
    rw [FileTree.entry?_set _ (by simp), if_neg]
    intro hl
    have := congrArg List.length hl
    simp [DocumentKind.location, DocumentKind.folderLocation] at this
  have r2 : (sourceFor []).read latterTree = .ok (schemaOf "B") := ok_of_toOption (by decide +kernel)
  have p2 : Plan.ofSchema (sourceFor []).patterns (sourceFor []).allowed (schemaOf "B") =
      .ok (.ofDeclarations (.parse []) [⟨"B", "type BGql \x7b\n  id: Int\n\x7d"⟩]) :=
    ok_of_toOption (by decide +kernel)
  have g2 : (generate (sourceFor []) "o" silentConsole latterTree).result = .ok ⟨1, 0, 0, []⟩ :=
    ok_of_toOption (by decide +kernel)
  have h2 := h1.run r2 p2 g2
  refine ⟨_, h2, fun hno => ?_⟩
  have hstill := (no_stale_operation_iff h2).mp hno "A" ⟨.parse ["SaveA"], ["A"]⟩ (by decide) rfl
  exact absurd (hstill.1 (by decide +kernel)) (by decide +kernel)

end SchemaFragments
