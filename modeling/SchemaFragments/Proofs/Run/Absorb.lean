import SchemaFragments.Proofs.Run.History
import SchemaFragments.Proofs.Run.Success

/-! # The last run absorbs earlier ones

Two runs with one schema into one output root plan the same entities, whatever is asked for, so they
deal with the same files.  Whether they succeed depends on these files alone and not on what is asked
for.  Hence after a run that succeeded every other run with the same schema succeeds too, and leaves
the tree that it would have left without the first run (`generate_absorbs`).

The file of the schema must not be one of those that the runs write, and the medium takes whatever is
written. -/

namespace SchemaFragments

open SchemaFragments.Path

variable {t t' : FileTree} {root : Path} {ds : List Declaration}

/-! ### The files of some declarations -/

/-- The changes that bring the files of some declared entities in line with what is asked for. -/
def changesFor (root : Path) (allowed : AllowList) (ds : List Declaration) : List FileChange :=
  changesOf root (jobsOf (ds.map (Plan.entityOf allowed)))

theorem mem_locations_changesFor {allowed : AllowList} {l : Location} :
    l ∈ (changesFor root allowed ds).map (·.location) ↔
      ∃ d ∈ ds, ∃ k : DocumentKind, l = k.location root d.entity := by
  unfold changesFor changesOf
  rw [List.map_map, List.mem_map]
  constructor
  · rintro ⟨j, hj, rfl⟩
    obtain ⟨d, hd, he⟩ := List.mem_map.mp (entity_of_mem_jobsOf hj)
    refine ⟨d, hd, j.2, ?_⟩
    rw [Function.comp_apply, Entity.location_change, ← he]
    rfl
  · rintro ⟨d, hd, k, rfl⟩
    exact ⟨(Plan.entityOf allowed d, k), mem_jobsOf (List.mem_map_of_mem hd) k, rfl⟩

/-- Which files are dealt with does not depend on what is asked for. -/
theorem putAll_changesFor (asked allowed : AllowList) (t : FileTree) :
    (t.putAll (changesFor root asked ds)).putAll (changesFor root allowed ds) =
      t.putAll (changesFor root allowed ds) := by
  apply FileTree.putAll_putAll_of_subset
  intro c hc
  have hmem : c.location ∈ (changesFor root asked ds).map (·.location) := List.mem_map_of_mem hc
  rw [mem_locations_changesFor] at hmem ⊢
  exact hmem

/-- The file of a declared entity's document is as the last declaration of the entity has it. -/
theorem exists_entry?_changesFor (root : Path) {d : Declaration} (hd : d ∈ ds) (k : DocumentKind) :
    ∃ last ∈ ds, last.entity = d.entity ∧ ∀ (allowed : AllowList) (t : FileTree),
      FileTree.entry? (t.putAll (changesFor root allowed ds)) (k.location root d.entity) =
        ((Plan.entityOf allowed last).document? k).map fun document =>
          .file (.text (fileText document)) := by
  obtain ⟨before, last, after, rfl, hn, hlast⟩ := exists_last (f := Declaration.entity) (List.mem_map_of_mem hd)
  refine ⟨last, by simp, hn, fun allowed t => ?_⟩
  have hafter : ∀ x ∈ after.map (Plan.entityOf allowed), x.name ≠ (Plan.entityOf allowed last).name := by
    intro x hx hname
    obtain ⟨d', hd', rfl⟩ := List.mem_map.mp hx
    exact hlast d' hd' (hname.trans hn)
  have hentry := @entry?_document root (before.map (Plan.entityOf allowed)) _ _ hafter k t
  unfold changesFor
  rw [← hn, List.map_append, List.map_cons]
  exact hentry

/-- A location where the runs for some declarations put no file is left alone. -/
theorem entry?_changesFor_of_ne {l : Location}
    (h : ¬ ∃ d ∈ ds, ∃ k : DocumentKind, l = k.location root d.entity) (allowed : AllowList)
    (t : FileTree) : FileTree.entry? (t.putAll (changesFor root allowed ds)) l = t.entry? l := by
  apply FileTree.entry?_putAll_of_ne
  rintro c hc rfl
  exact h (mem_locations_changesFor.mp (List.mem_map_of_mem hc))

theorem document?_entityOf (allowed : AllowList) (d : Declaration) (k : DocumentKind) :
    ((Plan.entityOf allowed d).document? k).isSome = k.isAsked allowed d.entity := by
  cases k with
  | fragment => rfl
  | mutation =>
      unfold Plan.entityOf Entity.document? DocumentKind.isAsked
      split_ifs <;> simp [*]
  | query =>
      unfold Plan.entityOf Entity.document? DocumentKind.isAsked
      split_ifs <;> simp [*]

/-! ### Runs with one schema -/

namespace Source

/-- The same source with other operations asked for. -/
def asking (s : Source) (allowed : AllowList) : Source := { s with allowed := allowed }

variable {s : Source} {schema : Text}

/-- A schema is read again if its file is still there and no folder is gone. -/
theorem read_of_kept (hwithin : t.FoldersWithin t')
    (hkept : ∀ l e, t.locate s.schemaFile = .ok l → t.entry? l = some e → t'.entry? l = some e)
    (hr : s.read t = .ok schema) : s.read t' = .ok schema := by
  unfold read FileTree.read at hr ⊢
  cases hl : t.locate s.schemaFile with
  | error e => simp [hl] at hr
  | ok l =>
      simp only [hl] at hr
      cases he : t.entry? l with
      | none => simp [he] at hr
      | some e =>
          simp only [hwithin.locate hl, hkept l e hl he]
          simp only [he] at hr
          exact hr

theorem ofSchema_asking (hx : s.patterns.extract schema = .ok ds) (allowed : AllowList) :
    Plan.ofSchema (s.asking allowed).patterns (s.asking allowed).allowed schema =
      .ok (.ofDeclarations allowed ds) :=
  Plan.ofSchema_of_extract hx allowed

end Source

theorem actions_ofDeclarations_iff (hx : ∀ d ∈ ds, isIdentifier d.entity) (allowed : AllowList) :
    runActions t ((Plan.ofDeclarations allowed ds).actions root) = (t', .ok ()) ↔
      ∃ t₀, runActions t (prepareActions root) = (t₀, .ok ()) ∧
        (∀ d ∈ ds, ∀ k : DocumentKind, t₀.Free root d.entity k) ∧
        t' = t₀.putAll (changesFor root allowed ds) := by
  have hi : ∀ e ∈ (Plan.ofDeclarations allowed ds).entities, isIdentifier e.name := by
    intro e he
    rw [Plan.entities_ofDeclarations] at he
    obtain ⟨d, hd, rfl⟩ := List.mem_map.mp he
    exact hx d hd
  rw [runActions_plan_iff hi, Plan.entities_ofDeclarations]
  simp only [List.forall_mem_map]
  rfl

section again

variable {t₀ : FileTree} (hfree : ∀ d ∈ ds, ∀ k : DocumentKind, t₀.Free root d.entity k)

include hfree

theorem foldersWithin_changesFor (allowed : AllowList) :
    t₀.FoldersWithin (t₀.putAll (changesFor root allowed ds)) := by
  apply FileTree.foldersWithin_putAll
  intro c hc
  obtain ⟨d, hd, k, hl⟩ := mem_locations_changesFor.mp (List.mem_map_of_mem hc)
  rw [hl]
  exact (hfree d hd k).no_folder

/-- After the actions of a plan those of a plan for other operations succeed, and nothing is left of
the first ones. -/
theorem actions_again (hx : ∀ d ∈ ds, isIdentifier d.entity)
    (hprep : runActions t (prepareActions root) = (t₀, .ok ())) (asked allowed : AllowList) :
    runActions (t₀.putAll (changesFor root asked ds))
        ((Plan.ofDeclarations allowed ds).actions root) =
      (t₀.putAll (changesFor root allowed ds), .ok ()) := by
  have hwithin := foldersWithin_changesFor hfree asked
  rw [actions_ofDeclarations_iff hx]
  refine ⟨_, prepare_of_folders fun k hk => ?_, fun d hd k => ?_, (putAll_changesFor asked allowed t₀).symm⟩
  · obtain ⟨hwalk, hl⟩ := (prepare_ok hprep).1 k hk
    exact ⟨hwithin.locate hl, hwithin _ (entry?_folderLocation hwalk)⟩
  · exact ⟨hwithin.locate (hfree d hd k).located,
      FileTree.not_folder_putAll (.inl (hfree d hd k).no_folder)⟩

end again

/-! ### Asking for nothing -/

/-- The location is that of the file of an operation that is asked for. -/
def IsOperationFile (root : Path) (allowed : AllowList) (ds : List Declaration) (l : Location) : Prop :=
  ∃ d ∈ ds, ∃ k : DocumentKind, k ≠ .fragment ∧ k.isAsked allowed d.entity ∧
    l = k.location root d.entity

theorem isAsked_parse_nil {k : DocumentKind} (hk : k ≠ .fragment) (entity : Text) :
    k.isAsked (.parse []) entity = false := by
  have hnone (name : Text) : (AllowList.parse []).contains name = false := by
    simp [AllowList.contains, AllowList.parse]
  cases k with
  | fragment => exact absurd rfl hk
  | mutation => exact hnone _
  | query => exact hnone _

theorem document?_parse_nil {k : DocumentKind} (hk : k ≠ .fragment) (d : Declaration) :
    (Plan.entityOf (.parse []) d).document? k = none := by
  rw [← Option.not_isSome_iff_eq_none, document?_entityOf, isAsked_parse_nil hk]
  exact Bool.false_ne_true

/-- The file of an operation is there if the operation is asked for, and not if nothing is. -/
theorem entry?_operation {allowed : AllowList} {l : Location} (t : FileTree)
    (h : IsOperationFile root allowed ds l) :
    (t.putAll (changesFor root allowed ds)).HasFile l ∧
      FileTree.entry? (t.putAll (changesFor root (.parse []) ds)) l = none := by
  obtain ⟨d, hd, k, hk, ha, rfl⟩ := h
  obtain ⟨last, -, hn, hentry⟩ := exists_entry?_changesFor root hd k
  constructor
  · rw [← hn, ← document?_entityOf, Option.isSome_iff_exists] at ha
    obtain ⟨document, hdoc⟩ := ha
    exact ⟨_, by rw [hentry, hdoc, Option.map_some]⟩
  · rw [hentry, document?_parse_nil hk, Option.map_none]

theorem entry?_ne_iff_operation {allowed : AllowList} {l : Location} (t : FileTree) :
    FileTree.entry? (t.putAll (changesFor root (.parse []) ds)) l ≠
        FileTree.entry? (t.putAll (changesFor root allowed ds)) l ↔
      IsOperationFile root allowed ds l := by
  constructor
  · intro hne
    by_cases hl : ∃ d ∈ ds, ∃ k : DocumentKind, l = k.location root d.entity
    · obtain ⟨d, hd, k, rfl⟩ := hl
      obtain ⟨last, -, hn, hentry⟩ := exists_entry?_changesFor root hd k
      rw [hentry, hentry] at hne
      have hk : k ≠ .fragment := by
        rintro rfl
        exact hne rfl
      refine ⟨d, hd, k, hk, ?_, rfl⟩
      rw [document?_parse_nil hk] at hne
      rw [← hn, ← document?_entityOf]
      cases hdoc : (Plan.entityOf allowed last).document? k with
      | some document => rfl
      | none =>
          rw [hdoc] at hne
          exact absurd rfl hne
    · rw [entry?_changesFor_of_ne hl, entry?_changesFor_of_ne hl] at hne
      exact absurd rfl hne
  · intro h
    obtain ⟨⟨content, hfile⟩, hnone⟩ := entry?_operation t h
    rw [hfile, hnone]
    simp

/-! ### Absorption -/

/-- After a run that succeeded, a run with the same schema for any other operations succeeds, and so
does that run without the first one, with the same statistics and the same tree.  The same run once
more changes nothing, and a run for no operations removes the files of the operations that the first
run was asked for, and no others. -/
theorem generate_absorbs {s : Source} {c : Console} {schema : Text} {first : Outcome} {stats : Stats}
    (hr : s.read t = .ok schema) (hx : s.patterns.extract schema = .ok ds)
    (hfile : ∀ d ∈ ds, ∀ k : DocumentKind, t.locate s.schemaFile ≠ .ok (k.location root d.entity))
    (hfirst : generate s root c t = first) (h : first.result = .ok stats) :
    (∀ (allowed : AllowList) (c₁ c₂ : Console), ∃ stats',
        (generate (s.asking allowed) root c₁ first.tree).result = .ok stats' ∧
        (generate (s.asking allowed) root c₂ t).result = .ok stats' ∧
        (generate (s.asking allowed) root c₁ first.tree).tree =
          (generate (s.asking allowed) root c₂ t).tree) ∧
      (∀ c₁ : Console, (generate s root c₁ first.tree).result = .ok stats ∧
        (generate s root c₁ first.tree).tree = first.tree) ∧
      ∀ (c₁ : Console) (l : Location),
        ((generate (s.asking (.parse [])) root c₁ first.tree).tree.entry? l ≠ first.tree.entry? l ↔
          IsOperationFile root s.allowed ds l) ∧
        (IsOperationFile root s.allowed ds l → first.tree.HasFile l ∧
          (generate (s.asking (.parse [])) root c₁ first.tree).tree.entry? l = none) := by
  subst hfirst
  have hi : ∀ d ∈ ds, isIdentifier d.entity := fun d hd => Patterns.isIdentifier_of_extract hx hd
  obtain ⟨schema', p, hr', hp, rfl, hrun⟩ := generate_ok h
  cases hr.symm.trans hr'
  have hplan := Source.ofSchema_asking hx (s := s)
  cases (hplan s.allowed).symm.trans hp
  obtain ⟨t₀, hprep, hfree, htree⟩ := (actions_ofDeclarations_iff hi s.allowed).mp hrun
  have hwithin : t.FoldersWithin (generate s root c t).tree := by
    rw [htree]
    exact (prepare_ok hprep).2.foldersWithin.trans (foldersWithin_changesFor hfree s.allowed)
  have hread : s.read (generate s root c t).tree = .ok schema := by
    refine Source.read_of_kept hwithin (fun l e hl he => ?_) hr
    rw [htree, entry?_changesFor_of_ne]
    · exact (prepare_ok hprep).2.kept l e he
    · rintro ⟨d, hd, k, rfl⟩
      exact hfile d hd k hl
  have hdirect (allowed : AllowList) (c₂ : Console) :
      (generate (s.asking allowed) root c₂ t).tree = t₀.putAll (changesFor root allowed ds) ∧
        (generate (s.asking allowed) root c₂ t).result = .ok (Plan.ofDeclarations allowed ds).stats := by
    have hgen := generate_of_plan (s := s.asking allowed) hr (hplan allowed) root c₂
    rw [(actions_ofDeclarations_iff hi allowed).mpr ⟨t₀, hprep, hfree, rfl⟩] at hgen
    exact hgen
  have hagain (allowed : AllowList) (c₁ : Console) :
      (generate (s.asking allowed) root c₁ (generate s root c t).tree).tree =
          t₀.putAll (changesFor root allowed ds) ∧
        (generate (s.asking allowed) root c₁ (generate s root c t).tree).result =
          .ok (Plan.ofDeclarations allowed ds).stats := by
    have hgen := generate_of_plan (s := s.asking allowed) hread (hplan allowed) root c₁
    rw [htree, actions_again hfree hi hprep s.allowed allowed, ← htree] at hgen
    exact hgen
  refine ⟨fun allowed c₁ c₂ => ?_, fun c₁ => ?_, fun c₁ l => ?_⟩
  · exact ⟨_, (hagain allowed c₁).2, (hdirect allowed c₂).2,
      (hagain allowed c₁).1.trans (hdirect allowed c₂).1.symm⟩
  · exact ⟨(hagain s.allowed c₁).2, (hagain s.allowed c₁).1.trans htree.symm⟩
  · rw [(hagain (.parse []) c₁).1, htree]
    exact ⟨entry?_ne_iff_operation t₀, entry?_operation t₀⟩

/-- What `repeatedTree` declares. -/
def repeatedDeclarations : List Declaration :=
  [⟨"A", "type AGql \x7b\n  id: Int\n\x7d"⟩, ⟨"B", "type BGql \x7b\n  a: AGql\n\x7d"⟩,
   ⟨"A", "type AGql \x7b\n  x: Int\n\x7d"⟩]

/-- After the run for the mutation of `A` and the query of `B`, a run for the query of `A` leaves what
it would have left at once, and a run for nothing removes the mutation of `A`. -/
theorem generate_absorbs_repeated :
    ∃ first, generate repeatedSource "x/../o" silentConsole repeatedTree = first ∧
      first.result = .ok ⟨3, 2, 1, [.repeatedEntity "A"]⟩ ∧
      (generate (repeatedSource.asking (.parse ["a"])) "x/../o" silentConsole first.tree).tree =
        (generate (repeatedSource.asking (.parse ["a"])) "x/../o" silentConsole repeatedTree).tree ∧
      first.tree.HasFile (DocumentKind.mutation.location "x/../o" "A") ∧
      (generate (repeatedSource.asking (.parse [])) "x/../o" silentConsole first.tree).tree.entry?
        (DocumentKind.mutation.location "x/../o" "A") = none := by
  have hr : repeatedSource.read repeatedTree = .ok
      "type AGql \x7b\n  id: Int\n\x7d\ntype BGql \x7b\n  a: AGql\n\x7d\ntype AGql \x7b\n  x: Int\n\x7d\n" :=
    ok_of_toOption (by decide +kernel)
  have hx : repeatedSource.patterns.extract
      "type AGql \x7b\n  id: Int\n\x7d\ntype BGql \x7b\n  a: AGql\n\x7d\ntype AGql \x7b\n  x: Int\n\x7d\n" =
        .ok repeatedDeclarations := ok_of_toOption (by decide +kernel)
  have hl : repeatedTree.locate repeatedSource.schemaFile = .ok ["s".toList] :=
    ok_of_toOption (by decide +kernel)
  have hfile : ∀ d ∈ repeatedDeclarations, ∀ k : DocumentKind,
      repeatedTree.locate repeatedSource.schemaFile ≠ .ok (k.location "x/../o" d.entity) := by
    intro d _ k heq
    have hlen := congrArg List.length (Except.ok.inj (hl.symm.trans heq))
    simp [DocumentKind.location, DocumentKind.folderLocation] at hlen
  have h : (generate repeatedSource "x/../o" silentConsole repeatedTree).result =
      .ok ⟨3, 2, 1, [.repeatedEntity "A"]⟩ := ok_of_toOption (by decide +kernel)
  obtain ⟨hany, -, hnothing⟩ := generate_absorbs hr hx hfile rfl h
  obtain ⟨-, -, -, htree⟩ := hany (.parse ["a"]) silentConsole silentConsole
  have hop : IsOperationFile "x/../o" repeatedSource.allowed repeatedDeclarations
      (DocumentKind.mutation.location "x/../o" "A") :=
    ⟨_, List.mem_cons_self, .mutation, by decide, by decide +kernel, rfl⟩
  obtain ⟨hthere, hgone⟩ := (hnothing silentConsole _).2 hop
  exact ⟨_, rfl, h, htree, hthere, hgone⟩

end SchemaFragments
