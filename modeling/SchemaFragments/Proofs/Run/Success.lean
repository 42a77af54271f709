import SchemaFragments.Proofs.Run.Outcome

/-! # When the actions of a plan succeed

A document can be dealt with if its path leads to its location and no folder lies there
(`FileTree.Free`).  Once the folders are made, the documents of some entities can all be dealt with
if and only if every one of them can at the start (`run_jobs_iff`): no document gets in the way of
another.  So the actions of a plan succeed if and only if the folders can be made and then nothing is
in the way of any document (`runActions_plan_iff`).  What is asked for does not matter to that.

The medium takes whatever is written here; on one that does not, actions may fail for it as well. -/

namespace SchemaFragments

open SchemaFragments.Path

variable {t t' : FileTree} {root : Path} {k : DocumentKind} {entity : Text}

/-! ### Documents with nothing in their way -/

/-- The path of a document leads to its location, and no folder lies there. -/
structure FileTree.Free (t : FileTree) (root : Path) (entity : Text) (k : DocumentKind) : Prop where
  located : t.locate (k.path root entity) = .ok (k.location root entity)
  no_folder : t.entry? (k.location root entity) ≠ some .folder

theorem Path.endsAsFolder_of_getLast? {p : Path} {c : Char} (h : p.getLast? = some c) (hs : c ≠ '/')
    (hd : c ≠ '.') : endsAsFolder p = false := by
  have hdot : ¬ ("/." : Text) <:+ p := by
    rintro ⟨u, rfl⟩
    rw [List.getLast?_append] at h
    cases h
    exact hd rfl
  have hsingle : p ≠ ['.'] := by
    rintro rfl
    cases h
    exact hd rfl
  have hsuffix : ("/." : Text).isSuffixOf p = false := by
    rw [← Bool.not_eq_true, List.isSuffixOf_iff_suffix]
    exact hdot
  unfold endsAsFolder
  rw [hsuffix]
  simp [h, hs, hsingle]

theorem DocumentKind.getLast?_fileNameFor (entity : Text) (k : DocumentKind) :
    (k.fileNameFor entity).getLast? = some 'l' := by
  cases k <;> exact List.getLast?_append

theorem endsAsFolder_path (he : '/' ∉ entity) : endsAsFolder (k.path root entity) = false := by
  obtain ⟨front, hf⟩ := path_eq root k he
  refine endsAsFolder_of_getLast? (c := 'l') ?_ (by decide) (by decide)
  rw [hf, List.getLast?_append, k.getLast?_fileNameFor, Option.some_or]

theorem locate_path_congr (hw : t.Walkable [] (names (k.folder root)))
    (hw' : t'.Walkable [] (names (k.folder root))) (he : '/' ∉ entity) :
    t.locate (k.path root entity) = t'.locate (k.path root entity) := by
  rw [locate_path_eq hw he, locate_path_eq hw' he]

namespace FileTree

theorem not_folder_put {l : Location} (h : t.entry? l ≠ some .folder) (c : FileChange) :
    entry? (t.put c) l ≠ some .folder := by
  rw [entry?_put]
  split_ifs
  · cases c.content? <;> simp
  · exact h

/-- No folder lies where some changes put files, or where none lay before. -/
theorem not_folder_putAll {l : Location} {cs : List FileChange}
    (h : t.entry? l ≠ some .folder ∨ l ∈ cs.map (·.location)) :
    entry? (t.putAll cs) l ≠ some .folder := by
  by_cases hl : l ∈ cs.map (·.location)
  · obtain ⟨c, -, hentry⟩ := exists_entry?_putAll hl t
    rw [hentry]
    cases c.content? <;> simp
  · rw [entry?_putAll_of_not_mem hl]
    exact h.resolve_right hl

theorem Free.put {c : FileChange} (hc : t.entry? c.location ≠ some .folder)
    (h : t.Free root entity k) : (t.put c).Free root entity k :=
  ⟨(foldersWithin_put hc).locate h.located, not_folder_put h.no_folder c⟩

theorem foldersWithin_putAll {cs : List FileChange}
    (h : ∀ c ∈ cs, t.entry? c.location ≠ some .folder) : t.FoldersWithin (t.putAll cs) := by
  induction cs generalizing t with
  | nil => exact .refl t
  | cons c cs ih =>
      rw [List.forall_mem_cons] at h
      rw [putAll_cons]
      exact (foldersWithin_put h.1).trans (ih fun d hd => not_folder_put (h.2 d hd) c)

/-- What is free in a tree with more folders is free in this one. -/
theorem Free.of_foldersWithin (hwithin : t.FoldersWithin t')
    (hw : t.Walkable [] (names (k.folder root))) (he : '/' ∉ entity)
    (h : t'.Free root entity k) : t.Free root entity k := by
  constructor
  · rw [locate_path_congr hw (hwithin.walkable hw) he]
    exact h.located
  · intro hf
    exact h.no_folder (hwithin _ hf)

end FileTree

/-! ### Actions -/

theorem run_action_of_free {e : Entity} (he : '/' ∉ e.name) (h : t.Free root e.name k) :
    (e.action root k).run t = (t.put (e.change root k), .ok ()) := by
  have hends : endsAsFolder (k.path root e.name) = false := endsAsFolder_path he
  have hfolder := h.no_folder
  unfold Entity.action
  cases hd : e.document? k with
  | some document =>
      have hput : t.put (e.change root k) =
          t.set (k.location root e.name) (.file (.text (fileText document))) := by
        simp only [FileTree.put, Entity.change, hd, Option.map_some]
        rfl
      have hwrite : t.write (k.path root e.name) (.text (fileText document)) =
          (t.put (e.change root k), .ok ()) := by
        rw [FileTree.write_of_located h.located (by simp [hfolder, hends]), hput]
      simp only [Action.run, hwrite]
  | none =>
      have hput : t.put (e.change root k) = t.clear (k.location root e.name) := by
        simp only [FileTree.put, Entity.change, hd, Option.map_none]
        rfl
      cases hent : t.entry? (k.location root e.name) with
      | none =>
          have hrm : t.remove (k.path root e.name) = .error .notFound := by
            simp only [FileTree.remove, h.located, hent]
          have hsame : t.clear (k.location root e.name) = t :=
            FileTree.clear_of_absent (by simp [DocumentKind.location]) hent
          simp only [Action.run, hrm, hput, hsame]
      | some x =>
          cases x with
          | folder => exact absurd hent hfolder
          | file content =>
              have hrm : t.remove (k.path root e.name) = .ok (t.put (e.change root k)) := by
                simp [FileTree.remove, h.located, hent, hends, hput]
              simp only [Action.run, hrm]

/-- Documents can all be dealt with, and their files are then changed in turn, if and only if nothing
is in the way of any of them at the start. -/
theorem run_jobs_iff {js : List (Entity × DocumentKind)}
    (hw : ∀ k : DocumentKind, t.Walkable [] (names (k.folder root)))
    (hi : ∀ j ∈ js, '/' ∉ j.1.name) :
    runActions t (js.map fun j => j.1.action root j.2) = (t', .ok ()) ↔
      (∀ j ∈ js, t.Free root j.1.name j.2) ∧ t' = t.putAll (changesOf root js) := by
  constructor
  · intro h
    obtain ⟨rfl, hwithin, hl⟩ := run_jobs_ok hw hi h
    refine ⟨fun j hj => .of_foldersWithin hwithin (hw j.2) (hi j hj) ⟨hl j hj, ?_⟩, rfl⟩
    apply FileTree.not_folder_putAll
    right
    exact List.mem_map.mpr ⟨_, List.mem_map_of_mem hj, rfl⟩
  · rintro ⟨hfree, rfl⟩
    clear hw
    induction js generalizing t with
    | nil => rfl
    | cons j js ih =>
        rw [List.forall_mem_cons] at hi hfree
        rw [List.map_cons, runActions_cons, run_action_of_free hi.1 hfree.1]
        exact ih hi.2 fun i him => (hfree.2 i him).put hfree.1.no_folder

/-- What is known to succeed leaves the tree that comes with it. -/
theorem eq_of_succeeds {x : FileTree × Except Failure Unit} (h : x.2.toOption = some ()) :
    x = (x.1, .ok ()) := by
  rcases x with ⟨t, f | _⟩
  · cases h
  · rfl

/-! ### Entities and plans -/

/-- The folders of the kinds that are there already are left alone. -/
theorem prepare_of_folders {ks : List DocumentKind}
    (h : ∀ k ∈ ks, t.locate (k.folder root) = .ok (k.folderLocation root) ∧
      t.entry? (k.folderLocation root) = some .folder) :
    runActions t (ks.map fun k => .makeFolders (k.folder root)) = (t, .ok ()) := by
  induction ks with
  | nil => rfl
  | cons k ks ih =>
      rw [List.forall_mem_cons] at h
      have hmake : t.makeFolders (k.folder root) = (t, .ok ()) := by
        unfold FileTree.makeFolders
        simp only [if_neg (folder_ne_nil root k), h.1.1, h.1.2]
      rw [List.map_cons, runActions_cons]
      simp only [Action.run, hmake]
      exact ih h.2

/-- Once the folders are made, entities can all be dealt with, and their files are then changed in turn,
if and only if nothing is in the way of any of their documents. -/
theorem runActions_entities_iff {t₀ : FileTree} {es : List Entity}
    (hprep : runActions t₀ (prepareActions root) = (t, .ok ())) (hname : ∀ e ∈ es, '/' ∉ e.name) :
    runActions t (es.flatMap (·.actions root)) = (t', .ok ()) ↔
      (∀ e ∈ es, ∀ k : DocumentKind, t.Free root e.name k) ∧
        t' = t.putAll (changesOf root (jobsOf es)) := by
  rw [flatMap_actions, run_jobs_iff (fun k => ((prepare_ok hprep).1 k k.mem_all).1)
    (fun j hj => hname j.1 (entity_of_mem_jobsOf hj))]
  refine and_congr_left fun _ => ⟨fun hfree e he k => hfree _ (mem_jobsOf he k), fun hfree j hj => ?_⟩
  exact hfree j.1 (entity_of_mem_jobsOf hj) j.2

/-- The actions of a plan succeed if and only if the folders can be made and nothing is in the way of
any document then. -/
theorem runActions_plan_iff {p : Plan} (hi : ∀ e ∈ p.entities, isIdentifier e.name) :
    runActions t (p.actions root) = (t', .ok ()) ↔
      ∃ t₀, runActions t (prepareActions root) = (t₀, .ok ()) ∧
        (∀ e ∈ p.entities, ∀ k : DocumentKind, t₀.Free root e.name k) ∧
        t' = t₀.putAll (changesOf root (jobsOf p.entities)) := by
  have hname : ∀ e ∈ p.entities, '/' ∉ e.name := fun e he => slash_not_mem_of_isIdentifier (hi e he)
  constructor
  · intro h
    obtain ⟨t₀, h₀, h₁⟩ := runActions_append_ok h
    exact ⟨t₀, h₀, (runActions_entities_iff h₀ hname).mp h₁⟩
  · rintro ⟨t₀, h₀, h₁⟩
    unfold Plan.actions
    rw [runActions_append, h₀]
    exact (runActions_entities_iff h₀ hname).mpr h₁

end SchemaFragments
