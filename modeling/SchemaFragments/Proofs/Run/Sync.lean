import SchemaFragments.Proofs.Files.Change
import SchemaFragments.Run

/-! # Bringing files in line with a plan

The file of a document has a location of its own: different entities or different kinds never share
one (`location_inj`).  Once the folders of all kinds are there, an action of an entity that succeeds
is the change of that one file (`run_action_ok`), so the actions of a list of entities that succeed
are the changes of their files in turn (`run_jobs_ok`).  Actions that succeed have not met the limits of
their medium, and do the same on a medium that has none (`runActions_boundless`). -/

namespace SchemaFragments

open SchemaFragments.Path

/-! ### Locations of documents -/

theorem plain_of_length {name : Text} (h : '/' ∉ name) (hl : 2 < name.length) : Plain name := by
  refine ⟨h, ?_, ?_, ?_⟩ <;> rintro rfl <;> simp at hl

theorem slash_not_mem_of_isIdentifier {name : Text} (h : isIdentifier name) : '/' ∉ name := by
  intro hs
  simp only [isIdentifier, Bool.and_eq_true, List.all_eq_true] at h
  exact absurd (h.2 _ hs) (by decide)

namespace DocumentKind

theorem mem_all (k : DocumentKind) : k ∈ all := by cases k <;> decide

theorem plain_plural (k : DocumentKind) : Plain k.plural := by
  cases k <;> exact plain_of_length (by decide) (by decide)

theorem plural_inj {k k' : DocumentKind} (h : k.plural = k'.plural) : k = k' := by
  revert h
  cases k <;> cases k' <;> decide

theorem plain_fileNameFor {entity : Text} (hs : '/' ∉ entity) (k : DocumentKind) :
    Plain (k.fileNameFor entity) := by
  cases k with
  | fragment => exact plain_of_length (by simp [fileNameFor, hs]) (by simp [fileNameFor])
  | mutation =>
      exact plain_of_length (by simp [fileNameFor, mutationName, hs])
        (by simp [fileNameFor, mutationName])
  | query => exact plain_of_length (by simp [fileNameFor, hs]) (by simp [fileNameFor])

theorem fileNameFor_inj {entity entity' : Text} (k : DocumentKind)
    (h : k.fileNameFor entity = k.fileNameFor entity') : entity = entity' := by
  cases k with
  | fragment => exact List.append_cancel_right h
  | mutation => exact List.append_cancel_left (List.append_cancel_right h)
  | query => exact List.append_cancel_right h

/-- The location of the folder of a kind below an output root. -/
def folderLocation (root : Path) (k : DocumentKind) : Location := resolve (names root) ++ [k.plural]

/-- The location of the file of an entity's document below an output root. -/
def location (root : Path) (entity : Text) (k : DocumentKind) : Location :=
  k.folderLocation root ++ [k.fileNameFor entity]

theorem location_inj {root : Path} {entity entity' : Text} {k k' : DocumentKind}
    (h : k.location root entity = k'.location root entity') : k = k' ∧ entity = entity' := by
  unfold location folderLocation at h
  obtain ⟨hf, hn⟩ := List.append_inj' h rfl
  obtain rfl := plural_inj (List.singleton_inj.mp (List.append_cancel_left hf))
  exact ⟨rfl, k.fileNameFor_inj (List.singleton_inj.mp hn)⟩

theorem names_folder (root : Path) (k : DocumentKind) :
    names (k.folder root) = names root ++ [k.plural] := names_join root k.plain_plural

theorem resolve_names_folder (root : Path) (k : DocumentKind) :
    resolve (names (k.folder root)) = k.folderLocation root := by
  rw [names_folder, resolve_concat_plain _ k.plain_plural]
  rfl

end DocumentKind

/-! ### Finding the file of a document -/

variable {t t' : FileTree} {root : Path} {k : DocumentKind} {entity : Text}

theorem FileTree.FoldersWithin.locate {l : Location} {p : Path} (h : t.FoldersWithin t')
    (hl : t.locate p = .ok l) : t'.locate p = .ok l := by
  unfold FileTree.locate at hl ⊢
  split_ifs at hl ⊢
  exact h.follow hl

theorem path_eq (root : Path) (k : DocumentKind) (he : '/' ∉ entity) :
    ∃ front, k.path root entity = front ++ k.fileNameFor entity := by
  obtain ⟨front, hf, -⟩ := join_eq (k.folder root) (k.plain_fileNameFor he)
  exact ⟨front, hf⟩

theorem path_ne_nil (root : Path) (k : DocumentKind) (he : '/' ∉ entity) :
    k.path root entity ≠ [] := by
  obtain ⟨front, hf⟩ := path_eq root k he
  rw [hf]
  simp [(k.plain_fileNameFor he).ne_nil]

/-- Through the folder of the kind the names of a document's path lead to its location, if the name
of the file is not too long. -/
theorem follow_path (hw : t.Walkable [] (names (k.folder root))) (he : '/' ∉ entity) :
    t.follow [] (names (k.path root entity)) =
      FileTree.step (k.folderLocation root) (k.fileNameFor entity) := by
  unfold DocumentKind.path
  rw [names_join _ (k.plain_fileNameFor he), FileTree.follow_concat hw, ← k.resolve_names_folder]
  rfl

/-- In a tree with the folder of the kind, the path of a document leads to its location, unless it holds
a null character, or it or the name of the file is too long. -/
theorem locate_path_eq (hw : t.Walkable [] (names (k.folder root))) (he : '/' ∉ entity) :
    t.locate (k.path root entity) =
      if '\x00' ∈ k.path root entity then .error .nullInName
      else if lengthLimit ≤ byteLength (k.path root entity) ∨
          nameLimit < byteLength (k.fileNameFor entity) then .error .nameTooLong
      else .ok (k.location root entity) := by
  have hplain := k.plain_fileNameFor he
  unfold FileTree.locate
  rw [if_neg (path_ne_nil root k he), follow_path hw he, FileTree.step_eq, into_plain hplain]
  by_cases hlength : lengthLimit ≤ byteLength (k.path root entity)
  · simp only [hlength, if_true, true_or]
  · simp only [hlength, if_false, false_or, ne_eq, hplain.ne_dots, not_false_eq_true, true_and]
    rfl

theorem locate_path (hw : t.Walkable [] (names (k.folder root))) (he : '/' ∉ entity) :
    t.locate (k.path root entity) = .ok (k.location root entity) ∨
      t.locate (k.path root entity) = .error .nameTooLong ∨
      t.locate (k.path root entity) = .error .nullInName := by
  rw [locate_path_eq hw he]
  split_ifs
  · exact .inr (.inr rfl)
  · exact .inr (.inl rfl)
  · exact .inl rfl

/-! ### The actions of an entity -/

/-- The change of the file of an entity's document. -/
def Entity.change (root : Path) (e : Entity) (k : DocumentKind) : FileChange where
  folder := k.folderLocation root
  name := k.fileNameFor e.name
  content? := (e.document? k).map fun document => .text (fileText document)

theorem Entity.location_change (root : Path) (e : Entity) (k : DocumentKind) :
    (e.change root k).location = k.location root e.name := rfl

/-- An action of an entity that succeeds changes the file of the document and nothing else. -/
theorem run_action_ok {e : Entity} (hw : t.Walkable [] (names (k.folder root)))
    (he : '/' ∉ e.name) (h : (e.action root k).run t = (t', .ok ())) :
    t' = t.put (e.change root k) ∧ t.entry? (k.location root e.name) ≠ some .folder ∧
      t.locate (k.path root e.name) = .ok (k.location root e.name) := by
  unfold Entity.action at h
  have hl := locate_path hw he
  cases hd : e.document? k with
  | some document =>
      have hput : t.put (e.change root k) =
          t.set (k.location root e.name) (.file (.text (fileText document))) := by
        simp only [FileTree.put, Entity.change, hd, Option.map_some]
        rfl
      simp only [hd, Action.run] at h
      rcases hwr : t.write (k.path root e.name) (.text (fileText document)) with ⟨t₁, f | ⟨⟩⟩
      · simp [hwr] at h
      · simp only [hwr] at h
        cases h
        rcases hl with hl | hl | hl
        · obtain ⟨hn, rfl⟩ := FileTree.write_ok hl hwr
          exact ⟨hput.symm, hn, hl⟩
        all_goals simp [FileTree.write, hl] at hwr
  | none =>
      have hput : t.put (e.change root k) = t.clear (k.location root e.name) := by
        simp only [FileTree.put, Entity.change, hd, Option.map_none]
        rfl
      simp only [hd, Action.run] at h
      cases hrm : t.remove (k.path root e.name) with
      | ok t'' =>
          simp only [hrm] at h
          cases h
          rcases hl with hl | hl | hl
          · obtain ⟨hn, rfl⟩ := FileTree.remove_ok hl hrm
            exact ⟨hput.symm, hn, hl⟩
          all_goals simp [FileTree.remove, hl] at hrm
      | error f =>
          rw [hrm] at h
          cases f with
          | notFound =>
              cases h
              rcases hl with hl | hl | hl
              · have ha := FileTree.remove_notFound hl hrm
                rw [hput, FileTree.clear_of_absent (by simp [DocumentKind.location]) ha]
                exact ⟨rfl, by simp [ha], hl⟩
              all_goals simp [FileTree.remove, hl] at hrm
          | _ => simp at h

/-! ### Runs of actions -/

theorem runActions_cons (t : FileTree) (a : Action) (rest : List Action) (m : Medium) :
    runActions t (a :: rest) m =
      match a.run t m with
      | (t', .ok ()) => runActions t' rest m
      | (t', .error e) => (t', .error e) := rfl

/-- Actions that all succeed begin with an action that does. -/
theorem runActions_cons_ok {a : Action} {rest : List Action} {m : Medium}
    (h : runActions t (a :: rest) m = (t', .ok ())) :
    ∃ t₁, a.run t m = (t₁, .ok ()) ∧ runActions t₁ rest m = (t', .ok ()) := by
  rw [runActions_cons] at h
  rcases ha : a.run t m with ⟨t₁, ⟨⟩ | ⟨⟩⟩
  · simp [ha] at h
  · rw [ha] at h
    exact ⟨t₁, rfl, h⟩

theorem runActions_append (t : FileTree) (as bs : List Action) (m : Medium) :
    runActions t (as ++ bs) m =
      match runActions t as m with
      | (t', .ok ()) => runActions t' bs m
      | (t', .error e) => (t', .error e) := by
  induction as generalizing t with
  | nil => rfl
  | cons a as ih =>
      rw [List.cons_append, runActions_cons, runActions_cons]
      rcases a.run t m with ⟨t₁, ⟨⟩ | ⟨⟩⟩
      · rfl
      · exact ih t₁

theorem runActions_append_ok {as bs : List Action} (h : runActions t (as ++ bs) = (t', .ok ())) :
    ∃ t₁, runActions t as = (t₁, .ok ()) ∧ runActions t₁ bs = (t', .ok ()) := by
  rw [runActions_append] at h
  rcases ha : runActions t as with ⟨t₁, ⟨⟩ | ⟨⟩⟩
  · simp [ha] at h
  · rw [ha] at h
    exact ⟨t₁, rfl, h⟩

/-- An action that succeeds on some medium does the same on one that takes whatever is written. -/
theorem run_boundless {a : Action} {m : Medium} (h : a.run t m = (t', .ok ())) :
    a.run t = (t', .ok ()) := by
  cases a with
  | makeFolders p => exact h
  | write p text =>
      unfold Action.run at h ⊢
      rcases hw : t.write p (.text text) m with ⟨t₁, e | ⟨⟩⟩
      · simp [hw] at h
      · simp only [hw] at h
        simp only [FileTree.write_boundless hw, h]
  | remove p => exact h

theorem runActions_boundless {as : List Action} {m : Medium}
    (h : runActions t as m = (t', .ok ())) : runActions t as = (t', .ok ()) := by
  induction as generalizing t with
  | nil => exact h
  | cons a as ih =>
      obtain ⟨t₁, ha, has⟩ := runActions_cons_ok h
      rw [runActions_cons, run_boundless ha]
      exact ih has

/-- The documents of some entities, in the order in which they are dealt with. -/
def jobsOf (es : List Entity) : List (Entity × DocumentKind) :=
  es.flatMap fun e => DocumentKind.all.map fun k => (e, k)

theorem mem_jobsOf {es : List Entity} {e : Entity} (h : e ∈ es) (k : DocumentKind) :
    (e, k) ∈ jobsOf es :=
  List.mem_flatMap.mpr ⟨e, h, List.mem_map.mpr ⟨k, k.mem_all, rfl⟩⟩

theorem entity_of_mem_jobsOf {es : List Entity} {j : Entity × DocumentKind} (h : j ∈ jobsOf es) :
    j.1 ∈ es := by
  obtain ⟨e, he, hj⟩ := List.mem_flatMap.mp h
  obtain ⟨k, -, rfl⟩ := List.mem_map.mp hj
  exact he

theorem flatMap_actions (root : Path) (es : List Entity) :
    es.flatMap (·.actions root) = (jobsOf es).map fun j => j.1.action root j.2 := by
  simp only [jobsOf, List.map_flatMap, List.map_map, Entity.actions, Function.comp_def]

/-- The changes of the files of some entities. -/
def changesOf (root : Path) (js : List (Entity × DocumentKind)) : List FileChange :=
  js.map fun j => j.1.change root j.2

/-- Documents that are all dealt with leave their files changed in turn; each is at its location. -/
theorem run_jobs_ok {js : List (Entity × DocumentKind)}
    (hw : ∀ k : DocumentKind, t.Walkable [] (names (k.folder root)))
    (hi : ∀ j ∈ js, '/' ∉ j.1.name)
    (h : runActions t (js.map fun j => j.1.action root j.2) = (t', .ok ())) :
    t' = t.putAll (changesOf root js) ∧ t.FoldersWithin t' ∧
      ∀ j ∈ js, t'.locate (j.2.path root j.1.name) = .ok (j.2.location root j.1.name) := by
  induction js generalizing t with
  | nil =>
      cases h
      exact ⟨rfl, .refl _, by simp⟩
  | cons j js ih =>
      rw [List.map_cons] at h
      obtain ⟨t₁, hj, hr⟩ := runActions_cons_ok h
      obtain ⟨rfl, hn, hl⟩ := run_action_ok (hw j.2) (hi j List.mem_cons_self) hj
      have hwithin : t.FoldersWithin (t.put (j.1.change root j.2)) := FileTree.foldersWithin_put hn
      obtain ⟨ht, hwithin', hls⟩ := ih (fun k => hwithin.walkable (hw k))
        (fun i him => hi i (List.mem_cons_of_mem _ him)) hr
      refine ⟨ht, hwithin.trans hwithin', fun i him => ?_⟩
      rcases List.mem_cons.mp him with rfl | him
      · exact (hwithin.trans hwithin').locate hl
      · exact hls i him

theorem folder_ne_nil (root : Path) (k : DocumentKind) : k.folder root ≠ [] := by
  obtain ⟨front, hf, -⟩ := join_eq root k.plain_plural
  unfold DocumentKind.folder
  rw [hf]
  simp [k.plain_plural.ne_nil]

/-- The folder of a kind is there if the way to it can be walked. -/
theorem entry?_folderLocation {k : DocumentKind} (hw : t.Walkable [] (names (k.folder root))) :
    t.entry? (k.folderLocation root) = some .folder := by
  rw [k.names_folder] at hw
  rw [← k.resolve_names_folder, k.names_folder]
  exact hw.folder

/-- Folders that were all made are there, and besides only folders on the way to the output root and
the folders of the kinds are new. -/
theorem prepare_ok {ks : List DocumentKind}
    (h : runActions t (ks.map fun k => .makeFolders (k.folder root)) = (t', .ok ())) :
    (∀ k ∈ ks, t'.Walkable [] (names (k.folder root)) ∧
        t'.locate (k.folder root) = .ok (k.folderLocation root)) ∧
      FileTree.FoldersAdded
        (fun l => FileTree.OnWay (names root) l ∨ ∃ k : DocumentKind, l = k.folderLocation root)
        t t' := by
  induction ks generalizing t with
  | nil =>
      cases h
      exact ⟨by simp, .refl _ _⟩
  | cons k ks ih =>
      rw [List.map_cons] at h
      obtain ⟨t₁, hk, hr⟩ := runActions_cons_ok h
      obtain ⟨hw, ha⟩ := ih hr
      have hm : t.makeFolders (k.folder root) = (t₁, .ok ()) := by
        unfold Action.run at hk
        rcases hm : t.makeFolders (k.folder root) with ⟨t₂, ⟨⟩ | ⟨⟩⟩
        · simp [hm] at hk
        · simp only [hm, Prod.mk.injEq, and_true] at hk
          rw [hk]
      obtain ⟨hwk, hak⟩ := FileTree.makeFolders_ok hm
      have hlk := FileTree.locate_makeFolders (folder_ne_nil root k) hm
      rw [k.resolve_names_folder] at hlk
      refine ⟨fun k' hk' => ?_, FileTree.FoldersAdded.trans (hak.mono fun l hl => ?_) ha⟩
      · rcases List.mem_cons.mp hk' with rfl | hk'
        · exact ⟨ha.foldersWithin.walkable hwk, ha.foldersWithin.locate hlk⟩
        · exact hw k' hk'
      · rw [k.names_folder, FileTree.onWay_concat, ← k.names_folder, k.resolve_names_folder] at hl
        exact hl.imp_right fun h => ⟨k, h⟩

end SchemaFragments
