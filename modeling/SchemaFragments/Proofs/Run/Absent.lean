import SchemaFragments.Proofs.Run.Confined

/-! # Removing files that are not there

To remove a file that is not there is no failure, provided that its path can be that of a file at all.
The paths of an entity's three files differ in length, and that of the mutation is the longest.  So
there are entities whose fragment is written although their mutation has no possible file; a run that
is to remove it fails.  `runActions_absent_iff` says exactly when. -/

namespace SchemaFragments

open SchemaFragments.Path

variable {t t₀ t₁ : FileTree} {root : Path} {k : DocumentKind} {entity : Text} {e : Entity}
  {m : Medium}

/-! ### Lengths of paths -/

theorem Path.byteLength_append (a b : Text) : byteLength (a ++ b) = byteLength a + byteLength b := by
  unfold byteLength
  induction a with
  | nil => simp
  | cons c a ih =>
      rw [List.cons_append, List.foldr_cons, List.foldr_cons, ih]
      omega

namespace DocumentKind

/-- What the name of a file adds to the name of the entity, in bytes. -/
def fileNameExtra : DocumentKind → Nat
  | fragment => 16
  | mutation => 20
  | query => 13

theorem byteLength_fileNameFor (entity : Text) (k : DocumentKind) :
    byteLength (k.fileNameFor entity) = byteLength entity + k.fileNameExtra := by
  have hfragment : byteLength ("Fragment.graphql" : Text) = 16 := by decide
  have hsave : byteLength ("Save" : Text) = 4 := by decide
  have hmutation : byteLength ("Mutation.graphql" : Text) = 16 := by decide
  have hquery : byteLength ("Query.graphql" : Text) = 13 := by decide
  cases k with
  | fragment => rw [fileNameFor, byteLength_append, hfragment, fileNameExtra]
  | mutation =>
      rw [fileNameFor, mutationName, byteLength_append, byteLength_append, hsave, hmutation,
        fileNameExtra]
      omega
  | query => rw [fileNameFor, byteLength_append, hquery, fileNameExtra]

/-- The name of an entity's file and the path of the file are within the limits of the file system. -/
structure Fits (root : Path) (entity : Text) (k : DocumentKind) : Prop where
  name : byteLength (k.fileNameFor entity) ≤ nameLimit
  path : byteLength (k.path root entity) < lengthLimit

instance (root : Path) (entity : Text) (k : DocumentKind) : Decidable (k.Fits root entity) :=
  decidable_of_iff (byteLength (k.fileNameFor entity) ≤ nameLimit ∧
    byteLength (k.path root entity) < lengthLimit) ⟨fun h => ⟨h.1, h.2⟩, fun h => ⟨h.name, h.path⟩⟩

theorem byteLength_path (root : Path) (k : DocumentKind) (he : '/' ∉ entity) :
    byteLength (k.path root entity) =
      byteLength (slashed root) + byteLength k.plural + 1 + byteLength entity + k.fileNameExtra := by
  have hslash : byteLength ['/'] = 1 := by decide
  rw [path_eq_slashed root k he, byteLength_append, byteLength_append, ← List.singleton_append,
    byteLength_append, hslash, byteLength_fileNameFor]
  omega

/-- The path of the query is shorter than that of the fragment. -/
theorem Fits.query_of_fragment (he : '/' ∉ entity) (h : fragment.Fits root entity) :
    query.Fits root entity := by
  have hpath := h.path
  have hname := h.name
  have hfragments : byteLength fragment.plural = 9 := by decide
  have hqueries : byteLength query.plural = 7 := by decide
  rw [byteLength_path root _ he, hfragments, fileNameExtra] at hpath
  rw [byteLength_fileNameFor, fileNameExtra] at hname
  constructor
  · rw [byteLength_fileNameFor, fileNameExtra]
    omega
  · rw [byteLength_path root _ he, hqueries, fileNameExtra]
    omega

/-- Whether the path of a document holds a null character does not depend on the kind. -/
theorem null_mem_path_iff (root : Path) (k : DocumentKind) (he : '/' ∉ entity) :
    '\x00' ∈ k.path root entity ↔ '\x00' ∈ slashed root ∨ '\x00' ∈ entity := by
  have hplural : '\x00' ∉ k.plural := by cases k <;> decide
  have hname : '\x00' ∈ k.fileNameFor entity ↔ '\x00' ∈ entity := by
    cases k <;> simp [fileNameFor, mutationName]
  rw [path_eq_slashed root k he, List.mem_append, List.mem_append, List.mem_cons, hname]
  simp [hplural]

end DocumentKind

/-! ### Removing -/

/-- Nothing exists at the path. -/
def FileTree.IsAbsent (t : FileTree) (p : Path) : Prop := ∀ l, t.locate p = .ok l → t.entry? l = none

theorem FileTree.isAbsent_iff {p : Path} : t.IsAbsent p ↔ (t.locate p).toOption.bind t.entry? = none := by
  unfold IsAbsent
  cases t.locate p <;> simp [Except.toOption]

instance (t : FileTree) (p : Path) : Decidable (t.IsAbsent p) := decidable_of_iff' _ FileTree.isAbsent_iff

section removing

variable (hwalk : t.Walkable [] (names (k.folder root))) (he : '/' ∉ e.name)
  (hnull : '\x00' ∉ k.path root e.name) (hnone : e.document? k = none)

include hwalk he hnull hnone

/-- To remove a file that is not there changes nothing if the file could be there. -/
theorem run_action_absent (habsent : t.IsAbsent (k.path root e.name)) (hfits : k.Fits root e.name)
    (m : Medium) :
    (e.action root k).run t m = (t, .ok ()) := by
  have hlocated : t.locate (k.path root e.name) = .ok (k.location root e.name) := by
    have hname := hfits.name
    have hpath := hfits.path
    rw [locate_path_eq hwalk he, if_neg hnull, if_neg (by omega)]
  have hremove : t.remove (k.path root e.name) = .error .notFound := by
    simp only [FileTree.remove, hlocated, habsent _ hlocated]
  simp only [Entity.action, hnone, Action.run, hremove]

/-- To remove a file that cannot be there for the length of its path is a failure. -/
theorem run_action_of_not_fits (hfits : ¬ k.Fits root e.name) (m : Medium) :
    (e.action root k).run t m = (t, .error (.remove (k.path root e.name) .nameTooLong)) := by
  have hlong : lengthLimit ≤ byteLength (k.path root e.name) ∨
      nameLimit < byteLength (k.fileNameFor e.name) := by
    by_contra hshort
    rw [not_or, not_le, not_lt] at hshort
    exact hfits ⟨hshort.2, hshort.1⟩
  have hremove : t.remove (k.path root e.name) = .error .nameTooLong := by
    simp only [FileTree.remove, locate_path_eq hwalk he, if_neg hnull, if_pos hlong]
  simp only [Entity.action, hnone, Action.run, hremove]

end removing

theorem fits_of_located (hwalk : t.Walkable [] (names (k.folder root))) (he : '/' ∉ entity)
    (h : t.locate (k.path root entity) = .ok (k.location root entity)) :
    '\x00' ∉ k.path root entity ∧ k.Fits root entity := by
  rw [locate_path_eq hwalk he] at h
  split_ifs at h with hnull hlong
  rw [not_or, not_le, not_lt] at hlong
  exact ⟨hnull, hlong.2, hlong.1⟩

/-- Where nothing exists at the path of a document, nothing does after another file has changed. -/
theorem FileTree.IsAbsent.put {k' : DocumentKind} (hwalk : t.Walkable [] (names (k.folder root)))
    (hwalk' : (t.put (e.change root k')).Walkable [] (names (k.folder root))) (he : '/' ∉ e.name)
    (hk : k ≠ k') (h : t.IsAbsent (k.path root e.name)) :
    (t.put (e.change root k')).IsAbsent (k.path root e.name) := by
  intro l hl
  rw [locate_path_congr hwalk' hwalk he] at hl
  have hlocation : l = k.location root e.name := by
    rcases locate_path hwalk he with hok | hlong | hnull
    · exact Except.ok.inj (hl.symm.trans hok)
    · cases hl.symm.trans hlong
    · cases hl.symm.trans hnull
  have hother : l ≠ (e.change root k').location := by
    rintro rfl
    exact hk (DocumentKind.location_inj hlocation).1.symm
  rw [FileTree.entry?_put, if_neg hother]
  exact h l hl

/-! ### An entity without operations -/

/-- An entity is asked for no operation, and no file of its operations exists.  When its fragment is
written and its operations are removed, nothing changes but the file of the fragment, and this succeeds
if and only if the path of the mutation is within the limits of the file system; if not, the removal of
the mutation is what fails. -/
theorem runActions_absent_iff (hprep : runActions t₀ (prepareActions root) = (t, .ok ()))
    (he : '/' ∉ e.name) (hmutation : e.mutation? = none) (hquery : e.query? = none)
    (hwritten : (e.action root .fragment).run t m = (t₁, .ok ()))
    (hnoMutation : t.IsAbsent (DocumentKind.mutation.path root e.name))
    (hnoQuery : t.IsAbsent (DocumentKind.query.path root e.name)) :
    (runActions t (e.actions root) m = (t₁, .ok ()) ↔ DocumentKind.mutation.Fits root e.name) ∧
      (¬ DocumentKind.mutation.Fits root e.name → runActions t (e.actions root) m =
        (t₁, .error (.remove (DocumentKind.mutation.path root e.name) .nameTooLong))) ∧
      t₁.entry? (DocumentKind.fragment.location root e.name) =
        some (.file (.text (fileText e.fragment))) ∧
      ∀ l, l ≠ DocumentKind.fragment.location root e.name → t₁.entry? l = t.entry? l := by
  have hwalk (k : DocumentKind) := ((prepare_ok hprep).1 k k.mem_all).1
  obtain ⟨rfl, hfolder, hlocated⟩ := run_action_ok (hwalk .fragment) he (run_boundless hwritten)
  have hwithin : t.FoldersWithin (t.put (e.change root .fragment)) := FileTree.foldersWithin_put hfolder
  have hwalk₁ (k : DocumentKind) := hwithin.walkable (hwalk k)
  obtain ⟨hnullFragment, hfragment⟩ := fits_of_located (hwalk .fragment) he hlocated
  have hnull (k : DocumentKind) : '\x00' ∉ k.path root e.name := by
    rw [DocumentKind.null_mem_path_iff root k he, ← DocumentKind.null_mem_path_iff root .fragment he]
    exact hnullFragment
  have hfail (hlong : ¬ DocumentKind.mutation.Fits root e.name) :
      runActions t (e.actions root) m = (t.put (e.change root .fragment),
        .error (.remove (DocumentKind.mutation.path root e.name) .nameTooLong)) := by
    have hfailed := run_action_of_not_fits (hwalk₁ .mutation) he (hnull _) hmutation hlong m
    simp only [Entity.actions, DocumentKind.all, List.map_cons, runActions_cons, hwritten, hfailed]
  refine ⟨⟨fun hok => ?_, fun hfits => ?_⟩, hfail, ?_, fun l hl => ?_⟩
  · by_contra hlong
    rw [hfail hlong] at hok
    cases hok
  · have hmutated := run_action_absent (hwalk₁ .mutation) he (hnull _) hmutation
      (hnoMutation.put (hwalk _) (hwalk₁ _) he (by decide)) hfits m
    have hqueried := run_action_absent (hwalk₁ .query) he (hnull _) hquery
      (hnoQuery.put (hwalk _) (hwalk₁ _) he (by decide)) (hfragment.query_of_fragment he) m
    simp only [Entity.actions, DocumentKind.all, List.map_cons, List.map_nil, runActions_cons, hwritten,
      hmutated, hqueried, runActions]
  · rw [← Entity.location_change, FileTree.entry?_put, if_pos rfl]
    rfl
  · rw [FileTree.entry?_put, Entity.location_change, if_neg hl]

/-- An entity with a name of 236 bytes: its fragment has a file name of 252 bytes and its mutation would
have one of 256. -/
def longEntity : Entity := ⟨List.replicate 236 'A', "x", none, none⟩

/-- In fresh folders the fragment is written, and the mutation that never was there cannot be removed. -/
theorem removal_of_overlong_mutation :
    ∃ t t₁, runActions .empty (prepareActions "o") = (t, .ok ()) ∧
      (longEntity.action "o" .fragment).run t = (t₁, .ok ()) ∧
      t.IsAbsent (DocumentKind.mutation.path "o" longEntity.name) ∧
      t.IsAbsent (DocumentKind.query.path "o" longEntity.name) ∧
      runActions t (longEntity.actions "o") ≠ (t₁, .ok ()) ∧
      runActions t (longEntity.actions "o") =
        (t₁, .error (.remove (DocumentKind.mutation.path "o" longEntity.name) .nameTooLong)) := by
  have hprep : runActions .empty (prepareActions "o") =
      ((runActions .empty (prepareActions "o")).1, .ok ()) := eq_of_succeeds (by decide +kernel)
  have hwritten : (longEntity.action "o" .fragment).run (runActions .empty (prepareActions "o")).1 =
      (((longEntity.action "o" .fragment).run (runActions .empty (prepareActions "o")).1).1, .ok ()) :=
    eq_of_succeeds (by decide +kernel)
  have hnoMutation : (runActions .empty (prepareActions "o")).1.IsAbsent
      (DocumentKind.mutation.path "o" longEntity.name) := by decide +kernel
  have hnoQuery : (runActions .empty (prepareActions "o")).1.IsAbsent
      (DocumentKind.query.path "o" longEntity.name) := by decide +kernel
  have hlong : ¬ DocumentKind.mutation.Fits "o" longEntity.name := by decide +kernel
  obtain ⟨hiff, hfail, -⟩ := runActions_absent_iff hprep (by decide +kernel) rfl rfl hwritten
    hnoMutation hnoQuery
  exact ⟨_, _, hprep, hwritten, hnoMutation, hnoQuery, fun hok => hlong (hiff.mp hok), hfail hlong⟩

end SchemaFragments
