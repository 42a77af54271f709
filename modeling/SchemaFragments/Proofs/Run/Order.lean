import SchemaFragments.Proofs.Run.Success

/-! # The order of the entities

The files of different entities have nothing to do with each other, so of the order in which entities
are dealt with only the order of those that share a name matters.  Lists of entities that agree in
that order can be dealt with completely or not at all, on a medium that takes whatever is written, and
leave the same tree (`runActions_reorder`). -/

namespace SchemaFragments

variable {t t₀ t' : FileTree} {root : Path} {es es' : List Entity}

/-! ### The changes of one file -/

theorem changesOf_jobsOf_cons (root : Path) (e : Entity) (es : List Entity) :
    changesOf root (jobsOf (e :: es)) =
      DocumentKind.all.map (e.change root) ++ changesOf root (jobsOf es) := by
  simp [changesOf, jobsOf, Function.comp_def]

/-- Only the entities of a name change the files of that name. -/
theorem filter_changesOf_eq (root : Path) (es : List Entity) (k : DocumentKind) (name : Text) :
    (changesOf root (jobsOf es)).filter (·.location = k.location root name) =
      (changesOf root (jobsOf (es.filter (·.name = name)))).filter
        (·.location = k.location root name) := by
  induction es with
  | nil => rfl
  | cons e es ih =>
      rw [changesOf_jobsOf_cons, List.filter_append, ih]
      by_cases he : e.name = name
      · rw [List.filter_cons_of_pos (by simpa using he), changesOf_jobsOf_cons, List.filter_append]
      · have hother : (DocumentKind.all.map (e.change root)).filter
            (·.location = k.location root name) = [] := by
          rw [List.filter_eq_nil_iff]
          rintro c hc hl
          obtain ⟨k', -, rfl⟩ := List.mem_map.mp hc
          rw [decide_eq_true_iff, Entity.location_change] at hl
          exact he (DocumentKind.location_inj hl).2
        rw [hother, List.nil_append, List.filter_cons_of_neg (by simpa using he)]

/-- Entities of one name in the same order change every file in the same order. -/
theorem filter_changesOf_congr (h : ∀ name, es.filter (·.name = name) = es'.filter (·.name = name))
    (l : Location) :
    (changesOf root (jobsOf es)).filter (·.location = l) =
      (changesOf root (jobsOf es')).filter (·.location = l) := by
  by_cases hl : ∃ k name, l = DocumentKind.location root name k
  · obtain ⟨k, name, rfl⟩ := hl
    rw [filter_changesOf_eq, h, ← filter_changesOf_eq]
  · -- No change of any entity is about such a location.
    have hnone (es : List Entity) : (changesOf root (jobsOf es)).filter (·.location = l) = [] := by
      rw [List.filter_eq_nil_iff]
      rintro c hc heq
      obtain ⟨j, -, rfl⟩ := mem_changesOf hc
      rw [decide_eq_true_iff] at heq
      exact hl ⟨j.2, j.1.name, heq.symm⟩
    rw [hnone, hnone]

/-! ### Dealing with entities -/

/-- Two orders of the same entities that keep those of one name in their order: once the folders are
made, all entities can be dealt with in the one order if and only if they can in the other, and the
tree that is left is the same. -/
theorem runActions_reorder (hprep : runActions t₀ (prepareActions root) = (t, .ok ()))
    (hname : ∀ e ∈ es, '/' ∉ e.name) (hperm : es.Perm es')
    (horder : ∀ name, es.filter (·.name = name) = es'.filter (·.name = name)) (t' : FileTree) :
    runActions t (es.flatMap (·.actions root)) = (t', .ok ()) ↔
      runActions t (es'.flatMap (·.actions root)) = (t', .ok ()) := by
  have hname' : ∀ e ∈ es', '/' ∉ e.name := fun e he => hname e (hperm.mem_iff.mpr he)
  have htree : t.putAll (changesOf root (jobsOf es)) = t.putAll (changesOf root (jobsOf es')) :=
    FileTree.putAll_congr (filter_changesOf_congr horder) t
  rw [runActions_entities_iff hprep hname, runActions_entities_iff hprep hname', htree]
  refine and_congr_left fun _ => forall_congr' fun e => ?_
  rw [hperm.mem_iff]

/-- The entity `A` twice, the second time with a mutation, and `B` with a query between the two. -/
def betweenTwo : List Entity :=
  [⟨"A", "one", none, none⟩, ⟨"B", "x", none, some "q"⟩, ⟨"A", "two", some "m", none⟩]

/-- The same entities with `B` in front. -/
def beforeBoth : List Entity :=
  [⟨"B", "x", none, some "q"⟩, ⟨"A", "one", none, none⟩, ⟨"A", "two", some "m", none⟩]

/-- Over files of an earlier run both orders leave one tree, with the second fragment of `A`. -/
theorem runActions_reorder_repeated :
    ∃ t t', runActions repeatedTree (prepareActions "o") = (t, .ok ()) ∧
      runActions t (betweenTwo.flatMap (·.actions "o")) = (t', .ok ()) ∧
      runActions t (beforeBoth.flatMap (·.actions "o")) = (t', .ok ()) ∧
      t'.entry? (DocumentKind.fragment.location "o" "A") = some (.file (.text "two\n")) ∧
      t'.entry? (DocumentKind.query.location "o" "A") = none := by
  have hprep : runActions repeatedTree (prepareActions "o") =
      ((runActions repeatedTree (prepareActions "o")).1, .ok ()) := eq_of_succeeds (by decide +kernel)
  have hdone : runActions (runActions repeatedTree (prepareActions "o")).1
      (betweenTwo.flatMap (·.actions "o")) = ((runActions (runActions repeatedTree (prepareActions "o")).1
        (betweenTwo.flatMap (·.actions "o"))).1, .ok ()) := eq_of_succeeds (by decide +kernel)
  have horder (name : Text) :
      betweenTwo.filter (·.name = name) = beforeBoth.filter (·.name = name) := by
    by_cases hA : ['A'] = name
    · subst hA
      decide
    · simp [betweenTwo, beforeBoth, List.filter_cons, hA]
  have hreorder := runActions_reorder hprep (by decide) (by decide) horder
  exact ⟨_, _, hprep, hdone, (hreorder _).mp hdone, by decide +kernel, by decide +kernel⟩

end SchemaFragments
