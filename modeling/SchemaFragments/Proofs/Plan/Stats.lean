import Mathlib.Data.Finset.Card
import SchemaFragments.Proofs.Plan.Entities

/-! # The statistics of a plan

A plan is built declaration by declaration.  What comes of its statistics depends on the names of the
declared entities and on what is asked for, and on nothing else: `statsFor` says what they are, in one
go (`stats_ofDeclarations`). -/

namespace SchemaFragments

/-- The names that have come before, in the list or among those seen, in the order of the list. -/
def repeatedNames (seen : List Text) : List Text → List Text
  | [] => []
  | name :: names =>
    if seen.contains name then name :: repeatedNames (seen ++ [name]) names
    else repeatedNames (seen ++ [name]) names

theorem repeatedNames_sublist (seen names : List Text) : (repeatedNames seen names).Sublist names := by
  induction names generalizing seen with
  | nil => exact .slnil
  | cons name names ih =>
      rw [repeatedNames]
      split_ifs
      · exact (ih _).cons_cons name
      · exact (ih _).cons name

/-- The occurrences of names that are not the first ones, in the order of the list: each place before
which its name stands already. -/
def laterOccurrences (names : List Text) : List Text :=
  (names.zipIdx.filter fun x => (names.take x.2).contains x.1).map (·.1)

theorem repeatedNames_eq_zipIdx (seen names : List Text) :
    repeatedNames seen names =
      ((names.zipIdx seen.length).filter fun x => ((seen ++ names).take x.2).contains x.1).map
        (·.1) := by
  induction names generalizing seen with
  | nil => rfl
  | cons name names ih =>
      have hseen : (seen ++ name :: names).take seen.length = seen := List.take_left
      have hnext := ih (seen ++ [name])
      rw [List.length_append, List.length_singleton, List.append_assoc, List.singleton_append] at hnext
      rw [repeatedNames, List.zipIdx_cons, hnext]
      by_cases hname : seen.contains name
      · rw [if_pos hname, List.filter_cons_of_pos (by rwa [hseen]), List.map_cons]
      · rw [if_neg hname, List.filter_cons_of_neg (by rwa [hseen])]

theorem repeatedNames_nil (names : List Text) : repeatedNames [] names = laterOccurrences names :=
  repeatedNames_eq_zipIdx [] names

/-- The different names of a list that satisfy a condition, without those seen before, and the repeated
names that satisfy it are together all names that do. -/
theorem card_add_countP_repeatedNames (f : Text → Bool) (seen names : List Text) :
    ((names.filter f).toFinset \ seen.toFinset).card + (repeatedNames seen names).countP f =
      names.countP f := by
  induction names generalizing seen with
  | nil => simp [repeatedNames]
  | cons name names ih =>
      have hseen : (seen ++ [name]).toFinset = insert name seen.toFinset := by
        ext
        simp
      have hrest := ih (seen ++ [name])
      rw [hseen, Finset.sdiff_insert] at hrest
      rw [repeatedNames]
      by_cases hf : f name
      · rw [List.filter_cons_of_pos hf, List.toFinset_cons, List.countP_cons_of_pos hf, ← hrest]
        by_cases hname : seen.contains name
        · have hmem : name ∈ seen.toFinset := by simpa using hname
          rw [if_pos hname, List.countP_cons_of_pos hf, Finset.insert_sdiff_of_mem _ hmem,
            Finset.erase_eq_of_notMem (by simp [hmem]), Nat.add_assoc]
        · have hnot : name ∉ seen.toFinset := by simpa using hname
          rw [if_neg hname, Finset.insert_sdiff_of_notMem _ hnot,
            ← Finset.card_erase_add_one (Finset.mem_insert_self name _), Finset.erase_insert_eq_erase]
          omega
      · have hnot : name ∉ (names.filter f).toFinset \ seen.toFinset := by simp [hf]
        have hcount : (if seen.contains name then name :: repeatedNames (seen ++ [name]) names
            else repeatedNames (seen ++ [name]) names).countP f =
              (repeatedNames (seen ++ [name]) names).countP f := by
          split_ifs
          · exact List.countP_cons_of_neg hf
          · rfl
        rw [List.filter_cons_of_neg hf, List.countP_cons_of_neg hf, hcount, ← hrest,
          Finset.erase_eq_of_notMem hnot]

namespace Plan

variable {patterns : Patterns} {allowed : AllowList} {schema : Text} {p : Plan} {d : Declaration}

/-- The names that no entity of some names answers to. -/
def unansweredNames (allowed : AllowList) (names : List Text) : List Text :=
  allowed.names.filter fun n => !(names.flatMap operationNames).contains n

/-- The statistics of a plan for entities of some names. -/
def statsFor (allowed : AllowList) (names : List Text) : Stats where
  fragments := names.length
  mutations := names.countP fun n => allowed.contains (mutationName n)
  queries := names.countP fun n => allowed.contains (queryName n)
  warnings := (repeatedNames [] names).map .repeatedEntity ++
    (unansweredNames allowed names).map .unknownName

theorem isSome_mutation?_entityOf (allowed : AllowList) (d : Declaration) :
    (entityOf allowed d).mutation?.isSome = allowed.contains (mutationName d.entity) := by
  unfold entityOf
  cases allowed.contains (mutationName d.entity) <;> rfl

theorem isSome_query?_entityOf (allowed : AllowList) (d : Declaration) :
    (entityOf allowed d).query?.isSome = allowed.contains (queryName d.entity) := by
  unfold entityOf
  cases allowed.contains (queryName d.entity) <;> rfl

/-- One more declaration adds to each count if it has the document, and warns if its name is known. -/
theorem stats_add (allowed : AllowList) (p : Plan) (d : Declaration) :
    (add allowed p d).stats =
      { fragments := p.stats.fragments + 1
        mutations := p.stats.mutations + (allowed.contains (mutationName d.entity)).toNat
        queries := p.stats.queries + (allowed.contains (queryName d.entity)).toNat
        warnings := p.stats.warnings ++
          if (p.entities.map Entity.name).contains d.entity then [.repeatedEntity d.entity] else [] } := by
  unfold add Stats.countEntity
  simp only [isSome_mutation?_entityOf, isSome_query?_entityOf]
  cases allowed.contains (mutationName d.entity) <;> cases allowed.contains (queryName d.entity) <;>
    cases (p.entities.map Entity.name).contains d.entity <;>
    simp [Stats.warn, Stats.warnAll, Stats.countFragment, Stats.countMutation, Stats.countQuery]

theorem names_add (allowed : AllowList) (p : Plan) (d : Declaration) :
    (add allowed p d).entities.map Entity.name = p.entities.map Entity.name ++ [d.entity] :=
  List.map_append

/-- Several declarations add to each count as many as have the document, and warn of those whose name
is known by then. -/
theorem stats_foldl_add (allowed : AllowList) (p : Plan) (ds : List Declaration) :
    (ds.foldl (add allowed) p).stats =
      { fragments := p.stats.fragments + ds.length
        mutations := p.stats.mutations + ds.countP fun d => allowed.contains (mutationName d.entity)
        queries := p.stats.queries + ds.countP fun d => allowed.contains (queryName d.entity)
        warnings := p.stats.warnings ++
          (repeatedNames (p.entities.map Entity.name) (ds.map (·.entity))).map .repeatedEntity } := by
  induction ds generalizing p with
  | nil => simp [repeatedNames]
  | cons d ds ih =>
      have hmutations := List.countP_cons (l := ds) (a := d)
        (p := fun d => allowed.contains (mutationName d.entity))
      have hqueries := List.countP_cons (l := ds) (a := d)
        (p := fun d => allowed.contains (queryName d.entity))
      rw [List.foldl_cons, ih, stats_add, names_add, List.map_cons, repeatedNames, hmutations, hqueries,
        List.length_cons, Stats.mk.injEq]
      dsimp only
      refine ⟨?_, ?_, ?_, ?_⟩
      · omega
      · cases allowed.contains (mutationName d.entity) with
        | false => simp
        | true =>
            simp only [Bool.toNat_true, if_true]
            omega
      · cases allowed.contains (queryName d.entity) with
        | false => simp
        | true =>
            simp only [Bool.toNat_true, if_true]
            omega
      · cases (p.entities.map Entity.name).contains d.entity <;> simp

theorem unknownNames_eq (allowed : AllowList) (ds : List Declaration) :
    unknownNames allowed ds = unansweredNames allowed (ds.map (·.entity)) := by
  have hnames : (ds.map (·.entity)).flatMap operationNames = ds.flatMap fun d => operationNames d.entity :=
    List.flatMap_map ..
  unfold unknownNames unansweredNames
  rw [hnames]

/-- The statistics of a plan are those for the names of its entities. -/
theorem stats_ofDeclarations (allowed : AllowList) (ds : List Declaration) :
    (ofDeclarations allowed ds).stats = statsFor allowed (ds.map (·.entity)) := by
  unfold ofDeclarations statsFor
  simp only [stats_foldl_add, Stats.warnAll, unknownNames_eq, List.countP_map, List.length_map]
  simp [Function.comp_def]

theorem names_ofDeclarations (allowed : AllowList) (ds : List Declaration) :
    (ofDeclarations allowed ds).entities.map Entity.name = ds.map (·.entity) := by
  rw [entities_ofDeclarations, List.map_map]
  rfl

theorem stats_ofSchema (h : ofSchema patterns allowed schema = .ok p) :
    p.stats = statsFor allowed (p.entities.map Entity.name) := by
  obtain ⟨ds, -, rfl⟩ := ofSchema_ok h
  rw [names_ofDeclarations, stats_ofDeclarations]

end Plan

end SchemaFragments
