import SchemaFragments.Proofs.AllowList
import SchemaFragments.Proofs.Plan.Stats

/-! # What was asked for and what a plan answers

A name asked for is answered by an entity with the document of that name.  Planning decides on a
document with the normal form of its name, while the warnings go by the names in upper case.  The two
agree on the names of operations of an entity (`answers_iff`), so that each name asked for is either
answered or warned about (`unknown_exact`). -/

namespace SchemaFragments

/-- The name that a warning says is unknown. -/
def Warning.unknown? : Warning → Option Text
  | repeatedEntity _ => none
  | unknownName n => some n

/-- The names that are warned about as unknown, in the order of the warnings. -/
def Stats.unknown (s : Stats) : List Text := s.warnings.filterMap Warning.unknown?

/-- The entity has a document whose operation has the name, in upper case. -/
def Entity.Answers (e : Entity) (n : Text) : Prop :=
  (e.mutation?.isSome ∧ upper (mutationName e.name) = n) ∨
    (e.query?.isSome ∧ upper (queryName e.name) = n)

instance (e : Entity) (n : Text) : Decidable (e.Answers n) :=
  inferInstanceAs (Decidable (_ ∨ _))

namespace Plan

variable {patterns : Patterns} {allowed : AllowList} {schema : Text} {p : Plan} {e : Entity} {n : Text}
  {names : List Text}

/-! ### Documents -/

theorem isSome_mutation?_iff (h : ofSchema patterns allowed schema = .ok p) (he : e ∈ p.entities) :
    e.mutation?.isSome ↔ upper (mutationName e.name) ∈ allowed.names := by
  obtain ⟨d, hd, rfl⟩ := exists_of_mem_entities h he
  rw [isSome_mutation?_entityOf]
  exact AllowList.contains_mutationName_iff hd

theorem isSome_query?_iff (h : ofSchema patterns allowed schema = .ok p) (he : e ∈ p.entities) :
    e.query?.isSome ↔ upper (queryName e.name) ∈ allowed.names := by
  obtain ⟨d, hd, rfl⟩ := exists_of_mem_entities h he
  rw [isSome_query?_entityOf]
  exact AllowList.contains_queryName_iff hd

/-- An entity answers to those of its operation names that are asked for. -/
theorem answers_iff (h : ofSchema patterns allowed schema = .ok p) (he : e ∈ p.entities) :
    e.Answers n ↔ n ∈ allowed.names ∧ n ∈ operationNames e.name := by
  unfold Entity.Answers operationNames
  rw [isSome_mutation?_iff h he, isSome_query?_iff h he, List.mem_pair]
  constructor
  · rintro (⟨hn, rfl⟩ | ⟨hn, rfl⟩)
    · exact ⟨hn, .inl rfl⟩
    · exact ⟨hn, .inr rfl⟩
  · rintro ⟨hn, rfl | rfl⟩
    · exact .inl ⟨hn, rfl⟩
    · exact .inr ⟨hn, rfl⟩

/-! ### Warnings -/

theorem unknown_statsFor (allowed : AllowList) (names : List Text) :
    (statsFor allowed names).unknown = unansweredNames allowed names := by
  have hrepeated : ((repeatedNames [] names).map Warning.repeatedEntity).filterMap Warning.unknown? = [] := by
    simp [List.filterMap_map, Warning.unknown?]
  have hunanswered : ((unansweredNames allowed names).map Warning.unknownName).filterMap
      Warning.unknown? = unansweredNames allowed names := by
    rw [List.filterMap_map]
    exact List.filterMap_some
  unfold Stats.unknown statsFor
  rw [List.filterMap_append, hrepeated, hunanswered, List.nil_append]

theorem mem_unansweredNames :
    n ∈ unansweredNames allowed names ↔
      n ∈ allowed.names ∧ ∀ entity ∈ names, n ∉ operationNames entity := by
  unfold unansweredNames
  simp

theorem pairwise_unansweredNames (allowed : AllowList) (names : List Text) :
    (unansweredNames allowed names).Pairwise (· < ·) :=
  (AllowList.pairwise_names allowed).filter _

/-- A plan warns, in strictly increasing order, about exactly those names asked for that none of its
entities answers to; and it has exactly those documents whose operations are asked for. -/
theorem unknown_exact (h : ofSchema patterns allowed schema = .ok p) :
    p.stats.unknown.Pairwise (· < ·) ∧
      (∀ n, n ∈ p.stats.unknown ↔ n ∈ allowed.names ∧ ∀ e ∈ p.entities, ¬ e.Answers n) ∧
      ∀ e ∈ p.entities,
        (e.mutation?.isSome ↔ AllowList.normalize (mutationName e.name) ∈ allowed.names) ∧
        (e.query?.isSome ↔ AllowList.normalize (queryName e.name) ∈ allowed.names) := by
  have hunknown : p.stats.unknown = unansweredNames allowed (p.entities.map Entity.name) := by
    rw [stats_ofSchema h, unknown_statsFor]
  rw [hunknown]
  refine ⟨pairwise_unansweredNames _ _, fun n => ?_, fun e he => ?_⟩
  · rw [mem_unansweredNames, List.forall_mem_map]
    refine and_congr_right fun hn => forall₂_congr fun e he => ?_
    rw [answers_iff h he]
    simp [hn]
  · have hname : isIdentifier e.name := isIdentifier_name h he
    rw [AllowList.normalize_mutationName hname, AllowList.normalize_queryName hname]
    exact ⟨isSome_mutation?_iff h he, isSome_query?_iff h he⟩

/-- Two entries, not in order, one of them with two names. -/
def askedNames : AllowList := .parse ["ss, later", "before"]

/-- An entity whose query is asked for by the upper case of its name, which is longer than the name. -/
def askedEntity : Declaration := ⟨"ß", "type ßGql \x7b\n  id: Int\n\x7d"⟩

/-- The query is planned, and the two other names are warned about in their order. -/
theorem unknown_exact_sharp :
    ∃ p, ofSchema Patterns.standard askedNames askedEntity.block = .ok p ∧
      p.stats.unknown = ["BEFORE", "LATER"] ∧ p.stats.unknown.Pairwise (· < ·) ∧
      ∃ e ∈ p.entities, e.name = "ß" ∧ e.Answers "SS" ∧ ¬ e.Answers "LATER" ∧
        AllowList.normalize (queryName e.name) ∈ askedNames.names := by
  have hdeclared : Scan.declarations askedEntity.block = [askedEntity] := by decide +kernel
  have hplan : ofSchema Patterns.standard askedNames askedEntity.block =
      .ok (ofDeclarations askedNames [askedEntity]) := by
    unfold ofSchema
    rw [Patterns.extract_standard, hdeclared]
  have hunknown : (ofDeclarations askedNames [askedEntity]).stats.unknown = ["BEFORE", "LATER"] := by
    decide
  have hlater : ("LATER" : Text) ∈ (ofDeclarations askedNames [askedEntity]).stats.unknown := by
    rw [hunknown]
    decide
  have hmem : entityOf askedNames askedEntity ∈ (ofDeclarations askedNames [askedEntity]).entities :=
    List.mem_singleton_self _
  obtain ⟨hordered, hiff, hdocuments⟩ := unknown_exact hplan
  refine ⟨_, hplan, hunknown, hordered, _, hmem, rfl, by decide, ?_, ?_⟩
  · exact ((hiff _).mp hlater).2 _ hmem
  · exact (hdocuments _ hmem).2.mp (by decide)

end Plan

end SchemaFragments
