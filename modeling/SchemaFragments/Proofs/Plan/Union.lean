import SchemaFragments.Proofs.AllowList.NormalForm
import SchemaFragments.Proofs.Plan.Asked
import SchemaFragments.Run

/-! # Plans for more entries

Entries taken together allow what some of them or the others allow (`joins_parse_append`).  Whether a
schema can be planned does not depend on the entries; and where two plans are made for it, the plan for all
entries together has the documents of both, and warns of what one of the two warns of
(`Plan.Combines`, `ofSchema_append`).  So no entry takes a document away or changes it. -/

namespace SchemaFragments

variable {both a b : AllowList} {d : Declaration} {k : DocumentKind} {operation document : Text}

/-! ### What is allowed -/

namespace AllowList

/-- The names of one allow-list are those of two others. -/
def Joins (both a b : AllowList) : Prop := ∀ n, n ∈ both.names ↔ n ∈ a.names ∨ n ∈ b.names

theorem joins_parse_append (xs ys : List Text) : (parse (xs ++ ys)).Joins (parse xs) (parse ys) := by
  have hpieces : pieces (xs ++ ys) = pieces xs ++ pieces ys := List.flatMap_append
  intro n
  rw [mem_names_parse_iff_pieces, mem_names_parse_iff_pieces, mem_names_parse_iff_pieces, hpieces]
  simp only [List.mem_append, or_and_right, exists_or, and_or_left]

theorem Joins.contains_iff (h : both.Joins a b) :
    both.contains operation ↔ a.contains operation ∨ b.contains operation := by
  rw [AllowList.contains_iff, AllowList.contains_iff, AllowList.contains_iff]
  exact h _

end AllowList

/-! ### Documents -/

namespace Plan

variable {patterns : Patterns} {schema : Text} {ds : List Declaration} {p q : Plan}

/-- An entity has the documents that are asked for in the one or the other list, with the same text. -/
theorem document?_entityOf_iff (h : both.Joins a b) :
    (entityOf both d).document? k = some document ↔
      (entityOf a d).document? k = some document ∨ (entityOf b d).document? k = some document := by
  cases k with
  | fragment => exact or_self_iff.symm
  | mutation =>
      simp only [Entity.document?, entityOf, Option.ite_none_right_eq_some, h.contains_iff, or_and_right]
  | query =>
      simp only [Entity.document?, entityOf, Option.ite_none_right_eq_some, h.contains_iff, or_and_right]

/-- The document of a kind that the plan has for the entity at a place. -/
def document? (p : Plan) (i : Nat) (k : DocumentKind) : Option Text :=
  p.entities[i]?.bind (·.document? k)

theorem document?_ofDeclarations_iff (h : both.Joins a b) {i : Nat} :
    (ofDeclarations both ds).document? i k = some document ↔
      (ofDeclarations a ds).document? i k = some document ∨
        (ofDeclarations b ds).document? i k = some document := by
  unfold document?
  simp only [entities_ofDeclarations, List.getElem?_map]
  cases ds[i]? with
  | none => simp
  | some d => exact document?_entityOf_iff h

/-! ### Plans -/

/-- A plan has the documents of two others for the same declarations, and their warnings. -/
structure Combines (both p q : Plan) : Prop where
  names : both.entities.map Entity.name = p.entities.map Entity.name ∧
    both.entities.map Entity.name = q.entities.map Entity.name
  fragments : both.entities.map Entity.fragment = p.entities.map Entity.fragment ∧
    both.entities.map Entity.fragment = q.entities.map Entity.fragment
  documents : ∀ i k document, both.document? i k = some document ↔
    p.document? i k = some document ∨ q.document? i k = some document
  repeated : both.stats.warnings.filter Warning.overwrites = p.stats.warnings.filter Warning.overwrites ∧
    both.stats.warnings.filter Warning.overwrites = q.stats.warnings.filter Warning.overwrites
  ordered : both.stats.unknown.Pairwise (· < ·)
  unknown : ∀ n, n ∈ both.stats.unknown ↔ n ∈ p.stats.unknown ∨ n ∈ q.stats.unknown

theorem fragments_ofDeclarations (allowed : AllowList) (ds : List Declaration) :
    (ofDeclarations allowed ds).entities.map Entity.fragment = ds.map fun d => fragmentOf d.block := by
  rw [entities_ofDeclarations, List.map_map]
  rfl

/-- The warnings of repeated entities depend on the names alone. -/
theorem filter_overwrites_statsFor (allowed : AllowList) (names : List Text) :
    (statsFor allowed names).warnings.filter Warning.overwrites =
      (repeatedNames [] names).map .repeatedEntity := by
  have hrepeated : ∀ w ∈ (repeatedNames [] names).map Warning.repeatedEntity, w.overwrites :=
    List.forall_mem_map.mpr fun _ _ => rfl
  have hunknown : ∀ w ∈ (unansweredNames allowed names).map Warning.unknownName, ¬ w.overwrites :=
    List.forall_mem_map.mpr fun _ _ => Bool.false_ne_true
  unfold statsFor
  rw [List.filter_append, List.filter_eq_self.mpr hrepeated, List.filter_eq_nil_iff.mpr hunknown,
    List.append_nil]

theorem combines_ofDeclarations (h : both.Joins a b) (ds : List Declaration) :
    (ofDeclarations both ds).Combines (ofDeclarations a ds) (ofDeclarations b ds) where
  names := by simp only [names_ofDeclarations, and_self]
  fragments := by simp only [fragments_ofDeclarations, and_self]
  documents _ _ _ := document?_ofDeclarations_iff h
  repeated := by simp only [stats_ofDeclarations, filter_overwrites_statsFor, and_self]
  ordered := by
    rw [stats_ofDeclarations, unknown_statsFor]
    exact pairwise_unansweredNames both _
  unknown n := by
    simp only [stats_ofDeclarations, unknown_statsFor, mem_unansweredNames, h n, or_and_right]

/-- With some entries, with others, and with all of them together a schema fails to be planned in the same
way, or it is planned with the documents and the warnings that come of the entries separately. -/
theorem ofSchema_append (patterns : Patterns) (xs ys : List Text) (schema : Text) :
    (∃ f, ofSchema patterns (.parse xs) schema = .error f ∧
        ofSchema patterns (.parse ys) schema = .error f ∧
        ofSchema patterns (.parse (xs ++ ys)) schema = .error f) ∨
      ∃ p q both, ofSchema patterns (.parse xs) schema = .ok p ∧
        ofSchema patterns (.parse ys) schema = .ok q ∧
        ofSchema patterns (.parse (xs ++ ys)) schema = .ok both ∧ both.Combines p q := by
  cases h : patterns.extract schema with
  | error f => exact .inl ⟨f, ofSchema_of_extract_error h _, ofSchema_of_extract_error h _,
      ofSchema_of_extract_error h _⟩
  | ok ds => exact .inr ⟨_, _, _, ofSchema_of_extract h _, ofSchema_of_extract h _,
      ofSchema_of_extract h _, combines_ofDeclarations (AllowList.joins_parse_append xs ys) ds⟩

end Plan

end SchemaFragments
