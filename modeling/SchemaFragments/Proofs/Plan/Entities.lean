import SchemaFragments.Plan

/-! # The entities of a plan

Whatever the patterns, extraction gives single identifiers as names (`isIdentifier_of_extract`), and
a plan has one entity for each declaration, in the same order (`entities_ofDeclarations`).  The
mutation and the query of an entity depend on its name alone. -/

namespace SchemaFragments

/-! ### Extraction -/

namespace Patterns

variable {p : Patterns} {schema block : Text} {d : Declaration} {ds : List Declaration}

theorem declaration_eq_ok :
    p.declaration block = .ok d ↔ block = d.block ∧ p.entityName? d.block = some d.entity := by
  unfold declaration
  cases hn : p.entityName? block with
  | none =>
      constructor
      · intro h
        cases h
      · rintro ⟨rfl, h⟩
        rw [hn] at h
        cases h
  | some name =>
      constructor
      · intro h
        cases h
        exact ⟨rfl, hn⟩
      · rintro ⟨rfl, h⟩
        rw [hn] at h
        cases h
        rfl

theorem isIdentifier_of_entityName? {name : Text} (h : p.entityName? block = some name) :
    isIdentifier name := by
  unfold entityName? at h
  split at h
  · next hc =>
      cases h
      exact hc.2
  · cases h

theorem mapM_declaration_eq_ok {blocks : List Text} :
    blocks.mapM p.declaration = .ok ds ↔
      blocks = ds.map (·.block) ∧ ∀ d ∈ ds, p.entityName? d.block = some d.entity := by
  induction blocks generalizing ds with
  | nil =>
      rw [List.mapM_nil]
      constructor
      · intro h
        cases h
        exact ⟨rfl, by simp⟩
      · rintro ⟨h, -⟩
        rw [List.map_eq_nil_iff.mp h.symm]
        rfl
  | cons block blocks ih =>
      rw [List.mapM_cons]
      constructor
      · intro h
        cases hb : p.declaration block with
        | error e => simp [hb, bind, Except.bind] at h
        | ok d =>
            cases hr : blocks.mapM p.declaration with
            | error e => simp [hb, hr, bind, Except.bind] at h
            | ok rest =>
                simp only [hb, hr, bind, Except.bind, pure, Except.pure] at h
                cases h
                obtain ⟨rfl, hd⟩ := declaration_eq_ok.mp hb
                obtain ⟨rfl, hall⟩ := ih.mp hr
                exact ⟨rfl, List.forall_mem_cons.mpr ⟨hd, hall⟩⟩
      · rintro ⟨hbs, hall⟩
        cases ds with
        | nil => cases hbs
        | cons d ds =>
            rw [List.map_cons, List.cons.injEq] at hbs
            obtain ⟨hd, hall⟩ := List.forall_mem_cons.mp hall
            rw [declaration_eq_ok.mpr ⟨hbs.1, hd⟩, ih.mpr ⟨hbs.2, hall⟩]
            rfl

/-- Extraction gives the declarations whose blocks the block pattern finds, each with the name that
the name pattern finds in it. -/
theorem extract_eq_ok :
    p.extract schema = .ok ds ↔
      p.blocks schema = ds.map (·.block) ∧ ∀ d ∈ ds, p.entityName? d.block = some d.entity :=
  mapM_declaration_eq_ok

/-- A block without a name fails, and the failure shows its first line. -/
theorem declaration_eq_error {f : Failure} :
    p.declaration block = .error f ↔
      p.entityName? block = none ∧ f = .namelessBlock (Text.trim (Text.firstLine block)) := by
  unfold declaration
  cases p.entityName? block with
  | none => simp [eq_comm]
  | some name => simp

/-- Extraction fails at the first block that fails, and for its reason. -/
theorem mapM_declaration_eq_error {blocks : List Text} {f : Failure} :
    blocks.mapM p.declaration = .error f ↔
      ∃ front block later, blocks = front ++ block :: later ∧
        (∀ b ∈ front, ∃ d, p.declaration b = .ok d) ∧ p.declaration block = .error f := by
  induction blocks with
  | nil =>
      rw [List.mapM_nil]
      constructor
      · intro h
        cases h
      · rintro ⟨front, block, later, hsplit, -⟩
        simp at hsplit
  | cons first blocks ih =>
      rw [List.mapM_cons]
      cases hfirst : p.declaration first with
      | error e =>
          constructor
          · intro h
            cases h
            exact ⟨[], first, blocks, rfl, by simp, hfirst⟩
          · rintro ⟨front, block, later, hsplit, hfront, hblock⟩
            cases front with
            | nil =>
                cases hsplit
                rw [hfirst] at hblock
                cases hblock
                rfl
            | cons b front =>
                cases hsplit
                obtain ⟨d, hd⟩ := hfront first (by simp)
                rw [hfirst] at hd
                cases hd
      | ok d =>
          have hstep : (do
              let d ← Except.ok d
              let ds ← blocks.mapM p.declaration
              pure (d :: ds) : Except Failure (List Declaration)) = .error f ↔
                blocks.mapM p.declaration = .error f := by
            cases blocks.mapM p.declaration <;> simp [bind, Except.bind, pure, Except.pure]
          rw [hstep, ih]
          constructor
          · rintro ⟨front, block, later, rfl, hfront, hblock⟩
            exact ⟨first :: front, block, later, rfl, List.forall_mem_cons.mpr ⟨⟨d, hfirst⟩, hfront⟩, hblock⟩
          · rintro ⟨front, block, later, hsplit, hfront, hblock⟩
            cases front with
            | nil =>
                cases hsplit
                rw [hfirst] at hblock
                cases hblock
            | cons b front =>
                cases hsplit
                exact ⟨front, block, later, rfl, (List.forall_mem_cons.mp hfront).2, hblock⟩

theorem isIdentifier_of_extract (h : p.extract schema = .ok ds) (hd : d ∈ ds) :
    isIdentifier d.entity :=
  isIdentifier_of_entityName? ((extract_eq_ok.mp h).2 d hd)

end Patterns

/-! ### Planning -/

namespace Plan

variable {patterns : Patterns} {allowed : AllowList} {schema : Text} {p : Plan} {e : Entity}

theorem entities_foldl_add (allowed : AllowList) (p : Plan) (ds : List Declaration) :
    (ds.foldl (add allowed) p).entities = p.entities ++ ds.map (entityOf allowed) := by
  induction ds generalizing p with
  | nil => simp
  | cons d ds ih =>
      rw [List.foldl_cons, ih]
      simp [add]

theorem entities_ofDeclarations (allowed : AllowList) (ds : List Declaration) :
    (ofDeclarations allowed ds).entities = ds.map (entityOf allowed) :=
  entities_foldl_add allowed {} ds

theorem ofSchema_of_extract {ds : List Declaration} (h : patterns.extract schema = .ok ds)
    (allowed : AllowList) : ofSchema patterns allowed schema = .ok (ofDeclarations allowed ds) := by
  unfold ofSchema
  rw [h]

theorem ofSchema_of_extract_error {f : Failure} (h : patterns.extract schema = .error f)
    (allowed : AllowList) : ofSchema patterns allowed schema = .error f := by
  unfold ofSchema
  rw [h]

theorem ofSchema_ok (h : ofSchema patterns allowed schema = .ok p) :
    ∃ ds, patterns.extract schema = .ok ds ∧ p = ofDeclarations allowed ds := by
  cases hx : patterns.extract schema with
  | error f =>
      rw [ofSchema_of_extract_error hx] at h
      cases h
  | ok ds =>
      rw [ofSchema_of_extract hx] at h
      cases h
      exact ⟨ds, rfl, rfl⟩

theorem exists_of_mem_entities (h : ofSchema patterns allowed schema = .ok p) (he : e ∈ p.entities) :
    ∃ d, isIdentifier d.entity ∧ e = entityOf allowed d := by
  obtain ⟨ds, hx, rfl⟩ := ofSchema_ok h
  rw [entities_ofDeclarations] at he
  obtain ⟨d, hd, rfl⟩ := List.mem_map.mp he
  exact ⟨d, Patterns.isIdentifier_of_extract hx hd, rfl⟩

theorem isIdentifier_name (h : ofSchema patterns allowed schema = .ok p) (he : e ∈ p.entities) :
    isIdentifier e.name := by
  obtain ⟨d, hd, rfl⟩ := exists_of_mem_entities h he
  exact hd

theorem mutation?_eq (h : ofSchema patterns allowed schema = .ok p) (he : e ∈ p.entities) :
    e.mutation? = if allowed.contains (mutationName e.name) then some (saveMutation e.name) else none := by
  obtain ⟨d, -, rfl⟩ := exists_of_mem_entities h he
  rfl

theorem query?_eq (h : ofSchema patterns allowed schema = .ok p) (he : e ∈ p.entities) :
    e.query? = if allowed.contains (queryName e.name) then some (byIdQuery e.name) else none := by
  obtain ⟨d, -, rfl⟩ := exists_of_mem_entities h he
  rfl

end Plan

end SchemaFragments
