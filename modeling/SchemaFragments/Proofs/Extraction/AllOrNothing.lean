import SchemaFragments.Proofs.Plan.Entities
import SchemaFragments.Proofs.Regex.Matches
import SchemaFragments.Proofs.Text

/-! # Extraction with any patterns

Nothing is known here of the two patterns.  A block that the block pattern finds is named by the name
pattern if that pattern is found in it and leaves a single identifier (`Patterns.Names`).  What it leaves
is a part of the block (`substituted_sublist`), so an empty block is never named.

Either all blocks are named and every one of them becomes a declaration, or extraction fails at the first
block without a name (`extract_all_or_nothing`). -/

namespace SchemaFragments

namespace Patterns

variable {p : Patterns} {schema block name : Text} {d : Declaration} {ds : List Declaration}
  {f : Failure}

/-! ### The name of a block -/

/-- The name pattern is found in the block and leaves word characters only, and at least one. -/
def Names (p : Patterns) (block : Text) : Prop :=
  p.name.isMatch block ∧ p.substituted block ≠ [] ∧ ∀ c ∈ p.substituted block, isWord c

theorem entityName?_eq_some :
    p.entityName? block = some name ↔ p.Names block ∧ name = p.substituted block := by
  have hnames : (p.name.isMatch block ∧ isIdentifier (p.substituted block)) ↔ p.Names block := by
    simp [Names, isIdentifier]
  unfold entityName?
  split
  · next h => simp [hnames.mp h, eq_comm]
  · next h => simp [mt hnames.mpr h]

theorem entityName?_eq_none : p.entityName? block = none ↔ ¬ p.Names block := by
  rw [Option.eq_none_iff_forall_ne_some]
  constructor
  · exact fun h hn => h _ (entityName?_eq_some.mpr ⟨hn, rfl⟩)
  · exact fun h _ hname => h (entityName?_eq_some.mp hname).1

/-- The name pattern leaves nothing that is not in the block. -/
theorem substituted_sublist (p : Patterns) (block : Text) : (p.substituted block).Sublist block :=
  (Text.trim_sublist _).trans (p.name.replaceAll_group_sublist 1 block)

theorem Names.ne_nil (h : p.Names block) : block ≠ [] := by
  rintro rfl
  exact h.2.1 (List.sublist_nil.mp (p.substituted_sublist []))

/-! ### The blocks of a schema -/

theorem declaration_eq_ok_iff_names :
    p.declaration block = .ok d ↔ p.Names block ∧ d = ⟨p.substituted block, block⟩ := by
  rw [declaration_eq_ok]
  constructor
  · rintro ⟨rfl, h⟩
    obtain ⟨hn, he⟩ := entityName?_eq_some.mp h
    exact ⟨hn, by rw [← he]⟩
  · rintro ⟨hn, rfl⟩
    exact ⟨rfl, entityName?_eq_some.mpr ⟨hn, rfl⟩⟩

theorem extract_eq_ok_iff_names :
    p.extract schema = .ok ds ↔
      (∀ block ∈ p.blocks schema, p.Names block) ∧
        ds = (p.blocks schema).map fun block => ⟨p.substituted block, block⟩ := by
  rw [extract_eq_ok]
  constructor
  · rintro ⟨hblocks, hnames⟩
    simp only [entityName?_eq_some] at hnames
    rw [hblocks, List.map_map]
    refine ⟨List.forall_mem_map.mpr fun d hd => (hnames d hd).1, ?_⟩
    refine (List.map_id ds).symm.trans (List.map_congr_left fun d hd => ?_)
    exact congrArg (Declaration.mk · d.block) (hnames d hd).2
  · rintro ⟨hnames, rfl⟩
    constructor
    · rw [List.map_map]
      exact (List.map_id _).symm
    · exact List.forall_mem_map.mpr fun block hb => entityName?_eq_some.mpr ⟨hnames block hb, rfl⟩

theorem extract_eq_error_iff_names :
    p.extract schema = .error f ↔
      ∃ front block later, p.blocks schema = front ++ block :: later ∧ (∀ b ∈ front, p.Names b) ∧
        ¬ p.Names block ∧ f = .namelessBlock (Text.trim (Text.firstLine block)) := by
  have hfront (b : Text) : (∃ d, p.declaration b = .ok d) ↔ p.Names b := by
    simp [declaration_eq_ok_iff_names]
  unfold extract
  simp only [mapM_declaration_eq_error, hfront, declaration_eq_error, entityName?_eq_none]

theorem extract_fails_of_nil_mem (h : [] ∈ p.blocks schema) :
    ∃ excerpt, p.extract schema = .error (.namelessBlock excerpt) := by
  cases hx : p.extract schema with
  | ok ds => exact absurd rfl ((extract_eq_ok_iff_names.mp hx).1 [] h).ne_nil
  | error f =>
      obtain ⟨_, block, _, -, -, -, rfl⟩ := extract_eq_error_iff_names.mp hx
      exact ⟨_, rfl⟩

/-- The blocks are the matches of the block pattern, one behind the other and none left out.  All of them
are named, and then extraction gives a declaration for each, or it fails at the first that is not. -/
theorem extract_all_or_nothing (p : Patterns) (schema : Text) :
    ∃ found, found = p.block.allMatches schema ∧
      p.block.Successive none (.start schema) found ∧ Regex.Stretches schema found ∧
      (∀ ds, p.extract schema = .ok ds ↔
        (∀ m ∈ found, p.Names m.text) ∧ ds = found.map fun m => ⟨p.substituted m.text, m.text⟩) ∧
      (∀ ds, p.extract schema = .ok ds →
        ∀ d ∈ ds, d.block ≠ [] ∧ isIdentifier d.entity ∧ d.entity.Sublist d.block) ∧
      (∀ f, p.extract schema = .error f ↔
        ∃ front m later, found = front ++ m :: later ∧ (∀ x ∈ front, p.Names x.text) ∧
          ¬ p.Names m.text ∧ f = .namelessBlock (Text.trim (Text.firstLine m.text))) ∧
      (∀ m ∈ found, m.text = [] → ∃ excerpt, p.extract schema = .error (.namelessBlock excerpt)) := by
  refine ⟨_, rfl, p.block.successive_allMatches schema, Regex.stretches_allMatches _ _, fun ds => ?_,
    fun ds h d hd => ?_, fun f => ?_, fun m hm hnil => ?_⟩
  · rw [extract_eq_ok_iff_names, blocks, List.forall_mem_map, List.map_map]
    exact Iff.rfl
  · obtain ⟨hn, he⟩ := entityName?_eq_some.mp ((extract_eq_ok.mp h).2 d hd)
    exact ⟨hn.ne_nil, isIdentifier_of_extract h hd, he ▸ p.substituted_sublist d.block⟩
  · rw [extract_eq_error_iff_names, blocks]
    constructor
    · rintro ⟨front, block, later, hsplit, hfront, hblock⟩
      obtain ⟨front, rest, hfound, rfl, hrest⟩ := List.map_eq_append_iff.mp hsplit
      obtain ⟨m, later, rfl, rfl, -⟩ := List.map_eq_cons_iff.mp hrest
      exact ⟨front, m, later, hfound, List.forall_mem_map.mp hfront, hblock⟩
    · rintro ⟨front, m, later, hfound, hfront, hm⟩
      refine ⟨front.map (·.text), m.text, later.map (·.text), ?_, List.forall_mem_map.mpr hfront, hm⟩
      rw [hfound, List.map_append, List.map_cons]
  · exact extract_fails_of_nil_mem (List.mem_map.mpr ⟨m, hm, hnil⟩)

end Patterns

end SchemaFragments
