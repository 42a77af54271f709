import SchemaFragments.Proofs.CommandLine.Given

/-! # What is recorded

Recording an option adds its values to those that it has and leaves the other options alone (`add?_cases`).
So what is recorded in the end is what is given (`mem_opts_addAll?`), with all its values in their order
(`valuesIn_addAll?`), of which there is at most one if the option is no list
(`length_valuesIn_addAll?_le`) and with which nothing is wrong (`valueProblem?_of_addAll?`). -/

namespace SchemaFragments.CommandLine

variable {o p : Opt} {os : List Occurrence} {gs gs' : List Given}

/-! ### Records of an option -/

/-- The values that are recorded for an option. -/
def valuesIn (gs : List Given) (o : Opt) : List Text := ({ given := gs } : Scan).values o

/-- What is recorded of a value: its pieces if the option is a list, and else the value. -/
def Opt.pieces (o : Opt) (value : Text) : List Text :=
  if o.isList then Text.splitOn ',' value else [value]

theorem mem_opts_append : o ∈ opts (gs ++ gs') ↔ o ∈ opts gs ∨ o ∈ opts gs' := by
  unfold opts
  rw [List.map_append, List.mem_append]

theorem find?_eq_none (h : o ∉ opts gs) : gs.find? (·.opt = o) = none := by
  rw [List.find?_eq_none]
  intro g hg hopt
  exact h (of_decide_eq_true hopt ▸ List.mem_map_of_mem hg)

theorem valuesIn_of_not_mem (h : o ∉ opts gs) : valuesIn gs o = [] := by
  unfold valuesIn Scan.values
  rw [find?_eq_none h]
  rfl

theorem valuesIn_append_left (h : o ∉ opts gs') : valuesIn (gs ++ gs') o = valuesIn gs o := by
  unfold valuesIn Scan.values
  rw [List.find?_append, find?_eq_none h, Option.or_none]

theorem valuesIn_append_right (h : o ∉ opts gs) : valuesIn (gs ++ gs') o = valuesIn gs' o := by
  unfold valuesIn Scan.values
  rw [List.find?_append, find?_eq_none h, Option.none_or]

/-- The records with more values for an option. -/
def extended (gs : List Given) (o : Opt) (values : List Text) : List Given :=
  gs.map fun g => if g.opt = o then ⟨o, g.values ++ values⟩ else g

theorem opt_extended (g : Given) (o : Opt) (values : List Text) :
    (if g.opt = o then (⟨o, g.values ++ values⟩ : Given) else g).opt = g.opt := by
  split_ifs with hopt
  · exact hopt.symm
  · rfl

theorem opts_extended (gs : List Given) (o : Opt) (values : List Text) :
    opts (extended gs o values) = opts gs := by
  unfold opts extended
  rw [List.map_map]
  exact List.map_congr_left fun g _ => opt_extended g o values

theorem valuesIn_extended (hp : p ∈ opts gs) (values : List Text) :
    valuesIn (extended gs p values) o = valuesIn gs o ++ if p = o then values else [] := by
  have hfind : (extended gs p values).find? (·.opt = o) =
      (gs.find? (·.opt = o)).map fun g => if g.opt = p then ⟨p, g.values ++ values⟩ else g := by
    unfold extended
    rw [List.find?_map]
    simp only [Function.comp_def, opt_extended]
  unfold valuesIn Scan.values
  rw [hfind]
  cases hg : gs.find? (·.opt = o) with
  | none =>
      have hne : p ≠ o := by
        rintro rfl
        obtain ⟨g, hmem, hopt⟩ := List.mem_map.mp hp
        exact List.find?_eq_none.mp hg g hmem (decide_eq_true hopt)
      simp [hne]
  | some g =>
      have hopt : g.opt = o := of_decide_eq_true (List.find?_some (p := fun g : Given => g.opt = o) hg)
      by_cases hpo : p = o
      · simp [hpo, hopt]
      · simp [hpo, hopt, Ne.symm hpo]

/-! ### Recording -/

/-- A list is recorded with what it has already; every other option is recorded once. -/
theorem add?_cases {x : Occurrence} (h : add? gs x = some gs') :
    (x.1.isList ∧ x.1 ∈ opts gs ∧ gs' = extended gs x.1 (x.2.toList.flatMap x.1.pieces)) ∨
      (x.1 ∉ opts gs ∧ gs' = gs ++ [⟨x.1, x.2.toList.flatMap x.1.pieces⟩]) := by
  obtain ⟨o, value?⟩ := x
  have hlist : o.isList = true →
      value?.toList.flatMap o.pieces = value?.elim [] (Text.splitOn ',') := by
    intro hlist
    cases value? <;> simp [Opt.pieces, hlist]
  have hsingle : ¬o.isList = true → value?.toList.flatMap o.pieces = value?.toList := by
    intro hnot
    cases value? <;> simp [Opt.pieces, hnot]
  rw [add?_eq] at h
  split_ifs at h with hl hgiven hrefused
  · refine .inl ⟨hl, hgiven, ?_⟩
    rw [hlist hl]
    exact (Option.some.inj h).symm
  · refine .inr ⟨hgiven, ?_⟩
    rw [hlist hl]
    exact (Option.some.inj h).symm
  · refine .inr ⟨fun ho => hrefused (.inl ho), ?_⟩
    rw [hsingle hl]
    exact (Option.some.inj h).symm

/-- What is recorded is what was recorded before and the option. -/
theorem mem_opts_add? {x : Occurrence} (h : add? gs x = some gs') :
    o ∈ opts gs' ↔ o ∈ opts gs ∨ x.1 = o := by
  rcases add?_cases h with ⟨-, hx, rfl⟩ | ⟨-, rfl⟩
  · rw [opts_extended]
    exact (or_iff_left_of_imp fun ho => ho ▸ hx).symm
  · rw [mem_opts_append]
    exact or_congr_right (List.mem_singleton.trans eq_comm)

/-- The values of what is recorded are added to those of the option, and those of others stay. -/
theorem valuesIn_add? {x : Occurrence} (h : add? gs x = some gs') :
    valuesIn gs' o = valuesIn gs o ++ (valuesOf o [x]).flatMap o.pieces := by
  have hvalues : (valuesOf o [x]).flatMap o.pieces =
      if x.1 = o then x.2.toList.flatMap x.1.pieces else [] := by
    unfold valuesOf
    by_cases hx : x.1 = o
    · subst hx
      cases hvalue : x.2 <;> simp [hvalue]
    · simp [hx]
  rw [hvalues]
  rcases add?_cases h with ⟨-, hx, rfl⟩ | ⟨hx, rfl⟩
  · exact valuesIn_extended hx _
  · split_ifs with hxo
    · subst hxo
      rw [valuesIn_append_right hx, valuesIn_of_not_mem hx, List.nil_append]
      simp [valuesIn, Scan.values]
    · have hnew : o ∉ opts [⟨x.1, x.2.toList.flatMap x.1.pieces⟩] :=
        fun ho => hxo (List.mem_singleton.mp ho).symm
      rw [valuesIn_append_left hnew, List.append_nil]

/-- What is recorded is what is given. -/
theorem mem_opts_addAll? (h : addAll? gs os = some gs') :
    o ∈ opts gs' ↔ o ∈ opts gs ∨ ∃ x ∈ os, x.1 = o := by
  induction os generalizing gs with
  | nil =>
      cases h
      simp
  | cons x os ih =>
      rw [addAll?_cons] at h
      obtain ⟨gs₁, hgs₁, h⟩ := Option.bind_eq_some_iff.mp h
      rw [ih h, mem_opts_add? hgs₁, List.exists_mem_cons_iff, or_assoc]

/-- All values that are given are recorded, in the order in which they are given. -/
theorem valuesIn_addAll? (h : addAll? gs os = some gs') :
    valuesIn gs' o = valuesIn gs o ++ (valuesOf o os).flatMap o.pieces := by
  induction os generalizing gs with
  | nil =>
      cases h
      exact (List.append_nil _).symm
  | cons x os ih =>
      rw [addAll?_cons] at h
      obtain ⟨gs₁, hgs₁, h⟩ := Option.bind_eq_some_iff.mp h
      rw [ih h, valuesIn_add? hgs₁, valuesOf_cons o x os, List.flatMap_append, List.append_assoc]

/-- An option that is no list has at most one value. -/
theorem length_valuesIn_addAll?_le (h : addAll? gs os = some gs') (hsingle : o.isList = false)
    (hbefore : (valuesIn gs o).length ≤ 1) : (valuesIn gs' o).length ≤ 1 := by
  induction os generalizing gs with
  | nil =>
      cases h
      exact hbefore
  | cons x os ih =>
      rw [addAll?_cons] at h
      obtain ⟨gs₁, hgs₁, h⟩ := Option.bind_eq_some_iff.mp h
      refine ih h ?_
      by_cases hx : x.1 = o
      -- Given again, the option would have been refused.
      · have hnew : o ∉ opts gs := by
          rcases add?_cases hgs₁ with ⟨hlist, -, -⟩ | ⟨hnew, -⟩
          · rw [hx, hsingle] at hlist
            cases hlist
          · rwa [hx] at hnew
        rw [valuesIn_add? hgs₁, valuesIn_of_not_mem hnew]
        subst hx
        cases hvalue : x.2 <;> simp [valuesOf, Opt.pieces, hvalue, hsingle]
      · rw [valuesIn_add? hgs₁]
        simpa [valuesOf, hx] using hbefore

/-- Nothing is wrong with a value that is recorded. -/
theorem valueProblem?_of_add? {x : Occurrence} (h : add? gs x = some gs') (hsingle : o.isList = false) :
    ∀ value ∈ valuesOf o [x], Scan.valueProblem? o value = none := by
  intro value hvalue
  obtain ⟨p, value?⟩ := x
  have hx : p = o ∧ value? = some value := by simpa [valuesOf] using hvalue
  obtain ⟨rfl, rfl⟩ := hx
  rw [add?_eq, if_neg (by simp [hsingle])] at h
  split_ifs at h with hrefused
  rw [not_or] at hrefused
  exact Option.not_isSome_iff_eq_none.mp hrefused.2

theorem valueProblem?_of_addAll? (h : addAll? gs os = some gs') (hsingle : o.isList = false) :
    ∀ value ∈ valuesOf o os, Scan.valueProblem? o value = none := by
  induction os generalizing gs with
  | nil => exact nofun
  | cons x os ih =>
      rw [addAll?_cons] at h
      obtain ⟨gs₁, hgs₁, h⟩ := Option.bind_eq_some_iff.mp h
      rw [valuesOf_cons]
      exact List.forall_mem_append.mpr ⟨valueProblem?_of_add? hgs₁ hsingle, ih h⟩

end SchemaFragments.CommandLine
