import Mathlib.Algebra.GroupWithZero.Nat
import SchemaFragments.Proofs.Table.Wrap

/-! # Widths that fit

While the columns of a table are given their widths, what is left for the open ones is never less than one
column of the terminal for each (`Sharing`).  Settling a width takes no more than an equal share, so that
this stays as it is; what is shared out at the end is what is left then.  Together the widths are no more
than there is, and each is positive (`columnWidths_spec`), if each column has a word to show. -/

namespace SchemaFragments.Table

variable {choose : Nat → Column → Option Nat} {columns : List (List Text)} {available share excess : Nat}
  {remaining count left : Nat} {c : Column} {cs : List Column}

/-! ### Arithmetic -/

theorem le_foldl_max {n : Nat} {ns : List Nat} (start : Nat) (h : n ≤ start ∨ n ∈ ns) :
    n ≤ ns.foldl max start := by
  induction ns generalizing start with
  | nil =>
      rcases h with h | h
      · exact h
      · cases h
  | cons m ns ih =>
      apply ih
      rcases h with h | h
      · exact .inl (Nat.le_trans h (Nat.le_max_left start m))
      · rcases List.mem_cons.mp h with rfl | h
        · exact .inl (Nat.le_max_right start n)
        · exact .inr h

/-- Who takes no more than an equal share leaves at least one for each of the others. -/
theorem le_sub_of_le_share {w : Nat} (hcount : 0 < count) (hw : 0 < w) (hshare : w ≤ remaining / count) :
    w ≤ remaining ∧ count - 1 ≤ remaining - w := by
  obtain ⟨n, rfl⟩ := Nat.exists_eq_succ_of_ne_zero (Nat.ne_of_gt hcount)
  have hall : w * (n + 1) ≤ remaining := (Nat.le_div_iff_mul_le hcount).mp hshare
  have hothers : n ≤ w * n := Nat.le_mul_of_pos_left n hw
  rw [Nat.mul_succ] at hall
  omega

/-! ### Columns with a word -/

/-- A column with a word to show, which has no space and takes a column of the terminal at least. -/
def HasWord (cells : List Text) : Prop := ∃ word ∈ cells, ' ' ∉ word ∧ 0 < Text.width word

theorem widest_pos (h : HasWord c.cells) : 0 < c.widest := by
  obtain ⟨word, hword, -, hpos⟩ := h
  exact Nat.lt_of_lt_of_le hpos (le_foldl_max 0 (.inr (List.mem_map_of_mem hword)))

/-- However narrow the column is, some line of it is not empty. -/
theorem longestLine_pos (h : HasWord c.cells) (width : Nat) : 0 < longestLine width c := by
  obtain ⟨word, hword, hspace, hpos⟩ := h
  have hflatten := flatten_cellLines hspace width
  -- If all lines were empty, so would be the word that they make up.
  obtain ⟨line, hline, hne⟩ : ∃ line ∈ cellLines width word, line ≠ [] := by
    by_contra hall
    have hnil : (cellLines width word).flatten = [] :=
      List.flatten_eq_nil_iff.mpr fun line hline => not_not.mp fun hne => hall ⟨line, hline, hne⟩
    exact ne_nil_of_width_pos hpos (hflatten.symm.trans hnil)
  have hbytes : 0 < line.foldr (fun c n => c.utf8Size + n) 0 := by
    cases line with
    | nil => exact absurd rfl hne
    | cons d line => exact Nat.lt_of_lt_of_le d.utf8Size_pos (Nat.le_add_right _ _)
  have hmem : line ∈ c.cells.flatMap (cellLines width) := List.mem_flatMap.mpr ⟨word, hword, hline⟩
  exact Nat.lt_of_lt_of_le hbytes (le_foldl_max 0 (.inr (List.mem_map_of_mem hmem)))

/-! ### Settling widths -/

/-- The widths that have been settled, together. -/
def settled (cs : List Column) : Nat := (cs.map fun c => c.width?.getD 0).sum

/-- The choice of a width is positive and no more than the share. -/
def Modest (choose : Nat → Column → Option Nat) : Prop :=
  ∀ (share : Nat) (c : Column), HasWord c.cells → ∀ w ∈ choose share c, 0 < w ∧ w ≤ share

theorem modest_needed : Modest needed? := by
  intro share c hc w hw
  unfold needed? at hw
  split_ifs at hw with hfits
  · cases hw
    exact ⟨widest_pos hc, hfits.2⟩
  · cases hw

theorem modest_longest : Modest longest? := by
  intro share c hc w hw
  unfold longest? at hw
  split_ifs at hw with hleaves
  · cases hw
    exact ⟨longestLine_pos hc share, by omega⟩
  · cases hw

/-- The columns of a table while widths are settled, with what is left of the terminal. -/
structure Sharing (columns : List (List Text)) (available left : Nat) (cs : List Column) : Prop where
  cells : cs.map (·.cells) = columns
  total : left + settled cs = available
  enough : openCount cs ≤ left
  positive : ∀ c ∈ cs, ∀ w ∈ c.width?, 0 < w

theorem settled_cons (c : Column) (cs : List Column) :
    settled (c :: cs) = c.width?.getD 0 + settled cs := rfl

theorem openCount_cons (c : Column) (cs : List Column) :
    openCount (c :: cs) = openCount cs + if c.isOpen then 1 else 0 := List.countP_cons

/-- A pass over the columns settles the first or leaves it, and goes on with what is left then. -/
theorem settlePass_cons (choose : Nat → Column → Option Nat) (remaining count : Nat) (c : Column)
    (cs : List Column) :
    (∃ w ∈ choose (remaining / count) c, c.isOpen ∧
      settlePass choose remaining count (c :: cs) =
        ((settlePass choose (remaining - w) (count - 1) cs).1,
          { c with width? := some w } :: (settlePass choose (remaining - w) (count - 1) cs).2)) ∨
    settlePass choose remaining count (c :: cs) =
      ((settlePass choose remaining count cs).1, c :: (settlePass choose remaining count cs).2) := by
  by_cases hopen : c.isOpen
  · cases hw : choose (remaining / count) c with
    | none => exact .inr (by simp only [settlePass, if_pos hopen, hw])
    | some w => exact .inl ⟨w, rfl, hopen, by simp only [settlePass, if_pos hopen, hw]⟩
  · exact .inr (by simp only [settlePass, if_neg hopen])

theorem settlePass_cells (choose : Nat → Column → Option Nat) (remaining count : Nat) (cs : List Column) :
    (settlePass choose remaining count cs).2.map (·.cells) = cs.map (·.cells) := by
  induction cs generalizing remaining count with
  | nil => rfl
  | cons c cs ih =>
      rcases settlePass_cons choose remaining count c cs with ⟨w, -, -, h⟩ | h
      · rw [h, List.map_cons, List.map_cons, ih]
      · rw [h, List.map_cons, List.map_cons, ih]

theorem settlePass_positive (hchoose : Modest choose) (hcells : ∀ c ∈ cs, HasWord c.cells)
    (hpos : ∀ c ∈ cs, ∀ w ∈ c.width?, 0 < w) (remaining count : Nat) :
    ∀ c ∈ (settlePass choose remaining count cs).2, ∀ w ∈ c.width?, 0 < w := by
  induction cs generalizing remaining count with
  | nil => exact fun c hc => nomatch hc
  | cons c cs ih =>
      obtain ⟨hc, hcs⟩ := List.forall_mem_cons.mp hcells
      obtain ⟨hposc, hposcs⟩ := List.forall_mem_cons.mp hpos
      rcases settlePass_cons choose remaining count c cs with ⟨w, hw, -, h⟩ | h
      · rw [h]
        refine List.forall_mem_cons.mpr ⟨?_, ih hcs hposcs _ _⟩
        rintro _ ⟨⟩
        exact (hchoose _ c hc w hw).1
      · rw [h]
        exact List.forall_mem_cons.mpr ⟨hposc, ih hcs hposcs _ _⟩

/-- A pass takes from what is left as much as it settles, and it leaves one column of the terminal for each
column that is open then; `count` may be more than the columns to come, which are the open ones that the
pass has gone over already. -/
theorem settlePass_total (hchoose : Modest choose) (hcells : ∀ c ∈ cs, HasWord c.cells)
    (hcount : openCount cs ≤ count) (henough : count ≤ remaining) :
    (settlePass choose remaining count cs).1 + settled (settlePass choose remaining count cs).2 =
        remaining + settled cs ∧
      count + openCount (settlePass choose remaining count cs).2 ≤
        (settlePass choose remaining count cs).1 + openCount cs := by
  induction cs generalizing remaining count with
  | nil => exact ⟨rfl, Nat.add_le_add_right henough _⟩
  | cons c cs ih =>
      obtain ⟨hc, hcs⟩ := List.forall_mem_cons.mp hcells
      rw [openCount_cons] at hcount
      rcases settlePass_cons choose remaining count c cs with ⟨w, hw, hopen, h⟩ | h
      · rw [if_pos hopen] at hcount
        obtain ⟨hpos, hshare⟩ := hchoose _ c hc w hw
        -- The share was one of `count`, so the other columns are left one each.
        have hleft := le_sub_of_le_share (by omega) hpos hshare
        have hrest := ih hcs (by omega : openCount cs ≤ count - 1) hleft.2
        have hnone : c.width? = none := Option.isNone_iff_eq_none.mp hopen
        rw [h, settled_cons, settled_cons, openCount_cons, openCount_cons, if_pos hopen, hnone]
        simp only [Option.getD_some, Option.getD_none, Column.isOpen, Option.isNone_some,
          Bool.false_eq_true, if_false]
        omega
      · have hrest := ih hcs (by omega : openCount cs ≤ count) henough
        rw [h, settled_cons, settled_cons, openCount_cons, openCount_cons]
        omega

theorem sharing_settlePass (hchoose : Modest choose) (hcolumns : ∀ cells ∈ columns, HasWord cells)
    (h : Sharing columns available left cs) :
    Sharing columns available (settlePass choose left (openCount cs) cs).1
      (settlePass choose left (openCount cs) cs).2 := by
  have hcells : ∀ c ∈ cs, HasWord c.cells := fun c hc =>
    hcolumns c.cells (h.cells ▸ List.mem_map_of_mem hc)
  have htotal := settlePass_total hchoose hcells (Nat.le_refl _) h.enough
  exact
    { cells := (settlePass_cells choose left (openCount cs) cs).trans h.cells
      total := htotal.1.trans h.total
      enough := by omega
      positive := settlePass_positive hchoose hcells h.positive left (openCount cs) }

theorem sharing_settle (hchoose : Modest choose) (hcolumns : ∀ cells ∈ columns, HasWord cells)
    (h : Sharing columns available left cs) :
    Sharing columns available (settle choose left cs).1 (settle choose left cs).2 := by
  unfold settle
  induction cs.length with
  | zero => exact h
  | succ n ih => exact sharing_settlePass hchoose hcolumns ih

/-! ### Sharing out -/

theorem length_shareOut (share excess : Nat) (cs : List Column) :
    (shareOut share excess cs).length = cs.length := by
  induction cs generalizing excess with
  | nil => rfl
  | cons c cs ih =>
      unfold shareOut
      cases c.width? with
      | none => exact congrArg (· + 1) (ih (excess - 1))
      | some w => exact congrArg (· + 1) (ih excess)

theorem pos_of_mem_shareOut (h : ∀ c ∈ cs, ∀ w ∈ c.width?, 0 < w) (share excess : Nat) :
    ∀ w ∈ shareOut share excess cs, 0 < w := by
  induction cs generalizing excess with
  | nil => exact fun w hw => nomatch hw
  | cons c cs ih =>
      obtain ⟨hc, hcs⟩ := List.forall_mem_cons.mp h
      unfold shareOut
      cases hw : c.width? with
      | none => exact List.forall_mem_cons.mpr ⟨Nat.le_max_left 1 _, ih hcs (excess - 1)⟩
      | some w => exact List.forall_mem_cons.mpr ⟨hc w hw, ih hcs excess⟩

theorem sum_shareOut_le (share excess : Nat) (cs : List Column) :
    (shareOut share excess cs).sum ≤
      settled cs + openCount cs * max 1 share + min excess (openCount cs) := by
  induction cs generalizing excess with
  | nil => exact Nat.zero_le _
  | cons c cs ih =>
      unfold shareOut
      rw [settled_cons, openCount_cons]
      cases hw : c.width? with
      | none =>
          have hrest := ih (excess - 1)
          have hopen : c.isOpen = true := Option.isNone_iff_eq_none.mpr hw
          simp only [List.sum_cons, hopen, if_true, Option.getD_none, Nat.add_one_mul]
          split_ifs <;> omega
      | some w =>
          have hrest := ih excess
          have hopen : c.isOpen = false := by rw [Column.isOpen, hw, Option.isNone_some]
          simp only [List.sum_cons, hopen, Bool.false_eq_true, if_false, Option.getD_some, Nat.add_zero]
          omega

/-- What is left is shared out, and no more. -/
theorem mul_share_le {n : Nat} (h : n ≤ left) :
    n * max 1 (left / n) + min (left % n) n ≤ left := by
  rcases Nat.eq_zero_or_pos n with rfl | hpos
  · rw [Nat.zero_mul, Nat.min_zero]
    exact Nat.zero_le left
  · have hshare : 0 < left / n := Nat.div_pos h hpos
    rw [Nat.max_eq_right hshare, Nat.min_eq_left (Nat.le_of_lt (Nat.mod_lt left hpos))]
    exact Nat.le_of_eq (Nat.div_add_mod left n)

/-! ### Widths -/

/-- Widths for some columns that have `available` columns of the terminal together. -/
structure Allotment (available columns : Nat) (widths : List Nat) : Prop where
  length : widths.length = columns
  pos : ∀ w ∈ widths, 0 < w
  sum_le : widths.sum ≤ available

theorem sharing_start (havailable : columns.length ≤ available) :
    Sharing columns available available (columns.map ({ cells := · })) where
  cells := by
    rw [List.map_map]
    exact List.map_id columns
  total := by
    have hzero : settled (columns.map ({ cells := · })) = 0 := by
      induction columns with
      | nil => rfl
      | cons cells columns ih =>
          rw [List.map_cons, settled_cons, ih (Nat.le_of_succ_le havailable)]
          rfl
    rw [hzero, Nat.add_zero]
  enough := by
    refine Nat.le_trans List.countP_le_length ?_
    rwa [List.length_map]
  positive := by
    intro c hc w hw
    obtain ⟨cells, -, rfl⟩ := List.mem_map.mp hc
    cases hw

theorem allotment_shareOut (h : Sharing columns available left cs) :
    Allotment available columns.length (shareOut (left / openCount cs) (left % openCount cs) cs) where
  length := by rw [length_shareOut, ← h.cells, List.length_map]
  pos := pos_of_mem_shareOut h.positive _ _
  sum_le := by
    have hsum := sum_shareOut_le (left / openCount cs) (left % openCount cs) cs
    have hrest := mul_share_le h.enough
    have htotal := h.total
    omega

/-- Every column gets a width, and they fit, if there is one column of the terminal for each. -/
theorem columnWidths_spec (hcolumns : ∀ cells ∈ columns, HasWord cells)
    (havailable : columns.length ≤ available) :
    Allotment available columns.length (columnWidths available columns) := by
  have hneeded := sharing_settle modest_needed hcolumns (sharing_start havailable)
  exact allotment_shareOut (sharing_settle modest_longest hcolumns hneeded)

end SchemaFragments.Table
