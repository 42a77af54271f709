import SchemaFragments.Listing
import SchemaFragments.Proofs.Table.Layout

/-! # The table of a listing

The names of entities and operations are words, and the other texts of the table are known.  So all lines
of the table are equally long, on any terminal that is wide enough for the heads of four columns, and each
row shows its three names from the first letter to the last, over as many lines as it takes
(`table_legible`). -/

namespace SchemaFragments.Listed

open Table

variable {l : Listed} {ls : List Listed} {w : Nat}

/-- The names in a row. -/
def names (l : Listed) : List Text := [l.entity, l.mutationName, l.queryName]

/-- The names in a row consist of letters and digits of ASCII and underscores. -/
def HasWordNames (l : Listed) : Prop := ∀ name ∈ l.names, ∀ c ∈ name, c.isAlphanum ∨ c = '_'

-- As a Boolean over the names: a bounded quantifier may be decided over all characters there are.
instance (l : Listed) : Decidable l.HasWordNames :=
  decidable_of_iff (l.names.all fun name => name.all fun c => c.isAlphanum || c = '_')
    (by simp [HasWordNames])

/-- The lines that are printed for a row. -/
def block (ls : List Listed) (w : Nat) (l : Listed) : List Text :=
  rowLines none ((table ls).widths w) l.cells

/-- Some lines of a table show three texts in the columns of the names; `top` is a line of bars. -/
def Shows (top : Text) (lines : List Text) (texts : List Text) : Prop :=
  [0, 1, 2].map (shownIn top · lines) = texts

theorem isNarrow_of_mem_name (h : l.HasWordNames) {name : Text} (hname : name ∈ l.names) :
    ∀ c ∈ name, isNarrow c ∧ c ≠ ' ' := by
  intro c hc
  rcases h name hname c hc with hc | rfl
  · refine ⟨isNarrow_of_isAlphanum hc, ?_⟩
    rintro rfl
    cases hc
  · decide

theorem isNarrow_of_mem_summary (l : Listed) : ∀ c ∈ l.summary, isNarrow c := by
  unfold summary
  split <;> exact List.all_eq_true.mp rfl

theorem isNarrow_of_mem_cells (h : l.HasWordNames) : ∀ cell ∈ l.cells, ∀ c ∈ cell.text, isNarrow c := by
  intro cell hcell c hc
  unfold cells nameCell at hcell
  simp only [List.mem_cons, List.not_mem_nil, or_false] at hcell
  rcases hcell with rfl | rfl | rfl | rfl
  · exact (isNarrow_of_mem_name h (by simp [names]) c hc).1
  · exact (isNarrow_of_mem_name h (by simp [names]) c hc).1
  · exact (isNarrow_of_mem_name h (by simp [names]) c hc).1
  · exact isNarrow_of_mem_summary l c hc

theorem plain_table (h : ∀ l ∈ ls, l.HasWordNames) : (table ls).Plain where
  words := by
    show ∀ c ∈ header, c.text ≠ [] ∧ ' ' ∉ c.text
    decide
  rows := by
    intro row hrow
    obtain ⟨l, -, rfl⟩ := List.mem_map.mp hrow
    rfl
  narrow := by
    refine List.forall_mem_cons.mpr ⟨?_, ?_⟩
    · have hheader : ∀ c ∈ header, c.text.all isNarrow := by decide
      exact fun c hc => List.all_eq_true.mp (hheader c hc)
    · intro row hrow
      obtain ⟨l, hl, rfl⟩ := List.mem_map.mp hrow
      exact isNarrow_of_mem_cells (h l hl)

/-- A row of four cells shows the first three under the first three bars. -/
theorem shows_rowLines (hplain : (table ls).Plain) (hw : 15 ≤ w) {a b c d : Cell}
    (hrow : [a, b, c, d] ∈ (table ls).header :: (table ls).rows)
    (hspace : ∀ cell ∈ [a, b, c], ' ' ∉ cell.text) :
    Shows (joinCells (bars ((table ls).widths w))) (rowLines none ((table ls).widths w) [a, b, c, d])
      [a.text, b.text, c.text] := by
  have hws := hplain.allotment hw
  have hnarrow := hplain.narrow _ hrow
  have hshown : ∀ (j : Nat) (cell : Cell), [a, b, c, d][j]? = some cell → cell ∈ [a, b, c] →
      shownIn (joinCells (bars ((table ls).widths w))) j
        (rowLines none ((table ls).widths w) [a, b, c, d]) = cell.text := by
    intro j cell hj hcell
    refine shownIn_rowLines hws.pos hnarrow hws.length hj fun ch hch => ?_
    refine isBlank_of_isNarrow (hnarrow cell (List.mem_of_getElem? hj) ch hch) ?_
    rintro rfl
    exact hspace cell hcell hch
  unfold Shows
  rw [List.map_cons, List.map_cons, List.map_cons, List.map_nil, hshown 0 a rfl (by simp),
    hshown 1 b rfl (by simp), hshown 2 c rfl (by simp)]

theorem lines_table (ls : List Listed) (w : Nat) :
    (table ls).lines none w =
      joinCells (bars ((table ls).widths w)) ::
        (rowLines none ((table ls).widths w) header ++ ['─'].intercalate (bars ((table ls).widths w)) ::
          (ls.flatMap (block ls w) ++ [joinCells (bars ((table ls).widths w))])) := by
  have hrows : (table ls).rows.flatMap (rowLines none ((table ls).widths w)) = ls.flatMap (block ls w) :=
    List.flatMap_map ..
  rw [lines_none_eq, hrows]
  rfl

/-- The table of a listing is rectangular, fits the terminal, and shows every name. -/
theorem table_legible (h : ∀ l ∈ ls, l.HasWordNames) (hw : 15 ≤ w) :
    Text.splitOn '\n' ((table ls).render none w) = (table ls).lines none w ++ [[]] ∧
      (∃ n ≤ w, ∀ line ∈ (table ls).lines none w, Text.width line = n) ∧
      ∃ (top rule : Text) (titles : List Text),
        (table ls).lines none w = top :: (titles ++ rule :: (ls.flatMap (block ls w) ++ [top])) ∧
        Shows top titles ["FRAGMENT", "MUTATION", "QUERY"] ∧
        ∀ l ∈ ls, Shows top (block ls w l) l.names := by
  have hplain := plain_table h
  have hlines := hplain.ofLength_of_mem_lines hw
  have hprinted : Text.splitOn '\n' ((table ls).render none w) = (table ls).lines none w ++ [[]] :=
    splitOn_render fun line hline hmem => absurd ((hlines line hline).1 '\n' hmem) (by decide)
  have hfits : ((table ls).widths w).sum + margin (table ls).header.length ≤ w := by
    have hsum := (hplain.allotment hw).sum_le
    have hmargin : margin (table ls).header.length = 11 := rfl
    omega
  have htitles : Shows (joinCells (bars ((table ls).widths w))) (rowLines none ((table ls).widths w) header)
      ["FRAGMENT", "MUTATION", "QUERY"] :=
    shows_rowLines hplain hw List.mem_cons_self (by decide)
  have hrows : ∀ l ∈ ls, Shows (joinCells (bars ((table ls).widths w))) (block ls w l) l.names := by
    intro l hl
    have hrow : l.cells ∈ (table ls).rows := List.mem_map_of_mem hl
    refine shows_rowLines hplain hw (List.mem_cons_of_mem _ hrow) fun cell hcell hmem => ?_
    have hname : cell.text ∈ l.names := List.mem_map_of_mem (f := Cell.text) hcell
    exact (isNarrow_of_mem_name (h l hl) hname ' ' hmem).2 rfl
  exact ⟨hprinted, ⟨_, hfits, fun line hline => (hlines line hline).width⟩, _, _, _, lines_table ls w,
    htitles, hrows⟩

/-- A row for the narrowest terminal, where each column is one character wide. -/
def orderRow : Listed := ⟨"Order_2", "SaveOrder_2", true, "order_2", false⟩

theorem table_legible_narrowest :
    (∃ n ≤ 15, ∀ line ∈ (table [orderRow]).lines none 15, Text.width line = n) ∧
      ∃ (top rule : Text) (titles : List Text),
        (table [orderRow]).lines none 15 =
          top :: (titles ++ rule :: ([orderRow].flatMap (block [orderRow] 15) ++ [top])) ∧
        Shows top titles ["FRAGMENT", "MUTATION", "QUERY"] ∧
        ∀ l ∈ [orderRow], Shows top (block [orderRow] 15 l) l.names :=
  (table_legible (by decide) (Nat.le_refl 15)).2

end SchemaFragments.Listed
