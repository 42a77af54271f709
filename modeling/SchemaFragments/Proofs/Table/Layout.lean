import SchemaFragments.Proofs.Table.Widths
import SchemaFragments.Table.Basic

/-! # The layout of a table

The cells of a line are one space apart, and the bars of the first line of a table tell where they are
(`pieceUnder`).  A cell takes the width of its column and two blanks, whatever line of it is shown, so that
all lines of a table are equally long (`Plain.ofLength_of_mem_lines`).  What the lines of a row show under a bar is,
without the blanks around it and put together, the cell again (`shownIn_rowLines`). -/

namespace SchemaFragments

namespace Table

variable {w terminal : Nat} {ws : List Nat} {line : Text} {cells : List Text} {c : Cell}
  {row : List Cell} {t : Table}

/-! ### Reading a line -/

/-- The piece of a line under the bar of a number; the bars are one space apart. -/
def pieceUnder : List Text → Nat → Text → Text
  | [], _, _ => []
  | bar :: _, 0, line => line.take bar.length
  | bar :: bars, j + 1, line => pieceUnder bars j (line.drop (bar.length + 1))

/-- What some lines show in a column, without the blanks around it.  `top` is a line of bars. -/
def shownIn (top : Text) (j : Nat) (lines : List Text) : Text :=
  lines.flatMap fun line => Text.trim (pieceUnder (Text.splitOn ' ' top) j line)

theorem joinCells_cons_cons (a b : Text) (cells : List Text) :
    joinCells (a :: b :: cells) = a ++ ' ' :: joinCells (b :: cells) := by
  unfold joinCells
  rw [List.intercalate_cons_cons, List.append_assoc, List.singleton_append]

theorem joinCells_singleton (a : Text) : joinCells [a] = a := List.intercalate_singleton

/-- Under the bars are the cells. -/
theorem pieceUnder_joinCells {bars : List Text} (h : bars.map List.length = cells.map List.length)
    {j : Nat} {cell : Text} (hj : cells[j]? = some cell) :
    pieceUnder bars j (joinCells cells) = cell := by
  induction cells generalizing bars j with
  | nil => cases hj
  | cons a cells ih =>
      cases bars with
      | nil => cases h
      | cons bar bars =>
          obtain ⟨hbar, hbars⟩ := List.cons_eq_cons.mp h
          cases j with
          | zero =>
              cases hj
              unfold pieceUnder
              rw [hbar]
              cases cells with
              | nil => rw [joinCells_singleton, List.take_length]
              | cons b cells => rw [joinCells_cons_cons, List.take_left]
          | succ j =>
              unfold pieceUnder
              rw [hbar]
              cases cells with
              | nil => cases hj
              | cons b cells =>
                  rw [joinCells_cons_cons, List.drop_append, List.drop_of_length_le (Nat.le_succ _),
                    Nat.add_sub_cancel_left]
                  exact ih hbars hj

/-! ### Lengths -/

/-- A line of narrow characters of a given length. -/
def OfLength (n : Nat) (line : Text) : Prop := (∀ c ∈ line, isNarrow c) ∧ line.length = n

theorem OfLength.width {n : Nat} (h : OfLength n line) : Text.width line = n :=
  (width_eq_length h.1).trans h.2

theorem ofLength_repeated {ch : Char} (h : isNarrow ch) (n : Nat) : OfLength n (repeated ch n) :=
  ⟨fun _ hd => (List.eq_of_mem_replicate hd).symm ▸ h, List.length_replicate⟩

theorem OfLength.append {m n : Nat} {a b : Text} (ha : OfLength m a) (hb : OfLength n b) :
    OfLength (m + n) (a ++ b) := by
  refine ⟨fun c hc => ?_, ?_⟩
  · rcases List.mem_append.mp hc with hc | hc
    · exact ha.1 c hc
    · exact hb.1 c hc
  · rw [List.length_append, ha.2, hb.2]

/-- Cells with the blanks around them, one character apart. -/
theorem ofLength_intercalate {sep : Char} (hsep : isNarrow sep)
    (h : List.Forall₂ (fun w cell => OfLength (w + 2) cell) ws cells) :
    OfLength (ws.sum + margin ws.length) ([sep].intercalate cells) := by
  induction h with
  | nil => exact ofLength_repeated hsep 0
  | @cons w cell ws cells hcell hcells ih =>
      cases hcells with
      | nil =>
          rw [List.intercalate_singleton]
          exact hcell
      | @cons v b ws cells hb hcells =>
          rw [List.intercalate_cons_cons]
          have hlength : (w :: v :: ws).sum + margin (w :: v :: ws).length =
              w + 2 + 1 + ((v :: ws).sum + margin (v :: ws).length) := by
            unfold margin
            simp only [List.sum_cons, List.length_cons]
            omega
          rw [hlength]
          exact (hcell.append (ofLength_repeated hsep 1)).append ih

/-! ### Cells -/

theorem ofLength_pad (c : Cell) (h : Fitting w line) : OfLength (w + 2) (c.pad w line) := by
  have hline : OfLength line.length line := ⟨h.1, rfl⟩
  have hblank : OfLength 1 [' '] := ofLength_repeated (by decide) 1
  have hblanks : OfLength (w - Text.width line) (repeated ' ' (w - Text.width line)) :=
    ofLength_repeated (by decide) _
  have hwidth := width_eq_length h.1
  have hle := h.2
  unfold Cell.pad
  simp only
  split_ifs
  · have hall := ((hblank.append hblanks).append hline).append hblank
    rwa [show 1 + (w - Text.width line) + line.length + 1 = w + 2 by omega] at hall
  · have hall := ((hblank.append hline).append hblanks).append hblank
    rwa [show 1 + line.length + (w - Text.width line) + 1 = w + 2 by omega] at hall

theorem isBlank_of_mem_repeated {n : Nat} : ∀ ch ∈ repeated ' ' n, isBlank ch := fun ch hch => by
  rw [List.eq_of_mem_replicate hch]
  decide

theorem trim_blanks (n : Nat) : Text.trim (repeated ' ' n) = [] := by
  have hnil : Text.Trimmed [] := ⟨fun _ h => (nomatch h), fun _ h => nomatch h⟩
  have htrim := hnil.trim_append (isBlank_of_mem_repeated (n := n)) (v := []) fun _ h => nomatch h
  rwa [List.append_nil, List.append_nil] at htrim

/-- The blanks around a line are gone when it is trimmed, on whichever side they are. -/
theorem trim_pad (w : Nat) (c : Cell) (h : Text.Trimmed line) : Text.trim (c.pad w line) = line := by
  have hblank : ∀ ch ∈ [' '], isBlank ch := isBlank_of_mem_repeated (n := 1)
  have hblanks := isBlank_of_mem_repeated (n := w - Text.width line)
  unfold Cell.pad
  simp only
  split_ifs
  · exact h.trim_append (List.forall_mem_append.mpr ⟨hblank, hblanks⟩) hblank
  · rw [List.append_assoc]
    exact h.trim_append hblank (List.forall_mem_append.mpr ⟨hblanks, hblank⟩)

/-! ### Rows -/

/-- What a cell shows on a line of its row, with the blanks around it. -/
def cellAt (i w : Nat) (c : Cell) : Text := (c.lines none w)[i]?.getD (repeated ' ' (w + 2))

/-- How many lines a row has. -/
def height (ws : List Nat) (row : List Cell) : Nat :=
  ((List.zipWith (fun w c => (w, c.lines none w)) ws row).map fun (_, ls) => ls.length).foldl max 0

theorem rowLines_eq (ws : List Nat) (row : List Cell) :
    rowLines none ws row =
      (List.range (height ws row)).map fun i => joinCells (List.zipWith (cellAt i) ws row) := by
  unfold rowLines height
  simp only [List.map_zipWith]
  rfl

theorem lines_none (w : Nat) (c : Cell) : c.lines none w = (cellLines w c.text).map (c.pad w) := rfl

theorem length_lines_le_height {j : Nat} (hw : ws[j]? = some w) (hc : row[j]? = some c) :
    (c.lines none w).length ≤ height ws row := by
  have hpair : (List.zipWith (fun w c => (w, c.lines none w)) ws row)[j]? = some (w, c.lines none w) := by
    rw [List.getElem?_zipWith, hw, hc]
  exact le_foldl_max 0 (.inr (List.mem_map_of_mem (List.mem_of_getElem? hpair)))

theorem ofLength_cellAt (hw : 0 < w) (hc : ∀ ch ∈ c.text, isNarrow ch) (i : Nat) :
    OfLength (w + 2) (cellAt i w c) := by
  unfold cellAt
  cases hline : (c.lines none w)[i]? with
  | none => exact ofLength_repeated (by decide) (w + 2)
  | some line =>
      obtain ⟨l, hl, rfl⟩ := List.mem_map.mp (List.mem_of_getElem? hline)
      exact ofLength_pad c (fitting_of_mem_cellLines hw hc l hl)

theorem forall₂_cellAt (hws : ∀ w ∈ ws, 0 < w) (hrow : ∀ c ∈ row, ∀ ch ∈ c.text, isNarrow ch)
    (hlength : ws.length = row.length) (i : Nat) :
    List.Forall₂ (fun w cell => OfLength (w + 2) cell) ws (List.zipWith (cellAt i) ws row) := by
  induction ws generalizing row with
  | nil => exact .nil
  | cons w ws ih =>
      cases row with
      | nil => cases hlength
      | cons c row =>
          obtain ⟨hw, hws⟩ := List.forall_mem_cons.mp hws
          obtain ⟨hc, hrow⟩ := List.forall_mem_cons.mp hrow
          exact .cons (ofLength_cellAt hw hc i) (ih hws hrow (Nat.succ.inj hlength))

/-- Each entry of a list, and nothing behind them. -/
theorem flatMap_range_getD {α : Type} (f : α → Text) {d : α} (hd : f d = []) {ls : List α} {n : Nat}
    (hn : ls.length ≤ n) : ((List.range n).flatMap fun i => f (ls[i]?.getD d)) = ls.flatMap f := by
  induction ls generalizing n with
  | nil =>
      rw [List.flatMap_nil, List.flatMap_eq_nil_iff]
      exact fun _ _ => hd
  | cons l ls ih =>
      obtain ⟨m, rfl⟩ := Nat.exists_eq_add_of_le' (Nat.lt_of_lt_of_le (Nat.succ_pos _) hn)
      rw [List.range_succ_eq_map, List.flatMap_cons, List.flatMap_map, List.flatMap_cons,
        ← ih (Nat.le_of_succ_le_succ hn)]
      rfl

/-! ### Bars -/

/-- The bars above the columns of a table. -/
def bars (ws : List Nat) : List Text := ws.map fun w => repeated '─' (w + 2)

theorem forall₂_bars (ws : List Nat) :
    List.Forall₂ (fun w bar => OfLength (w + 2) bar) ws (bars ws) := by
  induction ws with
  | nil => exact .nil
  | cons w ws ih => exact .cons (ofLength_repeated (by decide) (w + 2)) ih

/-- The bars are found again between the blanks of a line of them. -/
theorem splitOn_joinCells_bars (h : ws ≠ []) : Text.splitOn ' ' (joinCells (bars ws)) = bars ws := by
  have hbar : ∀ n : Nat, Text.splitOn ' ' (repeated '─' n) = [repeated '─' n] := fun n =>
    Text.splitOn_of_not_mem fun hmem => absurd (List.eq_of_mem_replicate hmem) (by decide)
  unfold joinCells bars
  rw [Text.splitOn_intercalate ' ' (fun hnil => h (List.map_eq_nil_iff.mp hnil)), List.flatMap_map,
    List.map_eq_flatMap]
  simp only [hbar]

theorem map_length_eq (h : List.Forall₂ (fun w cell => OfLength (w + 2) cell) ws cells) :
    cells.map List.length = ws.map (· + 2) := by
  induction h with
  | nil => rfl
  | cons hcell hcells ih => rw [List.map_cons, List.map_cons, hcell.2, ih]

/-- A row shows its cells under the bars, none of them cut off. -/
theorem shownIn_rowLines (hws : ∀ w ∈ ws, 0 < w) (hrow : ∀ c ∈ row, ∀ ch ∈ c.text, isNarrow ch)
    (hlength : ws.length = row.length) {j : Nat} (hj : row[j]? = some c)
    (hblank : ∀ ch ∈ c.text, isBlank ch = false) :
    shownIn (joinCells (bars ws)) j (rowLines none ws row) = c.text := by
  obtain ⟨w, hw⟩ : ∃ w, ws[j]? = some w :=
    ⟨_, List.getElem?_eq_getElem (hlength ▸ (List.getElem?_eq_some_iff.mp hj).1)⟩
  have hne : ws ≠ [] := fun hnil => by rw [hnil] at hw; cases hw
  have hpiece : ∀ i,
      pieceUnder (bars ws) j (joinCells (List.zipWith (cellAt i) ws row)) = cellAt i w c := by
    intro i
    apply pieceUnder_joinCells
    · rw [map_length_eq (forall₂_bars ws), map_length_eq (forall₂_cellAt hws hrow hlength i)]
    · rw [List.getElem?_zipWith, hw, hj]
  have hspace : ' ' ∉ c.text := fun hmem => absurd (hblank ' ' hmem) (by decide)
  have hline : ∀ l ∈ cellLines w c.text, Text.trim (c.pad w l) = l := by
    intro l hl
    have hpart : ∀ ch ∈ l, isBlank ch = false := fun ch hch =>
      hblank ch (flatten_cellLines hspace w ▸ List.mem_flatten_of_mem hl hch)
    exact trim_pad w c
      ⟨fun ch hch => hpart ch (List.mem_of_head? hch), fun ch hch => hpart ch (List.mem_of_getLast? hch)⟩
  have hlines : (c.lines none w).length ≤ height ws row := length_lines_le_height hw hj
  unfold shownIn
  rw [splitOn_joinCells_bars hne, rowLines_eq, List.flatMap_map]
  simp only [hpiece]
  unfold cellAt
  -- On the lines of the row that it does not need, the cell shows blanks.
  rw [flatMap_range_getD Text.trim (trim_blanks (w + 2)) hlines, lines_none, List.flatMap_map,
    List.flatMap_congr hline, List.flatMap_id', flatten_cellLines hspace]

/-! ### Tables -/

/-- A table of narrow texts, with words for a header and rows that are as long as that. -/
structure Plain (t : Table) : Prop where
  words : ∀ c ∈ t.header, c.text ≠ [] ∧ ' ' ∉ c.text
  rows : ∀ row ∈ t.rows, row.length = t.header.length
  narrow : ∀ row ∈ t.header :: t.rows, ∀ c ∈ row, ∀ ch ∈ c.text, isNarrow ch

/-- The widths of the columns. -/
theorem Plain.allotment (h : t.Plain) (hterminal : t.header.length + margin t.header.length ≤ terminal) :
    Allotment (terminal - margin t.header.length) t.header.length (t.widths terminal) := by
  have hcount : t.columns.length = t.header.length := by
    unfold columns
    rw [List.length_map, List.length_range]
  have hwords : ∀ cells ∈ t.columns, HasWord cells := by
    intro cells hcells
    obtain ⟨i, hi, rfl⟩ := List.mem_map.mp hcells
    have hlt : i < t.header.length := List.mem_range.mp hi
    have hmem : t.header[i] ∈ t.header := List.getElem_mem hlt
    obtain ⟨hne, hspace⟩ := h.words _ hmem
    refine ⟨t.header[i].text, ?_, hspace, ?_⟩
    · refine List.mem_filterMap.mpr ⟨t.header, List.mem_cons_self, ?_⟩
      rw [List.getElem?_eq_getElem hlt]
      rfl
    · rw [width_eq_length (h.narrow t.header List.mem_cons_self _ hmem)]
      exact List.length_pos_iff.mpr hne
  have hroom : t.columns.length ≤ terminal - margin t.header.length := by omega
  have hspec := columnWidths_spec hwords hroom
  rwa [hcount] at hspec

theorem lines_none_eq (t : Table) (terminal : Nat) :
    t.lines none terminal =
      joinCells (bars (t.widths terminal)) :: (rowLines none (t.widths terminal) t.header ++
        ['─'].intercalate (bars (t.widths terminal)) ::
          (t.rows.flatMap (rowLines none (t.widths terminal)) ++
            [joinCells (bars (t.widths terminal))])) := by
  unfold lines
  simp only [List.append_assoc, List.singleton_append]
  rfl

/-- All lines of a table are equally long, and the terminal is wide enough for them. -/
theorem Plain.ofLength_of_mem_lines (h : t.Plain)
    (hterminal : t.header.length + margin t.header.length ≤ terminal) :
    ∀ line ∈ t.lines none terminal,
      OfLength ((t.widths terminal).sum + margin t.header.length) line := by
  have hws := h.allotment hterminal
  have hbars := forall₂_bars (t.widths terminal)
  have hrow : ∀ row ∈ t.header :: t.rows, ∀ line ∈ rowLines none (t.widths terminal) row,
      OfLength ((t.widths terminal).sum + margin t.header.length) line := by
    intro row hmem line hline
    have hlength : (t.widths terminal).length = row.length := by
      rcases List.mem_cons.mp hmem with rfl | hmem
      · exact hws.length
      · exact hws.length.trans (h.rows row hmem).symm
    rw [rowLines_eq] at hline
    obtain ⟨i, -, rfl⟩ := List.mem_map.mp hline
    rw [← hws.length]
    exact ofLength_intercalate (by decide) (forall₂_cellAt hws.pos (h.narrow row hmem) hlength i)
  have htop : OfLength ((t.widths terminal).sum + margin t.header.length)
      (joinCells (bars (t.widths terminal))) := by
    rw [← hws.length]
    exact ofLength_intercalate (by decide) hbars
  have hrule : OfLength ((t.widths terminal).sum + margin t.header.length)
      (['─'].intercalate (bars (t.widths terminal))) := by
    rw [← hws.length]
    exact ofLength_intercalate (by decide) hbars
  rw [lines_none_eq]
  refine List.forall_mem_cons.mpr ⟨htop, List.forall_mem_append.mpr ⟨hrow t.header List.mem_cons_self,
    List.forall_mem_cons.mpr ⟨hrule, List.forall_mem_append.mpr ⟨?_, List.forall_mem_singleton.mpr htop⟩⟩⟩⟩
  intro line hline
  obtain ⟨row, hmem, hline⟩ := List.mem_flatMap.mp hline
  exact hrow row (List.mem_cons_of_mem _ hmem) line hline

/-- The printed table, cut at the ends of its lines. -/
theorem splitOn_render {style? : Option Palette} (h : ∀ line ∈ t.lines style? terminal, '\n' ∉ line) :
    Text.splitOn '\n' (t.render style? terminal) = t.lines style? terminal ++ [[]] := by
  unfold render
  generalize t.lines style? terminal = lines at h ⊢
  induction lines with
  | nil => rfl
  | cons line lines ih =>
      obtain ⟨hline, hlines⟩ := List.forall_mem_cons.mp h
      rw [List.flatMap_cons, List.append_assoc, List.singleton_append, Text.splitOn_append,
        Text.splitOn_of_not_mem hline, ih hlines]
      rfl

end Table

end SchemaFragments
