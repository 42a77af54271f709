import SchemaFragments.Proofs.Text
import SchemaFragments.Proofs.Unicode.Width
import SchemaFragments.Table.Widths

/-! # What wrapping keeps

Cutting a word gives two parts that together are the word.  So the lines of a cell without a space, one
after the other, are the cell again, whatever its characters and the width are (`flatten_cellLines`).  When
the characters are narrow, no line of a cell is longer than the width (`fitting_of_mem_cellLines`). -/

namespace SchemaFragments.Table

variable {width room : Nat} {line word text : Text}

/-! ### Cutting words -/

theorem takeFitting_append (room : Nat) (clusters : List Text) :
    (takeFitting room clusters).1 ++ (takeFitting room clusters).2 = clusters.flatten := by
  induction clusters generalizing room with
  | nil => rfl
  | cons cluster rest ih =>
      simp only [takeFitting]
      split_ifs
      · simp only [List.append_assoc, ih, List.flatten_cons]
      · rfl

theorem cutWord_append (room : Nat) (word : Text) :
    (cutWord room word).1 ++ (cutWord room word).2 = word := by
  unfold cutWord
  rw [takeFitting_append, flatten_clusters]

theorem cutFreshWord_append (room : Nat) (word : Text) :
    (cutFreshWord room word).1 ++ (cutFreshWord room word).2 = word := by
  unfold cutFreshWord
  split_ifs
  · rw [List.splitAt_eq]
    exact List.take_append_drop 1 word
  · exact cutWord_append room word

theorem length_takeFitting_le {clusters : List Text} (h : ∀ cl ∈ clusters, ∀ c ∈ cl, isNarrow c) :
    (takeFitting room clusters).1.length ≤ room := by
  induction clusters generalizing room with
  | nil => exact Nat.zero_le room
  | cons cluster rest ih =>
      have hcluster := width_eq_length (h cluster List.mem_cons_self)
      simp only [takeFitting]
      split_ifs with hfits
      · have hrest : (takeFitting (room - Text.width cluster) rest).1.length ≤ room - Text.width cluster :=
          ih fun cl hcl => h cl (List.mem_cons_of_mem cluster hcl)
        rw [List.length_append, ← hcluster]
        omega
      · exact Nat.zero_le room

theorem length_cutWord_le (h : ∀ c ∈ word, isNarrow c) : (cutWord room word).1.length ≤ room := by
  apply length_takeFitting_le
  intro cluster hcluster c hc
  exact h c (flatten_clusters word ▸ List.mem_flatten_of_mem hcluster hc)

theorem length_cutFreshWord_le (hroom : 0 < room) (h : ∀ c ∈ word, isNarrow c) :
    (cutFreshWord room word).1.length ≤ room := by
  unfold cutFreshWord
  split_ifs
  · rw [List.splitAt_eq]
    exact Nat.le_trans (List.length_take_le 1 word) hroom
  · exact length_cutWord_le h

/-! ### Words without spaces -/

theorem wrapFrom_nil (width : Nat) (line : Text) :
    wrapFrom width line [] = if line = [] then [] else [line] := by
  unfold wrapFrom
  rfl

theorem wrapFrom_of_fits (h : Text.width word ≤ width) (words : List Text) :
    wrapFrom width [] (word :: words) =
      if isComplete width word then word :: wrapFrom width [] words else wrapFrom width word words := by
  have hfits : Text.width [] + (if ([] : Text) = [] then 0 else 1) + Text.width word ≤ width := by
    rw [if_pos rfl]
    exact (Nat.zero_add _).symm ▸ h
  rw [wrapFrom, if_pos hfits]
  rfl

theorem wrapFrom_of_wide (h : width < Text.width word) (words : List Text) :
    wrapFrom width [] (word :: words) =
      (cutFreshWord width word).1 :: wrapFrom width [] ((cutFreshWord width word).2 :: words) := by
  have hfits : ¬Text.width [] + (if ([] : Text) = [] then 0 else 1) + Text.width word ≤ width := by
    rw [if_pos rfl]
    exact (Nat.zero_add _).symm ▸ Nat.not_le_of_lt h
  rw [wrapFrom, if_neg hfits, if_neg (fun hline => hline.1 rfl), if_pos h, if_pos rfl]

/-- The lines of a single word are the word, cut into pieces. -/
theorem flatten_wrapFrom_single (width : Nat) (word : Text) :
    (wrapFrom width [] [word]).flatten = word := by
  rcases Nat.lt_or_ge width (Text.width word) with hwide | hfits
  · have hne : word ≠ [] := ne_nil_of_width_pos (Nat.zero_lt_of_lt hwide)
    have hshorter : (cutFreshWord width word).2.length < word.length := length_cutFreshWord_lt width hne
    rw [wrapFrom_of_wide hwide, List.flatten_cons, flatten_wrapFrom_single, cutFreshWord_append]
  · have hrest : (wrapFrom width word []).flatten = word := by
      rw [wrapFrom_nil]
      split_ifs with hnil
      · exact hnil.symm
      · exact List.append_nil word
    rw [wrapFrom_of_fits hfits]
    split_ifs
    · rw [wrapFrom_nil, if_pos rfl]
      exact List.append_nil word
    · exact hrest
termination_by word.length

/-- A cell without a space is not lost in wrapping. -/
theorem flatten_cellLines (h : ' ' ∉ text) (width : Nat) : (cellLines width text).flatten = text := by
  unfold cellLines wrap
  split_ifs
  · rw [Text.splitOn_of_not_mem h, flatten_wrapFrom_single]
  · exact List.append_nil text

/-! ### Lengths -/

/-- A text of narrow characters that is no longer than the width. -/
def Fitting (width : Nat) (t : Text) : Prop := (∀ c ∈ t, isNarrow c) ∧ t.length ≤ width

theorem fitting_nil (width : Nat) : Fitting width [] where
  left := fun _ hc => nomatch hc
  right := Nat.zero_le width

theorem fitting_of_not_wide (hw : ∀ c ∈ word, isNarrow c) (h : ¬width < Text.width word) :
    Fitting width word :=
  ⟨hw, width_eq_length hw ▸ Nat.le_of_not_lt h⟩

theorem isNarrow_of_mem_join (hl : ∀ c ∈ line, isNarrow c) (hw : ∀ c ∈ word, isNarrow c) :
    ∀ c ∈ line ++ [' '] ++ word, isNarrow c := by
  intro c hc
  rcases List.mem_append.mp hc with hc | hc
  · rcases List.mem_append.mp hc with hc | hc
    · exact hl c hc
    · rw [List.mem_singleton.mp hc]
      decide
  · exact hw c hc

theorem fitting_addWord (hl : Fitting width line) (hw : ∀ c ∈ word, isNarrow c)
    (h : Text.width line + (if line = [] then 0 else 1) + Text.width word ≤ width) :
    Fitting width (addWord line word) := by
  rw [width_eq_length hl.1, width_eq_length hw] at h
  unfold addWord
  split_ifs with hnil
  · rw [if_pos hnil] at h
    exact ⟨hw, by omega⟩
  · rw [if_neg hnil] at h
    refine ⟨isNarrow_of_mem_join hl.1 hw, ?_⟩
    simp only [List.length_append, List.length_singleton]
    exact h

/-- What is left of a word is narrow like the word. -/
theorem isNarrow_of_cut {cut : Text × Text} (hcut : cut.1 ++ cut.2 = word) (hw : ∀ c ∈ word, isNarrow c) :
    (∀ c ∈ cut.1, isNarrow c) ∧ ∀ c ∈ cut.2, isNarrow c :=
  ⟨fun c hc => hw c (hcut ▸ List.mem_append_left _ hc),
    fun c hc => hw c (hcut ▸ List.mem_append_right _ hc)⟩

/-- The room on a line is what the line leaves of the width, less the space before the next word. -/
theorem fitting_append_cutWord (hl : Fitting width line) (hw : ∀ c ∈ word, isNarrow c) (hne : line ≠ [])
    (hroom : 0 < roomAfter width line) :
    Fitting width (line ++ [' '] ++ (cutWord (roomAfter width line) word).1) := by
  have hcut := isNarrow_of_cut (cutWord_append (roomAfter width line) word) hw
  have hlength : (cutWord (roomAfter width line) word).1.length ≤ roomAfter width line :=
    length_cutWord_le hw
  refine ⟨isNarrow_of_mem_join hl.1 hcut.1, ?_⟩
  rw [List.length_append, List.length_append, List.length_singleton]
  unfold roomAfter at hroom hlength ⊢
  rw [if_neg hne, width_eq_length hl.1] at hroom hlength ⊢
  omega

theorem fitting_of_mem_wrapFrom (hwidth : 0 < width) {words : List Text} (hl : Fitting width line)
    (hw : ∀ word ∈ words, ∀ c ∈ word, isNarrow c) : ∀ l ∈ wrapFrom width line words, Fitting width l := by
  fun_induction wrapFrom width line words with
  | case1 => exact fun l hl => nomatch hl
  | case2 line hne => exact List.forall_mem_singleton.mpr hl
  | case3 line word words longer hfits hfull ih =>
      obtain ⟨hword, hwords⟩ := List.forall_mem_cons.mp hw
      exact List.forall_mem_cons.mpr ⟨fitting_addWord hl hword hfits, ih (fitting_nil width) hwords⟩
  | case4 line word words longer hfits hfull ih =>
      obtain ⟨hword, hwords⟩ := List.forall_mem_cons.mp hw
      exact ih (fitting_addWord hl hword hfits) hwords
  | case5 line word words hfits hroom ih =>
      exact List.forall_mem_cons.mpr ⟨hl, ih (fitting_nil width) hw⟩
  | case6 word words hwide hfits hroom ih =>
      obtain ⟨hword, hwords⟩ := List.forall_mem_cons.mp hw
      have hcut := isNarrow_of_cut (cutFreshWord_append width word) hword
      exact List.forall_mem_cons.mpr
        ⟨⟨hcut.1, length_cutFreshWord_le hwidth hword⟩,
          ih (fitting_nil width) (List.forall_mem_cons.mpr ⟨hcut.2, hwords⟩)⟩
  | case7 line word words hfits hroom hwide hne ih =>
      obtain ⟨hword, hwords⟩ := List.forall_mem_cons.mp hw
      have hcut := isNarrow_of_cut (cutWord_append (roomAfter width line) word) hword
      -- A line on which hardly any room was left has been ended before.
      have hpos : 0 < roomAfter width line :=
        Nat.pos_of_ne_zero fun hzero => hroom ⟨hne, hzero ▸ Nat.zero_le 2⟩
      exact List.forall_mem_cons.mpr
        ⟨fitting_append_cutWord hl hword hne hpos,
          ih (fitting_nil width) (List.forall_mem_cons.mpr ⟨hcut.2, hwords⟩)⟩
  | case8 line word words hfits hroom hwide hfull ih =>
      obtain ⟨hword, hwords⟩ := List.forall_mem_cons.mp hw
      exact List.forall_mem_cons.mpr ⟨hl, List.forall_mem_cons.mpr
        ⟨fitting_of_not_wide hword hwide, ih (fitting_nil width) hwords⟩⟩
  | case9 line word words hfits hroom hwide hfull ih =>
      obtain ⟨hword, hwords⟩ := List.forall_mem_cons.mp hw
      exact List.forall_mem_cons.mpr ⟨hl, ih (fitting_of_not_wide hword hwide) hwords⟩

/-- No line of a narrow cell is longer than the width of its column. -/
theorem fitting_of_mem_cellLines (hwidth : 0 < width) (ht : ∀ c ∈ text, isNarrow c) :
    ∀ l ∈ cellLines width text, Fitting width l := by
  unfold cellLines wrap
  split_ifs with hwide
  · exact fitting_of_mem_wrapFrom hwidth (fitting_nil width)
      fun word hword c hc => ht c (Text.mem_of_mem_splitOn hword hc).2
  · exact List.forall_mem_singleton.mpr (fitting_of_not_wide ht hwide)

end SchemaFragments.Table
