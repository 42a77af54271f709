import SchemaFragments.Proofs.AllowList
import SchemaFragments.Proofs.Text
import SchemaFragments.Proofs.Unicode.Upper

/-! # The normal form of an allow-list

An allow-list holds the normal forms of the pieces of its entries, the empty ones left out.  A normal form
has no white space at its ends and no comma that was not in the piece, and it is its own normal form
(`trimmed_normalize`, `not_mem_normalize`, `normalize_normalize`).  So the names of an allow-list give
the same allow-list when they are taken for entries; and entries with the same pieces give the same one, in
whatever order the pieces come and however they are put together (`parse_normal`). -/

namespace SchemaFragments

variable {t name n : Text} {entries others : List Text}

/-! ### Upper case -/

/-- Upper case leaves no white space at the ends of a text that has none there. -/
theorem trimmed_upper (h : t.Trimmed) : (upper t).Trimmed where
  front d hd := by
    cases t with
    | nil => cases hd
    | cons c t =>
        obtain ⟨first, later, hc⟩ := List.exists_cons_of_ne_nil (upperChar_ne_nil c)
        have hupper : upper (c :: t) = first :: (later ++ upper t) := by
          rw [upper, List.flatMap_cons, hc]
          rfl
        rw [hupper] at hd
        cases hd
        exact isBlank_upperChar (h.front c rfl) (hc ▸ List.mem_cons_self)
  back d hd := by
    rcases List.eq_nil_or_concat' t with rfl | ⟨u, c, rfl⟩
    · cases hd
    · have hupper : upper (u ++ [c]) = upper u ++ upperChar c := by
        simp [upper]
      rw [hupper, List.getLast?_append_of_ne_nil _ (upperChar_ne_nil c)] at hd
      exact isBlank_upperChar (h.back c List.getLast?_concat) (List.mem_of_getLast? hd)

theorem not_mem_upper {c : Char} (hc : ¬ (c.toNat = 0 ∨ 0x41 ≤ c.toNat)) (h : c ∉ t) : c ∉ upper t := by
  intro hmem
  obtain ⟨d, hd, hmem⟩ := List.mem_flatMap.mp hmem
  rcases mem_upperChar_cases hmem with rfl | hcode
  · exact h hd
  · exact hc hcode

namespace AllowList

/-! ### Normal forms -/

theorem trimmed_normalize (name : Text) : (normalize name).Trimmed := trimmed_upper (Text.trimmed_trim name)

theorem normalize_normalize (name : Text) : normalize (normalize name) = normalize name := by
  have htrim : Text.trim (normalize name) = normalize name := (trimmed_normalize name).trim_eq
  unfold normalize at htrim ⊢
  rw [htrim, upper_upper]

/-- A normal form has no character below the capitals that the name has not. -/
theorem not_mem_normalize {c : Char} (hc : ¬ (c.toNat = 0 ∨ 0x41 ≤ c.toNat)) (h : c ∉ name) :
    c ∉ normalize name :=
  not_mem_upper hc fun hmem => h ((Text.trim_sublist name).mem hmem)

/-- White space comes to nothing. -/
theorem normalize_eq_nil (h : ∀ c ∈ name, isBlank c) : normalize name = [] := by
  unfold normalize Text.trim
  rw [List.dropWhile_eq_nil_iff.mpr h]
  rfl

/-! ### Pieces of entries -/

/-- The pieces of all entries between commas. -/
def pieces (entries : List Text) : List Text := entries.flatMap (Text.splitOn ',')

theorem mem_names_parse_iff_pieces :
    n ∈ (parse entries).names ↔ n ≠ [] ∧ ∃ piece ∈ pieces entries, normalize piece = n := by
  rw [mem_names_parse]
  unfold pieces
  simp only [List.mem_flatMap]
  grind

theorem ext_names {l l' : AllowList} (h : ∀ n, n ∈ l.names ↔ n ∈ l'.names) : l = l' := by
  simp only [mem_names] at h
  exact congrArg AllowList.mk (Std.ExtTreeSet.ext_mem h)

/-- Entries with the same pieces give the same allow-list; pieces that are white space do not count. -/
theorem parse_eq_of_pieces (h : ∀ piece, (∃ c ∈ piece, isBlank c = false) →
    (piece ∈ pieces others ↔ piece ∈ pieces entries)) : parse others = parse entries := by
  have hsame (n : Text) (hn : n ≠ []) (piece : Text) (hp : normalize piece = n) :
      piece ∈ pieces others ↔ piece ∈ pieces entries := by
    refine h piece ?_
    by_contra hblank
    refine hn (hp ▸ normalize_eq_nil fun c hc => ?_)
    by_contra hc'
    exact hblank ⟨c, hc, Bool.eq_false_iff.mpr hc'⟩
  refine ext_names fun n => ?_
  rw [mem_names_parse_iff_pieces, mem_names_parse_iff_pieces]
  refine and_congr_right fun hn => exists_congr fun piece => and_congr_left fun hp => ?_
  exact hsame n hn piece hp

theorem pieces_pieces (entries : List Text) : pieces (pieces entries) = pieces entries := by
  unfold pieces
  rw [List.flatMap_assoc]
  exact List.flatMap_congr fun entry _ => Text.flatMap_splitOn_splitOn ',' entry

theorem pieces_of_no_comma (h : ∀ entry ∈ entries, ',' ∉ entry) : pieces entries = entries := by
  unfold pieces
  rw [List.flatMap_congr fun entry he => Text.splitOn_of_not_mem (h entry he), List.flatMap_singleton']

theorem parse_pieces (entries : List Text) : parse (pieces entries) = parse entries :=
  parse_eq_of_pieces fun _ _ => by rw [pieces_pieces]

/-- Entries can be joined by commas. -/
theorem parse_intercalate (entries : List Text) : parse [[','].intercalate entries] = parse entries := by
  refine parse_eq_of_pieces fun piece hp => ?_
  by_cases hne : entries = []
  · -- No entry at all has no piece, while an empty one has one piece, which is empty.
    subst hne
    obtain ⟨c, hc, -⟩ := hp
    constructor
    · intro hmem
      rw [List.mem_singleton.mp hmem] at hc
      cases hc
    · intro hmem
      cases hmem
  · have hpieces : pieces [[','].intercalate entries] = pieces entries := by
      unfold pieces
      rw [List.flatMap_singleton, Text.splitOn_intercalate ',' hne]
    rw [hpieces]

/-- Entries that are white space and commas do not count, and neither does the order of the others or how
often they come. -/
theorem parse_eq_of_mem_iff (h : ∀ entry, (∃ c ∈ entry, c ≠ ',' ∧ isBlank c = false) →
    (entry ∈ others ↔ entry ∈ entries)) : parse others = parse entries := by
  refine parse_eq_of_pieces fun piece hp => ?_
  obtain ⟨c, hc, hblank⟩ := hp
  unfold pieces
  rw [List.mem_flatMap, List.mem_flatMap]
  refine exists_congr fun entry => and_congr_left fun hpiece => h entry ?_
  obtain ⟨hcomma, hmem⟩ := Text.mem_of_mem_splitOn hpiece hc
  exact ⟨c, hmem, hcomma, hblank⟩

/-! ### The names of an allow-list -/

/-- The names are their own normal forms, and they are not parted by commas. -/
theorem of_mem_names_parse (h : n ∈ (parse entries).names) :
    n ≠ [] ∧ ',' ∉ n ∧ n.Trimmed ∧ normalize n = n := by
  obtain ⟨hne, piece, hpiece, rfl⟩ := mem_names_parse_iff_pieces.mp h
  obtain ⟨entry, -, hsplit⟩ := List.mem_flatMap.mp hpiece
  have hcomma : ',' ∉ piece := fun hc => (Text.mem_of_mem_splitOn hsplit hc).1 rfl
  exact ⟨hne, not_mem_normalize (by decide) hcomma, trimmed_normalize piece, normalize_normalize piece⟩

theorem parse_names_parse (entries : List Text) : parse (parse entries).names = parse entries := by
  refine ext_names fun n => ?_
  rw [mem_names_parse_iff_pieces, pieces_of_no_comma fun m hm => (of_mem_names_parse hm).2.1]
  constructor
  · rintro ⟨-, m, hm, rfl⟩
    rw [(of_mem_names_parse hm).2.2.2]
    exact hm
  · exact fun hn => ⟨(of_mem_names_parse hn).1, n, hn, (of_mem_names_parse hn).2.2.2⟩

/-- The names of an allow-list are strictly increasing; each of them is allowed, not empty, without a comma
and without white space at its ends.  They give the same allow-list again, and so do all entries in which
the same names are joined in another way, come in another order or more than once, or have entries between
them that name nothing. -/
theorem parse_normal (entries : List Text) :
    (parse entries).names.Pairwise (· < ·) ∧
      (∀ n ∈ (parse entries).names, n ≠ [] ∧ ',' ∉ n ∧ n.Trimmed ∧ (parse entries).contains n) ∧
      parse (parse entries).names = parse entries ∧
      parse [[','].intercalate entries] = parse entries ∧
      parse (entries.flatMap (Text.splitOn ',')) = parse entries ∧
      ∀ others, (∀ entry, (∃ c ∈ entry, c ≠ ',' ∧ isBlank c = false) →
        (entry ∈ others ↔ entry ∈ entries)) → parse others = parse entries := by
  refine ⟨pairwise_names _, fun n hn => ?_, parse_names_parse entries, parse_intercalate entries,
    parse_pieces entries, fun others => parse_eq_of_mem_iff⟩
  obtain ⟨hne, hcomma, htrim, hnormal⟩ := of_mem_names_parse hn
  refine ⟨hne, hcomma, htrim, contains_iff.mpr ?_⟩
  rw [hnormal]
  exact hn

/-- Two names in one entry, one of them longer in upper case, and another name. -/
def mixedEntries : List Text := [" ß ,\tsaveA", "b"]

/-- The same entries in another order, one of them twice, with entries that name nothing. -/
def shuffledEntries : List Text := ["b", "", " ß ,\tsaveA", " ,", "b"]

theorem parse_normal_shuffled :
    (∀ entry, (∃ c ∈ entry, c ≠ ',' ∧ isBlank c = false) →
      (entry ∈ shuffledEntries ↔ entry ∈ mixedEntries)) ∧
      parse shuffledEntries = parse mixedEntries ∧
      (parse mixedEntries).names = ["B", "SAVEA", "SS"] ∧
      parse ["B", "SAVEA", "SS"] = parse mixedEntries ∧
      parse [" ß ,\tsaveA,b"] = parse mixedEntries := by
  have hnames : (parse mixedEntries).names = ["B", "SAVEA", "SS"] := by decide +kernel
  -- As a Boolean over the text: a bounded quantifier may be decided over the characters of all code points.
  have hnothing : (" ," : Text).all fun c => c == ',' || isBlank c := by decide
  have hsame (entry : Text) (h : ∃ c ∈ entry, c ≠ ',' ∧ isBlank c = false) :
      entry ∈ shuffledEntries ↔ entry ∈ mixedEntries := by
    obtain ⟨c, hc, hne, hblank⟩ := h
    have hempty : entry ≠ [] := List.ne_nil_of_mem hc
    have hcomma : entry ≠ " ," := by
      rintro rfl
      rcases Bool.or_eq_true_iff.mp (List.all_eq_true.mp hnothing c hc) with hcomma | hspace
      · exact hne (beq_iff_eq.mp hcomma)
      · rw [hspace] at hblank
        cases hblank
    unfold shuffledEntries mixedEntries
    simp only [List.mem_cons]
    grind
  obtain ⟨-, -, hagain, hjoined, -, hothers⟩ := parse_normal mixedEntries
  rw [hnames] at hagain
  exact ⟨hsame, hothers _ hsame, hnames, hagain, hjoined⟩

end AllowList

end SchemaFragments
