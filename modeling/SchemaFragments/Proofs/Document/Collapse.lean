import SchemaFragments.Document.Fragment
import SchemaFragments.Proofs.Extraction.Names

/-! # Reducing fields to their names, character by character

`collapseFields` looks ahead at the start of every line.  The same is done by a machine that reads a
character at a time and knows only in which part of a line it is: `collapseFrom` drops the colon
behind the name of a field and what comes after it up to the end of the line, and keeps the rest
(`collapseFields_eq`).

The machine can be followed through a text piece by piece, which is how the later modules use it. -/

namespace SchemaFragments

open Regex (getLast?_cons_or)

/-! ### Replacing in one pass -/

section Sweep

variable {f : Option Char → Text → Option (Text × Nat)} {before : Option Char}

theorem sweepFrom_length (f : Option Char → Text → Option (Text × Nat)) (before : Option Char)
    (u v : Text) : sweepFrom f u.length before (u ++ v) = sweepFrom f 0 (u.getLast?.or before) v := by
  induction u generalizing before with
  | nil => rfl
  | cons c u ih =>
      rw [getLast?_cons_or, ← ih]
      rfl

/-- What is replaced is passed over. -/
theorem sweepFrom_of_eq_some {replacement u v : Text} {n : Nat} (hu : u ≠ []) (hn : n = u.length)
    (h : f before (u ++ v) = some (replacement, n)) :
    sweepFrom f 0 before (u ++ v) = replacement ++ sweepFrom f 0 u.getLast? v := by
  obtain ⟨c, u, rfl⟩ := List.exists_cons_of_ne_nil hu
  subst hn
  have hlast : (c :: u).getLast? = u.getLast?.or (some c) := by
    rw [← getLast?_cons_or c u none, Option.or_none]
  rw [List.cons_append] at h ⊢
  rw [sweepFrom, h, hlast, ← sweepFrom_length]
  rfl

theorem sweepFrom_of_eq_none {c : Char} {cs : Text} (h : f before (c :: cs) = none) :
    sweepFrom f 0 before (c :: cs) = c :: sweepFrom f 0 (some c) cs := by
  rw [sweepFrom, h]

end Sweep

/-! ### The machine -/

/-- The parts of a line. -/
inductive LinePart where
  /-- Nothing of the line has been read. -/
  | start
  /-- White space, which may go over several lines. -/
  | indent
  /-- A word behind the white space. -/
  | name
  /-- Text that is kept to the end of the line. -/
  | rest
  /-- Text that is dropped to the end of the line. -/
  | gone
  deriving DecidableEq, Repr

namespace LinePart

/-- The part of a line that a character belongs to, from the part in front of it.  Line feeds are white
space as well: an empty line belongs to the white space of the next one. -/
def next : LinePart → Char → LinePart
  | start, c => if isBlank c then indent else rest
  | indent, c => if isBlank c then indent else if isWord c then name else rest
  | name, c =>
    if isWord c then name else if c = ':' then gone else if c = '\n' then start else rest
  | rest, c => if c = '\n' then start else rest
  | gone, c => if c = '\n' then start else if c = '\r' then rest else gone

variable {c : Char}

theorem next_start_of_isBlank (h : isBlank c) : start.next c = indent := if_pos h

theorem next_start_of_not_isBlank (h : isBlank c = false) : start.next c = rest := by
  simp [next, h]

theorem next_indent_of_isBlank (h : isBlank c) : indent.next c = indent := if_pos h

theorem next_indent_of_isWord (h : isWord c) : indent.next c = name := by
  simp [next, h, isBlank_of_isWord h]

theorem next_indent_of_not (hb : isBlank c = false) (hw : isWord c = false) :
    indent.next c = rest := by
  simp [next, hb, hw]

theorem next_name_of_isWord (h : isWord c) : name.next c = name := if_pos h

theorem next_name_of_not (hw : isWord c = false) (hc : c ≠ ':') (hn : c ≠ '\n') :
    name.next c = rest := by
  simp [next, hw, hc, hn]

@[simp] theorem next_name_colon : name.next ':' = gone := by decide

@[simp] theorem next_start_newline : start.next '\n' = indent := by decide

@[simp] theorem next_indent_newline : indent.next '\n' = indent := by decide

@[simp] theorem next_name_newline : name.next '\n' = start := by decide

theorem next_rest_of_ne (h : c ≠ '\n') : rest.next c = rest := if_neg h

theorem next_gone_of_ne (hn : c ≠ '\n') (hr : c ≠ '\r') : gone.next c = gone :=
  (if_neg hn).trans (if_neg hr)

theorem next_eq_gone {s : LinePart} :
    s.next c = gone ↔ s = name ∧ c = ':' ∨ s = gone ∧ c ≠ '\n' ∧ c ≠ '\r' := by
  have hcolon : isWord ':' = false := by decide
  cases s <;> simp only [next] <;> grind

end LinePart

/-- Drops what belongs to the dropped parts of lines. -/
def collapseFrom : LinePart → Text → Text
  | _, [] => []
  | s, c :: cs =>
    if s.next c = .gone then collapseFrom .gone cs else c :: collapseFrom (s.next c) cs

variable {s s' : LinePart} {c : Char} {cs t u v indent name deleted kept behind : Text}
  {before : Option Char} {n : Nat}

theorem collapseFrom_kept (h : s.next c = s') (hs : s' ≠ .gone) :
    collapseFrom s (c :: cs) = c :: collapseFrom s' cs := by
  subst h
  exact if_neg hs

theorem collapseFrom_dropped (h : s.next c = .gone) :
    collapseFrom s (c :: cs) = collapseFrom .gone cs := if_pos h

/-! ### Runs of characters -/

/-- Characters that do not lead out of a kept part are kept. -/
theorem collapseFrom_run (hs : s ≠ .gone) (h : ∀ c ∈ u, s.next c = s) (v : Text) :
    collapseFrom s (u ++ v) = u ++ collapseFrom s v := by
  induction u with
  | nil => rfl
  | cons c u ih =>
      rw [List.forall_mem_cons] at h
      rw [List.cons_append, collapseFrom_kept h.1 hs, ih h.2, List.cons_append]

theorem collapseFrom_rest (h : '\n' ∉ u) (v : Text) :
    collapseFrom .rest (u ++ v) = u ++ collapseFrom .rest v := by
  refine collapseFrom_run (by decide) (fun c hc => LinePart.next_rest_of_ne ?_) v
  rintro rfl
  exact h hc

theorem collapseFrom_gone (h : ∀ c ∈ deleted, c ≠ '\r' ∧ c ≠ '\n') (v : Text) :
    collapseFrom .gone (deleted ++ v) = collapseFrom .gone v := by
  induction deleted with
  | nil => rfl
  | cons c deleted ih =>
      rw [List.forall_mem_cons] at h
      rw [List.cons_append, collapseFrom_dropped (LinePart.next_gone_of_ne h.1.2 h.1.1), ih h.2]

/-- White space at the start of a line. -/
theorem collapseFrom_start (hne : indent ≠ []) (hi : ∀ c ∈ indent, isBlank c) (v : Text) :
    collapseFrom .start (indent ++ v) = indent ++ collapseFrom .indent v := by
  obtain ⟨b, indent, rfl⟩ := List.exists_cons_of_ne_nil hne
  rw [List.forall_mem_cons] at hi
  rw [List.cons_append, collapseFrom_kept (LinePart.next_start_of_isBlank hi.1) (by decide),
    collapseFrom_run (by decide) (fun c hc => LinePart.next_indent_of_isBlank (hi.2 c hc)),
    List.cons_append]

/-- A line without a field is kept. -/
theorem collapseFrom_other (hne : indent ≠ []) (hi : ∀ c ∈ indent, isBlank c) (hb : isBlank c = false)
    (hw : isWord c = false) (v : Text) :
    collapseFrom .start (indent ++ c :: v) = indent ++ c :: collapseFrom .rest v := by
  rw [collapseFrom_start hne hi, collapseFrom_kept (LinePart.next_indent_of_not hb hw) (by decide)]

/-- A word behind white space. -/
theorem collapseFrom_indent (hn : isIdentifier name) (v : Text) :
    collapseFrom .indent (name ++ v) = name ++ collapseFrom .name v := by
  obtain ⟨hne, hw⟩ := isIdentifier_iff.mp hn
  obtain ⟨w, name, rfl⟩ := List.exists_cons_of_ne_nil hne
  rw [List.forall_mem_cons] at hw
  rw [List.cons_append, collapseFrom_kept (LinePart.next_indent_of_isWord hw.1) (by decide),
    collapseFrom_run (by decide) (fun c hc => LinePart.next_name_of_isWord (hw.2 c hc)),
    List.cons_append]

/-- Of the line of a field the white space and the name are kept. -/
theorem collapseFrom_field (hne : indent ≠ []) (hi : ∀ c ∈ indent, isBlank c) (hn : isIdentifier name)
    (hd : ∀ c ∈ deleted, c ≠ '\r' ∧ c ≠ '\n') (v : Text) :
    collapseFrom .start (indent ++ (name ++ ':' :: (deleted ++ v))) =
      indent ++ (name ++ collapseFrom .gone v) := by
  rw [collapseFrom_start hne hi, collapseFrom_indent hn,
    collapseFrom_dropped LinePart.next_name_colon, collapseFrom_gone hd]

/-! ### Looking ahead -/

theorem drop_length_takeWhile {α : Type} (p : α → Bool) (l : List α) :
    l.drop (l.takeWhile p).length = l.dropWhile p := by
  have h := @List.drop_left α (l.takeWhile p) (l.dropWhile p)
  rw [List.takeWhile_append_dropWhile] at h
  exact h

/-- Does a colon stand behind the word at the front of a text, which may be empty? -/
def colonBehind (t : Text) : Bool := (t.dropWhile isWord).head? = some ':'

/-- Do a name and a colon stand behind the white space at the front of a text? -/
def namesField (t : Text) : Bool :=
  (t.dropWhile isBlank).takeWhile isWord ≠ [] ∧ colonBehind (t.dropWhile isBlank)

theorem colonBehind_cons (c : Char) (cs : Text) :
    colonBehind (c :: cs) = if isWord c then colonBehind cs else decide (c = ':') := by
  unfold colonBehind
  rw [List.dropWhile_cons]
  split <;> simp

theorem namesField_cons (c : Char) (cs : Text) :
    namesField (c :: cs) = if isBlank c then namesField cs else isWord c && colonBehind cs := by
  unfold namesField
  rw [List.dropWhile_cons]
  split
  · rfl
  · rw [List.takeWhile_cons, colonBehind_cons]
    cases isWord c <;> simp

theorem field?_eq (before : Option Char) (t : Text) :
    field? before t =
      if (before = none ∨ before = some '\n') ∧ t.takeWhile isBlank ≠ [] ∧ namesField t then
        some (t.takeWhile isBlank ++ (t.dropWhile isBlank).takeWhile isWord,
          (t.takeWhile isBlank).length + ((t.dropWhile isBlank).takeWhile isWord).length +
            (((t.dropWhile isBlank).dropWhile isWord).takeWhile fun c => c ≠ '\r' ∧ c ≠ '\n').length)
      else none := by
  unfold field? namesField colonBehind
  simp only [drop_length_takeWhile, List.length_append, ← List.drop_drop]
  split
  · next hb => simp [hb]
  · next hb => simp [hb]

/-- Where no field begins at the start of a line, none begins further on in its white space. -/
theorem namesField_of_field?_eq_none (hb : before = none ∨ before = some '\n')
    (h : field? before (c :: cs) = none) (hc : isBlank c) : namesField cs = false := by
  rw [field?_eq, List.takeWhile_cons_of_pos hc, namesField_cons, if_pos hc] at h
  simpa [hb] using h

theorem endsLine_dropWhile (t : Text) :
    Scan.endsLine (t.dropWhile fun c => c ≠ '\r' ∧ c ≠ '\n').head? := by
  have h := List.head?_dropWhile_not (fun c : Char => decide (c ≠ '\r' ∧ c ≠ '\n')) t
  unfold Scan.endsLine
  cases hc : (t.dropWhile fun c => c ≠ '\r' ∧ c ≠ '\n').head? with
  | none => simp
  | some c =>
      rw [hc] at h
      simpa [or_iff_not_imp_left] using h

/-- White space, a name, a colon, and what comes up to the end of the line. -/
theorem exists_of_field?_eq_some (h : field? before t = some (kept, n)) :
    (before = none ∨ before = some '\n') ∧ namesField t ∧ ∃ indent name deleted behind,
      t = indent ++ (name ++ ':' :: (deleted ++ behind)) ∧ kept = indent ++ name ∧
      n = (indent ++ (name ++ ':' :: deleted)).length ∧ indent ≠ [] ∧ (∀ c ∈ indent, isBlank c) ∧
      isIdentifier name ∧ (∀ c ∈ deleted, c ≠ '\r' ∧ c ≠ '\n') ∧ Scan.endsLine behind.head? := by
  rw [field?_eq] at h
  split at h
  · next hc =>
      obtain ⟨hb, hi, hn⟩ := hc
      cases h
      have hnames := hn
      unfold namesField colonBehind at hn
      simp only [ne_eq, decide_eq_true_eq] at hn
      obtain ⟨hname, hcolon⟩ := hn
      obtain ⟨behindColon, hbehind⟩ := List.head?_eq_some_iff.mp hcolon
      refine ⟨hb, hnames, t.takeWhile isBlank, (t.dropWhile isBlank).takeWhile isWord,
        behindColon.takeWhile fun c => c ≠ '\r' ∧ c ≠ '\n',
        behindColon.dropWhile fun c => c ≠ '\r' ∧ c ≠ '\n', ?_, rfl, ?_, hi,
        fun c hc => List.mem_takeWhile_imp hc,
        isIdentifier_iff.mpr ⟨hname, fun c hc => List.mem_takeWhile_imp hc⟩,
        fun c hc => by simpa using List.mem_takeWhile_imp hc, endsLine_dropWhile behindColon⟩
      · rw [List.takeWhile_append_dropWhile, ← hbehind, List.takeWhile_append_dropWhile,
          List.takeWhile_append_dropWhile]
      · rw [hbehind, List.takeWhile_cons_of_pos (by decide), List.length_append, List.length_append,
          Nat.add_assoc]
  · cases h

/-! ### The machine does what looking ahead does -/

/-- Does a line go on behind a character? -/
def inLine (before : Option Char) : Prop := before ≠ none ∧ before ≠ some '\n'

/-- What looking ahead at a text that comes behind a character can find, from a part of a line. -/
def Fits (before : Option Char) (t : Text) : LinePart → Prop
  | .start => before = none ∨ before = some '\n'
  | .indent => namesField t = false
  | .name => inLine before ∧ colonBehind t = false
  | .rest => inLine before
  | .gone => inLine before ∧ Scan.endsLine t.head?

theorem field?_of_inLine (h : inLine before) (t : Text) : field? before t = none := by
  rw [field?_eq, if_neg]
  rintro ⟨hb, -⟩
  exact hb.elim h.1 h.2

theorem inLine_some (h : c ≠ '\n') : inLine (some c) := ⟨by simp, by simp [h]⟩

theorem inLine_getLast? (hd : ∀ c ∈ deleted, c ≠ '\r' ∧ c ≠ '\n') (u : Text) :
    inLine (u ++ ':' :: deleted).getLast? := by
  rw [List.getLast?_append_of_ne_nil _ (List.cons_ne_nil _ _)]
  refine ⟨by simp, fun h => ?_⟩
  rcases List.mem_cons.mp (List.mem_of_getLast? h) with hc | hc
  · exact absurd hc (by decide)
  · exact (hd _ hc).2 rfl

theorem ne_newline_of_not_isBlank (h : isBlank c = false) : c ≠ '\n' := by
  rintro rfl
  revert h
  decide

theorem ne_newline_of_isWord (h : isWord c) : c ≠ '\n' :=
  ne_newline_of_not_isBlank (isBlank_of_isWord h)

/-- A field is found from the start of a line only: within white space it would have been found before. -/
theorem start_of_fits_of_field?_eq_some (hf : Fits before t s) (h : field? before t = some (kept, n)) :
    s = .start := by
  obtain ⟨-, hn, -⟩ := exists_of_field?_eq_some h
  cases s with
  | start => rfl
  | indent => exact absurd hn (by rw [hf]; decide)
  | name => cases h.symm.trans (field?_of_inLine hf.1 t)
  | rest => cases h.symm.trans (field?_of_inLine hf t)
  | gone => cases h.symm.trans (field?_of_inLine hf.1 t)

/-- Where looking ahead finds nothing, the machine keeps the character, and what it knows still fits. -/
theorem fits_next (hf : Fits before (c :: cs) s) (h : field? before (c :: cs) = none) :
    s.next c ≠ .gone ∧ Fits (some c) cs (s.next c) := by
  cases s with
  | start =>
      cases hc : isBlank c with
      | true =>
          rw [LinePart.next_start_of_isBlank hc]
          exact ⟨by decide, namesField_of_field?_eq_none hf h hc⟩
      | false =>
          rw [LinePart.next_start_of_not_isBlank hc]
          exact ⟨by decide, inLine_some (ne_newline_of_not_isBlank hc)⟩
  | indent =>
      have hn : namesField (c :: cs) = false := hf
      rw [namesField_cons] at hn
      cases hc : isBlank c with
      | true =>
          rw [LinePart.next_indent_of_isBlank hc]
          exact ⟨by decide, (if_pos hc).symm.trans hn⟩
      | false =>
          rw [hc, if_neg (by decide)] at hn
          cases hw : isWord c with
          | true =>
              rw [LinePart.next_indent_of_isWord hw]
              rw [hw, Bool.true_and] at hn
              exact ⟨by decide, inLine_some (ne_newline_of_isWord hw), hn⟩
          | false =>
              rw [LinePart.next_indent_of_not hc hw]
              exact ⟨by decide, inLine_some (ne_newline_of_not_isBlank hc)⟩
  | name =>
      have hn : colonBehind (c :: cs) = false := hf.2
      rw [colonBehind_cons] at hn
      cases hw : isWord c with
      | true =>
          rw [LinePart.next_name_of_isWord hw]
          rw [hw, if_pos rfl] at hn
          exact ⟨by decide, inLine_some (ne_newline_of_isWord hw), hn⟩
      | false =>
          rw [hw, if_neg (by decide), decide_eq_false_iff_not] at hn
          by_cases hc : c = '\n'
          · subst hc
            exact ⟨by decide, by rw [LinePart.next_name_newline]; exact Or.inr rfl⟩
          · rw [LinePart.next_name_of_not hw hn hc]
            exact ⟨by decide, inLine_some hc⟩
  | rest =>
      by_cases hc : c = '\n'
      · subst hc
        exact ⟨by decide, Or.inr rfl⟩
      · rw [LinePart.next_rest_of_ne hc]
        exact ⟨by decide, inLine_some hc⟩
  | gone =>
      obtain ⟨-, hend⟩ := hf
      have hc : c = '\r' ∨ c = '\n' := by simpa [Scan.endsLine] using hend
      rcases hc with rfl | rfl
      · exact ⟨by decide, inLine_some (by decide)⟩
      · exact ⟨by decide, Or.inr rfl⟩

theorem sweepFrom_field? (hf : Fits before t s) : sweepFrom field? 0 before t = collapseFrom s t := by
  -- On the length, since a field is replaced as a whole while the machine goes through it.
  induction hlen : t.length using Nat.strong_induction_on generalizing before s t with
  | _ k ih =>
      subst hlen
      cases t with
      | nil => rfl
      | cons c cs =>
          cases h : field? before (c :: cs) with
          | none =>
              obtain ⟨hs, hnext⟩ := fits_next hf h
              rw [sweepFrom_of_eq_none h, collapseFrom_kept rfl hs, ih _ (Nat.lt_succ_self _) hnext rfl]
          | some found =>
              have hs := start_of_fits_of_field?_eq_some hf h
              subst hs
              obtain ⟨-, -, indent, name, deleted, behind, ht, hk, hn, hne, hi, hname, hd, he⟩ :=
                exists_of_field?_eq_some h
              have hsplit : c :: cs = (indent ++ (name ++ ':' :: deleted)) ++ behind := by
                rw [ht]
                simp
              have hnext : Fits (indent ++ (name ++ ':' :: deleted)).getLast? behind .gone := by
                rw [← List.append_assoc]
                exact ⟨inLine_getLast? hd _, he⟩
              have hshort : behind.length < (c :: cs).length := by
                rw [hsplit]
                simp only [List.length_append, List.length_cons]
                omega
              rw [hsplit] at h
              rw [hsplit, sweepFrom_of_eq_some (by simp) hn h, ih _ hshort hnext rfl, ← hsplit, ht,
                collapseFrom_field hne hi hname hd, hk, List.append_assoc]

/-- Looking ahead at the start of every line comes to the same as the machine. -/
theorem collapseFields_eq (t : Text) : collapseFields t = collapseFrom .start t :=
  sweepFrom_field? (Or.inl rfl)

end SchemaFragments
