import SchemaFragments.Extraction
import Mathlib.Data.List.TakeWhile

/-! # Reading a schema for declarations

`Scan.declarations` reads a schema once, from left to right.  Where a line starts with the header
`type <word>Gql {` a declaration begins (`Scan.header?`).  It goes on to the first closing brace that
ends its line, with a character at least between the braces (`Scan.inside?`).  If there is no such
brace nothing is declared from there on. -/

namespace SchemaFragments.Scan

/-! ### Lines -/

/-- Does a line start between two characters?  Carriage returns, line feeds, and one of each end
lines. -/
def startsLine (before after : Option Char) : Bool :=
  before = none ∨ before = some '\n' ∨ (before = some '\r' ∧ after ≠ some '\n')

/-- Is a line at its end in front of a character? -/
def endsLine (after : Option Char) : Bool := after = none ∨ after = some '\r' ∨ after = some '\n'

/-! ### Headers -/

/-- The word of the header with which a text begins, and what is behind the opening brace. -/
def header? (t : Text) : Option (Text × Text) :=
  let word := (t.drop 5).takeWhile isWord
  let behind := (t.drop 5).dropWhile isWord
  if ("type " : Text) <+: t ∧ 4 ≤ word.length ∧ ("Gql" : Text) <:+ word ∧ (" \x7b" : Text) <+: behind
  then some (word, behind.drop 2)
  else none

/-- The header with a word in it. -/
def headerOf (word : Text) : Text := "type " ++ word ++ " \x7b"

variable {t t' word word' entity inside inside' behind : Text}

-- Evaluated by going through the text: an instance for `∀ c ∈ t, p c` may go through all characters.
theorem forall_mem_of_all {p : Char → Prop} [DecidablePred p] (h : t.all fun c => p c) :
    ∀ c ∈ t, p c :=
  fun c hc => of_decide_eq_true (List.all_eq_true.mp h c hc)

theorem length_headerOf (word : Text) : (headerOf word).length = word.length + 7 := by
  unfold headerOf
  rw [List.length_append, List.length_append]
  change 5 + word.length + 2 = word.length + 7
  omega

theorem takeWhile_word (hw : ∀ c ∈ word, isWord c) (inside : Text) :
    (word ++ (" \x7b" ++ inside)).takeWhile isWord = word := by
  have hblank : ¬ isWord ' ' = true := by decide
  rw [List.takeWhile_append_of_pos hw]
  change word ++ (' ' :: '\x7b' :: inside).takeWhile isWord = word
  rw [List.takeWhile_cons_of_neg hblank, List.append_nil]

theorem dropWhile_word (hw : ∀ c ∈ word, isWord c) (inside : Text) :
    (word ++ (" \x7b" ++ inside)).dropWhile isWord = " \x7b" ++ inside := by
  have h : (word ++ (" \x7b" ++ inside)).takeWhile isWord ++
      (word ++ (" \x7b" ++ inside)).dropWhile isWord = word ++ (" \x7b" ++ inside) :=
    List.takeWhile_append_dropWhile
  rw [takeWhile_word hw] at h
  exact List.append_cancel_left h

theorem isPrefix_headerOf (word inside : Text) : ("type " : Text) <+: headerOf word ++ inside := by
  unfold headerOf
  rw [List.append_assoc, List.append_assoc]
  exact List.prefix_append _ _

theorem drop_headerOf (word inside : Text) :
    (headerOf word ++ inside).drop 5 = word ++ (" \x7b" ++ inside) := by
  unfold headerOf
  rw [List.append_assoc, List.append_assoc]
  exact List.drop_left' rfl

theorem header?_headerOf (hw : ∀ c ∈ word, isWord c) (hl : 4 ≤ word.length)
    (hg : ("Gql" : Text) <:+ word) (inside : Text) :
    header? (headerOf word ++ inside) = some (word, inside) := by
  unfold header?
  simp only [drop_headerOf, takeWhile_word hw, dropWhile_word hw]
  rw [if_pos ⟨isPrefix_headerOf word inside, hl, hg, List.prefix_append _ _⟩]
  rfl

theorem header?_eq_some :
    header? t = some (word, inside) ↔
      t = headerOf word ++ inside ∧ (∀ c ∈ word, isWord c) ∧ 4 ≤ word.length ∧
        ("Gql" : Text) <:+ word := by
  constructor
  · intro h
    unfold header? at h
    simp only at h
    split at h
    · next hc =>
        obtain ⟨⟨u, rfl⟩, hl, hg, ⟨v, hv⟩⟩ := hc
        have hu : ("type " ++ u : Text).drop 5 = u := rfl
        cases h
        rw [hu] at hl hg hv ⊢
        have hv' : v = (u.dropWhile isWord).drop 2 := by rw [← hv]; rfl
        refine ⟨?_, fun c hc => List.mem_takeWhile_imp hc, hl, hg⟩
        unfold headerOf
        rw [← hv', List.append_assoc, List.append_assoc, hv, List.takeWhile_append_dropWhile]
    · cases h
  · rintro ⟨rfl, hw, hl, hg⟩
    exact header?_headerOf hw hl hg inside

theorem mem_headerOf (hw : ∀ c ∈ word, isWord c) {c : Char} (hc : c ∈ headerOf word) :
    isWord c ∨ c = ' ' ∨ c = '\x7b' := by
  have hfixed : ∀ c ∈ ("type " ++ " \x7b" : Text), isWord c ∨ c = ' ' ∨ c = '\x7b' :=
    forall_mem_of_all (by decide)
  unfold headerOf at hc
  rw [List.mem_append, List.mem_append] at hc
  rcases hc with (hc | hc) | hc
  · exact hfixed c (List.mem_append_left _ hc)
  · exact Or.inl (hw c hc)
  · exact hfixed c (List.mem_append_right _ hc)

theorem not_mem_headerOf (hw : ∀ c ∈ word, isWord c) {c : Char} (hc : isWord c = false) (hs : c ≠ ' ')
    (hb : c ≠ '\x7b') : c ∉ headerOf word := by
  intro h
  rcases mem_headerOf hw h with h | h | h
  · rw [hc] at h
    cases h
  · exact hs h
  · exact hb h

theorem newline_not_mem_headerOf (hw : ∀ c ∈ word, isWord c) : '\n' ∉ headerOf word :=
  not_mem_headerOf hw (by decide) (by decide) (by decide)

theorem return_not_mem_headerOf (hw : ∀ c ∈ word, isWord c) : '\r' ∉ headerOf word :=
  not_mem_headerOf hw (by decide) (by decide) (by decide)

/-- Where there is no header there is none in a text that begins, as long as no line ends, in no other
ways. -/
theorem header?_eq_none_of_prefix (h : header? t = none)
    (hbegins : ∀ u, '\n' ∉ u → '\r' ∉ u → u <+: t' → u <+: t) : header? t' = none := by
  cases h' : header? t' with
  | none => rfl
  | some found =>
      obtain ⟨ht, hw, hl, hg⟩ := header?_eq_some.mp h'
      obtain ⟨inside, rfl⟩ := hbegins (headerOf found.1) (newline_not_mem_headerOf hw)
        (return_not_mem_headerOf hw) ⟨found.2, ht.symm⟩
      rw [header?_headerOf hw hl hg] at h
      cases h

/-- The header with which a text begins that comes behind a character, if a line starts there. -/
def begins? (before : Option Char) (t : Text) : Option (Text × Text) :=
  if startsLine before t.head? then header? t else none

@[simp] theorem begins?_nil (before : Option Char) : begins? before [] = none := by
  have hnone : header? [] = none := by
    unfold header?
    exact if_neg (fun h => by simp at h)
  unfold begins?
  rw [hnone, ite_self]

theorem begins?_eq_some {before : Option Char} :
    begins? before t = some (word, inside) ↔
      startsLine before t.head? ∧ header? t = some (word, inside) := by
  unfold begins?
  split
  · next hs => simp [hs]
  · next hs => simp [hs]

/-! ### Bodies -/

/-- The text up to the first closing brace that ends its line, and what is behind it. -/
def closing? : Text → Option (Text × Text)
  | [] => none
  | c :: rest =>
    if c = '\x7d' ∧ endsLine rest.head? then some ([c], rest)
    else (closing? rest).map fun found => (c :: found.1, found.2)

/-- What is behind an opening brace: a character and then the text up to the closing brace, and what
is behind that. -/
def inside? : Text → Option (Text × Text)
  | [] => none
  | c :: rest => (closing? rest).map fun found => (c :: found.1, found.2)

theorem closing?_eq_some (h : closing? t = some (inside, behind)) :
    t = inside ++ behind ∧ ∃ u, inside = u ++ ['\x7d'] := by
  induction t generalizing inside with
  | nil => cases h
  | cons c rest ih =>
      rw [closing?] at h
      split at h
      · next hc =>
          cases h
          exact ⟨rfl, [], by rw [hc.1]; rfl⟩
      · obtain ⟨⟨inside', behind'⟩, hf, hp⟩ := Option.map_eq_some_iff.mp h
        cases hp
        obtain ⟨rfl, u, rfl⟩ := ih hf
        exact ⟨rfl, c :: u, rfl⟩

theorem inside?_eq_some (h : inside? t = some (inside, behind)) :
    t = inside ++ behind ∧ ∃ c u, inside = c :: u ++ ['\x7d'] := by
  cases t with
  | nil => cases h
  | cons c rest =>
      obtain ⟨⟨inside', behind'⟩, hf, hp⟩ := Option.map_eq_some_iff.mp h
      cases hp
      obtain ⟨rfl, u, rfl⟩ := closing?_eq_some hf
      exact ⟨rfl, c, u, rfl⟩

/-- A body without closing braces ends at the first one. -/
theorem closing?_append {body : Text} (hb : '\x7d' ∉ body) (he : endsLine behind.head?) :
    closing? (body ++ '\x7d' :: behind) = some (body ++ ['\x7d'], behind) := by
  induction body with
  | nil =>
      rw [List.nil_append, closing?, if_pos ⟨rfl, he⟩]
      rfl
  | cons c body ih =>
      rw [List.mem_cons, not_or] at hb
      rw [List.cons_append, closing?, if_neg (fun hc => hb.1 hc.1.symm), ih hb.2]
      rfl

/-! ### Prefixes and suffixes -/

/-- A beginning of two texts together is one of the first, or the first and one of the second. -/
theorem prefix_append_cases {α : Type} {l a b : List α} (h : l <+: a ++ b) :
    l <+: a ∨ ∃ l', l = a ++ l' ∧ l' <+: b := by
  obtain ⟨r, hr⟩ := h
  rcases List.append_eq_append_iff.mp hr with ⟨x, rfl, -⟩ | ⟨x, rfl, rfl⟩
  · exact Or.inl (List.prefix_append _ _)
  · exact Or.inr ⟨x, rfl, List.prefix_append _ _⟩

theorem isSome_closing?_of_suffix (h : t' <:+ t) (hs : (closing? t').isSome) : (closing? t).isSome := by
  obtain ⟨u, rfl⟩ := h
  induction u with
  | nil => exact hs
  | cons c u ih =>
      rw [List.cons_append, closing?]
      split
      · rfl
      · rw [Option.isSome_map]
        exact ih

theorem suffix_of_cons_suffix_cons {α : Type} {a b : α} {u v : List α} (h : a :: u <:+ b :: v) :
    u <:+ v := by
  rcases List.suffix_cons_iff.mp h with heq | hsuf
  · cases heq
    exact List.suffix_refl _
  · exact (List.suffix_cons _ _).trans hsuf

theorem isSome_inside?_of_suffix (h : t' <:+ t) (hs : (inside? t').isSome) : (inside? t).isSome := by
  cases t' with
  | nil => cases hs
  | cons c' rest' =>
      cases t with
      | nil => cases List.suffix_nil.mp h
      | cons c rest =>
          unfold inside? at hs ⊢
          rw [Option.isSome_map] at hs ⊢
          exact isSome_closing?_of_suffix (suffix_of_cons_suffix_cons h) hs

/-- Behind an element that is not in front of another one there is no more than behind the other. -/
theorem suffix_of_cons_suffix {α : Type} {a : α} {u v w : List α} (ha : a ∉ u)
    (h : a :: w <:+ u ++ a :: v) : w <:+ v := by
  induction u with
  | nil => exact suffix_of_cons_suffix_cons h
  | cons b u ih =>
      rw [List.mem_cons, not_or] at ha
      rcases List.suffix_cons_iff.mp h with heq | hsuf
      · rw [List.cons.injEq] at heq
        exact absurd heq.1 ha.1
      · exact ih ha.2 hsuf

/-- If a declaration that begins further on has an end, so has the one that begins here. -/
theorem isSome_inside?_of_header? (h : header? t = some (word, inside))
    (h' : header? t' = some (word', inside')) (ht : t' <:+ t) (hs : (inside? inside').isSome) :
    (inside? inside).isSome := by
  obtain ⟨rfl, hw, -, -⟩ := header?_eq_some.mp h
  obtain ⟨rfl, -, -, -⟩ := header?_eq_some.mp h'
  have hbrace : '\x7b' ∉ ("type " ++ word ++ [' '] : Text) := by
    intro hmem
    rw [List.mem_append, List.mem_append] at hmem
    rcases hmem with (hmem | hmem) | hmem
    · revert hmem
      decide
    · have := hw _ hmem
      revert this
      decide
    · revert hmem
      decide
  have hsuf : '\x7b' :: inside' <:+ ("type " ++ word ++ [' '] : Text) ++ '\x7b' :: inside := by
    have hbehind : '\x7b' :: inside' <:+ headerOf word' ++ inside' := by
      refine ⟨"type " ++ word' ++ [' '], ?_⟩
      unfold headerOf
      simp
    have heq : headerOf word ++ inside = ("type " ++ word ++ [' '] : Text) ++ '\x7b' :: inside := by
      unfold headerOf
      simp
    rw [← heq]
    exact hbehind.trans ht
  exact isSome_inside?_of_suffix (suffix_of_cons_suffix hbrace hsuf) hs

theorem length_behind_lt (h : header? t = some (word, inside'))
    (hi : inside? inside' = some (inside, behind)) : behind.length < t.length := by
  obtain ⟨rfl, -⟩ := header?_eq_some.mp h
  obtain ⟨rfl, -⟩ := inside?_eq_some hi
  rw [List.length_append, List.length_append, length_headerOf]
  omega

/-! ### Declarations -/

/-- The declaration with a word in its header. -/
def declarationOf (word inside : Text) : Declaration :=
  ⟨word.take (word.length - 3), headerOf word ++ inside⟩

theorem entity_declarationOf (entity inside : Text) :
    (declarationOf (entity ++ "Gql") inside).entity = entity := by
  have hlen : (entity ++ "Gql" : Text).length - 3 = entity.length := by
    rw [List.length_append]
    exact Nat.add_sub_cancel _ _
  change (entity ++ "Gql" : Text).take ((entity ++ "Gql" : Text).length - 3) = entity
  rw [hlen, List.take_left]

/-- The declarations in a text that comes behind a character, or at the start. -/
def declarationsFrom (before : Option Char) : Text → List Declaration
  | [] => []
  | c :: rest =>
    match _header : begins? before (c :: rest) with
    | none => declarationsFrom (some c) rest
    | some (word, behindBrace) =>
      match _inside : inside? behindBrace with
      | none => []
      | some (inside, behind) => declarationOf word inside :: declarationsFrom (some '\x7d') behind
termination_by t => t.length
decreasing_by
  · exact Nat.lt_succ_self _
  · exact length_behind_lt (begins?_eq_some.mp _header).2 _inside

theorem declarationsFrom_cons {before : Option Char} {c : Char} {rest : Text}
    (h : begins? before (c :: rest) = none) :
    declarationsFrom before (c :: rest) = declarationsFrom (some c) rest := by
  rw [declarationsFrom]
  split
  · rfl
  · next hs => cases h.symm.trans hs

theorem declarationsFrom_of_begins? {before : Option Char} (h : begins? before t = some (word, inside'))
    (hi : inside? inside' = some (inside, behind)) :
    declarationsFrom before t = declarationOf word inside :: declarationsFrom (some '\x7d') behind := by
  cases t with
  | nil => cases (begins?_nil before).symm.trans h
  | cons c rest =>
      rw [declarationsFrom]
      split
      · next hs => cases hs.symm.trans h
      · next hs =>
          cases hs.symm.trans h
          split
          · next hi' => cases hi'.symm.trans hi
          · next hi' =>
              cases hi'.symm.trans hi
              rfl

theorem declarationsFrom_of_inside?_eq_none {before : Option Char}
    (h : begins? before t = some (word, inside')) (hi : inside? inside' = none) :
    declarationsFrom before t = [] := by
  cases t with
  | nil => rw [declarationsFrom]
  | cons c rest =>
      rw [declarationsFrom]
      split
      · next hs => cases hs.symm.trans h
      · next hs =>
          cases hs.symm.trans h
          split
          · rfl
          · next hi' => cases hi'.symm.trans hi

/-- Every declaration is a header with a name in it, a character at least, and a closing brace. -/
theorem exists_of_mem_declarationsFrom {before : Option Char} {d : Declaration}
    (hd : d ∈ declarationsFrom before t) :
    d.entity ≠ [] ∧ (∀ c ∈ d.entity, isWord c) ∧
      ∃ c u, d.block = headerOf (d.entity ++ "Gql") ++ (c :: u ++ ['\x7d']) := by
  fun_induction declarationsFrom before t with
  | case1 before => cases hd
  | case2 before c rest hh ih => exact ih hd
  | case3 before c rest word behindBrace hh hi => cases hd
  | case4 before c rest word behindBrace hh inside behind hi ih =>
      rcases List.mem_cons.mp hd with rfl | hd
      · obtain ⟨-, hw, hl, ⟨entity, rfl⟩⟩ := header?_eq_some.mp (begins?_eq_some.mp hh).2
        obtain ⟨-, x, u, rfl⟩ := inside?_eq_some hi
        rw [List.length_append] at hl
        change 4 ≤ entity.length + 3 at hl
        rw [entity_declarationOf]
        refine ⟨?_, fun c hc => hw c (List.mem_append_left _ hc), x, u, rfl⟩
        rintro rfl
        simp at hl
      · exact ih hd

/-- A block is a piece of the text. -/
theorem block_subset_of_mem_declarationsFrom {before : Option Char} {d : Declaration}
    (hd : d ∈ declarationsFrom before t) : d.block ⊆ t := by
  fun_induction declarationsFrom before t with
  | case1 before => cases hd
  | case2 before c rest hh ih => exact List.Subset.trans (ih hd) (List.subset_cons_self c rest)
  | case3 before c rest word behindBrace hh hi => cases hd
  | case4 before c rest word behindBrace hh inside behind hi ih =>
      obtain ⟨ht, -⟩ := header?_eq_some.mp (begins?_eq_some.mp hh).2
      obtain ⟨rfl, -⟩ := inside?_eq_some hi
      rw [← List.append_assoc] at ht
      rw [ht]
      rcases List.mem_cons.mp hd with rfl | hd
      · exact List.subset_append_left _ _
      · exact List.Subset.trans (ih hd) (List.subset_append_right _ _)

/-- The declarations in a schema. -/
def declarations (schema : Text) : List Declaration := declarationsFrom none schema

end SchemaFragments.Scan
