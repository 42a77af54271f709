import Mathlib.Tactic.SplitIfs
import SchemaFragments.Files.Tree
import SchemaFragments.Proofs.Text

/-! # Where paths lead

A list of names that is followed without an error leads to a location that does not depend on the
tree: each name is appended, and two dots go back by one (`resolve`).  What depends on the tree is
whether the names can be followed at all; `FileTree.Walkable` says that every one of them leads into
a folder, and then a further name is found at its place (`follow_concat`).

The names of a joined path are those of its parts (`names_join`), so the location of a file below a
folder is that of the folder with the name of the file at its end. -/

namespace SchemaFragments

/-! ### The names in a path -/

namespace Path

/-- A name that leads to a file or folder of that name: it is neither empty nor made of dots only,
and no slash parts it. -/
structure Plain (name : Text) : Prop where
  noSlash : '/' ∉ name
  ne_nil : name ≠ []
  ne_dot : name ≠ ['.']
  ne_dots : name ≠ ['.', '.']

theorem names_slash (a b : Path) : names (a ++ '/' :: b) = names a ++ names b := by
  unfold names
  rw [Text.splitOn_append, List.filter_append]

theorem names_nil : names [] = [] := rfl

theorem names_plain {name : Text} (h : Plain name) : names name = [name] := by
  unfold names
  rw [Text.splitOn_of_not_mem h.noSlash]
  have h1 := h.ne_nil
  have h2 := h.ne_dot
  simp [h1, h2]

theorem Plain.head?_ne {name : Text} (h : Plain name) : name.head? ≠ some '/' :=
  fun hs => h.noSlash (List.mem_of_mem_head? hs)

theorem names_join (base : Path) {name : Text} (h : Plain name) :
    names (join base name) = names base ++ [name] := by
  unfold join
  rw [if_neg h.head?_ne]
  split_ifs with hb
  · rcases hb with rfl | hb
    · rw [List.nil_append, names_plain h, names_nil, List.nil_append]
    · obtain ⟨front, rfl⟩ := List.getLast?_eq_some_iff.mp hb
      rw [names_slash, names_nil, List.append_nil, List.append_assoc, List.singleton_append,
        names_slash, names_plain h]
  · rw [List.append_assoc, List.singleton_append, names_slash, names_plain h]

theorem join_eq (base : Path) {name : Text} (h : Plain name) :
    ∃ front, join base name = front ++ name ∧ ∀ c ∈ front, c ∈ base ∨ c = '/' := by
  unfold join
  rw [if_neg h.head?_ne]
  split_ifs with hb
  · exact ⟨base, rfl, fun c hc => .inl hc⟩
  · exact ⟨base ++ ['/'], rfl, fun c hc => by simpa using hc⟩

/-! ### Locations -/

/-- The location of a name seen from a location. -/
def into (here : Location) (name : Text) : Location :=
  if name = ['.', '.'] then here.dropLast else here ++ [name]

/-- The location to which names lead from a location, if they can be followed. -/
def resolveFrom (here : Location) (names : List Text) : Location := names.foldl into here

/-- The location to which names lead, if they can be followed. -/
def resolve (names : List Text) : Location := resolveFrom [] names

theorem resolveFrom_cons (here : Location) (name : Text) (rest : List Text) :
    resolveFrom here (name :: rest) = resolveFrom (into here name) rest := rfl

theorem into_plain {name : Text} (h : Plain name) (here : Location) :
    into here name = here ++ [name] := if_neg h.ne_dots

theorem resolve_concat (names : List Text) (name : Text) :
    resolve (names ++ [name]) = into (resolve names) name := by
  unfold resolve resolveFrom
  rw [List.foldl_append]
  rfl

theorem resolve_concat_plain (names : List Text) {name : Text} (h : Plain name) :
    resolve (names ++ [name]) = resolve names ++ [name] := by
  rw [resolve_concat, into_plain h]

end Path

namespace FileTree

open SchemaFragments.Path

variable {t t' : FileTree} {here l : Location} {name : Text} {names rest : List Text}

theorem step_eq (here : Location) (name : Text) :
    step here name =
      if name ≠ ['.', '.'] ∧ nameLimit < byteLength name then .error .nameTooLong
      else .ok (into here name) := by
  unfold step into
  by_cases h : name = ['.', '.']
  · simp [h]
  · by_cases hl : nameLimit < byteLength name <;> simp [h, hl]

theorem step_ok (h : step here name = .ok l) : l = into here name := by
  rw [step_eq] at h
  split_ifs at h
  exact (Except.ok.inj h).symm

theorem enter_eq_ok : t.enter here name = .ok l ↔ step here name = .ok l ∧ t.entry? l = some .folder := by
  unfold enter
  cases hs : step here name with
  | error e => simp
  | ok l' =>
      constructor
      · intro h
        cases he : t.entry? l' with
        | none => simp [he] at h
        | some e =>
            cases e with
            | file c => simp [he] at h
            | folder =>
                simp only [he] at h
                cases h
                exact ⟨rfl, he⟩
      · rintro ⟨h, he⟩
        cases h
        simp [he]

theorem follow_cons_ne_nil (h : rest ≠ []) :
    t.follow here (name :: rest) =
      match t.enter here name with
      | .error e => .error e
      | .ok l => t.follow l rest := by
  obtain ⟨next, more, rfl⟩ := List.exists_cons_of_ne_nil h
  rfl

/-! ### Names that lead into folders -/

/-- Every one of the names leads into a folder. -/
def Walkable (t : FileTree) : Location → List Text → Prop
  | _, [] => True
  | here, name :: rest => t.enter here name = .ok (into here name) ∧ t.Walkable (into here name) rest

theorem follow_concat (h : t.Walkable here names) :
    t.follow here (names ++ [name]) = step (resolveFrom here names) name := by
  induction names generalizing here with
  | nil => rfl
  | cons first rest ih =>
      rw [List.cons_append, follow_cons_ne_nil (by simp), h.1]
      exact ih h.2

theorem walkable_append :
    t.Walkable here (names ++ rest) ↔ t.Walkable here names ∧ t.Walkable (resolveFrom here names) rest := by
  induction names generalizing here with
  | nil => simp [Walkable, resolveFrom]
  | cons first names ih =>
      rw [List.cons_append, Walkable, Walkable, ih, and_assoc, resolveFrom_cons]

theorem walkable_concat (h : t.Walkable here names) (hl : t.follow here (names ++ [name]) = .ok l)
    (he : t.entry? l = some .folder) : t.Walkable here (names ++ [name]) := by
  rw [follow_concat h] at hl
  obtain rfl := step_ok hl
  rw [walkable_append]
  exact ⟨h, enter_eq_ok.mpr ⟨hl, he⟩, trivial⟩

theorem Walkable.folder (h : t.Walkable [] (names ++ [name])) :
    t.entry? (resolve (names ++ [name])) = some .folder := by
  rw [walkable_append] at h
  rw [resolve_concat]
  exact (enter_eq_ok.mp h.2.1).2

theorem follow_ok (h : t.follow here names = .ok l) : l = resolveFrom here names := by
  induction names generalizing here with
  | nil => cases h; rfl
  | cons first rest ih =>
      by_cases hr : rest = []
      · subst hr
        exact step_ok h
      · rw [follow_cons_ne_nil hr] at h
        cases he : t.enter here first with
        | error e => simp [he] at h
        | ok l' =>
            rw [he] at h
            obtain rfl := step_ok (enter_eq_ok.mp he).1
            exact ih h

theorem follow_of_walkable (h : t.Walkable here names) :
    t.follow here names = .ok (resolveFrom here names) := by
  induction names generalizing here with
  | nil => rfl
  | cons first rest ih =>
      by_cases hr : rest = []
      · subst hr
        exact (enter_eq_ok.mp h.1).1
      · rw [follow_cons_ne_nil hr, h.1]
        exact ih h.2

/-- Names that can be followed into a folder are followed through folders. -/
theorem walkable_of_follow (h : t.follow here names = .ok l) (he : t.entry? l = some .folder) :
    t.Walkable here names := by
  induction names generalizing here with
  | nil => trivial
  | cons first rest ih =>
      by_cases hr : rest = []
      · subst hr
        obtain rfl := step_ok h
        exact ⟨enter_eq_ok.mpr ⟨h, he⟩, trivial⟩
      · rw [follow_cons_ne_nil hr] at h
        cases hf : t.enter here first with
        | error e => simp [hf] at h
        | ok l' =>
            rw [hf] at h
            obtain rfl := step_ok (enter_eq_ok.mp hf).1
            exact ⟨hf, ih h⟩

/-! ### More folders -/

/-- Every folder of one tree is a folder of the other. -/
def FoldersWithin (t t' : FileTree) : Prop := ∀ l, t.entry? l = some .folder → t'.entry? l = some .folder

theorem FoldersWithin.refl (t : FileTree) : t.FoldersWithin t := fun _ h => h

theorem FoldersWithin.trans {t'' : FileTree} (h : t.FoldersWithin t') (h' : t'.FoldersWithin t'') :
    t.FoldersWithin t'' := fun l hl => h' l (h l hl)

theorem FoldersWithin.enter (h : t.FoldersWithin t') (he : t.enter here name = .ok l) :
    t'.enter here name = .ok l := by
  rw [enter_eq_ok] at he ⊢
  exact ⟨he.1, h l he.2⟩

theorem FoldersWithin.walkable (h : t.FoldersWithin t') (hw : t.Walkable here names) :
    t'.Walkable here names := by
  induction names generalizing here with
  | nil => trivial
  | cons first rest ih => exact ⟨h.enter hw.1, ih hw.2⟩

theorem FoldersWithin.follow (h : t.FoldersWithin t') (hf : t.follow here names = .ok l) :
    t'.follow here names = .ok l := by
  induction names generalizing here with
  | nil => exact hf
  | cons first rest ih =>
      by_cases hr : rest = []
      · subst hr
        exact hf
      · rw [follow_cons_ne_nil hr] at hf ⊢
        cases he : t.enter here first with
        | error e => simp [he] at hf
        | ok l' =>
            rw [he] at hf
            rw [h.enter he]
            exact ih hf

end FileTree

end SchemaFragments
