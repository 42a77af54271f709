import SchemaFragments.AllowList
import SchemaFragments.Proofs.Extraction.Names
import SchemaFragments.Proofs.Unicode.Case

/-! # The names of an allow-list

An allow-list holds its names as an ordered set, so they are listed in strictly increasing order of
code points (`pairwise_names`), and a name is allowed when its normal form is among those listed
(`contains_iff`).  Nothing has to be trimmed off the names of the operations of an entity: these are
compared in upper case (`normalize_mutationName`, `normalize_queryName`). -/

namespace SchemaFragments

/-! ### The order of texts -/

theorem Char.compare_eq_lt {c d : Char} : compare c d = .lt ↔ c < d :=
  compareOfLessAndEq_eq_lt

theorem Char.compare_eq_eq {c d : Char} : compare c d = .eq ↔ c = d :=
  Std.LawfulEqCmp.compare_eq_iff_eq

/-- The comparison of texts is the order of code points, the first difference deciding. -/
theorem Text.compare_eq_lt {t u : Text} : compare t u = .lt ↔ t < u := by
  change List.compareLex compare t u = .lt ↔ t < u
  induction t generalizing u with
  | nil =>
      cases u with
      | nil => simp [List.compareLex_nil_nil]
      | cons d u => simp [List.compareLex_nil_cons]
  | cons c t ih =>
      cases u with
      | nil => simp [List.compareLex_cons_nil]
      | cons d u =>
          rw [List.compareLex_cons_cons, List.cons_lt_cons_iff, Ordering.then_eq_lt, ih,
            Char.compare_eq_lt, Char.compare_eq_eq]

/-! ### Names of operations -/

variable {entity : Text} {c : Char}

theorem isBlank_of_mem_identifier (h : isIdentifier entity) (hc : c ∈ entity) : isBlank c = false :=
  isBlank_of_isWord ((isIdentifier_iff.mp h).2 c hc)

theorem isBlank_of_mem_mutationName (h : isIdentifier entity) (hc : c ∈ mutationName entity) :
    isBlank c = false := by
  have hsave : ∀ c ∈ ("Save" : Text), isBlank c = false := Scan.forall_mem_of_all (by decide)
  rcases List.mem_append.mp hc with hc | hc
  · exact hsave c hc
  · exact isBlank_of_mem_identifier h hc

theorem isBlank_of_mem_queryName (h : isIdentifier entity) (hc : c ∈ queryName entity) :
    isBlank c = false := by
  cases entity with
  | nil => cases hc
  | cons d rest =>
      rcases List.mem_append.mp hc with hc | hc
      · exact isBlank_lowerChar (isBlank_of_mem_identifier h List.mem_cons_self) hc
      · exact isBlank_of_mem_identifier h (List.mem_cons_of_mem d hc)

namespace AllowList

theorem normalize_mutationName (h : isIdentifier entity) :
    normalize (mutationName entity) = upper (mutationName entity) :=
  congrArg upper (Text.trim_of_forall fun _ => isBlank_of_mem_mutationName h)

theorem normalize_queryName (h : isIdentifier entity) :
    normalize (queryName entity) = upper (queryName entity) :=
  congrArg upper (Text.trim_of_forall fun _ => isBlank_of_mem_queryName h)

/-! ### Names allowed -/

variable {l : AllowList} {n operation : Text}

theorem mem_names : n ∈ l.names ↔ n ∈ l.members :=
  Std.ExtTreeSet.mem_toList

theorem contains_iff : l.contains operation ↔ normalize operation ∈ l.names := by
  rw [mem_names, Std.ExtTreeSet.mem_iff_contains]
  rfl

/-- The names read from entries are the pieces between commas in their normal form, the empty ones
left out. -/
theorem mem_names_parse {entries : List Text} :
    n ∈ (parse entries).names ↔
      n ≠ [] ∧ ∃ entry ∈ entries, ∃ piece ∈ Text.splitOn ',' entry, normalize piece = n := by
  rw [mem_names]
  unfold parse entryNames
  simp [Std.ExtTreeSet.mem_ofList, and_comm, and_left_comm]

theorem contains_mutationName_iff (h : isIdentifier entity) :
    l.contains (mutationName entity) ↔ upper (mutationName entity) ∈ l.names := by
  rw [contains_iff, normalize_mutationName h]

theorem contains_queryName_iff (h : isIdentifier entity) :
    l.contains (queryName entity) ↔ upper (queryName entity) ∈ l.names := by
  rw [contains_iff, normalize_queryName h]

/-- The names are listed in strictly increasing order, so each of them once. -/
theorem pairwise_names (l : AllowList) : l.names.Pairwise (· < ·) := by
  have hordered : l.names.Pairwise fun a b => compare a b = .lt := Std.ExtTreeSet.ordered_toList
  exact hordered.imp Text.compare_eq_lt.mp

end AllowList

end SchemaFragments
