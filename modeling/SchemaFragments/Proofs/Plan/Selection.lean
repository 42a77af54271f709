import SchemaFragments.Proofs.Plan.Stats
import SchemaFragments.Proofs.AllowList
import SchemaFragments.Proofs.Text
import SchemaFragments.Proofs.Unicode.Upper

/-! # Which entries ask for a document

An entry asks for a name when one of its pieces between commas is that name up to case and to the white
space around it (`Asks`).  The mutation of an entity is planned when its name is asked for, and so is the
query; but the name of the query begins in lower case, so it is the name of the entity up to case only
if the first character comes back from lower case.  An entity whose first character does not is not
selected by its own name (`documents_iff_asks`). -/

namespace SchemaFragments

variable {entity name : Text} {entries : List Text}

/-! ### Names up to case -/

/-- The name of the query is the name of the entity up to case, unless lower case has taken away its
first character. -/
theorem upper_queryName :
    upper (queryName entity) = upper entity ↔ ∀ c ∈ entity.head?, c ∉ lostInLowerCase := by
  cases entity with
  | nil => simp [queryName, decapitalized]
  | cons c rest =>
      have happend : upper (queryName (c :: rest)) = upper (lowerChar c) ++ upper rest :=
        List.flatMap_append
      have hcons : upper (c :: rest) = upperChar c ++ upper rest := List.flatMap_cons
      rw [happend, hcons, List.append_cancel_right_eq, upper_lowerChar]
      simp

theorem queryName_ne_nil (h : entity ≠ []) : queryName entity ≠ [] := by
  cases entity with
  | nil => exact h
  | cons c rest => simp [queryName, decapitalized, lowerChar_ne_nil]

/-- One of the names in the entries is this name, up to case and to white space around it. -/
def Asks (entries : List Text) (name : Text) : Prop :=
  ∃ entry ∈ entries, ∃ piece ∈ Text.splitOn ',' entry, upper (Text.trim piece) = upper name

instance (entries : List Text) (name : Text) : Decidable (Asks entries name) :=
  inferInstanceAs (Decidable (∃ entry ∈ entries, ∃ piece ∈ Text.splitOn ',' entry, _))

theorem asks_congr {other : Text} (h : upper name = upper other) :
    Asks entries name ↔ Asks entries other := by
  unfold Asks
  rw [h]

/-- An entry that is a single identifier asks for itself, up to case, and for nothing else. -/
theorem asks_singleton_iff (h : isIdentifier entity) : Asks [entity] name ↔ upper entity = upper name := by
  have hcomma : ',' ∉ entity := Text.not_mem_of_forall (isIdentifier_iff.mp h).2 (by decide)
  have htrim : Text.trim entity = entity := Text.trim_of_forall fun _ => isBlank_of_mem_identifier h
  unfold Asks
  simp [Text.splitOn_of_not_mem hcomma, htrim]

theorem AllowList.contains_parse_iff (hname : name ≠ []) (htrim : normalize name = upper name) :
    (parse entries).contains name ↔ Asks entries name := by
  rw [contains_iff, mem_names_parse, htrim]
  exact and_iff_right (mt upper_eq_nil.mp hname)

/-! ### Documents -/

namespace Plan

variable {d : Declaration}

theorem isSome_mutation?_iff_asks (h : isIdentifier d.entity) :
    (entityOf (.parse entries) d).mutation?.isSome ↔ Asks entries (mutationName d.entity) := by
  have hname : mutationName d.entity ≠ [] := List.cons_ne_nil 'S' _
  rw [isSome_mutation?_entityOf]
  exact AllowList.contains_parse_iff hname (AllowList.normalize_mutationName h)

theorem isSome_query?_iff_asks (h : isIdentifier d.entity) :
    (entityOf (.parse entries) d).query?.isSome ↔ Asks entries (queryName d.entity) := by
  rw [isSome_query?_entityOf]
  exact AllowList.contains_parse_iff (queryName_ne_nil (isIdentifier_iff.mp h).1)
    (AllowList.normalize_queryName h)

/-- The documents of an entity are those whose operations the entries ask for.  They are selected by the
name of the entity, the mutation with `Save` in front of it, except that lower case may take away the first
character of the name of the query: then, and only then, the name of the entity does not select the
query. -/
theorem documents_iff_asks (h : isIdentifier d.entity) :
    (∀ entries, (entityOf (.parse entries) d).mutation?.isSome ↔ Asks entries ("Save" ++ d.entity)) ∧
      (∀ entries, (entityOf (.parse entries) d).query?.isSome ↔ Asks entries (queryName d.entity)) ∧
      ((∀ entries, (entityOf (.parse entries) d).query?.isSome ↔ Asks entries d.entity) ↔
        ∀ c ∈ d.entity.head?, c ∉ lostInLowerCase) := by
  refine ⟨fun entries => isSome_mutation?_iff_asks h, fun entries => isSome_query?_iff_asks h, ?_⟩
  rw [← upper_queryName]
  constructor
  · intro hall
    have hquery : (entityOf (.parse [d.entity]) d).query?.isSome :=
      (hall _).mpr ((asks_singleton_iff h).mpr rfl)
    exact ((asks_singleton_iff h).mp ((isSome_query?_iff_asks h).mp hquery)).symm
  · intro hupper entries
    rw [isSome_query?_iff_asks h]
    exact asks_congr hupper

/-- The sign of the kelvin: a letter, and its small letter is the common k. -/
def kelvin : Declaration := ⟨"\u212a", "type \u212aGql \x7b\n  id: Int\n\x7d"⟩

/-- The name selects the mutation, with `save` in front of it, but not the query; the letter k does. -/
theorem documents_iff_asks_kelvin :
    isIdentifier kelvin.entity ∧
      (entityOf (.parse ["other, save\u212a "]) kelvin).mutation?.isSome ∧
      (entityOf (.parse ["k"]) kelvin).query?.isSome ∧
      ¬ ∀ entries, (entityOf (.parse entries) kelvin).query?.isSome ↔ Asks entries kelvin.entity := by
  have hname : isIdentifier kelvin.entity := by decide +kernel
  obtain ⟨hmutation, hquery, hselected⟩ := documents_iff_asks hname
  have hlost : '\u212a' ∈ lostInLowerCase := by decide
  exact ⟨hname, (hmutation _).mpr (by decide +kernel), (hquery _).mpr (by decide +kernel),
    fun hall => hselected.mp hall _ rfl hlost⟩

end Plan

end SchemaFragments
