import SchemaFragments.Proofs.Extraction.Blocks
import SchemaFragments.Proofs.Plan.Entities
import SchemaFragments.Proofs.Text

/-! # The name that the default pattern finds in a block

In the header of a block the greedy repetition in front of `Gql` stops where the last `Gql` of the
word begins (`follow_entity`), and the rest of the pattern takes the whole block.  So nothing is left
of the block but the name in front of that `Gql` (`entityName?_headerOf`), and extraction by the
default patterns gives the declarations that the scan reads (`extract_default`). -/

namespace SchemaFragments

open Regex Regex.Pattern Scan

/-! ### Names and white space -/

theorem isBlank_of_isWord {c : Char} (h : isWord c) : isBlank c = false := by
  have hranges : ∀ r ∈ blankRanges, ∀ i < r.2 + 1 - r.1, wordRanges.mem (r.1 + i) = false := by
    decide +kernel
  cases hb : isBlank c with
  | false => rfl
  | true =>
      obtain ⟨r, hr, hlo, hhi⟩ := CodeRanges.exists_of_mem hb
      have hnot := hranges r hr (c.toNat - r.1) (by omega)
      rw [Nat.add_sub_cancel' hlo] at hnot
      unfold isWord at h
      rw [hnot] at h
      cases h

theorem isIdentifier_iff {name : Text} : isIdentifier name ↔ name ≠ [] ∧ ∀ c ∈ name, isWord c := by
  unfold isIdentifier
  simp

namespace Patterns

variable {p : Place} {n : Nat} {groups : List (Nat × Captured)} {entity inside : Text}

/-! ### The match -/

theorem isWord_of_mem_word (he : ∀ c ∈ entity, isWord c) {c : Char} (hc : c ∈ entity ++ ("Gql" : Text)) :
    isWord c := by
  rcases List.mem_append.mp hc with hc | hc
  · exact he c hc
  · have hall : ("Gql" : Text).all isWord = true := by decide
    exact List.all_eq_true.mp hall c hc

/-- Behind a name and `Gql` the run of word characters stops; it can stop earlier as well. -/
theorem stops_word (he : ∀ c ∈ entity, isWord c) (hne : entity ≠ [])
    (ht : p.rest.drop n = entity ++ "Gql" ++ (" \x7b" ++ inside)) :
    Match.stops .word 1 true n (p.rest.drop n) =
      (n + entity.length + 3) :: (n + entity.length + 2) :: (n + entity.length + 1) ::
        (n + entity.length) :: (List.range' (n + 1) (entity.length - 1)).reverse := by
  obtain ⟨e, hlen⟩ := Nat.exists_eq_add_one_of_ne_zero (mt List.length_eq_zero_iff.mp hne)
  have hword : ((entity ++ "Gql" ++ (" \x7b" ++ inside) : Text).takeWhile CharSet.word.mem).length =
      e + 4 := by
    refine (congrArg List.length (takeWhile_word (fun c => isWord_of_mem_word he) inside)).trans ?_
    rw [List.length_append, hlen]
    rfl
  have hrange : List.range' (n + 1) (e + 4) = List.range' (n + 1) e ++ List.range' (n + 1 + e) 4 :=
    List.range'_append_1.symm
  have hn : n + entity.length = n + 1 + e := by omega
  unfold Match.stops
  rw [ht, hword, Nat.add_sub_cancel, hrange, hn, hlen, Nat.add_sub_cancel]
  simp [List.range'_succ]

theorem follow_entity (he : ∀ c ∈ entity, isWord c) (hne : entity ≠ [])
    (ht : p.rest.drop n = entity ++ "Gql" ++ (" \x7b" ++ inside)) :
    ∃ ms, (text "Gql").follow ((group 1 (repeated 1 none true (set .word))).follow
        [p.matched n groups]) =
      p.matched (n + entity.length + 3) ((1, ⟨p.rest.drop n, entity.length⟩) :: groups) :: ms := by
  have htake (i : Nat) : ((p.matched i groups).close 1 (p.matched n groups).stop).takeText? "Gql" =
      if ("Gql" : Text) <+: p.rest.drop i then
        some (p.matched (i + 3) ((1, ⟨p.rest.drop n, p.index + i - (p.index + n)⟩) :: groups))
      else none :=
    Match.takeText?_matched (p := p) _
  have hdrop (k : Nat) : p.rest.drop (n + entity.length + k) = ("Gql \x7b" ++ inside : Text).drop k := by
    rw [← List.drop_drop, ← List.drop_drop, ht, List.append_assoc, List.drop_left]
    rfl
  have hnot {i k : Nat} {c : Char} {rest : Text} (hi : i = n + entity.length + k)
      (hk : ("Gql \x7b" ++ inside : Text).drop k = c :: rest) (hc : c ≠ 'G') :
      ((p.matched i groups).close 1 (p.matched n groups).stop).takeText? "Gql" = none := by
    rw [htake, if_neg]
    rw [hi, hdrop, hk]
    rintro ⟨u, hu⟩
    exact hc (List.cons.inj hu).1.symm
  have hname : ((p.matched (n + entity.length) groups).close 1 (p.matched n groups).stop).takeText? "Gql" =
      some (p.matched (n + entity.length + 3) ((1, ⟨p.rest.drop n, entity.length⟩) :: groups)) := by
    have hlen : p.index + (n + entity.length) - (p.index + n) = entity.length := by omega
    rw [htake, if_pos, hlen]
    rw [← Nat.add_zero (n + entity.length), hdrop]
    exact ⟨" \x7b" ++ inside, rfl⟩
  have hgroup := follow_group_matched 1 (repeated 1 none true (set .word)) (p.matched n groups)
  rw [follow_repeated_matched, Place.map_length_matched] at hgroup
  rw [hgroup (Match.nodup_stops _ _ _ _ _), stops_word he hne ht, follow_text]
  simp only [List.map_cons]
  -- The three longest runs end inside of the last `Gql` or behind it, the next one in front of it.
  rw [List.filterMap_cons_none (hnot rfl rfl (by decide)),
    List.filterMap_cons_none (hnot rfl rfl (by decide)),
    List.filterMap_cons_none (hnot rfl rfl (by decide)), List.filterMap_cons_some hname]
  exact ⟨_, rfl⟩

theorem head?_follow_rest (hn : n ≤ p.rest.length) (ms : List Match) :
    ((look .textEnd).follow ((repeated 0 none true (set .all)).follow
        (p.matched n groups :: ms))).head? = some (p.matched p.rest.length groups) := by
  have hlast : ((Match.stops .all 0 true n (p.rest.drop n)).map (p.matched · groups)).head? =
      some (p.matched p.rest.length groups) := by
    rw [Match.stops_all, if_pos rfl, List.head?_map, List.head?_reverse, List.getLast?_range',
      List.length_drop, if_neg (by omega)]
    have hlen : n + 0 + (p.rest.length - n + 1 - 0) - 1 = p.rest.length := by omega
    rw [Option.map_some, hlen]
  have hhead := @head?_follow_repeated p n groups .all 0 true ms
  rw [hlast] at hhead
  obtain ⟨later, hlater⟩ := List.head?_eq_some_iff.mp hhead
  have hend : Look.textEnd.holds (p.ahead p.rest.length) = true := by
    unfold Look.holds
    rw [Place.rest_ahead, List.drop_length]
    rfl
  rw [hlater, follow_look, List.filterMap_cons, Match.look?_matched, if_pos hend]
  rfl

/-- The name pattern matches the whole of a block from its start. -/
theorem matchAt?_standardName (he : ∀ c ∈ entity, isWord c) (hne : entity ≠ [])
    (hb : p.before = none) (ht : p.rest = headerOf (entity ++ "Gql") ++ inside) :
    standardName.matchAt? p =
      some (p.matched p.rest.length [(1, ⟨p.rest.drop 5, entity.length⟩)]) := by
  have hstart : Look.textStart.holds p = true := by
    unfold Look.holds
    rw [hb]
    rfl
  have htype : ("type " : Text) <+: p.rest.drop 0 := by
    rw [ht]
    exact isPrefix_headerOf _ _
  have hdrop : p.rest.drop 5 = entity ++ "Gql" ++ (" \x7b" ++ inside) := by
    rw [ht, drop_headerOf]
  have hlen : 5 + entity.length + 3 ≤ p.rest.length := by
    rw [ht, List.length_append, length_headerOf, List.length_append]
    change 5 + entity.length + 3 ≤ entity.length + 3 + 7 + inside.length
    omega
  obtain ⟨ms, hms⟩ := @follow_entity p 5 [] entity inside he hne hdrop
  rw [matchAt?_eq, standardName]
  simp only [follow_seq]
  rw [follow_look_matched, Place.ahead_zero, if_pos hstart, follow_text_matched, if_pos htype]
  change (follow _ (follow _ (follow _ (follow _ [p.matched 5 []])))).head? = _
  rw [hms, head?_follow_rest hlen]

theorem matchAt?_standardName_of_not (h : ¬ ("type " : Text) <+: p.rest) :
    standardName.matchAt? p = none := by
  rw [matchAt?_eq, standardName]
  simp only [follow_seq]
  rw [follow_look_matched]
  by_cases hs : Look.textStart.holds (p.ahead 0)
  · rw [if_pos hs, follow_text_matched, if_neg (show ¬ ("type " : Text) <+: p.rest.drop 0 from h)]
    rfl
  · rw [if_neg hs]
    rfl

theorem allMatches_standardName (he : ∀ c ∈ entity, isWord c) (hne : entity ≠ []) {block : Text}
    (hb : block = headerOf (entity ++ "Gql") ++ inside) :
    standardName.allMatches block =
      [(Place.start block).matched block.length [(1, ⟨block.drop 5, entity.length⟩)]] := by
  have hfirst := @matchAt?_standardName (Place.start block) entity inside he hne rfl hb
  refine allMatches_of_find? (find?_of_matchAt? hfirst) ?_
  have hrest : ((Place.start block).ahead block.length).rest = [] := List.drop_length
  change standardName.find? ((Place.start block).ahead block.length) = none
  rw [find?_of_rest_nil hrest]
  apply matchAt?_standardName_of_not
  rw [hrest, List.prefix_nil]
  decide

/-! ### The name -/

theorem substituted_headerOf (he : ∀ c ∈ entity, isWord c) (hne : entity ≠ []) (inside : Text) :
    standard.substituted (headerOf (entity ++ "Gql") ++ inside) = entity := by
  generalize hb : headerOf (entity ++ "Gql") ++ inside = block
  have hname : (block.drop 5).take entity.length = entity := by
    rw [← hb, drop_headerOf, List.append_assoc, List.take_left]
  have hleft : standardName.replaceAll (·.group 1) block = entity := by
    unfold replaceAll
    rw [allMatches_standardName he hne hb.symm]
    change [] ++ (block.drop 5).take entity.length ++ block.drop block.length = entity
    rw [hname, List.drop_length, List.append_nil, List.nil_append]
  unfold substituted
  change Text.trim (standardName.replaceAll (·.group 1) block) = entity
  rw [hleft]
  exact Text.trim_of_forall fun c hc => isBlank_of_isWord (he c hc)

theorem entityName?_headerOf (he : ∀ c ∈ entity, isWord c) (hne : entity ≠ []) (inside : Text) :
    standard.entityName? (headerOf (entity ++ "Gql") ++ inside) = some entity := by
  have hmatch : standard.name.isMatch (headerOf (entity ++ "Gql") ++ inside) = true := by
    have hfirst := @matchAt?_standardName (Place.start (headerOf (entity ++ "Gql") ++ inside)) entity
      inside he hne rfl rfl
    unfold isMatch
    rw [show standard.name = standardName from rfl, find?_of_matchAt? hfirst]
    rfl
  unfold entityName?
  rw [substituted_headerOf he hne, if_pos ⟨hmatch, isIdentifier_iff.mpr ⟨hne, he⟩⟩]

/-! ### Extraction -/

theorem entityName?_of_mem_declarationsFrom {before : Option Char} {t : Text} {d : Declaration}
    (hd : d ∈ declarationsFrom before t) : standard.entityName? d.block = some d.entity := by
  obtain ⟨hne, hw, c, u, hb⟩ := exists_of_mem_declarationsFrom hd
  rw [hb]
  exact entityName?_headerOf hw hne _

theorem extract_standard (schema : Text) : standard.extract schema = .ok (declarations schema) :=
  extract_eq_ok.mpr ⟨blocks_standard schema, fun _ => entityName?_of_mem_declarationsFrom⟩

/-- The default pattern texts compile, and extraction by them gives the declarations that the scan
reads in the schema. -/
theorem extract_default :
    ∃ p, compile defaultBlock defaultName = .ok p ∧
      ∀ schema, p.extract schema = .ok (declarations schema) :=
  ⟨standard, compile_default, extract_standard⟩

end Patterns

end SchemaFragments
