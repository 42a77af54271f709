import SchemaFragments.Proofs.Extraction.Scan
import SchemaFragments.Proofs.Extraction.Standard
import SchemaFragments.Proofs.Regex.Search

/-! # The blocks that the default pattern finds

`standardBlock` matches at a place if and only if a declaration begins there and has an end, and the
match is the text of the declaration (`matchAt?_standardBlock`).  Of the lengths that the greedy
repetition in front of `Gql {` can stop at, one at most is followed by that text
(`isPrefix_drop_word_iff`); of those of the lazy repetition the search takes the first that a closing
brace at the end of a line follows (`head?_follow_inside`).  So the blocks of a schema are the
declarations that the scan reads (`blocks_standard`). -/

namespace SchemaFragments

open Regex Regex.Pattern Scan

/-- What a function makes of a list in which it makes something of one element at most. -/
theorem filterMap_of_unique {α β : Type} {f : α → Option β} {l : List α} {a : α} (hl : l.Nodup)
    (ha : a ∈ l) (hf : ∀ x ∈ l, x ≠ a → f x = none) : l.filterMap f = (f a).toList := by
  induction l with
  | nil => cases ha
  | cons x l ih =>
      rw [List.nodup_cons] at hl
      rw [List.forall_mem_cons] at hf
      by_cases hx : x = a
      · subst hx
        have hnil : l.filterMap f = [] := by
          rw [List.filterMap_eq_nil_iff]
          intro y hy
          exact hf.2 y hy (fun he => hl.1 (he ▸ hy))
        rw [List.filterMap_cons, hnil]
        cases f x <;> rfl
      · rw [List.filterMap_cons_none (hf.1 hx)]
        exact ih hl.2 ((List.mem_cons.mp ha).resolve_left (Ne.symm hx)) hf.2

namespace Patterns

variable {p : Place} {n : Nat} {groups : List (Nat × Captured)}

/-! ### The word -/

/-- In a word and what follows it `Gql {` stands nowhere but at the end of the word. -/
theorem isPrefix_drop_word_iff {word behind : Text} (hw : ∀ c ∈ word, isWord c)
    (hb : behind.takeWhile isWord = []) {j : Nat} (hj : j ≤ word.length) :
    ("Gql \x7b" : Text) <+: (word ++ behind).drop j ↔
      j + 3 = word.length ∧ ("Gql" : Text) <:+ word ∧ (" \x7b" : Text) <+: behind := by
  rw [List.drop_append_of_le_length hj]
  constructor
  · rintro ⟨z, hz⟩
    have hrun : ("Gql \x7b" ++ z : Text).takeWhile isWord = "Gql" := by
      have hG : isWord 'G' = true := by decide
      have hq : isWord 'q' = true := by decide
      have hl : isWord 'l' = true := by decide
      have hblank : ¬ isWord ' ' = true := by decide
      change ('G' :: 'q' :: 'l' :: ' ' :: '\x7b' :: z).takeWhile isWord = _
      rw [List.takeWhile_cons_of_pos hG, List.takeWhile_cons_of_pos hq,
        List.takeWhile_cons_of_pos hl, List.takeWhile_cons_of_neg hblank]
      rfl
    have hdrop : word.drop j = "Gql" := by
      rw [hz, List.takeWhile_append_of_pos fun c hc => hw c (List.mem_of_mem_drop hc), hb,
        List.append_nil] at hrun
      exact hrun
    have hlen := congrArg List.length hdrop
    rw [List.length_drop] at hlen
    change word.length - j = 3 at hlen
    refine ⟨by omega, ⟨word.take j, ?_⟩, ⟨z, ?_⟩⟩
    · rw [← hdrop, List.take_append_drop]
    · rw [hdrop] at hz
      exact List.append_cancel_left (show ("Gql" ++ (" \x7b" ++ z) : Text) = "Gql" ++ behind from hz)
  · rintro ⟨hk, ⟨v, rfl⟩, ⟨z, rfl⟩⟩
    have hv : j = v.length := by
      rw [List.length_append] at hk
      change j + 3 = v.length + 3 at hk
      omega
    rw [hv, List.drop_left]
    exact ⟨z, rfl⟩

theorem mem_stops_word {t : Text} {i : Nat} :
    i ∈ Match.stops .word 1 true n t ↔ n + 1 ≤ i ∧ i ≤ n + (t.takeWhile isWord).length := by
  unfold Match.stops
  simp only [if_pos, List.mem_reverse, List.mem_range'_1, Nat.add_sub_cancel]
  change _ ∧ i < n + 1 + (t.takeWhile isWord).length ↔ _
  omega

theorem takeWhile_dropWhile (t : Text) : (t.dropWhile isWord).takeWhile isWord = [] := by
  have h : (t.takeWhile isWord ++ t.dropWhile isWord).takeWhile isWord = t.takeWhile isWord := by
    rw [List.takeWhile_append_dropWhile]
  rw [List.takeWhile_append_of_pos fun c hc => List.mem_takeWhile_imp hc] at h
  exact List.append_right_eq_self.mp h

theorem isPrefix_drop_of_mem_stops {t : Text} {i : Nat} (ht : p.rest.drop n = t)
    (hi : i ∈ Match.stops .word 1 true n t) :
    ("Gql \x7b" : Text) <+: p.rest.drop i ↔
      i + 3 = n + (t.takeWhile isWord).length ∧ ("Gql" : Text) <:+ t.takeWhile isWord ∧
        (" \x7b" : Text) <+: t.dropWhile isWord := by
  obtain ⟨hlo, hhi⟩ := mem_stops_word.mp hi
  obtain ⟨j, rfl⟩ := Nat.exists_eq_add_of_le (Nat.le_of_succ_le hlo)
  have hj : j ≤ (t.takeWhile isWord).length := by omega
  have hword := isPrefix_drop_word_iff (fun c hc => List.mem_takeWhile_imp hc)
    (takeWhile_dropWhile t) hj
  rw [List.takeWhile_append_dropWhile, ← ht, List.drop_drop, ht] at hword
  have hlen : j + 3 = (t.takeWhile isWord).length ↔ n + j + 3 = n + (t.takeWhile isWord).length := by
    omega
  rw [hword, hlen]

theorem follow_word {t : Text} (ht : p.rest.drop n = t) :
    (text "Gql \x7b").follow ((repeated 1 none true (set .word)).follow [p.matched n groups]) =
      if 4 ≤ (t.takeWhile isWord).length ∧ ("Gql" : Text) <:+ t.takeWhile isWord ∧
          (" \x7b" : Text) <+: t.dropWhile isWord
      then [p.matched (n + (t.takeWhile isWord).length + 2) groups] else [] := by
  have htake (i : Nat) : (p.matched i groups).takeText? "Gql \x7b" =
      if ("Gql \x7b" : Text) <+: p.rest.drop i then some (p.matched (i + 5) groups) else none :=
    Match.takeText?_matched _
  rw [follow_repeated_matched, ht, follow_text, List.filterMap_map]
  by_cases hc : 4 ≤ (t.takeWhile isWord).length ∧ ("Gql" : Text) <:+ t.takeWhile isWord ∧
      (" \x7b" : Text) <+: t.dropWhile isWord
  · obtain ⟨hl, hends⟩ := hc
    have hmem : n + (t.takeWhile isWord).length - 3 ∈ Match.stops .word 1 true n t := by
      rw [mem_stops_word]
      omega
    rw [if_pos ⟨hl, hends⟩, filterMap_of_unique (Match.nodup_stops _ _ _ _ _) hmem]
    · have hpre := (isPrefix_drop_of_mem_stops ht hmem).mpr ⟨by omega, hends⟩
      have hlen : n + (t.takeWhile isWord).length - 3 + 5 = n + (t.takeWhile isWord).length + 2 := by
        omega
      rw [Function.comp_apply, htake, if_pos hpre, hlen]
      rfl
    · intro i hi hne
      rw [Function.comp_apply, htake, if_neg]
      intro hpre
      have h3 := ((isPrefix_drop_of_mem_stops ht hi).mp hpre).1
      omega
  · rw [if_neg hc, List.filterMap_eq_nil_iff]
    intro i hi
    rw [Function.comp_apply, htake, if_neg]
    intro hpre
    obtain ⟨h3, hends⟩ := (isPrefix_drop_of_mem_stops ht hi).mp hpre
    have hlo := (mem_stops_word.mp hi).1
    exact hc ⟨by omega, hends⟩

/-! ### What is between the braces -/

theorem holds_anyLineEnd_ahead {c : Char} {rest : Text} (h : p.rest.drop n = c :: rest)
    (hc : c ≠ '\r') : Look.anyLineEnd.holds (p.ahead (n + 1)) = endsLine rest.head? := by
  unfold Look.holds
  rw [Place.before_ahead_succ h, Place.rest_ahead, drop_succ_of_drop h]
  cases rest.head? with
  | none => rfl
  | some d =>
      rw [Bool.eq_iff_iff]
      simp [Look.holdsBetween, endsLine, hc]

theorem closing_at {t : Text} (ht : p.rest.drop n = t) :
    ((p.matched n groups).takeText? "\x7d").bind (·.look? .anyLineEnd) =
      if t.head? = some '\x7d' ∧ endsLine t.tail.head? then some (p.matched (n + 1) groups)
      else none := by
  rw [Match.takeText?_matched, ht]
  cases t with
  | nil => rfl
  | cons c rest =>
      by_cases hc : c = '\x7d'
      · subst hc
        have hpre : ("\x7d" : Text) <+: '\x7d' :: rest := ⟨rest, rfl⟩
        rw [if_pos hpre, Option.bind_some]
        refine (Match.look?_matched _).trans ?_
        refine if_congr ?_ rfl rfl
        change Look.anyLineEnd.holds (p.ahead (n + 1)) = true ↔ _
        rw [holds_anyLineEnd_ahead ht (by decide)]
        simp
      · have hpre : ¬ ("\x7d" : Text) <+: c :: rest := by
          rintro ⟨u, hu⟩
          cases hu
          exact hc rfl
        rw [if_neg hpre, if_neg]
        · rfl
        · simp [hc]

theorem map_matched_cons (c : Char) (found : Option (Text × Text)) :
    (found.map fun f => (c :: f.1, f.2)).map (fun f => p.matched (n + f.1.length) groups) =
      found.map fun f => p.matched (n + 1 + f.1.length) groups := by
  rw [Option.map_map]
  refine Option.map_congr fun f _ => ?_
  change p.matched (n + (c :: f.1).length) groups = _
  rw [List.length_cons, Nat.add_assoc, Nat.add_comm 1]

/-- Of the places from `n` on the first one is found that a closing brace at the end of a line
follows. -/
theorem findSome?_closing {t : Text} (ht : p.rest.drop n = t) :
    (List.range' n (t.length + 1)).findSome? (fun i =>
        ((p.matched i groups).takeText? "\x7d").bind (·.look? .anyLineEnd)) =
      (closing? t).map fun found => p.matched (n + found.1.length) groups := by
  induction t generalizing n with
  | nil =>
      rw [List.length_nil, List.range'_one, List.findSome?_singleton, closing_at ht]
      rfl
  | cons c rest ih =>
      rw [List.length_cons, List.range'_succ, List.findSome?_cons, closing_at ht, closing?,
        ih (drop_succ_of_drop ht)]
      by_cases hc : c = '\x7d' ∧ endsLine rest.head?
      · rw [if_pos hc, if_pos (by simpa using hc)]
        rfl
      · rw [if_neg hc, if_neg (by simpa using hc), map_matched_cons]

theorem head?_follow_inside {t : Text} (ht : p.rest.drop n = t) :
    ((look .anyLineEnd).follow ((text "\x7d").follow
        ((repeated 1 none false (set .all)).follow [p.matched n groups]))).head? =
      (inside? t).map fun found => p.matched (n + found.1.length) groups := by
  rw [follow_look, follow_text, List.filterMap_filterMap, follow_repeated_matched, ht, Match.stops_all,
    if_neg (by simp), List.filterMap_map, List.head?_filterMap]
  cases t with
  | nil => rfl
  | cons c rest =>
      refine (findSome?_closing (drop_succ_of_drop ht)).trans ?_
      rw [inside?, map_matched_cons]

/-! ### Blocks -/

theorem holds_anyLineStart (p : Place) :
    Look.anyLineStart.holds p = startsLine p.before p.rest.head? := by
  unfold Look.holds startsLine
  cases p.before with
  | none => rfl
  | some c =>
      rw [Bool.eq_iff_iff]
      simp [Look.holdsBetween]

/-- The pattern up to the opening brace matches the header of a declaration. -/
theorem follow_header (p : Place) :
    (text "Gql \x7b").follow ((repeated 1 none true (set .word)).follow
        ((text "type ").follow ((look .anyLineStart).follow [p.matched 0 []]))) =
      (begins? p.before p.rest).elim [] fun header => [p.matched (header.1.length + 7) []] := by
  rw [follow_look_matched, Place.ahead_zero, holds_anyLineStart]
  unfold begins?
  by_cases hs : startsLine p.before p.rest.head?
  · rw [if_pos hs, if_pos hs, follow_text_matched]
    unfold header?
    by_cases ht : ("type " : Text) <+: p.rest
    · rw [if_pos (show ("type " : Text) <+: p.rest.drop 0 from ht)]
      refine (follow_word (n := 5) rfl).trans ?_
      by_cases hw : 4 ≤ ((p.rest.drop 5).takeWhile isWord).length ∧
          ("Gql" : Text) <:+ (p.rest.drop 5).takeWhile isWord ∧
          (" \x7b" : Text) <+: (p.rest.drop 5).dropWhile isWord
      · have hlen : 5 + ((p.rest.drop 5).takeWhile isWord).length + 2 =
            ((p.rest.drop 5).takeWhile isWord).length + 7 := by omega
        rw [if_pos hw, if_pos ⟨ht, hw⟩, hlen]
        rfl
      · rw [if_neg hw, if_neg (fun h => hw h.2)]
        rfl
    · rw [if_neg (show ¬ ("type " : Text) <+: p.rest.drop 0 from ht), if_neg (fun h => ht h.1)]
      rfl
  · rw [if_neg hs, if_neg hs]
    rfl

/-- The block pattern matches where a declaration begins that has an end. -/
theorem matchAt?_standardBlock (p : Place) :
    standardBlock.matchAt? p =
      (begins? p.before p.rest).bind fun header =>
        (inside? header.2).map fun found => p.matched (header.1.length + 7 + found.1.length) [] := by
  rw [matchAt?_eq, standardBlock]
  simp only [follow_seq]
  rw [follow_header]
  cases hh : begins? p.before p.rest with
  | none => rfl
  | some header =>
      obtain ⟨hrest, -⟩ := header?_eq_some.mp (begins?_eq_some.mp hh).2
      have hdrop : p.rest.drop (header.1.length + 7) = header.2 := by
        rw [hrest, ← length_headerOf, List.drop_left]
      exact head?_follow_inside hdrop

theorem neverEmpty_standardBlock : standardBlock.NeverEmpty := by
  intro p m h
  rw [matchAt?_standardBlock] at h
  obtain ⟨header, -, h⟩ := Option.bind_eq_some_iff.mp h
  obtain ⟨found, -, rfl⟩ := Option.map_eq_some_iff.mp h
  rw [Place.length_matched]
  omega

/-- Where a declaration begins that has no end, no block is found any more. -/
theorem find?_standardBlock_of_no_end {p : Place} {word behind : Text}
    (hh : header? p.rest = some (word, behind)) (hi : inside? behind = none) :
    standardBlock.find? p = none := by
  cases hf : standardBlock.find? p with
  | none => rfl
  | some m =>
      obtain ⟨n, -, hn⟩ := exists_matchAt?_of_find? hf
      rw [matchAt?_standardBlock] at hn
      obtain ⟨⟨word', behind'⟩, hh', hn⟩ := Option.bind_eq_some_iff.mp hn
      obtain ⟨found, hi', -⟩ := Option.map_eq_some_iff.mp hn
      have hsome := isSome_inside?_of_header? hh (begins?_eq_some.mp hh').2
        (List.drop_suffix n p.rest) (by simp [hi'])
      rw [hi] at hsome
      cases hsome

/-- Where a declaration begins that has an end, the match is its text. -/
theorem exists_match_of_begins? {before : Option Char} {t word behindBrace inside behind : Text}
    (hh : begins? before t = some (word, behindBrace)) (hi : inside? behindBrace = some (inside, behind))
    (index : Nat) :
    ∃ m, standardBlock.matchAt? ⟨before, t, index⟩ = some m ∧ m.text = headerOf word ++ inside ∧
      m.stop = ⟨some '\x7d', behind, index + (headerOf word ++ inside).length⟩ := by
  obtain ⟨ht, -⟩ := header?_eq_some.mp (begins?_eq_some.mp hh).2
  obtain ⟨rfl, d, u, hlast⟩ := inside?_eq_some hi
  rw [← List.append_assoc] at ht
  have hlen : (headerOf word ++ inside).length = word.length + 7 + inside.length := by
    rw [List.length_append, length_headerOf]
  refine ⟨Place.matched ⟨before, t, index⟩ (headerOf word ++ inside).length [], ?_, ?_, ?_⟩
  · rw [matchAt?_standardBlock, hh, Option.bind_some, hi, hlen]
    rfl
  · rw [Place.text_matched, ht, List.take_left]
  · change Place.ahead _ _ = _
    rw [Place.ahead_append ht, hlast, ← List.append_assoc, List.getLast?_concat]
    rfl

/-- The blocks from a place on are those of the declarations that the scan reads from there. -/
theorem blocks_from (before : Option Char) (t : Text) (index : Nat) {fuel : Nat} (barred : Option Nat)
    (hf : t.length < fuel) :
    (standardBlock.matchesFrom fuel barred ⟨before, t, index⟩).map Match.text =
      (declarationsFrom before t).map (·.block) := by
  fun_induction declarationsFrom before t generalizing index fuel barred with
  | case1 before =>
      have hnone : standardBlock.find? ⟨before, [], index⟩ = none := by
        refine (matchAt?_standardBlock _).trans ?_
        rw [begins?_nil]
        rfl
      rw [neverEmpty_standardBlock.matchesFrom_of_find?_none hnone]
      rfl
  | case2 before c rest hh ih =>
      have hnone : standardBlock.matchAt? ⟨before, c :: rest, index⟩ = none := by
        rw [matchAt?_standardBlock, hh]
        rfl
      rw [neverEmpty_standardBlock.matchesFrom_congr (find?_cons hnone)]
      exact ih (index + 1) barred (Nat.lt_of_succ_lt hf)
  | case3 before c rest word behindBrace hh hi =>
      have hnone := find?_standardBlock_of_no_end (p := ⟨before, c :: rest, index⟩)
        (begins?_eq_some.mp hh).2 hi
      rw [neverEmpty_standardBlock.matchesFrom_of_find?_none hnone]
      rfl
  | case4 before c rest word behindBrace hh inside behind hi ih =>
      obtain ⟨m, hm, htext, hstop⟩ := exists_match_of_begins? hh hi index
      obtain ⟨fuel, rfl⟩ := Nat.exists_eq_add_one_of_ne_zero (Nat.ne_of_gt (Nat.zero_lt_of_lt hf))
      have hbehind := length_behind_lt (begins?_eq_some.mp hh).2 hi
      rw [neverEmpty_standardBlock.matchesFrom_of_find? (find?_of_matchAt? hm), List.map_cons,
        List.map_cons, htext, hstop, ih _ _ (Nat.lt_of_lt_of_le hbehind (Nat.le_of_lt_succ hf))]
      rfl

theorem blocks_standard (schema : Text) :
    standard.blocks schema = (declarations schema).map (·.block) :=
  blocks_from none schema 0 none (by omega)

end Patterns

end SchemaFragments
