import SchemaFragments.Regex.Search
import Mathlib.Data.List.Nodup
import Mathlib.Data.List.TakeWhile

/-! # What a pattern makes of a match

A match is known by the place where it begins, the number of its characters and its groups:
`Place.matched`.  `Pattern.follow` is `Pattern.extend` on lists that are there as a whole; for each
part of a pattern a lemma says which matches it makes of such a match.  The preferred match at a
place is the first one that the pattern makes of the empty match there (`Pattern.matchAt?_eq`). -/

namespace SchemaFragments.Regex

theorem LazyList.ofList_toList {α : Type} (l : LazyList α) : ofList l.toList = l := by
  induction l with
  | nil => rfl
  | cons a tail ih =>
      rw [toList_cons, ofList, ih ()]

theorem drop_succ_of_drop {α : Type} {l rest : List α} {a : α} {n : Nat} (h : l.drop n = a :: rest) :
    l.drop (n + 1) = rest := by
  rw [← List.drop_drop, h, List.drop_one, List.tail_cons]

theorem getLast?_cons_or {α : Type} (a : α) (l : List α) (before : Option α) :
    (a :: l).getLast?.or before = l.getLast?.or (some a) := by
  rw [List.getLast?_cons]
  cases l.getLast? <;> rfl

/-! ### Places -/

namespace Place

variable {p : Place} {n : Nat}

/-- The place that lies `n` characters further on. -/
def ahead (p : Place) (n : Nat) : Place :=
  ⟨(p.rest.take n).getLast?.or p.before, p.rest.drop n, p.index + n⟩

@[simp] theorem rest_ahead (p : Place) (n : Nat) : (p.ahead n).rest = p.rest.drop n := rfl

@[simp] theorem index_ahead (p : Place) (n : Nat) : (p.ahead n).index = p.index + n := rfl

@[simp] theorem ahead_zero (p : Place) : p.ahead 0 = p := rfl

theorem ahead_cons (before : Option Char) (c : Char) (rest : Text) (index n : Nat) :
    ahead ⟨before, c :: rest, index⟩ (n + 1) = ahead ⟨some c, rest, index + 1⟩ n := by
  unfold ahead
  rw [List.take_succ_cons, List.drop_succ_cons, getLast?_cons_or, Nat.add_assoc, Nat.add_comm 1 n]

theorem ahead_append {u v : Text} (h : p.rest = u ++ v) :
    p.ahead u.length = ⟨u.getLast?.or p.before, v, p.index + u.length⟩ := by
  unfold ahead
  rw [h, List.take_left, List.drop_left]

theorem before_ahead_succ {c : Char} {rest : Text} (h : p.rest.drop n = c :: rest) :
    (p.ahead (n + 1)).before = some c := by
  have hc : p.rest[n]? = some c := by
    rw [← List.head?_drop, h]
    rfl
  unfold ahead
  rw [List.take_add_one, hc]
  simp

theorem advance_ahead {c : Char} {rest : Text} (h : p.rest.drop n = c :: rest) :
    (p.ahead n).advance c rest = p.ahead (n + 1) := by
  have hb := before_ahead_succ h
  unfold advance
  rw [← hb, ← drop_succ_of_drop h]
  rfl

/-- The match of the next `n` characters, with the groups that are closed. -/
def matched (p : Place) (n : Nat) (groups : List (Nat × Captured)) : Match := ⟨p, p.ahead n, groups⟩

variable (p n) (groups : List (Nat × Captured))

@[simp] theorem length_matched : (p.matched n groups).length = n :=
  Nat.add_sub_cancel_left p.index n

@[simp] theorem text_matched : (p.matched n groups).text = p.rest.take n := by
  unfold Match.text textTo matched
  rw [index_ahead, Nat.add_sub_cancel_left]

theorem map_length_matched (stops : List Nat) :
    (stops.map (p.matched · groups)).map Match.length = stops := by
  rw [List.map_map]
  exact (congrArg stops.map (funext fun n => p.length_matched n groups)).trans (List.map_id _)

end Place

/-! ### Growing a match -/

namespace Match

variable {p : Place} {n : Nat} {groups : List (Nat × Captured)}

theorem takeText?_cons_of_nil {m : Match} (h : m.stop.rest = []) (c : Char) (t : Text) :
    m.takeText? (c :: t) = none := by
  rw [takeText?]
  simp only [h]

theorem takeText?_cons {m : Match} {d : Char} {rest : Text} (h : m.stop.rest = d :: rest) (c : Char)
    (t : Text) :
    m.takeText? (c :: t) =
      if d = c then takeText? t { m with stop := m.stop.advance d rest } else none := by
  rw [takeText?]
  simp only [h]

theorem takeText?_matched (t : Text) :
    (p.matched n groups).takeText? t =
      if t <+: p.rest.drop n then some (p.matched (n + t.length) groups) else none := by
  induction t generalizing n with
  | nil => simp [takeText?]
  | cons c t ih =>
      cases h : p.rest.drop n with
      | nil =>
          rw [takeText?_cons_of_nil h, if_neg]
          rw [List.prefix_nil]
          simp
      | cons d rest =>
          rw [takeText?_cons h]
          by_cases hd : d = c
          · subst hd
            have hnext : { p.matched n groups with stop := (p.ahead n).advance d rest } =
                p.matched (n + 1) groups := by
              rw [Place.advance_ahead h]
              rfl
            have hlen : n + 1 + t.length = n + (d :: t).length := by
              rw [List.length_cons]
              omega
            rw [if_pos rfl]
            refine (congrArg (takeText? t) hnext).trans ?_
            rw [ih, drop_succ_of_drop h, hlen]
            exact if_congr (by simp) rfl rfl
          · rw [if_neg hd, if_neg]
            rw [List.cons_prefix_cons]
            exact fun h => hd h.1.symm

theorem look?_matched (l : Look) :
    (p.matched n groups).look? l = if l.holds (p.ahead n) then some (p.matched n groups) else none :=
  rfl

/-- The lengths at which a run of characters of a set may stop that begins behind `n` characters,
before the text `t`; the preferred one first. -/
def stops (s : CharSet) (min : Nat) (greedy : Bool) (n : Nat) (t : Text) : List Nat :=
  let all := List.range' (n + min) ((t.takeWhile s.mem).length + 1 - min)
  if greedy then all.reverse else all

theorem nodup_stops (s : CharSet) (min : Nat) (greedy : Bool) (n : Nat) (t : Text) :
    (stops s min greedy n t).Nodup := by
  cases greedy with
  | false => exact List.nodup_range'
  | true => exact List.nodup_reverse.mpr List.nodup_range'

theorem takeWhile_all (t : Text) : t.takeWhile CharSet.all.mem = t := by
  rw [List.takeWhile_eq_self_iff]
  intro c _
  have hc : c.toNat ≤ 0x10ffff := by
    have hvalid : c.toNat < 0xd800 ∨ (0xdfff < c.toNat ∧ c.toNat < 0x110000) := c.valid
    omega
  change CodeRanges.mem [(0, 0x10ffff)] c.toNat = true
  rw [CodeRanges.mem_cons, if_neg (Nat.not_lt_zero _), if_pos hc]

/-- A run of any characters may stop anywhere up to the end of the text. -/
theorem stops_all (min : Nat) (greedy : Bool) (n : Nat) (t : Text) :
    stops .all min greedy n t =
      if greedy then (List.range' (n + min) (t.length + 1 - min)).reverse
      else List.range' (n + min) (t.length + 1 - min) := by
  unfold stops
  rw [takeWhile_all]

theorem toList_run (s : CharSet) (p : Place) (n m : Nat) (groups : List (Nat × Captured)) :
    (run s (p.matched m groups) none (p.ahead n) (p.rest.drop n)).toList =
      (List.range' n (((p.rest.drop n).takeWhile s.mem).length + 1)).map (p.matched · groups) := by
  generalize h : p.rest.drop n = t
  induction t generalizing n with
  | nil => rfl
  | cons c rest ih =>
      rw [run]
      · by_cases hc : s.mem c
        · rw [if_pos hc, LazyList.toList_cons, List.takeWhile_cons_of_pos hc, List.length_cons,
            List.range'_succ, List.map_cons, Place.advance_ahead h, Option.map_none,
            ih _ (drop_succ_of_drop h)]
          rfl
        · rw [if_neg hc, List.takeWhile_cons_of_neg hc]
          rfl
      · simp

theorem toList_runs (s : CharSet) (min : Nat) (greedy : Bool) :
    (runs s min none greedy (p.matched n groups)).toList =
      (stops s min greedy n (p.rest.drop n)).map (p.matched · groups) := by
  have hrun : ((run s (p.matched n groups) none (p.ahead n) (p.rest.drop n)).drop min).toList =
      (List.range' (n + min) (((p.rest.drop n).takeWhile s.mem).length + 1 - min)).map
        (p.matched · groups) := by
    rw [LazyList.toList_drop, toList_run, ← List.map_drop, List.drop_range']
    simp
  cases greedy with
  | false => exact hrun
  | true =>
      refine (LazyList.toList_reverse _).trans ?_
      refine (congrArg List.reverse hrun).trans ?_
      rw [← List.map_reverse]
      rfl

/-! ### The first of several matches -/

/-- Matches of different lengths are all kept. -/
theorem toList_firstsFrom {seen : Nat} {ms : LazyList Match} (hd : (ms.toList.map length).Nodup)
    (hs : ∀ m ∈ ms.toList, seen.testBit m.length = false) :
    (firstsFrom seen ms).toList = ms.toList := by
  induction ms generalizing seen with
  | nil => rfl
  | cons m later ih =>
      rw [LazyList.toList_cons, List.map_cons, List.nodup_cons] at hd
      rw [LazyList.toList_cons, List.forall_mem_cons] at hs
      rw [firstsFrom, hs.1, if_neg (by simp), LazyList.toList_cons, LazyList.toList_cons, ih () hd.2]
      intro m' hm'
      have hne : m.length ≠ m'.length := by
        intro he
        exact hd.1 (he ▸ List.mem_map_of_mem hm')
      rw [Nat.testBit_or, hs.2 m' hm', Nat.one_shiftLeft, Nat.testBit_two_pow_of_ne hne,
        Bool.or_false]

theorem head?_firstsFrom (ms : LazyList Match) :
    (firstsFrom 0 ms).toList.head? = ms.toList.head? := by
  cases ms with
  | nil => rfl
  | cons m later =>
      rw [firstsFrom, Nat.zero_testBit, if_neg (by simp)]
      rfl

end Match

/-! ### Following a pattern -/

namespace Pattern

theorem extend_text (t : Text) (ms : LazyList Match) : (text t).extend ms = ms.filterMap (·.takeText? t) :=
  rfl

theorem extend_look (l : Look) (ms : LazyList Match) : (look l).extend ms = ms.filterMap (·.look? l) := rfl

theorem extend_seq (a b : Pattern) (ms : LazyList Match) : (seq a b).extend ms = b.extend (a.extend ms) :=
  rfl

theorem extend_group (i : Nat) (a : Pattern) (ms : LazyList Match) :
    (group i a).extend ms =
      Match.extendEach (fun m => (a.extend (.single m)).map (.close i m.stop)) ms := rfl

theorem extend_runs (min : Nat) (max : Option Nat) (greedy : Bool) (s : CharSet) (ms : LazyList Match) :
    (repeated min max greedy (set s)).extend ms = Match.extendEach (Match.runs s min max greedy) ms := rfl

/-- The longer matches that the pattern makes of some matches, the preferred one first. -/
def follow (r : Pattern) (ms : List Match) : List Match := (r.extend (.ofList ms)).toList

variable {p : Place} {n : Nat} {groups : List (Nat × Captured)}

theorem matchAt?_eq (r : Pattern) (p : Place) : r.matchAt? p = (r.follow [p.matched 0 []]).head? :=
  (LazyList.head?_toList _).symm

theorem follow_text (t : Text) (ms : List Match) : (text t).follow ms = ms.filterMap (·.takeText? t) := by
  rw [follow, extend_text, LazyList.toList_filterMap, LazyList.toList_ofList]

theorem follow_look (l : Look) (ms : List Match) : (look l).follow ms = ms.filterMap (·.look? l) := by
  rw [follow, extend_look, LazyList.toList_filterMap, LazyList.toList_ofList]

theorem follow_seq (a b : Pattern) (ms : List Match) : (seq a b).follow ms = b.follow (a.follow ms) := by
  unfold follow
  rw [extend_seq, LazyList.ofList_toList]

theorem follow_text_matched (t : Text) :
    (text t).follow [p.matched n groups] =
      if t <+: p.rest.drop n then [p.matched (n + t.length) groups] else [] := by
  rw [follow_text, List.filterMap_cons, Match.takeText?_matched]
  by_cases h : t <+: p.rest.drop n <;> simp [h]

theorem follow_look_matched (l : Look) :
    (look l).follow [p.matched n groups] = if l.holds (p.ahead n) then [p.matched n groups] else [] := by
  rw [follow_look, List.filterMap_cons, Match.look?_matched]
  by_cases h : l.holds (p.ahead n) <;> simp [h]

theorem follow_group_matched (i : Nat) (a : Pattern) (m : Match)
    (h : ((a.follow [m]).map Match.length).Nodup) :
    (group i a).follow [m] = (a.follow [m]).map (.close i m.stop) := by
  have ha : (LazyList.flatMap (fun m => (a.extend (.single m)).map (Match.close i m.stop))
      (.ofList [m])).toList = (a.follow [m]).map (.close i m.stop) := by
    rw [LazyList.toList_flatMap, LazyList.toList_ofList, List.flatMap_singleton, LazyList.toList_map]
    rfl
  rw [follow, extend_group, Match.extendEach, Match.toList_firstsFrom, ha]
  · rw [ha, List.map_map]
    exact h
  · exact fun m _ => Nat.zero_testBit _

/-! ### Runs of characters -/

section Runs

variable (s : CharSet) (min : Nat) (greedy : Bool)

theorem head?_follow_repeated (ms : List Match) :
    ((repeated min none greedy (set s)).follow (p.matched n groups :: ms)).head? =
      ((Match.stops s min greedy n (p.rest.drop n)).map (p.matched · groups)).head?.or
        ((repeated min none greedy (set s)).follow ms).head? := by
  unfold follow
  rw [extend_runs, extend_runs]
  unfold Match.extendEach
  rw [Match.head?_firstsFrom, Match.head?_firstsFrom, LazyList.toList_flatMap,
    LazyList.toList_flatMap, LazyList.toList_ofList, LazyList.toList_ofList, List.flatMap_cons,
    List.head?_append, Match.toList_runs]

theorem follow_repeated_matched :
    (repeated min none greedy (set s)).follow [p.matched n groups] =
      (Match.stops s min greedy n (p.rest.drop n)).map (p.matched · groups) := by
  have hruns : (LazyList.flatMap (Match.runs s min none greedy) (.ofList [p.matched n groups])).toList =
      (Match.stops s min greedy n (p.rest.drop n)).map (p.matched · groups) := by
    rw [LazyList.toList_flatMap, LazyList.toList_ofList, List.flatMap_singleton, Match.toList_runs]
  rw [follow, extend_runs, Match.extendEach, Match.toList_firstsFrom, hruns]
  · rw [hruns, Place.map_length_matched]
    exact Match.nodup_stops s min greedy n _
  · exact fun m _ => Nat.zero_testBit _

end Runs

end Pattern

end SchemaFragments.Regex
