import SchemaFragments.Proofs.Regex.Growth
import SchemaFragments.Proofs.Regex.Search

/-! # The matches in a text

Whatever the pattern, its matches in a text are stretches of the text, one behind the other, and what a
group of a match has matched lies within the match (`Stretches`, `Match.Within.group_sublist`).  So a text in
which every match is replaced by what one of its groups has matched has no characters but those of the
text, in their order (`replaceAll_group_sublist`).

`Pattern.Successive` says of a list of matches that each is found behind the one before it and that none
is found behind the last.  The matches in a text are such a list (`successive_allMatches`): a search goes
on at the end of a match, and where that match is empty the next one does not stop there as well, so that
their number is bounded by the length of the text. -/

namespace SchemaFragments.Regex

/-! ### One match -/

namespace Match

variable {p : Place} {m : Match}

/-- A match in the text that comes behind a place, with all its groups in it. -/
def Within (p : Place) (m : Match) : Prop :=
  ∃ i n, i + n ≤ p.rest.length ∧ m.start = p.ahead i ∧ m.stop = p.ahead (i + n) ∧
    ∀ g ∈ m.groups, ∃ j, g.2.rest = m.start.rest.drop j ∧ j + g.2.length ≤ n

namespace Within

theorem of_ahead {k : Nat} (hk : k ≤ p.rest.length) (h : Within (p.ahead k) m) : m.Within p := by
  obtain ⟨i, n, hin, hstart, hstop, hgroups⟩ := h
  rw [Place.rest_ahead, List.length_drop] at hin
  refine ⟨k + i, n, by omega, ?_, ?_, hgroups⟩
  · rw [hstart, Place.ahead_ahead]
  · rw [hstop, Place.ahead_ahead, Nat.add_assoc]

theorem group_sublist (h : m.Within p) (i : Nat) : (m.group i).Sublist m.text := by
  obtain ⟨k, n, -, hstart, hstop, hgroups⟩ := h
  have htext : m.text = m.start.rest.take n := by
    unfold text Place.textTo
    rw [hstart, hstop, Place.index_ahead, Place.index_ahead]
    congr 1
    omega
  unfold group
  cases hl : m.groups.lookup i with
  | none => exact List.nil_sublist _
  | some c =>
      obtain ⟨front, later, hsplit, -⟩ := List.lookup_eq_some_iff.mp hl
      obtain ⟨j, hrest, hj⟩ := hgroups (i, c) (by simp [hsplit])
      replace hj : c.length ≤ n - j := Nat.le_sub_of_add_le' hj
      have hinside : (m.start.rest.drop j).take c.length = ((m.start.rest.take n).drop j).take c.length := by
        rw [List.drop_take, List.take_take, Nat.min_eq_left hj]
      change (c.rest.take c.length).Sublist m.text
      rw [hrest, htext, hinside]
      exact (List.take_sublist _ _).trans (List.drop_sublist _ _)

end Within

end Match

/-! ### Successive matches -/

namespace Pattern

variable {r : Pattern} {p : Place} {m : Match} {ms : List Match} {barred : Option Nat}

theorem grows_of_matchAt? (h : r.matchAt? p = some m) : (Match.emptyAt p).Grows m := by
  unfold matchAt? at h
  rw [← LazyList.head?_toList] at h
  exact r.growing_extend.single _ m (List.mem_of_head? h)

theorem within_of_find? (h : r.find? p = some m) : m.Within p := by
  obtain ⟨i, hi, hm⟩ := exists_matchAt?_of_find? h
  obtain ⟨hstart, n, hn, hstop, hgroups⟩ := grows_of_matchAt? hm
  change n ≤ (p.ahead i).rest.length at hn
  rw [Place.rest_ahead, List.length_drop] at hn
  refine ⟨i, n, by omega, hstart, ?_, fun g hg => ?_⟩
  · rw [hstop]
    exact Place.ahead_ahead p i n
  · rw [hstart]
    exact (hgroups g hg).resolve_left List.not_mem_nil

/-- A search that must not end at an empty match there finds one that stops further on. -/
theorem within_of_findPast? (h : r.findPast? barred p = some m) :
    m.Within p ∧ (barred = some p.index → p.index < m.stop.index) := by
  unfold findPast? at h
  cases hf : r.find? p with
  | none =>
      rw [hf] at h
      cases h
  | some first =>
      have hwithin := within_of_find? hf
      simp only [hf] at h
      split at h
      · obtain ⟨q, hq, hm⟩ := Option.bind_eq_some_iff.mp h
        have hnext : 1 ≤ p.rest.length ∧ q = p.ahead 1 := by
          unfold Place.next? at hq
          split at hq
          · cases hq
          · next c rest hr =>
              cases hq
              exact ⟨by simp [hr], Place.advance_eq hr⟩
        obtain ⟨hlen, rfl⟩ := hnext
        have hlater := within_of_find? hm
        refine ⟨hlater.of_ahead hlen, fun _ => ?_⟩
        obtain ⟨i, n, -, -, hstop, -⟩ := hlater
        rw [hstop, Place.index_ahead, Place.index_ahead]
        omega
      · next hne =>
          cases h
          refine ⟨hwithin, fun hb => ?_⟩
          obtain ⟨i, n, -, hstart, hstop, -⟩ := hwithin
          rw [hstart, hstop, hb, Place.index_ahead, Place.index_ahead, Option.some_inj] at hne
          rw [hstop, Place.index_ahead]
          omega

/-- The matches from a place on: each is found behind the one before it, and none behind the last. -/
inductive Successive (r : Pattern) : Option Nat → Place → List Match → Prop
  | last {barred : Option Nat} {p : Place} : r.findPast? barred p = none → Successive r barred p []
  | next {barred : Option Nat} {p : Place} {m : Match} {ms : List Match} :
      r.findPast? barred p = some m → Successive r (some m.stop.index) m.stop ms →
      Successive r barred p (m :: ms)

/-- As many matches as there are characters, and two more, are enough; one less behind a match. -/
theorem successive_matchesFrom (r : Pattern) {fuel : Nat} (barred : Option Nat) (p : Place)
    (hf : p.rest.length + (if barred = some p.index then 1 else 2) ≤ fuel) :
    r.Successive barred p (r.matchesFrom fuel barred p) := by
  induction fuel generalizing barred p with
  | zero =>
      split at hf <;> omega
  | succ fuel ih =>
      rw [matchesFrom]
      cases h : r.findPast? barred p with
      | none => exact .last h
      | some m =>
          refine .next h (ih _ _ ?_)
          obtain ⟨⟨i, n, hin, -, hstop, -⟩, hbarred⟩ := within_of_findPast? h
          rw [hstop, Place.index_ahead] at hbarred
          rw [if_pos rfl, hstop, Place.rest_ahead, List.length_drop]
          split at hf
          · next hb =>
              have hlater := hbarred hb
              omega
          · omega

theorem successive_allMatches (r : Pattern) (t : Text) :
    r.Successive none (Place.start t) (r.allMatches t) :=
  r.successive_matchesFrom none (Place.start t) (Nat.le_refl _)

namespace Successive

theorem within (h : r.Successive barred p ms) : ∀ m ∈ ms, m.Within p := by
  induction h with
  | last _ => exact nofun
  | next hm _ ih =>
      have hwithin := (within_of_findPast? hm).1
      obtain ⟨i, n, hin, -, hstop, -⟩ := (within_of_findPast? hm).1
      rw [hstop] at ih
      exact List.forall_mem_cons.mpr ⟨hwithin, fun m hm => (ih m hm).of_ahead hin⟩

theorem pairwise (h : r.Successive barred p ms) :
    ms.Pairwise fun m m' => m.stop.index ≤ m'.start.index := by
  induction h with
  | last _ => exact .nil
  | next _ hms ih =>
      refine .cons (fun m' hm' => ?_) ih
      obtain ⟨i, n, -, hstart, -⟩ := hms.within m' hm'
      rw [hstart, Place.index_ahead]
      omega

/-- Nothing is added to a text in which every match is replaced by a part of it. -/
theorem splice_sublist (h : r.Successive barred p ms) {f : Match → Text}
    (hf : ∀ m ∈ ms, (f m).Sublist m.text) : (splice f p ms).Sublist p.rest := by
  induction h with
  | last _ => exact List.Sublist.refl _
  | @next barred p m ms hm _ ih =>
      rw [List.forall_mem_cons] at hf
      obtain ⟨i, n, hin, hstart, hstop, -⟩ := (within_of_findPast? hm).1
      have hfront : p.textTo m.start = p.rest.take i := by
        unfold Place.textTo
        rw [hstart, Place.index_ahead, Nat.add_sub_cancel_left]
      have htext : m.text = (p.rest.drop i).take n := by
        unfold Match.text Place.textTo
        rw [hstart, hstop, Place.index_ahead, Place.index_ahead, Place.rest_ahead]
        congr 1
        omega
      have hrest : m.stop.rest = (p.rest.drop i).drop n := by
        rw [hstop, Place.rest_ahead, List.drop_drop]
      have hlater := ih hf.2
      have hmatch := hf.1
      rw [hrest] at hlater
      rw [htext] at hmatch
      rw [splice, hfront, List.append_assoc]
      calc p.rest.take i ++ (f m ++ splice f m.stop ms)
        List.Sublist _ (p.rest.take i ++ ((p.rest.drop i).take n ++ (p.rest.drop i).drop n)) :=
          (List.Sublist.refl _).append (hmatch.append hlater)
        _ = p.rest := by rw [List.take_append_drop, List.take_append_drop]

end Successive

/-- A text in which every match is replaced by what a group of it has matched. -/
theorem replaceAll_group_sublist (r : Pattern) (i : Nat) (t : Text) :
    (r.replaceAll (·.group i) t).Sublist t :=
  (r.successive_allMatches t).splice_sublist fun m hm =>
    ((r.successive_allMatches t).within m hm).group_sublist i

end Pattern

/-! ### Stretches of a text -/

/-- The matches are stretches of the text, each behind the one before it. -/
structure Stretches (t : Text) (ms : List Match) : Prop where
  ordered : ms.Pairwise fun m m' => m.stop.index ≤ m'.start.index
  bounds : ∀ m ∈ ms, m.start.index ≤ m.stop.index ∧ m.stop.index ≤ t.length
  text : ∀ m ∈ ms, m.text = (t.take m.stop.index).drop m.start.index

theorem stretches_allMatches (r : Pattern) (t : Text) : Stretches t (r.allMatches t) where
  ordered := (r.successive_allMatches t).pairwise
  bounds := fun m hm => by
    obtain ⟨i, n, hin, hstart, hstop, -⟩ := (r.successive_allMatches t).within m hm
    change i + n ≤ t.length at hin
    rw [hstart, hstop, Place.index_ahead, Place.index_ahead]
    change 0 + i ≤ 0 + (i + n) ∧ 0 + (i + n) ≤ t.length
    omega
  text := fun m hm => by
    obtain ⟨i, n, -, hstart, hstop, -⟩ := (r.successive_allMatches t).within m hm
    unfold Match.text Place.textTo
    rw [hstart, hstop, Place.index_ahead, Place.index_ahead, Place.rest_ahead]
    change (t.drop i).take (0 + (i + n) - (0 + i)) = (t.take (0 + (i + n))).drop (0 + i)
    rw [Nat.zero_add, Nat.zero_add, List.drop_take]

end SchemaFragments.Regex
