import SchemaFragments.Proofs.Regex.Follow

/-! # Matches grow at their end

Whatever the pattern, a match that it makes of a match `m` begins where `m` begins and stops where `m`
stops or further on in the text, and what its groups have matched since then lies between these two
places: `Match.Grows`.  This is kept by every function on lists of matches that a pattern is followed by
(`Growing`) and by every way through a pattern (`Way.Growing`), whatever the marks, so that it holds of
all patterns (`growing_extend`). -/

namespace SchemaFragments.Regex

/-! ### Lists computed on demand -/

/-- Every element has the property. -/
def LazyList.All {α : Type} (P : α → Prop) (l : LazyList α) : Prop := ∀ a ∈ l.toList, P a

namespace LazyList

variable {α : Type} {P : α → Prop}

theorem all_nil : (nil : LazyList α).All P := nofun

theorem all_cons {a : α} {tail : Unit → LazyList α} (ha : P a) (ht : (tail ()).All P) :
    (cons a tail).All P := List.forall_mem_cons.mpr ⟨ha, ht⟩

end LazyList

/-! ### Longer matches -/

namespace Place

theorem ahead_ahead (p : Place) (n k : Nat) : (p.ahead n).ahead k = p.ahead (n + k) := by
  have hbefore : ((p.rest.drop n).take k).getLast?.or ((p.rest.take n).getLast?.or p.before) =
      (p.rest.take (n + k)).getLast?.or p.before := by
    rw [List.take_add, List.getLast?_append, Option.or_assoc]
  unfold ahead
  rw [hbefore, List.drop_drop, Nat.add_assoc]

theorem advance_eq {p : Place} {c : Char} {rest : Text} (h : p.rest = c :: rest) :
    p.advance c rest = p.ahead 1 := @advance_ahead p 0 c rest h

end Place

namespace Match

/-- The match `m'` is the match `m` with more text at its end.  What its groups matched they have matched
in `m` already, or it lies in the text that is added. -/
def Grows (m m' : Match) : Prop :=
  m'.start = m.start ∧ ∃ n ≤ m.stop.rest.length, m'.stop = m.stop.ahead n ∧
    ∀ g ∈ m'.groups, g ∈ m.groups ∨ ∃ i, g.2.rest = m.stop.rest.drop i ∧ i + g.2.length ≤ n

namespace Grows

variable {m m' m'' : Match}

theorem refl (m : Match) : m.Grows m :=
  ⟨rfl, 0, Nat.zero_le _, rfl, fun _ => Or.inl⟩

theorem trans (h : m.Grows m') (h' : m'.Grows m'') : m.Grows m'' := by
  obtain ⟨hstart, n, hn, hstop, hgroups⟩ := h
  obtain ⟨hstart', k, hk, hstop', hgroups'⟩ := h'
  rw [hstop, Place.rest_ahead, List.length_drop] at hk
  refine ⟨hstart'.trans hstart, n + k, by omega, ?_, fun g hg => ?_⟩
  · rw [hstop', hstop, Place.ahead_ahead]
  · rcases hgroups' g hg with hmem | ⟨i, hrest, hi⟩
    · rcases hgroups g hmem with hmem | ⟨i, hrest, hi⟩
      · exact Or.inl hmem
      · exact Or.inr ⟨i, hrest, by omega⟩
    · refine Or.inr ⟨n + i, ?_, by omega⟩
      rw [hrest, hstop, Place.rest_ahead, List.drop_drop]

/-- More text alone. -/
theorem of_ahead {n : Nat} (hn : n ≤ m.stop.rest.length) : m.Grows { m with stop := m.stop.ahead n } :=
  ⟨rfl, n, hn, rfl, fun _ => Or.inl⟩

theorem of_advance {c : Char} {rest : Text} (h : m.stop.rest = c :: rest) :
    m.Grows { m with stop := m.stop.advance c rest } := by
  rw [Place.advance_eq h]
  exact of_ahead (by simp [h])

theorem of_take? {s : CharSet} (h : m.take? s = some m') : m.Grows m' := by
  unfold take? at h
  split at h
  · cases h
  · next c rest hr =>
      obtain ⟨-, h⟩ := Option.ite_none_right_eq_some.mp h
      cases h
      exact of_advance hr

theorem of_takeText? {t : Text} (h : m.takeText? t = some m') : m.Grows m' := by
  induction t generalizing m with
  | nil =>
      cases h
      exact refl _
  | cons c t ih =>
      cases hr : m.stop.rest with
      | nil => cases (takeText?_cons_of_nil hr c t).symm.trans h
      | cons d rest =>
          rw [takeText?_cons hr] at h
          obtain ⟨-, h⟩ := Option.ite_none_right_eq_some.mp h
          exact (of_advance hr).trans (ih h)

theorem of_look? {l : Look} (h : m.look? l = some m') : m.Grows m' := by
  obtain ⟨-, h⟩ := Option.ite_none_right_eq_some.mp h
  cases h
  exact refl m

/-- A group that is closed has matched all that was added since it was opened. -/
theorem close (h : m.Grows m') (i : Nat) : m.Grows (m'.close i m.stop) := by
  obtain ⟨hstart, n, hn, hstop, hgroups⟩ := h
  refine ⟨hstart, n, hn, hstop, List.forall_mem_cons.mpr ⟨Or.inr ⟨0, rfl, ?_⟩, hgroups⟩⟩
  have hindex : m'.stop.index = m.stop.index + n := by rw [hstop, Place.index_ahead]
  simp only
  omega

end Grows

/-! ### Runs of characters and first matches -/

theorem mem_run {s : CharSet} {m m' : Match} {max : Option Nat} {p : Place} {rest : Text}
    (hp : p.rest = rest) (h : m' ∈ (run s m max p rest).toList) :
    ∃ n ≤ rest.length, m' = { m with stop := p.ahead n } := by
  have hhere (h : m' = { m with stop := p }) : ∃ n ≤ rest.length, m' = { m with stop := p.ahead n } :=
    ⟨0, Nat.zero_le _, h⟩
  fun_induction run s m max p rest with
  | case1 => exact hhere (List.mem_singleton.mp h)
  | case2 => exact hhere (List.mem_singleton.mp h)
  | case3 p max c rest _ _ ih =>
      rcases List.mem_cons.mp h with rfl | h
      · exact hhere rfl
      · obtain ⟨n, hn, rfl⟩ := ih rfl h fun h => ⟨0, Nat.zero_le _, h⟩
        refine ⟨n + 1, Nat.succ_le_succ hn, ?_⟩
        rw [Place.advance_eq hp, Place.ahead_ahead, Nat.add_comm]
  | case4 => exact hhere (List.mem_singleton.mp h)

theorem grows_of_mem_runs {s : CharSet} {min : Nat} {max : Option Nat} {greedy : Bool} {m m' : Match}
    (h : m' ∈ (runs s min max greedy m).toList) : m.Grows m' := by
  have hrun : m' ∈ (run s m max m.stop m.stop.rest).toList := by
    refine List.mem_of_mem_drop (i := min) ?_
    rw [← LazyList.toList_drop]
    cases greedy with
    | false => exact h
    | true => exact List.mem_reverse.mp ((LazyList.toList_reverse _) ▸ h)
  obtain ⟨n, hn, rfl⟩ := mem_run rfl hrun
  exact Grows.of_ahead hn

theorem mem_of_mem_firstsFrom {seen : Nat} {ms : LazyList Match} {m : Match}
    (h : m ∈ (firstsFrom seen ms).toList) : m ∈ ms.toList := by
  induction ms generalizing seen with
  | nil => exact h
  | cons a later ih =>
      rw [firstsFrom] at h
      split at h
      · exact List.mem_cons_of_mem a (ih () h)
      · rcases List.mem_cons.mp h with rfl | h
        · exact List.mem_cons_self
        · exact List.mem_cons_of_mem a (ih () h)

end Match

/-! ### Functions on lists of matches -/

/-- Every match that `f` lists has grown out of one that it was given. -/
def Growing (f : LazyList Match → LazyList Match) : Prop :=
  ∀ ms, (f ms).All fun m' => ∃ m ∈ ms.toList, m.Grows m'

namespace Growing

variable {f g : LazyList Match → LazyList Match}

theorem id : Growing fun ms => ms := fun _ m hm => ⟨m, hm, .refl m⟩

theorem comp (hg : Growing g) (hf : Growing f) : Growing fun ms => g (f ms) := by
  intro ms m'' hm''
  obtain ⟨m', hm', hgrows'⟩ := hg _ m'' hm''
  obtain ⟨m, hm, hgrows⟩ := hf ms m' hm'
  exact ⟨m, hm, hgrows.trans hgrows'⟩

theorem filterMap {f : Match → Option Match} (h : ∀ {m m'}, f m = some m' → m.Grows m') :
    Growing fun ms => ms.filterMap f := by
  intro ms m' hm'
  rw [LazyList.toList_filterMap] at hm'
  obtain ⟨m, hm, hf⟩ := List.mem_filterMap.mp hm'
  exact ⟨m, hm, h hf⟩

theorem extendEach {f : Match → LazyList Match} (h : ∀ m, (f m).All m.Grows) :
    Growing (Match.extendEach f) := by
  intro ms m' hm'
  have hflat := Match.mem_of_mem_firstsFrom hm'
  rw [LazyList.toList_flatMap] at hflat
  obtain ⟨m, hm, hf⟩ := List.mem_flatMap.mp hflat
  exact ⟨m, hm, h m m' hf⟩

/-- Every match that is made of one match has grown out of it. -/
theorem single (hf : Growing f) (m : Match) : (f (.single m)).All m.Grows := by
  intro m' hm'
  obtain ⟨m₀, hm₀, h⟩ := hf _ m' hm'
  cases List.mem_singleton.mp hm₀
  exact h

end Growing

/-! ### Repetition -/

namespace Repetition

variable {P : Match → Prop} {body : LazyList Match → LazyList Match} {greedy : Bool} {marks : Marks}
  {done : Marks → LazyList Match}

theorem all_visit {key : Match → Nat × Nat}
    {deeper : Marks → Match → (Marks → LazyList Match) → LazyList Match} {ms : LazyList Match}
    (hms : ms.All P)
    (hdeeper : ∀ m ∈ ms.toList, ∀ marks done, (∀ marks, (done marks).All P) →
      (deeper marks m done).All P)
    (hdone : ∀ marks, (done marks).All P) : (visit greedy key deeper ms marks done).All P := by
  induction ms generalizing marks with
  | nil => exact hdone marks
  | cons m later ih =>
      obtain ⟨hm, hms⟩ := List.forall_mem_cons.mp hms
      obtain ⟨hfirst, hdeeper⟩ := List.forall_mem_cons.mp hdeeper
      have hlater (marks : Marks) : (visit greedy key deeper (later ()) marks done).All P :=
        ih () hms hdeeper
      rw [visit]
      split
      · exact hlater marks
      · split
        · exact hfirst _ _ fun marks => LazyList.all_cons hm (hlater marks)
        · exact LazyList.all_cons hm (hfirst _ _ hlater)

theorem all_iterateFrom {r : Repetition} (hr : Growing r.body) {left : Nat} {m : Match}
    (hm : ∀ m', m.Grows m' → P m') (hdone : ∀ marks, (done marks).All P) :
    (r.iterateFrom left marks m done).All P := by
  induction left generalizing m marks done with
  | zero => exact hdone marks
  | succ left ih =>
      refine all_visit (fun m' hm' => hm m' (hr.single m m' hm')) (fun m' hm' marks done hdone => ?_) hdone
      exact ih (fun m'' hgrows => hm m'' ((hr.single m m' hm').trans hgrows)) hdone

theorem all_iterate {r : Repetition} (hr : Growing r.body) (m : Match) : (r.iterate m).All m.Grows :=
  all_iterateFrom hr (fun _ h => h) fun _ => LazyList.all_nil

theorem all_iterateOrNot {r : Repetition} (hr : Growing r.body) (m : Match) :
    (r.iterateOrNot m).All m.Grows := by
  unfold iterateOrNot
  split
  · intro m' hm'
    rw [LazyList.toList_append] at hm'
    rcases List.mem_append.mp hm' with hm' | hm'
    · exact all_iterate hr m m' hm'
    · cases List.mem_singleton.mp hm'
      exact .refl m
  · exact LazyList.all_cons (.refl m) (all_iterate hr m)

theorem growing_times (hb : Growing body) (n : Nat) : Growing (times body n) := by
  induction n with
  | zero => exact .id
  | succ n ih =>
      intro ms
      cases ms with
      | nil => exact LazyList.all_nil
      | cons m later => exact ih.comp hb (.cons m later)

theorem growing_extend (hb : Growing body) (min : Nat) (max : Option Nat) (greedy : Bool) :
    Growing (Repetition.extend body min max greedy) := by
  intro ms
  unfold Repetition.extend
  split
  · exact (Growing.extendEach (all_iterate hb)).comp (growing_times hb _) ms
  · exact (Growing.extendEach (all_iterateOrNot hb)).comp (growing_times hb _) ms

end Repetition

/-! ### Ways through a pattern -/

namespace Way

/-- Whatever holds of all that is listed onward from longer matches, and of all that the paths left lead
to, holds of all that the way lists. -/
def Growing (w : Way) : Prop :=
  ∀ (P : Match → Prop) (m : Match) (marks : Marks) (onward : Onward) (done : Marks → LazyList Match),
    (∀ m', m.Grows m' → ∀ marks more, (∀ marks, (more marks).All P) → (onward m' marks more).All P) →
    (∀ marks, (done marks).All P) → (w m marks onward done).All P

variable {a b : Way} {way : Nat → Way}

theorem all_once {P : Match → Prop} {choice : Nat} {m : Match} {marks : Marks}
    {go done : Marks → LazyList Match} (hgo : ∀ marks, (go marks).All P)
    (hdone : ∀ marks, (done marks).All P) : (once choice m marks go done).All P := by
  unfold once
  split
  · exact hdone _
  · exact hgo _

theorem growing_here : here.Growing := fun _ m marks _ _ honward hdone =>
  honward m (.refl m) marks _ hdone

theorem growing_step {f : Match → Option Match} (h : ∀ {m m'}, f m = some m' → m.Grows m') :
    (step f).Growing := by
  intro P m marks onward done honward hdone
  unfold step
  split
  · next m' hf => exact honward m' (h hf) marks _ hdone
  · exact hdone marks

theorem growing_andThen (ha : a.Growing) (hb : b.Growing) : (a.andThen b).Growing := by
  intro P m marks onward done honward hdone
  refine ha P m marks _ done (fun m' hm' marks more hmore => ?_) hdone
  exact hb P m' marks onward more (fun m'' hm'' => honward m'' (hm'.trans hm'')) hmore

theorem growing_orElse (choice : Nat) (ha : a.Growing) (hb : b.Growing) :
    (orElse choice a b).Growing := by
  intro P m marks onward done honward hdone
  refine all_once (fun marks => ?_) hdone
  exact ha P m marks onward _ honward fun marks => hb P m marks onward done honward hdone

theorem growing_orNot (choice : Nat) (greedy : Bool) (ha : a.Growing) :
    (orNot choice greedy a).Growing := by
  cases greedy with
  | false => exact growing_orElse choice growing_here ha
  | true => exact growing_orElse choice ha growing_here

theorem growing_times (hw : ∀ k, (way k).Growing) (width n k : Nat) :
    (times way width n k).Growing := by
  induction n generalizing k with
  | zero => exact growing_here
  | succ n ih =>
      change ((way k).andThen (times way width n (k + width))).Growing
      exact growing_andThen (hw k) (ih (k + width))

theorem growing_upTo (greedy : Bool) (hw : ∀ k, (way k).Growing) (width n k : Nat) :
    (upTo greedy way width n k).Growing := by
  induction n generalizing k with
  | zero => exact growing_here
  | succ n ih => exact growing_orNot k greedy (growing_andThen (hw (k + 1)) (ih (k + 1 + width)))

theorem growing_again (choice : Nat) (greedy : Bool) (ha : a.Growing) (fuel : Nat) :
    (again choice greedy a fuel).Growing := by
  induction fuel with
  | zero => exact fun _ _ marks _ _ _ hdone => hdone marks
  | succ fuel ih =>
      change (a.andThen (orNot choice greedy (again choice greedy a fuel))).Growing
      exact growing_andThen ha (growing_orNot choice greedy ih)

theorem growing_loop (choice : Nat) (greedy : Bool) (ha : a.Growing) (fuel : Nat) :
    (loop choice greedy a fuel).Growing := by
  induction fuel with
  | zero => exact fun _ _ marks _ _ _ hdone => hdone marks
  | succ fuel ih => exact growing_orNot choice greedy (growing_andThen ha ih)

theorem growing_bounded (hw : ∀ fuel, (way fuel).Growing) : (bounded way).Growing :=
  fun P m => hw _ P m

/-- A way of which a group remembers what was added on it. -/
theorem growing_close (ha : a.Growing) (i : Nat) :
    Growing fun m marks onward done =>
      a m marks (fun m' marks more => onward (m'.close i m.stop) marks more) done :=
  fun P m marks _ done honward hdone =>
    ha P m marks _ done (fun m' hm' => honward (m'.close i m.stop) (hm'.close i)) hdone

end Way

/-! ### Patterns -/

namespace Pattern

theorem growing_walk (r : Pattern) (k : Nat) : (r.walk k).Growing := by
  induction r generalizing k with
  | empty => exact Way.growing_here
  | text t => exact Way.growing_step .of_takeText?
  | set s => exact Way.growing_step .of_take?
  | look l => exact Way.growing_step .of_look?
  | seq a b iha ihb => exact Way.growing_andThen (iha k) (ihb _)
  | alt a b iha ihb => exact Way.growing_orElse k (iha _) (ihb _)
  | group i a ih => exact Way.growing_close (ih k) i
  | repeated min max greedy a ih =>
      unfold walk
      split
      · exact Way.growing_andThen (Way.growing_times ih _ _ _) (Way.growing_upTo greedy ih _ _ _)
      · split
        · exact Way.growing_bounded (Way.growing_loop k greedy (ih _))
        · exact Way.growing_orNot k greedy
            (Way.growing_bounded (Way.growing_again (k + 1) greedy (ih _)))
      · exact Way.growing_andThen (Way.growing_times ih _ _ _)
          (Way.growing_bounded (Way.growing_again _ greedy (ih _)))

theorem growing_walkFrom (r : Pattern) (marks : Marks) : Growing fun ms => r.walkFrom ms marks := by
  intro ms
  induction ms generalizing marks with
  | nil => exact LazyList.all_nil
  | cons m later ih =>
      refine r.growing_walk 0 _ m marks _ _ (fun m' hm' _ more hmore => ?_) fun marks m' hm' => ?_
      · exact LazyList.all_cons ⟨m, List.mem_cons_self, hm'⟩ (hmore _)
      · obtain ⟨m₀, hm₀, hgrows⟩ := ih () marks m' hm'
        exact ⟨m₀, List.mem_cons_of_mem m hm₀, hgrows⟩

theorem growing_walkAll (r : Pattern) : Growing r.walkAll := fun ms m' hm' =>
  r.growing_walkFrom {} ms m' (Match.mem_of_mem_firstsFrom hm')

/-- Every match that a pattern makes of some matches has grown out of one of them. -/
theorem growing_extend (r : Pattern) : Growing r.extend := by
  induction r with
  | empty => exact .id
  | text t => exact .filterMap .of_takeText?
  | set s => exact .filterMap .of_take?
  | look l => exact .filterMap .of_look?
  | seq a b iha ihb => exact ihb.comp iha
  | alt a b iha ihb =>
      refine .extendEach fun m m' hm' => ?_
      rw [LazyList.toList_append] at hm'
      rcases List.mem_append.mp hm' with hm' | hm'
      · exact iha.single m m' hm'
      · exact ihb.single m m' hm'
  | group i a ih =>
      refine .extendEach fun m m' hm' => ?_
      rw [LazyList.toList_map] at hm'
      obtain ⟨inner, hinner, rfl⟩ := List.mem_map.mp hm'
      exact (ih.single m inner hinner).close i
  | repeated min max greedy a ih =>
      intro ms
      unfold extend
      split
      · exact Growing.extendEach (fun m m' => Match.grows_of_mem_runs) ms
      · split
        · exact Repetition.growing_extend ih min max greedy ms
        · exact (growing_walkAll _).comp (Repetition.growing_times ih _) ms

end Pattern

end SchemaFragments.Regex
