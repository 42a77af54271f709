import SchemaFragments.Proofs.Run.Failed

/-! # Sessions

A run says lines while it works.  Here they go to a sink of any kind, one by one and between the
actions (`Source.session`).  A write may fail, and the run does not ask whether it did.

The steps of a run say their lines at certain moments (`moments`), which depend on nothing but the files.
So a session is `generate` with those lines written to the sink (`session_eq`), and what `generate`
reports are those lines under the palette of the console (`report_eq`). -/

namespace SchemaFragments

variable {σ : Type} {t : FileTree} {root : Path} {c : Console}

/-! ### Sinks -/

/-- Something that lines are written to.  A write says whether it worked and what the sink is then; the
sink may look at the files as they are at that moment. -/
structure Sink (σ : Type) where
  write : FileTree → Text → σ → Bool × σ

namespace Sink

/-- Keeps whatever is written. -/
def recording : Sink Text := ⟨fun _ text kept => (true, kept ++ text)⟩

/-- Every write fails. -/
def broken : Sink Text := ⟨fun _ _ kept => (false, kept)⟩

/-- Keeps the lines apart, each with the files at the moment when it was written. -/
def logging : Sink (List (FileTree × Text)) := ⟨fun t text log => (true, log ++ [(t, text)])⟩

end Sink

namespace Console

/-- A line as it is written. -/
def written (c : Console) (l : Line) : Text := l.render c.palette ++ ['\n']

/-- Writes a line if the console shows it.  Nobody asks whether that worked. -/
def say (c : Console) (k : Sink σ) (x : σ) (m : FileTree × Line) : σ :=
  if c.shows m.2 then (k.write m.1 (c.written m.2) x).2 else x

/-- Says lines one after the other. -/
def sayAll (c : Console) (k : Sink σ) (x : σ) (ms : List (FileTree × Line)) : σ := ms.foldl (c.say k) x

/-- Carries out steps up to the first failure and says each line when it comes. -/
def perform (c : Console) (k : Sink σ) (x : σ) (t : FileTree) (ss : List Step)
    (m : Medium := .boundless) : σ × FileTree × Except Failure Unit :=
  match ss with
  | [] => (x, t, .ok ())
  | .say l :: rest => c.perform k (c.say k x (t, l)) t rest m
  | .act a :: rest =>
    match a.run t m with
    | (t', .ok ()) => c.perform k x t' rest m
    | (t', .error e) => (x, t', .error e)

/-- The sink of a console that keeps its report as a text. -/
def sink (c : Console) : Sink Text := if c.broken then .broken else .recording

end Console

/-- What a run leaves behind whose lines go to a sink. -/
structure Session (σ : Type) where
  sink : σ
  tree : FileTree
  result : Except RunFailure Stats

/-- A run whose lines go to a sink. -/
def Source.session (s : Source) (root : Path) (c : Console) (k : Sink σ) (x : σ) (t : FileTree)
    (m : Medium := .boundless) : Session σ :=
  let x := c.sayAll k x ((s.lines c.clock).map (t, ·))
  match s.read t with
  | .error e => ⟨x, t, .error ⟨e, none⟩⟩
  | .ok schema =>
    match s.plan schema with
    | .error e => ⟨x, t, .error e⟩
    | .ok p =>
      match c.perform k x t (p.steps root) m with
      | (x, t', .ok ()) => ⟨x, t', .ok p.stats⟩
      | (x, t', .error e) => ⟨x, t', .error ⟨e, none⟩⟩

/-! ### Moments -/

/-- The lines that some steps say, each with the files at that moment. -/
def moments (t : FileTree) (ss : List Step) (m : Medium := .boundless) : List (FileTree × Line) :=
  match ss with
  | [] => []
  | .say l :: rest => (t, l) :: moments t rest m
  | .act a :: rest =>
    match a.run t m with
    | (t', .ok ()) => moments t' rest m
    | (_, .error _) => []

/-- The lines that a run says, each with the files at that moment. -/
def Source.moments (s : Source) (root : Path) (clock : Text) (t : FileTree)
    (m : Medium := .boundless) : List (FileTree × Line) :=
  (s.lines clock).map (t, ·) ++
    match s.planned t with
    | .ok p => SchemaFragments.moments t (p.steps root) m
    | .error _ => []

/-- Steps do the same whatever their lines go to, and say their lines at the same moments. -/
theorem perform_eq (c : Console) (k : Sink σ) (x : σ) (t : FileTree) (ss : List Step) (m : Medium) :
    c.perform k x t ss m =
      (c.sayAll k x (moments t ss m), (runSteps t ss m).tree, (runSteps t ss m).result) := by
  induction ss generalizing x t with
  | nil => rfl
  | cons step ss ih =>
      cases step with
      | say l => exact ih (c.say k x (t, l)) t
      | act a =>
          unfold Console.perform moments runSteps
          rcases a.run t m with ⟨t₁, e | ⟨⟩⟩
          · rfl
          · exact ih x t₁

theorem said_moments (t : FileTree) (ss : List Step) (m : Medium) :
    (moments t ss m).map (·.2) = (runSteps t ss m).said := by
  induction ss generalizing t with
  | nil => rfl
  | cons step ss ih =>
      cases step with
      | say l => exact congrArg (l :: ·) (ih t)
      | act a =>
          unfold moments runSteps
          rcases a.run t m with ⟨t₁, e | ⟨⟩⟩
          · rfl
          · exact ih t₁

theorem say_mem_of_mem_moments {ss : List Step} {m : Medium} {x : FileTree × Line}
    (h : x ∈ moments t ss m) : .say x.2 ∈ ss := by
  induction ss generalizing t with
  | nil => cases h
  | cons step ss ih =>
      cases step with
      | say l =>
          rcases List.mem_cons.mp h with rfl | h
          · exact List.mem_cons_self
          · exact List.mem_cons_of_mem _ (ih h)
      | act a =>
          unfold moments at h
          rcases ha : a.run t m with ⟨t₁, e | ⟨⟩⟩
          · simp [ha] at h
          · rw [ha] at h
            exact List.mem_cons_of_mem _ (ih h)

/-- What is said at the end is said when everything else is done. -/
theorem moments_append_say (t : FileTree) (ss : List Step) (ls : List Line) (m : Medium) :
    moments t (ss ++ ls.map .say) m = moments t ss m ++
      match (runSteps t ss m).result with
      | .ok () => ls.map ((runSteps t ss m).tree, ·)
      | .error _ => [] := by
  induction ss generalizing t with
  | nil =>
      -- Only lines are left, and all of them are said at one moment.
      induction ls with
      | nil => rfl
      | cons l ls ih => exact congrArg ((t, l) :: ·) ih
  | cons step ss ih =>
      cases step with
      | say l => exact congrArg ((t, l) :: ·) (ih t)
      | act a =>
          rw [List.cons_append]
          unfold moments runSteps
          rcases a.run t m with ⟨t₁, e | ⟨⟩⟩
          · rfl
          · exact ih t₁

theorem runSteps_append_say (t : FileTree) (ss : List Step) (ls : List Line) (m : Medium) :
    (runSteps t (ss ++ ls.map .say) m).tree = (runSteps t ss m).tree ∧
      (runSteps t (ss ++ ls.map .say) m).result = (runSteps t ss m).result := by
  have hactions := runSteps_eq t (ss ++ ls.map .say) m
  rw [actionsOf_append, actionsOf_map_say, List.append_nil, ← runSteps_eq] at hactions
  exact Prod.mk.injEq .. ▸ hactions

/-! ### What a plan says -/

/-- The steps of a plan up to the last action. -/
def Plan.work (root : Path) (p : Plan) : List Step :=
  (prepareActions root).map .act ++
    p.entities.flatMap fun e => .say e.line :: (e.actions root).map .act

theorem Plan.steps_eq (root : Path) (p : Plan) :
    p.steps root = p.work root ++ (p.stats.summary root ++ p.stats.warningLines).map .say := rfl

theorem Plan.eq_line_of_say_mem_work {p : Plan} {l : Line} (h : .say l ∈ p.work root) :
    ∃ e ∈ p.entities, l = e.line := by
  unfold work at h
  rcases List.mem_append.mp h with h | h
  · obtain ⟨a, -, ha⟩ := List.mem_map.mp h
    cases ha
  · obtain ⟨e, he, h⟩ := List.mem_flatMap.mp h
    rcases List.mem_cons.mp h with h | h
    · cases h
      exact ⟨e, he, rfl⟩
    · obtain ⟨a, -, ha⟩ := List.mem_map.mp h
      cases ha

theorem Plan.say_mem_steps {p : Plan} {l : Line} (h : .say l ∈ p.steps root) :
    (∃ e ∈ p.entities, l = e.line) ∨ l ∈ p.stats.summary root ∨ l ∈ p.stats.warningLines := by
  rw [Plan.steps_eq] at h
  rcases List.mem_append.mp h with h | h
  · exact .inl (eq_line_of_say_mem_work h)
  · obtain ⟨l', hl, h⟩ := List.mem_map.mp h
    cases h
    exact .inr (List.mem_append.mp hl)

/-! ### Sessions -/

/-- The console has no influence on the files and on the result. -/
theorem generate_console (s : Source) (root : Path) (c d : Console) (t : FileTree) (m : Medium) :
    (generate s root c t m).tree = (generate s root d t m).tree ∧
      (generate s root c t m).result = (generate s root d t m).result := by
  unfold generate trace
  cases hr : s.read t with
  | error e => exact ⟨rfl, rfl⟩
  | ok schema =>
      cases hp : s.plan schema with
      | error e => simp only [hp, and_self]
      | ok p => simp only [hp, and_self]

/-- A session is a run with its lines written to the sink. -/
theorem session_eq (s : Source) (root : Path) (c : Console) (k : Sink σ) (x : σ) (t : FileTree)
    (m : Medium) :
    s.session root c k x t m =
      ⟨c.sayAll k x (s.moments root c.clock t m), (generate s root c t m).tree,
        (generate s root c t m).result⟩ := by
  unfold Source.session Source.moments Source.planned generate trace Console.sayAll
  rw [List.foldl_append]
  cases hr : s.read t with
  | error e => rfl
  | ok schema =>
      cases hp : Plan.ofSchema s.patterns s.allowed schema with
      | error e =>
          simp only [Source.plan, hp]
          rfl
      | ok p =>
          simp only [Source.plan, hp, perform_eq]
          cases (runSteps t (p.steps root) m).result <;> rfl

theorem report_eq (s : Source) (root : Path) (c : Console) (t : FileTree) (m : Medium) :
    (generate s root c t m).report = c.render ((s.moments root c.clock t m).map (·.2)) := by
  have hopening : ((s.lines c.clock).map (t, ·)).map (·.2) = s.lines c.clock := by
    rw [List.map_map]
    exact List.map_id _
  unfold Source.moments Source.planned generate trace
  rw [List.map_append, hopening]
  cases hr : s.read t with
  | error e => simp only [List.map_nil, List.append_nil]
  | ok schema =>
      cases hp : Plan.ofSchema s.patterns s.allowed schema with
      | error e => simp only [Source.plan, hp, List.map_nil, List.append_nil]
      | ok p => simp only [Source.plan, hp, said_moments]

/-! ### What sinks keep -/

theorem sayAll_quiet (h : c.quiet) (k : Sink σ) (x : σ) (ms : List (FileTree × Line)) :
    c.sayAll k x ms = x := by
  unfold Console.sayAll
  induction ms with
  | nil => rfl
  | cons m ms ih =>
      have hm : c.say k x m = x := by simp [Console.say, Console.shows, h]
      rw [List.foldl_cons, hm, ih]

theorem sayAll_broken (c : Console) (x : Text) (ms : List (FileTree × Line)) :
    c.sayAll .broken x ms = x := by
  unfold Console.sayAll
  induction ms with
  | nil => rfl
  | cons m ms ih =>
      have hm : c.say .broken x m = x := by simp [Console.say, Sink.broken]
      rw [List.foldl_cons, hm, ih]

theorem sayAll_recording (c : Console) (x : Text) (ms : List (FileTree × Line)) :
    c.sayAll .recording x ms = x ++ ((ms.map (·.2)).filter c.shows).flatMap c.written := by
  unfold Console.sayAll
  induction ms generalizing x with
  | nil => simp
  | cons m ms ih =>
      rw [List.foldl_cons, ih]
      by_cases hm : c.shows m.2 <;> simp [Console.say, Sink.recording, hm]

theorem sayAll_sink (c : Console) (ms : List (FileTree × Line)) :
    c.sayAll c.sink [] ms = c.render (ms.map (·.2)) := by
  unfold Console.sink Console.render
  split_ifs
  · exact sayAll_broken c [] ms
  · exact sayAll_recording c [] ms

theorem sayAll_logging (c : Console) (log : List (FileTree × Text)) (ms : List (FileTree × Line)) :
    c.sayAll .logging log ms =
      log ++ (ms.filter (c.shows ·.2)).map fun m => (m.1, c.written m.2) := by
  unfold Console.sayAll
  induction ms generalizing log with
  | nil => simp
  | cons m ms ih =>
      rw [List.foldl_cons, ih]
      by_cases hm : c.shows m.2 <;> simp [Console.say, Sink.logging, hm]

/-- A console that shows everything. -/
def loudConsole : Console where
  palette := .plain
  verbose := true
  clock := "[12:00:00]"

end SchemaFragments
