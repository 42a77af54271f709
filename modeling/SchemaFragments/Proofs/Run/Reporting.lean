import SchemaFragments.Proofs.Run.Session
import SchemaFragments.Proofs.Text

/-! # Reporting has no influence

The lines of a run that tell what was saved are said at its end, and only if all actions have succeeded
(`savedLines_steps`).  So a sink has them if and only if the run succeeds, and by then the files are as
the run leaves them; and whatever the sink and the console are, the files and the result are the same
(`reporting_inert`). -/

namespace SchemaFragments

variable {t : FileTree} {root : Path} {s : Source} {c : Console}

/-! ### Lines that tell what was saved -/

/-- Does a written line tell what was saved? -/
def tellsSaved (text : Text) : Bool := ("Saved " : Text).isPrefixOf text

theorem tellsSaved_of_head? {text : Text} {first : Char} (h : text.head? = some first)
    (hne : first ≠ 'S') : tellsSaved text = false := by
  cases text with
  | nil => cases h
  | cons d text =>
      cases h
      have hd : ('S' == first) = false := beq_false_of_ne hne.symm
      change (('S' == first) && _) = false
      rw [hd, Bool.false_and]

theorem head?_paint (p : Palette) (r : Role) {text : Text} {first : Char} (h : text.head? = some first) :
    (p.paint r text).head? = some '\x1b' ∨ (p.paint r text).head? = some first := by
  unfold Palette.paint
  split_ifs
  · exact .inl rfl
  · exact .inr h

/-- A line that begins with a painted piece tells something else, unless the piece begins as such lines
do. -/
theorem tellsSaved_painted {l : Line} {r : Role} {text : Text} {rest : List Piece} {a : Char}
    (hl : l.pieces = .painted r text :: rest) (h : text.head? = some a) (hne : a ≠ 'S')
    (c : Console) : tellsSaved (c.written l) = false := by
  have hhead : (c.written l).head? = (c.palette.paint r text).head? := by
    obtain ⟨d, hd⟩ : ∃ d, (c.palette.paint r text).head? = some d := by
      rcases head?_paint c.palette r h with hp | hp <;> exact ⟨_, hp⟩
    unfold Console.written Line.render
    rw [hl, List.flatMap_cons, List.append_assoc, List.head?_append]
    simp [Piece.render, hd]
  -- In color the line begins with an escape character, otherwise with the text.
  rcases head?_paint c.palette r h with hp | hp
  · exact tellsSaved_of_head? (hhead.trans hp) (by decide)
  · exact tellsSaved_of_head? (hhead.trans hp) hne

theorem tellsSaved_lines {clock : Text} (hclock : clock.head? = some '[') {l : Line}
    (hl : l ∈ s.lines clock) (c : Console) : tellsSaved (c.written l) = false := by
  unfold Source.lines at hl
  rcases List.mem_cons.mp hl with rfl | hl
  · exact tellsSaved_painted rfl hclock (by decide) c
  · split_ifs at hl
    · cases hl
    · rw [List.mem_singleton] at hl
      subst hl
      obtain ⟨d, hd, hdigit⟩ := Text.exists_head?_ofNat s.allowed.size
      refine tellsSaved_painted rfl hd ?_ c
      rintro rfl
      exact absurd hdigit (by decide)

theorem tellsSaved_entity (e : Entity) (c : Console) : tellsSaved (c.written e.line) = false := rfl

theorem tellsSaved_warningLines {stats : Stats} {l : Line} (hl : l ∈ stats.warningLines) (c : Console) :
    tellsSaved (c.written l) = false := by
  unfold Stats.warningLines at hl
  split_ifs at hl
  · cases hl
  · rcases List.mem_cons.mp hl with rfl | hl
    · exact tellsSaved_painted rfl (a := 'W') rfl (by decide) c
    · obtain ⟨w, -, rfl⟩ := List.mem_map.mp hl
      exact tellsSaved_painted rfl (a := 'W') rfl (by decide) c

theorem tellsSaved_summary {stats : Stats} {l : Line} (hl : l ∈ stats.summary root) (c : Console) :
    tellsSaved (c.written l) = true := by
  obtain ⟨k, -, rfl⟩ := List.mem_map.mp hl
  rfl

theorem shows_summary (hq : c.quiet = false) {stats : Stats} {l : Line} (hl : l ∈ stats.summary root) :
    c.shows l = true := by
  obtain ⟨k, -, rfl⟩ := List.mem_map.mp hl
  simp [Console.shows, hq]

/-- The lines of a log that tell what was saved. -/
def savedLines (log : List (FileTree × Text)) : List (FileTree × Text) := log.filter (tellsSaved ·.2)

/-- What a console writes at some moments. -/
def Console.logged (c : Console) (ms : List (FileTree × Line)) : List (FileTree × Text) :=
  (ms.filter (c.shows ·.2)).map fun m => (m.1, c.written m.2)

theorem savedLines_logged_append (c : Console) (ms ms' : List (FileTree × Line)) :
    savedLines (c.logged (ms ++ ms')) = savedLines (c.logged ms) ++ savedLines (c.logged ms') := by
  simp only [savedLines, Console.logged, List.filter_append, List.map_append]

theorem savedLines_logged_eq_nil {ms : List (FileTree × Line)}
    (h : ∀ m ∈ ms, tellsSaved (c.written m.2) = false) : savedLines (c.logged ms) = [] := by
  unfold savedLines Console.logged
  rw [List.filter_eq_nil_iff]
  intro x hx
  obtain ⟨m, hm, rfl⟩ := List.mem_map.mp hx
  simp [h m (List.mem_filter.mp hm).1]

theorem savedLines_logged_summary (hq : c.quiet = false) (t : FileTree) (stats : Stats) :
    savedLines (c.logged ((stats.summary root).map (t, ·))) =
      (stats.summary root).map fun l => (t, c.written l) := by
  have hshown : ((stats.summary root).map (t, ·)).filter (c.shows ·.2) =
      (stats.summary root).map (t, ·) := by
    rw [List.filter_eq_self]
    rintro m hm
    obtain ⟨l, hl, rfl⟩ := List.mem_map.mp hm
    exact shows_summary hq hl
  unfold savedLines Console.logged
  rw [hshown, List.map_map]
  refine List.filter_eq_self.mpr fun x hx => ?_
  obtain ⟨l, hl, rfl⟩ := List.mem_map.mp hx
  exact tellsSaved_summary hl c

/-! ### The end of a run -/

/-- While a plan is carried out nothing is told to be saved; that is told at the end, if all actions have
succeeded. -/
theorem savedLines_steps (hq : c.quiet = false) (t : FileTree) (p : Plan) (m : Medium) :
    savedLines (c.logged (moments t (p.steps root) m)) =
      match (runSteps t (p.steps root) m).result with
      | .ok () => (p.stats.summary root).map fun l => ((runSteps t (p.steps root) m).tree, c.written l)
      | .error _ => [] := by
  have hwork : savedLines (c.logged (moments t (p.work root) m)) = [] := by
    refine savedLines_logged_eq_nil fun x hx => ?_
    obtain ⟨e, -, he⟩ := Plan.eq_line_of_say_mem_work (say_mem_of_mem_moments hx)
    rw [he]
    exact tellsSaved_entity e c
  have hwarnings (u : FileTree) : savedLines (c.logged (p.stats.warningLines.map (u, ·))) = [] := by
    refine savedLines_logged_eq_nil fun m hm => ?_
    obtain ⟨l, hl, rfl⟩ := List.mem_map.mp hm
    exact tellsSaved_warningLines hl c
  obtain ⟨htree, hresult⟩ :=
    runSteps_append_say t (p.work root) (p.stats.summary root ++ p.stats.warningLines) m
  rw [Plan.steps_eq, htree, hresult, moments_append_say, savedLines_logged_append, hwork,
    List.nil_append]
  cases (runSteps t (p.work root) m).result with
  | error e => rfl
  | ok u =>
      simp only [List.map_append, savedLines_logged_append, savedLines_logged_summary hq, hwarnings,
        List.append_nil]

/-- The lines of a run that tell what was saved are those of its statistics, said when the files are as
the run leaves them, if it succeeds; if it fails there are none. -/
theorem savedLines_moments (hq : c.quiet = false) (hclock : c.clock.head? = some '[') (s : Source)
    (root : Path) (t : FileTree) (m : Medium) :
    savedLines (c.logged (s.moments root c.clock t m)) =
      match (generate s root c t m).result with
      | .ok stats => (stats.summary root).map fun l => ((generate s root c t m).tree, c.written l)
      | .error _ => [] := by
  have hopening : savedLines (c.logged ((s.lines c.clock).map (t, ·))) = [] := by
    refine savedLines_logged_eq_nil fun m hm => ?_
    obtain ⟨l, hl, rfl⟩ := List.mem_map.mp hm
    exact tellsSaved_lines hclock hl c
  unfold Source.moments Source.planned generate trace
  rw [savedLines_logged_append, hopening, List.nil_append]
  cases hr : s.read t with
  | error e => rfl
  | ok schema =>
      cases hp : Plan.ofSchema s.patterns s.allowed schema with
      | error e => simp only [Source.plan, hp]; rfl
      | ok p =>
          simp only [Source.plan, hp, savedLines_steps hq]
          cases (runSteps t (p.steps root) m).result <;> rfl

/-- Neither the console nor the sink has an influence on the files and on the result.  A quiet console
writes nothing.  The lines that tell what was saved are written if and only if the run succeeds: they are
those of its statistics, written when the files are as the run leaves them, and then all actions of the
plan have been carried out.  What `generate` tells is what is kept of all that is written. -/
theorem reporting_inert (s : Source) (root : Path) (t : FileTree) (m : Medium) :
    (∀ {σ τ : Type} (c d : Console) (k : Sink σ) (k' : Sink τ) (x : σ) (y : τ),
      (s.session root c k x t m).tree = (s.session root d k' y t m).tree ∧
        (s.session root c k x t m).result = (s.session root d k' y t m).result) ∧
    (∀ {σ : Type} (c : Console) (k : Sink σ) (x : σ), c.quiet → (s.session root c k x t m).sink = x) ∧
    (∀ c : Console, c.quiet = false → c.clock.head? = some '[' →
      savedLines (s.session root c .logging [] t m).sink =
        match (s.session root c .logging [] t m).result with
        | .ok stats => (stats.summary root).map fun l =>
            ((s.session root c .logging [] t m).tree, c.written l)
        | .error _ => []) ∧
    (∀ {σ : Type} (c : Console) (k : Sink σ) (x : σ) (stats : Stats),
      (s.session root c k x t m).result = .ok stats →
        ∃ schema p, s.read t = .ok schema ∧ Plan.ofSchema s.patterns s.allowed schema = .ok p ∧
          stats = p.stats ∧ runActions t (p.actions root) = ((s.session root c k x t m).tree, .ok ())) ∧
    ∀ c : Console, generate s root c t m =
      ⟨(s.session root c c.sink [] t m).tree, (s.session root c c.sink [] t m).sink,
        (s.session root c c.sink [] t m).result⟩ := by
  refine ⟨fun c d k k' x y => ?_, fun c k x hq => ?_, fun c hq hclock => ?_, fun c k x stats h => ?_,
    fun c => ?_⟩
  · rw [session_eq, session_eq]
    exact generate_console s root c d t m
  · rw [session_eq]
    exact sayAll_quiet hq k x _
  · rw [session_eq]
    simp only [sayAll_logging, List.nil_append]
    exact savedLines_moments hq hclock s root t m
  · rw [session_eq] at h ⊢
    exact generate_ok h
  · rw [session_eq, sayAll_sink, ← report_eq]

theorem reporting_inert_repeated :
    silentConsole.quiet = true ∧
      (repeatedSource.session "x/../o" silentConsole .logging [] repeatedTree).sink = [] ∧
      loudConsole.quiet = false ∧ loudConsole.clock.head? = some '[' ∧
      (repeatedSource.session "x/../o" loudConsole .logging [] repeatedTree).result =
        .ok ⟨3, 2, 1, [.repeatedEntity "A"]⟩ ∧
      (savedLines (repeatedSource.session "x/../o" loudConsole .logging [] repeatedTree).sink).map
          (·.2) =
        ["Saved 3 fragments to x/../o/fragments\n", "Saved 2 mutations to x/../o/mutations\n",
         "Saved 1 queries to x/../o/queries\n"] := by
  obtain ⟨-, hquiet, hsaved, -, -⟩ := reporting_inert repeatedSource "x/../o" repeatedTree
    .boundless
  have hresult : (repeatedSource.session "x/../o" loudConsole .logging [] repeatedTree).result =
      .ok ⟨3, 2, 1, [.repeatedEntity "A"]⟩ := ok_of_toOption (by decide +kernel)
  refine ⟨rfl, hquiet silentConsole .logging [] rfl, rfl, rfl, hresult, ?_⟩
  rw [hsaved loudConsole rfl rfl, hresult]
  decide +kernel

end SchemaFragments
