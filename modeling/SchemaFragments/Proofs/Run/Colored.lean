import SchemaFragments.Proofs.AllowList.NormalForm
import SchemaFragments.Proofs.Console.Colors
import SchemaFragments.Proofs.Plan.Stats
import SchemaFragments.Proofs.Run.Session

/-! # Reports in color

What a run says is made of its paths, of numbers, of the names of entities, which are identifiers, and of
the names asked for, which are entries in upper case.  So no line holds an escape character unless a path
or an entry does (`unescaped_moments`), and a report in color is the plain report but for the control
sequences that select colors (`report_without_colors`). -/

namespace SchemaFragments

variable {t : FileTree} {root : Path} {s : Source} {p : Plan}

/-! ### Texts without an escape character -/

theorem escape_not_mem_of_isIdentifier {name : Text} (h : isIdentifier name) : '\x1b' ∉ name :=
  Text.not_mem_of_forall (isIdentifier_iff.mp h).2 (by decide)

theorem escape_not_mem_ofNat (n : Nat) : '\x1b' ∉ Text.ofNat n :=
  Text.not_mem_of_forall (p := Char.isDigit) (fun _ => Text.isDigit_of_mem_ofNat) (by decide)

theorem Path.mem_join {base tail : Path} {c : Char} (h : c ∈ join base tail) :
    c ∈ base ∨ c = '/' ∨ c ∈ tail := by
  unfold join at h
  split_ifs at h
  · exact .inr (.inr h)
  · exact (List.mem_append.mp h).imp_right .inr
  · simpa [or_assoc] using h

theorem escape_not_mem_folder (h : '\x1b' ∉ root) (k : DocumentKind) : '\x1b' ∉ k.folder root := by
  intro hmem
  rcases Path.mem_join hmem with hc | hc | hc
  · exact h hc
  · exact absurd hc (by decide)
  · revert hc
    cases k <;> decide

theorem escape_not_mem_names {entries : List Text} (h : ∀ entry ∈ entries, '\x1b' ∉ entry) :
    ∀ n ∈ (AllowList.parse entries).names, '\x1b' ∉ n := by
  intro n hn
  obtain ⟨-, piece, hpiece, rfl⟩ := AllowList.mem_names_parse_iff_pieces.mp hn
  obtain ⟨entry, hentry, hsplit⟩ := List.mem_flatMap.mp hpiece
  exact AllowList.not_mem_normalize (by decide) fun hc =>
    h entry hentry (Text.mem_of_mem_splitOn hsplit hc).2

/-! ### Lines without an escape character -/

theorem unescaped_lines {clock : Text} (hclock : '\x1b' ∉ clock) (hfile : '\x1b' ∉ s.schemaFile) :
    ∀ l ∈ s.lines clock, l.Unescaped := by
  have hopening : '\x1b' ∉ (" Reading graphql schema from " : Text) := by decide
  have hrequested : '\x1b' ∉ (" operation names requested" : Text) := by decide
  unfold Source.lines
  rw [List.forall_mem_cons]
  constructor
  · simp only [Line.Unescaped, List.forall_mem_cons, Piece.text]
    exact ⟨hclock, hopening, hfile, List.forall_mem_nil _⟩
  · split_ifs
    · exact List.forall_mem_nil _
    · simp only [Line.Unescaped, List.forall_mem_cons, Piece.text]
      exact ⟨⟨escape_not_mem_ofNat _, hrequested, List.forall_mem_nil _⟩, List.forall_mem_nil _⟩

theorem unescaped_entity {e : Entity} (h : isIdentifier e.name) : e.line.Unescaped := by
  have hfragment : '\x1b' ∉ ("fragment " : Text) := by decide
  simp only [Line.Unescaped, Entity.line, List.forall_mem_cons, Piece.text]
  exact ⟨hfragment, escape_not_mem_of_isIdentifier h, List.forall_mem_nil _⟩

theorem unescaped_summary (hroot : '\x1b' ∉ root) (stats : Stats) :
    ∀ l ∈ stats.summary root, l.Unescaped := by
  intro l hl
  obtain ⟨k, -, rfl⟩ := List.mem_map.mp hl
  have hsaved : '\x1b' ∉ ("Saved " : Text) := by decide
  have hto : '\x1b' ∉ (" " ++ k.plural ++ " to " : Text) := by cases k <;> decide
  simp only [Line.Unescaped, List.forall_mem_cons, Piece.text]
  exact ⟨hsaved, escape_not_mem_ofNat _, hto, escape_not_mem_folder hroot k, List.forall_mem_nil _⟩

theorem unescaped_warning {w : Warning} (h : '\x1b' ∉ w.name) : w.line.Unescaped := by
  have hwarning : '\x1b' ∉ ("Warning:" : Text) := by decide
  have hspace : '\x1b' ∉ (" " : Text) := by decide
  have hbefore : '\x1b' ∉ ("Entity '" : Text) ∧ '\x1b' ∉ ("Operation '" : Text) := by decide
  have hrepeated : '\x1b' ∉ ("' is declared more than once; the last block wins" : Text) := by
    decide +kernel
  have hunknown : '\x1b' ∉ ("' does not match any extracted fragment" : Text) := by decide +kernel
  have htext : '\x1b' ∉ w.text := by
    cases w with
    | repeatedEntity n =>
        unfold Warning.text
        rw [List.mem_append, List.mem_append]
        exact fun hmem => hmem.elim (fun hmem => hmem.elim hbefore.1 h) hrepeated
    | unknownName n =>
        unfold Warning.text
        rw [List.mem_append, List.mem_append]
        exact fun hmem => hmem.elim (fun hmem => hmem.elim hbefore.2 h) hunknown
  simp only [Line.Unescaped, Warning.line, List.forall_mem_cons, Piece.text]
  exact ⟨hwarning, hspace, htext, List.forall_mem_nil _⟩

theorem unescaped_warningLines {stats : Stats} (h : ∀ w ∈ stats.warnings, '\x1b' ∉ w.name) :
    ∀ l ∈ stats.warningLines, l.Unescaped := by
  have hwarnings : '\x1b' ∉ ("Warnings:" : Text) := by decide
  have hspace : '\x1b' ∉ (" " : Text) := by decide
  unfold Stats.warningLines
  split_ifs
  · exact List.forall_mem_nil _
  · rw [List.forall_mem_cons]
    constructor
    · simp only [Line.Unescaped, List.forall_mem_cons, Piece.text]
      exact ⟨hwarnings, hspace, escape_not_mem_ofNat _, List.forall_mem_nil _⟩
    · intro l hl
      obtain ⟨w, hw, rfl⟩ := List.mem_map.mp hl
      exact unescaped_warning (h w hw)

/-- A warning is about the name of an entity or about a name that is asked for. -/
theorem name_of_mem_warnings (h : s.planned t = .ok p) {w : Warning} (hw : w ∈ p.stats.warnings) :
    (∃ e ∈ p.entities, w.name = e.name) ∨ w.name ∈ s.allowed.names := by
  obtain ⟨schema, -, hp⟩ := Source.planned_eq_ok.mp h
  rw [Plan.stats_ofSchema hp] at hw
  rcases List.mem_append.mp hw with hw | hw
  · obtain ⟨n, hn, rfl⟩ := List.mem_map.mp hw
    obtain ⟨e, he, rfl⟩ := List.mem_map.mp ((repeatedNames_sublist [] _).mem hn)
    exact .inl ⟨e, he, rfl⟩
  · obtain ⟨n, hn, rfl⟩ := List.mem_map.mp hw
    exact .inr (List.mem_filter.mp hn).1

/-- A run says nothing with an escape character unless a path, the time or a name asked for has one. -/
theorem unescaped_moments {clock : Text} (hclock : '\x1b' ∉ clock) (hfile : '\x1b' ∉ s.schemaFile)
    (hroot : '\x1b' ∉ root) (hnames : ∀ n ∈ s.allowed.names, '\x1b' ∉ n) (t : FileTree) (m : Medium) :
    ∀ x ∈ s.moments root clock t m, x.2.Unescaped := by
  intro x hm
  unfold Source.moments at hm
  rcases List.mem_append.mp hm with hm | hm
  · obtain ⟨l, hl, rfl⟩ := List.mem_map.mp hm
    exact unescaped_lines hclock hfile l hl
  · cases hp : s.planned t with
    | error e => simp [hp] at hm
    | ok p =>
        rw [hp] at hm
        obtain ⟨schema, -, hplan⟩ := Source.planned_eq_ok.mp hp
        have hentity : ∀ e ∈ p.entities, '\x1b' ∉ e.name := fun e he =>
          escape_not_mem_of_isIdentifier (Plan.isIdentifier_name hplan he)
        have hwarnings : ∀ w ∈ p.stats.warnings, '\x1b' ∉ w.name := by
          intro w hw
          rcases name_of_mem_warnings hp hw with ⟨e, he, hname⟩ | hname
          · rw [hname]
            exact hentity e he
          · exact hnames _ hname
        rcases Plan.say_mem_steps (say_mem_of_mem_moments hm) with ⟨e, he, hl⟩ | hl | hl
        · rw [hl]
          exact unescaped_entity (Plan.isIdentifier_name hplan he)
        · exact unescaped_summary hroot p.stats _ hl
        · exact unescaped_warningLines hwarnings _ hl

/-! ### Reports -/

/-- The first line of a run. -/
def Source.openingLine (s : Source) (clock : Text) : Line where
  pieces := [.painted .timestamp clock, .plain " Reading graphql schema from ",
    .painted .info s.schemaFile]

/-- The lines of a run behind the first one. -/
def Source.laterLines (s : Source) (root : Path) (t : FileTree) (m : Medium) : List Line :=
  (s.moments root [] t m).tail.map (·.2)

/-- The time stands in the first line of a run and nowhere else. -/
theorem map_moments_eq_cons (s : Source) (root : Path) (clock : Text) (t : FileTree) (m : Medium) :
    (s.moments root clock t m).map (·.2) = s.openingLine clock :: s.laterLines root t m := rfl

/-- A plain report begins with the time, and what comes behind does not depend on it. -/
theorem exists_report_eq {q : Palette} (hq : q.enabled = false) (s : Source) (root : Path) (c : Console)
    (t : FileTree) (m : Medium) :
    ∃ rest : Text, ∀ clock : Text, (generate s root (c.under q clock) t m).report =
      (if c.quiet || c.broken then [] else clock) ++ rest := by
  by_cases hsilent : (c.quiet || c.broken) = true
  · refine ⟨[], fun clock => ?_⟩
    rw [report_eq, c.render_under, if_pos hsilent]
    rcases Bool.or_eq_true_iff.mp hsilent with h | h <;> simp [Console.shows, h]
  · obtain ⟨hquiet, hbroken⟩ := Bool.or_eq_false_iff.mp (Bool.eq_false_iff.mpr hsilent)
    -- A console that shows anything shows the line with the time.
    have hshows (clock : Text) : c.shows (s.openingLine clock) = true := by
      simp [Console.shows, hquiet, Source.openingLine]
    have hopening (clock : Text) : (s.openingLine clock).render q =
        clock ++ (" Reading graphql schema from " ++ s.schemaFile) := by
      simp [Line.render, Source.openingLine, Piece.render_of_not_enabled hq, Piece.text]
    refine ⟨" Reading graphql schema from " ++ s.schemaFile ++ (['\n'] ++
      ((s.laterLines root t m).filter c.shows).flatMap fun l => l.render q ++ ['\n']), fun clock => ?_⟩
    rw [report_eq, c.render_under, c.clock_under, if_neg hsilent, if_neg (by simp [hbroken]),
      map_moments_eq_cons, List.filter_cons_of_pos (hshows clock), List.flatMap_cons, hopening,
      List.append_assoc, List.append_assoc]

/-- The report of a run in color is, but for the control sequences that select colors, the plain report,
and there is no escape character in that, if there is none in the paths, in the entries and in the time.
Behind the time the plain report does not depend on it. -/
theorem report_without_colors {file root : Path} {entries : List Text} {q : Palette}
    (hq : q.enabled = false) (hfile : '\x1b' ∉ file) (hroot : '\x1b' ∉ root)
    (hentries : ∀ entry ∈ entries, '\x1b' ∉ entry) (patterns : Patterns) (theme : Theme) (c : Console)
    (t : FileTree) (m : Medium) :
    ∃ rest : Text, ∀ clock : Text, '\x1b' ∉ clock →
      withoutColors (generate ⟨file, patterns, .parse entries⟩ root
          (c.under ⟨true, theme, true⟩ clock) t m).report =
        (if c.quiet || c.broken then [] else clock) ++ rest ∧
      (generate ⟨file, patterns, .parse entries⟩ root (c.under q clock) t m).report =
        (if c.quiet || c.broken then [] else clock) ++ rest ∧
      '\x1b' ∉ (generate ⟨file, patterns, .parse entries⟩ root (c.under q clock) t m).report := by
  obtain ⟨rest, hrest⟩ := exists_report_eq hq ⟨file, patterns, .parse entries⟩ root c t m
  refine ⟨rest, fun clock hclock => ?_⟩
  have hlines : ∀ l ∈ (Source.moments ⟨file, patterns, .parse entries⟩ root clock t m).map (·.2),
      l.Unescaped := by
    intro l hl
    obtain ⟨x, hx, rfl⟩ := List.mem_map.mp hl
    exact unescaped_moments hclock hfile hroot (escape_not_mem_names hentries) t m x hx
  refine ⟨?_, hrest clock, ?_⟩
  · rw [← hrest clock, report_eq, report_eq]
    exact withoutColors_render rfl rfl hq c clock hlines
  · rw [report_eq]
    exact escape_not_mem_render hq hlines

/-- A run that warns of an entity that is declared twice, on a light terminal. -/
theorem report_without_colors_repeated :
    Palette.plain.enabled = false ∧ '\x1b' ∉ ("s" : Path) ∧ '\x1b' ∉ ("x/../o" : Path) ∧
      (∀ entry ∈ (["saveA, b"] : List Text), '\x1b' ∉ entry) ∧ '\x1b' ∉ ("[12:00:00]" : Text) ∧
      withoutColors (generate ⟨"s", .standard, .parse ["saveA, b"]⟩ "x/../o"
          (loudConsole.under ⟨true, .light, true⟩ "[12:00:00]") repeatedTree).report =
        (generate ⟨"s", .standard, .parse ["saveA, b"]⟩ "x/../o"
          (loudConsole.under .plain "[12:00:00]") repeatedTree).report ∧
      '\x1b' ∉ (generate ⟨"s", .standard, .parse ["saveA, b"]⟩ "x/../o"
        (loudConsole.under .plain "[12:00:00]") repeatedTree).report := by
  have hplain : Palette.plain.enabled = false := rfl
  have hfile : '\x1b' ∉ ("s" : Path) := by decide
  have hroot : '\x1b' ∉ ("x/../o" : Path) := by decide
  have hentries : ∀ entry ∈ (["saveA, b"] : List Text), '\x1b' ∉ entry := by decide
  have hclock : '\x1b' ∉ ("[12:00:00]" : Text) := by decide
  obtain ⟨rest, hrest⟩ := report_without_colors hplain hfile hroot hentries .standard .light
    loudConsole repeatedTree .boundless
  obtain ⟨hcolored, hbare, hescape⟩ := hrest "[12:00:00]" hclock
  exact ⟨hplain, hfile, hroot, hentries, hclock, hcolored.trans hbare.symm, hescape⟩

end SchemaFragments
