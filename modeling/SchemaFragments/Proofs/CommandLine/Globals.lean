import SchemaFragments.Proofs.CommandLine.Accepted

/-! # The options that both commands take

`--color` and `--theme` may stand on either side of the other arguments of `list`, and say the same there
(`read_list_globals`).  In front of `list` they are refused, as any option is: what comes first selects the
command. -/

namespace SchemaFragments.CommandLine

variable {c : Command} {o : Opt} {os : List Occurrence} {gs gs' pre : List Given}
  {missing? : Option Opt} {args : List Text}

/-! ### Options side by side -/

namespace Command

/-- Arguments behind others give their options behind those of the others, unless two hyphens come before
them or a value is missing. -/
theorem occurrences?_append (hhyphens : ∀ a ∈ args, Argument.of a ≠ .hyphens)
    (h : c.occurrences? missing? args = some os) (later : List Text) :
    c.occurrences? missing? (args ++ later) = (c.occurrences? none later).map (os ++ ·) := by
  induction args generalizing missing? os with
  | nil =>
      cases missing? with
      | none =>
          cases h
          exact Option.map_id'.symm
      | some o => cases h
  | cons a rest ih =>
      obtain ⟨ha, hrest⟩ := List.forall_mem_cons.mp hhyphens
      rw [c.occurrences?_cons (.inr ha)] at h
      obtain ⟨r, hr, h⟩ := Option.bind_eq_some_iff.mp h
      obtain ⟨os', hos', rfl⟩ := Option.map_eq_some_iff.mp h
      rw [List.cons_append, c.occurrences?_cons (.inr ha), hr, Option.bind_some, ih hrest hos',
        Option.map_map]
      simp only [Function.comp_def, List.append_assoc]

/-- An option without a letter is not given if no argument names it. -/
theorem ne_of_not_isNamedBy (h : c.occurrences? none args = some os) (hletter : o.letter? = none)
    (hnot : ∀ a ∈ args, ¬o.IsNamedBy a) {x : Occurrence} (hx : x ∈ os) : x.1 ≠ o := by
  rintro rfl
  have hgiven := (takesAll_of_occurrences? h).mem_iff.mp ⟨x, hx, rfl⟩
  obtain ⟨a, ha, hnamed | ⟨letters, -, -, letter, hsome, -⟩⟩ := hgiven.resolve_left nofun
  · exact hnot a ha hnamed
  · rw [hletter] at hsome
    cases hsome

end Command

/-! ### Recording beside others -/

/-- What is recorded for an option is recorded beside the records of others as it is alone. -/
theorem add?_prepend {x : Occurrence} (hx : x.1 ∉ opts pre) (h : add? gs x = some gs') :
    add? (pre ++ gs) x = some (pre ++ gs') := by
  obtain ⟨o, value?⟩ := x
  have hmem : o ∈ opts (pre ++ gs) ↔ o ∈ opts gs := mem_opts_append.trans (or_iff_right hx)
  have hpre : ∀ pieces : List Text,
      pre.map (fun g => if g.opt = o then ⟨o, g.values ++ pieces⟩ else g) = pre := by
    intro pieces
    refine (List.map_congr_left fun g hg => if_neg ?_).trans (List.map_id' pre)
    rintro rfl
    exact hx (List.mem_map_of_mem hg)
  rw [add?_eq] at h ⊢
  simp only [hmem]
  split_ifs at h ⊢ with hlist hgiven
  · cases h
    rw [List.map_append, hpre]
  · cases h
    rw [List.append_assoc]
  · cases h
    rw [List.append_assoc]

theorem addAll?_prepend (hos : ∀ x ∈ os, x.1 ∉ opts pre) (h : addAll? gs os = some gs') :
    addAll? (pre ++ gs) os = some (pre ++ gs') := by
  induction os generalizing gs with
  | nil =>
      cases h
      rfl
  | cons x os ih =>
      obtain ⟨hx, hos⟩ := List.forall_mem_cons.mp hos
      rw [addAll?_cons] at h ⊢
      obtain ⟨gs₁, hgs₁, h⟩ := Option.bind_eq_some_iff.mp h
      rw [add?_prepend hx hgs₁, Option.bind_some, ih hos h]

theorem not_mem_opts_addAll? (h : addAll? [] os = some gs) (hos : ∀ x ∈ os, x.1 ≠ o) : o ∉ opts gs := by
  rw [mem_opts_addAll? h]
  rintro (hnil | ⟨x, hx, hxo⟩)
  · cases hnil
  · exact hos x hx hxo

/-! ### The two options -/

/-- The arguments for a color and a theme. -/
def globals (color : ColorChoice) (theme : ThemeChoice) : List Text :=
  ["--color", colorWord color, "--theme", themeWord theme]

/-- The records of a color and a theme. -/
def globalRecords (color : ColorChoice) (theme : ThemeChoice) : List Given :=
  [⟨.color, [colorWord color]⟩, ⟨.theme, [themeWord theme]⟩]

/-- The options of a color and a theme. -/
def globalOccurrences (color : ColorChoice) (theme : ThemeChoice) : List Occurrence :=
  [(.color, some (colorWord color)), (.theme, some (themeWord theme))]

theorem occurrences?_globals (color : ColorChoice) (theme : ThemeChoice) :
    Command.list.occurrences? none (globals color theme) = some (globalOccurrences color theme) := by
  cases color <;> cases theme <;> decide +kernel

theorem addAll?_globals (color : ColorChoice) (theme : ThemeChoice) :
    addAll? [] (globalOccurrences color theme) = some (globalRecords color theme) := by
  cases color <;> cases theme <;> decide +kernel

/-! ### Values -/

/-- Records that differ from others in a color and a theme alone. -/
structure Differs (gs gs' : List Given) (color : ColorChoice) (theme : ThemeChoice) : Prop where
  given : ∀ o, o ≠ .color → o ≠ .theme → (o ∈ opts gs' ↔ o ∈ opts gs)
  same : ∀ o, o ≠ .color → o ≠ .theme → valuesIn gs' o = valuesIn gs o
  color : valuesIn gs' .color = [colorWord color]
  theme : valuesIn gs' .theme = [themeWord theme]

theorem schemaOptions_of_differs {color : ColorChoice} {theme : ThemeChoice}
    (h : Differs gs gs' color theme) :
    ({ given := gs' } : Scan).schemaOptions = ({ given := gs } : Scan).schemaOptions := by
  have hvalues : ∀ o ∈ Opt.aboutSchema,
      ({ given := gs' } : Scan).values o = ({ given := gs } : Scan).values o := by
    intro o ho
    refine h.same o ?_ ?_ <;> rintro rfl <;> exact absurd ho (by decide)
  unfold Scan.schemaOptions Scan.value
  rw [hvalues .schemaFile (by decide), hvalues .operationNames (by decide),
    hvalues .fragmentRegex (by decide), hvalues .fragmentNameRegex (by decide)]

theorem ofScan_of_differs {color : ColorChoice} {theme : ThemeChoice} (h : Differs gs gs' color theme) :
    Arguments.ofScan .list { given := gs' } =
      { Arguments.ofScan .list { given := gs } with color := color, theme := theme } := by
  have hcolor : ({ given := gs' } : Scan).colorChoice = color := by
    have hvalue : ({ given := gs' } : Scan).value .color = colorWord color := by
      unfold Scan.value
      rw [show ({ given := gs' } : Scan).values .color = [colorWord color] from h.color]
      rfl
    unfold Scan.colorChoice
    rw [hvalue]
    cases color <;> decide
  have htheme : ({ given := gs' } : Scan).themeChoice = theme := by
    have hvalue : ({ given := gs' } : Scan).value .theme = themeWord theme := by
      unfold Scan.value
      rw [show ({ given := gs' } : Scan).values .theme = [themeWord theme] from h.theme]
      rfl
    unfold Scan.themeChoice
    rw [hvalue]
    cases theme <;> decide
  unfold Arguments.ofScan
  rw [hcolor, htheme, schemaOptions_of_differs h]
  rfl

theorem conflict?_of_differs {color : ColorChoice} {theme : ThemeChoice}
    (h : Differs gs gs' color theme) (hnone : ({ given := gs } : Scan).conflict? = none) :
    ({ given := gs' } : Scan).conflict? = none := by
  rw [conflict?_eq_none_iff] at hnone ⊢
  rwa [h.given .verbose nofun nofun, h.given .quiet nofun nofun]

theorem not_mem_opts_globalRecords (color : ColorChoice) (theme : ThemeChoice) (hcolor : o ≠ .color)
    (htheme : o ≠ .theme) : o ∉ opts (globalRecords color theme) := by
  simp [opts, globalRecords, hcolor, htheme]

theorem differs_append (color : ColorChoice) (theme : ThemeChoice) (hcolor : .color ∉ opts gs)
    (htheme : .theme ∉ opts gs) : Differs gs (gs ++ globalRecords color theme) color theme where
  given _ hc ht := mem_opts_append.trans (or_iff_left (not_mem_opts_globalRecords color theme hc ht))
  same _ hc ht := valuesIn_append_left (not_mem_opts_globalRecords color theme hc ht)
  color := (valuesIn_append_right hcolor).trans rfl
  theme := (valuesIn_append_right htheme).trans rfl

theorem differs_prepend (color : ColorChoice) (theme : ThemeChoice) (hcolor : .color ∉ opts gs)
    (htheme : .theme ∉ opts gs) : Differs gs (globalRecords color theme ++ gs) color theme where
  given _ hc ht := mem_opts_append.trans (or_iff_right (not_mem_opts_globalRecords color theme hc ht))
  same _ hc ht := valuesIn_append_right (not_mem_opts_globalRecords color theme hc ht)
  color := (valuesIn_append_left hcolor).trans rfl
  theme := (valuesIn_append_left htheme).trans rfl

/-! ### Either side -/

/-- The arguments give neither a color nor a theme, and none of them is two hyphens. -/
def LeaveGlobals (args : List Text) : Prop :=
  ∀ a ∈ args, a ≠ ['-', '-'] ∧ ¬Opt.color.IsNamedBy a ∧ ¬Opt.theme.IsNamedBy a

instance (args : List Text) : Decidable (LeaveGlobals args) :=
  inferInstanceAs (Decidable
    (∀ a ∈ args, a ≠ ['-', '-'] ∧ ¬Opt.color.IsNamedBy a ∧ ¬Opt.theme.IsNamedBy a))

theorem read_list_iff {r : Arguments} :
    Arguments.read (("list" : Text) :: args) = .ok r ↔
      ∃ os gs, Command.list.occurrences? none args = some os ∧ addAll? [] os = some gs ∧
        ({ given := gs } : Scan).conflict? = none ∧ r = .ofScan .list { given := gs } :=
  read_iff (.list args)

theorem read_list_of_differs {r : Arguments} {color : ColorChoice} {theme : ThemeChoice}
    (hos : Command.list.occurrences? none args = some os) (hadd : addAll? [] os = some gs')
    (hdiffers : Differs gs gs' color theme) (hconflict : ({ given := gs } : Scan).conflict? = none)
    (hr : r = .ofScan .list { given := gs }) :
    Arguments.read (("list" : Text) :: args) = .ok { r with color := color, theme := theme } :=
  read_list_iff.mpr
    ⟨os, gs', hos, hadd, conflict?_of_differs hdiffers hconflict, by rw [hr, ofScan_of_differs hdiffers]⟩

theorem not_hyphens_of_leaveGlobals (h : LeaveGlobals args) : ∀ a ∈ args, Argument.of a ≠ .hyphens := by
  intro a ha hof
  unfold Argument.of at hof
  split at hof
  · exact (h _ ha).1 rfl
  · cases hof
  · cases hof
  · cases hof

theorem ne_of_leaveGlobals (h : LeaveGlobals args) (hos : Command.list.occurrences? none args = some os)
    {x : Occurrence} (hx : x ∈ os) : x.1 ≠ .color ∧ x.1 ≠ .theme :=
  ⟨Command.ne_of_not_isNamedBy hos rfl (fun a ha => (h a ha).2.1) hx,
    Command.ne_of_not_isNamedBy hos rfl (fun a ha => (h a ha).2.2) hx⟩

theorem occurrences?_behind (h : LeaveGlobals args)
    (hos : Command.list.occurrences? none args = some os) (color : ColorChoice) (theme : ThemeChoice) :
    Command.list.occurrences? none (args ++ globals color theme) =
      some (os ++ globalOccurrences color theme) := by
  rw [Command.occurrences?_append (not_hyphens_of_leaveGlobals h) hos, occurrences?_globals]
  rfl

theorem occurrences?_before (hos : Command.list.occurrences? none args = some os) (color : ColorChoice)
    (theme : ThemeChoice) :
    Command.list.occurrences? none (globals color theme ++ args) =
      some (globalOccurrences color theme ++ os) := by
  have hhyphens : ∀ a ∈ globals color theme, Argument.of a ≠ .hyphens := by
    cases color <;> cases theme <;> decide
  rw [Command.occurrences?_append hhyphens (occurrences?_globals color theme), hos]
  rfl

/-- A color and a theme are recorded behind other options. -/
theorem addAll?_behind (h : addAll? [] os = some gs) (hcolor : .color ∉ opts gs)
    (htheme : .theme ∉ opts gs) (color : ColorChoice) (theme : ThemeChoice) :
    addAll? [] (os ++ globalOccurrences color theme) = some (gs ++ globalRecords color theme) := by
  have hnew : ∀ x ∈ globalOccurrences color theme, x.1 ∉ opts gs :=
    List.forall_mem_cons.mpr ⟨hcolor, List.forall_mem_singleton.mpr htheme⟩
  have hadded := addAll?_prepend hnew (addAll?_globals color theme)
  rw [List.append_nil] at hadded
  rw [addAll?_append, h, Option.bind_some, hadded]

/-- Other options are recorded behind a color and a theme. -/
theorem addAll?_before (hothers : ∀ x ∈ os, x.1 ≠ .color ∧ x.1 ≠ .theme)
    (h : addAll? [] os = some gs) (color : ColorChoice) (theme : ThemeChoice) :
    addAll? [] (globalOccurrences color theme ++ os) = some (globalRecords color theme ++ gs) := by
  have hnew : ∀ x ∈ os, x.1 ∉ opts (globalRecords color theme) := fun x hx =>
    not_mem_opts_globalRecords color theme (hothers x hx).1 (hothers x hx).2
  have hadded := addAll?_prepend hnew h
  rw [List.append_nil] at hadded
  rw [addAll?_append, addAll?_globals, Option.bind_some, hadded]

/-- What comes first on a command line selects the command: a color or a theme selects the command that
generates documents, and behind it `list` is no word any more. -/
theorem read_globals_list (color : ColorChoice) (theme : ThemeChoice) (args : List Text) :
    Arguments.read (globals color theme ++ ("list" : Text) :: args) =
      .error (.refuse .generate (.wordAfterOptions "list" [.color, .theme])) := by
  cases color <;> cases theme <;> rfl

/-- A color and a theme may stand on either side of the other arguments of `list`, and it says the same
there; in front of `list` they are refused. -/
theorem read_list_globals {r : Arguments} (hargs : LeaveGlobals args)
    (h : Arguments.read (("list" : Text) :: args) = .ok r) (color : ColorChoice) (theme : ThemeChoice) :
    Arguments.read (("list" : Text) :: (args ++ globals color theme)) =
        .ok { r with color := color, theme := theme } ∧
      Arguments.read (("list" : Text) :: (globals color theme ++ args)) =
        .ok { r with color := color, theme := theme } ∧
      ∃ p, Arguments.read (globals color theme ++ ("list" : Text) :: args) = .error (.refuse .generate p) ∧
        p.kind = .argumentConflict := by
  obtain ⟨os, gs, hos, hadd, hconflict, hr⟩ := read_list_iff.mp h
  have hothers : ∀ x ∈ os, x.1 ≠ .color ∧ x.1 ≠ .theme := fun _ => ne_of_leaveGlobals hargs hos
  have hcolor : .color ∉ opts gs := not_mem_opts_addAll? hadd fun x hx => (hothers x hx).1
  have htheme : .theme ∉ opts gs := not_mem_opts_addAll? hadd fun x hx => (hothers x hx).2
  have hbehind := occurrences?_behind hargs hos color theme
  have hbefore := occurrences?_before hos color theme
  have haddBehind := addAll?_behind hadd hcolor htheme color theme
  have haddBefore := addAll?_before hothers hadd color theme
  exact
    ⟨read_list_of_differs hbehind haddBehind (differs_append color theme hcolor htheme) hconflict hr,
      read_list_of_differs hbefore haddBefore (differs_prepend color theme hcolor htheme) hconflict hr,
      _, read_globals_list color theme args, rfl⟩

/-- A listing that asks for the operations of one entity. -/
def orderArgs : List Text := ["--operation-names=SaveOrder,order", "--schema-file", "list"]

/-- What it says. -/
def orderArguments : Arguments :=
  .ofScan .list { given := [⟨.operationNames, ["SaveOrder", "order"]⟩, ⟨.schemaFile, ["list"]⟩] }

theorem read_list_globals_order :
    Arguments.read (("list" : Text) :: (orderArgs ++ globals .never .dark)) =
        .ok { orderArguments with color := .never, theme := .dark } ∧
      Arguments.read (("list" : Text) :: (globals .never .dark ++ orderArgs)) =
        .ok { orderArguments with color := .never, theme := .dark } ∧
      ∃ p, Arguments.read (globals .never .dark ++ ("list" : Text) :: orderArgs) =
          .error (.refuse .generate p) ∧ p.kind = .argumentConflict :=
  read_list_globals (by decide +kernel) (ok_of_toOption (by decide +kernel)) .never .dark

/-- A color and a theme in front of `list` do not say what they say behind it. -/
theorem globals_not_in_front_of_list :
    ¬∀ (args : List Text) (color : ColorChoice) (theme : ThemeChoice), LeaveGlobals args →
      (∃ r, Arguments.read (("list" : Text) :: args) = .ok r) →
      ∃ r, Arguments.read (globals color theme ++ ("list" : Text) :: args) = .ok r ∧
        Arguments.read (("list" : Text) :: (args ++ globals color theme)) = .ok r := by
  intro h
  have hlist : Arguments.read [("list" : Text)] = .ok (.ofScan .list {}) := rfl
  obtain ⟨r, hr, -⟩ := h [] .never .dark (by decide) ⟨_, hlist⟩
  rw [read_globals_list] at hr
  cases hr

end SchemaFragments.CommandLine
