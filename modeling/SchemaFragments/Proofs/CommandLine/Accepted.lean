import SchemaFragments.Proofs.Text
import SchemaFragments.Proofs.CommandLine.Records

/-! # Command lines that are accepted

The first word of a command line selects the command (`Selects`), and a command line is accepted if what it
gives to that command can be recorded (`read_iff`).  What an accepted command line says is what it gives:
nothing is lost, nothing contradicts itself, and nothing is given to a command that is not selected
(`read_tells`). -/

namespace SchemaFragments.CommandLine

variable {c : Command} {o : Opt} {s s' : Scan} {a : Text} {argv args : List Text} {r : Arguments}
  {os : List Occurrence} {gs : List Given}

/-! ### Selecting a command -/

/-- The command that a command line selects, and the arguments that are left for it. -/
inductive Selects : List Text → Command → List Text → Prop
  | list (args : List Text) : Selects (("list" : Text) :: args) .list args
  | generate {args : List Text} (h : args.head? ≠ some ("list" : Text)) : Selects args .generate args

theorem exists_selects (argv : List Text) : ∃ c args, Selects argv c args := by
  by_cases h : argv.head? = some ("list" : Text)
  · obtain ⟨args, rfl⟩ := List.head?_eq_some_iff.mp h
    exact ⟨.list, args, .list args⟩
  · exact ⟨.generate, argv, .generate h⟩

/-- Something has been read behind which no word selects a command. -/
def Scan.Begun (s : Scan) : Prop := s.anyOption = true ∨ s.wordsOnly = true

namespace Command

theorem anyOption_of_takeLetters {text : Text} (hne : text ≠ [])
    (h : c.takeLetters s text = .ok s') : s'.anyOption = true := by
  have heq := takeLetters_eq c s hne
  rw [h] at heq
  obtain ⟨gs, -, heq⟩ := Option.bind_eq_some_iff.mp heq.symm
  obtain ⟨fs, -, heq⟩ := Option.bind_eq_some_iff.mp heq
  obtain ⟨gs', -, rfl⟩ := Option.map_eq_some_iff.mp heq
  rfl

theorem anyOption_of_takeLong {name : Text} {value? : Option Text}
    (h : c.takeLong s name value? = .ok s') : s'.anyOption = true := by
  have heq := takeLong_eq c s name value?
  rw [h] at heq
  obtain ⟨gs, -, heq⟩ := Option.bind_eq_some_iff.mp heq.symm
  obtain ⟨o, -, heq⟩ := Option.bind_eq_some_iff.mp heq
  cases value? with
  | some value =>
      simp only at heq
      split_ifs at heq
      obtain ⟨gs', -, rfl⟩ := Option.map_eq_some_iff.mp heq
      rfl
  | none =>
      simp only at heq
      split_ifs at heq
      · cases heq
        rfl
      · obtain ⟨gs', -, rfl⟩ := Option.map_eq_some_iff.mp heq
        rfl

/-- An argument that is taken is an option or two hyphens, unless it is a value for an option before it. -/
theorem begun_of_take (h : c.take s a = .ok s') (hs : s.Begun ∨ s.missing? = none) : s'.Begun := by
  cases hwords : s.wordsOnly with
  | true =>
      unfold take at h
      rw [hwords, if_pos rfl] at h
      cases h
  | false =>
      rw [take_eq c hwords] at h
      cases ha : Argument.of a with
      | hyphens =>
          rw [ha] at h
          cases h
          exact .inr rfl
      | long name value? =>
          rw [ha] at h
          exact .inl (anyOption_of_takeLong h)
      | letters text =>
          rw [ha] at h
          exact .inl (anyOption_of_takeLetters (Argument.letters_ne_nil ha) h)
      | word =>
          rw [ha] at h
          rcases hdue : s.due? with _ | ⟨o, _ | value⟩
          · rw [hdue] at h
            cases h
          · have hmissing : s.missing? = some o := by rw [Scan.missing?, hdue]
            rw [hmissing] at hs
            rw [hdue] at h
            cases h
            exact hs.resolve_right nofun
          · rw [hdue] at h
            cases h

end Command

/-- Behind something that has been read, the arguments are those of the command that generates documents. -/
theorem scanFrom_of_begun (hs : s.Begun) (args : List Text) :
    scanFrom s args = (Command.generate.takeAll s args).map fun s => (.generate, s) := by
  -- On the arguments: what has been read is not forgotten, so no word behind it selects a command.
  induction args generalizing s with
  | nil => rfl
  | cons a rest ih =>
      have hword : ∀ word : Text, ¬((!s.anyOption) = true ∧ (!s.wordsOnly) = true ∧ a = word) := by
        rintro word ⟨hoption, hwords, -⟩
        rcases hs with h | h
        · rw [h] at hoption
          cases hoption
        · rw [h] at hwords
          cases hwords
      rw [scanFrom, if_neg (hword _), if_neg (hword _), Command.takeAll]
      cases htake : Command.generate.take s a with
      | error e => rfl
      | ok s' => exact ih (Command.begun_of_take htake (.inl hs))

/-- A command line that does not begin with `list` gives all its arguments to the command that generates
documents, if it asks for anything to be run. -/
theorem toOption_scanFrom (h : args.head? ≠ some ("list" : Text)) :
    (scanFrom {} args).toOption =
      (Command.generate.takeAll {} args).toOption.map fun s => (.generate, s) := by
  cases args with
  | nil => rfl
  | cons a rest =>
      by_cases hhelp : a = ("help" : Text)
      -- To ask for help and to meet a word that is no value both end without arguments to carry out.
      · subst hhelp
        rfl
      · have hlist : a ≠ ("list" : Text) := fun ha => h (congrArg some ha)
        rw [scanFrom, if_neg (by simpa using hlist), if_neg (by simpa using hhelp), Command.takeAll]
        cases htake : Command.generate.take {} a with
        | error e => rfl
        | ok s =>
            simp only
            rw [scanFrom_of_begun (Command.begun_of_take htake (.inr rfl))]
            cases Command.generate.takeAll s rest <;> rfl

/-- A command line is accepted if what it gives to the command that it selects can be recorded and none of
it excludes another. -/
theorem read_iff (h : Selects argv c args) :
    Arguments.read argv = .ok r ↔
      ∃ os gs, c.occurrences? none args = some os ∧ addAll? [] os = some gs ∧
        ({ given := gs } : Scan).conflict? = none ∧ r = .ofScan c { given := gs } := by
  have hscan : (scanFrom {} argv).toOption = (c.takeAll {} args).toOption.map fun s => (c, s) := by
    cases h with
    | list =>
        rw [scanFrom, if_pos (by decide)]
        cases Command.list.takeAll {} args <;> rfl
    | generate h => exact toOption_scanFrom h
  rw [← Command.accepted_iff]
  unfold Arguments.read
  cases htake : c.takeAll {} args with
  | error e =>
      rw [htake] at hscan
      cases hfails : scanFrom {} argv with
      | error e => exact iff_of_false nofun nofun
      | ok r =>
          rw [hfails] at hscan
          cases hscan
  | ok s =>
      rw [htake] at hscan
      rw [ok_of_toOption hscan]
      constructor
      · exact fun h => ⟨s, rfl, h⟩
      · rintro ⟨_, ⟨⟩, h⟩
        exact h

/-! ### What is recorded -/

theorem conflict?_eq_none_iff :
    ({ given := gs } : Scan).conflict? = none ↔ ¬(.verbose ∈ opts gs ∧ .quiet ∈ opts gs) := by
  unfold Scan.conflict? Scan.opts opts
  split_ifs with hboth
  · refine iff_of_false ?_ (not_not.mpr hboth)
    simp only
    split <;> exact nofun
  · exact iff_of_true rfl hboth

theorem not_isGivenBy_list (o : Opt) : ¬o.IsGivenBy "list" := by
  rw [Opt.isGivenBy_iff]
  exact id

/-- The word that selects a command gives no option. -/
theorem Selects.isGivenBy_iff (h : Selects argv c args) :
    (∃ a ∈ argv, o.IsGivenBy a) ↔ ∃ a ∈ args, o.IsGivenBy a := by
  cases h with
  | list => rw [List.exists_mem_cons_iff, or_iff_right (not_isGivenBy_list o)]
  | generate => rfl

/-- The word that selects a command gives no value. -/
theorem Selects.valuesGiven (h : Selects argv c args) : o.valuesGiven argv = o.valuesGiven args := by
  cases h with
  | list =>
      have hform : Argument.of ("list" : Text) = .word := rfl
      have hne : ("list" : Text) ≠ o.argument := by
        rw [Ne, Opt.eq_argument_iff, hform]
        exact nofun
      have hattached : o.attached "list" = [] := by
        refine Opt.attached_eq_nil fun value => ?_
        rw [hform]
        exact nofun
      rw [Opt.valuesGiven, hattached, if_neg hne]
      rfl
  | generate => rfl

/-- An accepted command line: the command that it selects, the options that are taken off its arguments, and
their records. -/
structure Recorded (argv : List Text) (c : Command) (os : List Occurrence) (gs : List Given) : Prop where
  taken : ∃ args, Selects argv c args ∧ c.TakesAll none args os
  recorded : addAll? [] os = some gs
  noConflict : ({ given := gs } : Scan).conflict? = none

theorem exists_recorded (h : Arguments.read argv = .ok r) :
    ∃ c os gs, Recorded argv c os gs ∧ r = .ofScan c { given := gs } := by
  obtain ⟨c, args, hselects⟩ := exists_selects argv
  obtain ⟨os, gs, hos, hadd, hconflict, hr⟩ := (read_iff hselects).mp h
  have htakes := Command.takesAll_of_occurrences? hos
  exact ⟨c, os, gs, ⟨⟨args, hselects, htakes⟩, hadd, hconflict⟩, hr⟩

namespace Recorded

variable (h : Recorded argv c os gs)

include h

theorem mem_iff : (∃ x ∈ os, x.1 = o) ↔ ∃ a ∈ argv, o.IsGivenBy a := by
  obtain ⟨args, hselects, htakes⟩ := h.taken
  rw [htakes.mem_iff, hselects.isGivenBy_iff]
  exact or_iff_right nofun

theorem valuesOf_eq (hvalued : o.isValued) : valuesOf o os = o.valuesGiven argv := by
  obtain ⟨args, hselects, htakes⟩ := h.taken
  rw [htakes.values hvalued, hselects.valuesGiven]
  rfl

/-- A command is given none but its own options. -/
theorem mem_options (ha : a ∈ argv) (hgiven : o.IsGivenBy a) : o ∈ c.options := by
  obtain ⟨x, hx, rfl⟩ := h.mem_iff.mpr ⟨a, ha, hgiven⟩
  obtain ⟨args, -, htakes⟩ := h.taken
  exact htakes.options nofun x hx

/-- An option is recorded if and only if an argument gives it. -/
theorem mem_opts_iff : o ∈ opts gs ↔ ∃ a ∈ argv, o.IsGivenBy a := by
  rw [mem_opts_addAll? h.recorded, h.mem_iff]
  exact or_iff_right nofun

/-- The values that are recorded are those that the arguments give, in their order. -/
theorem valuesIn_eq (hvalued : o.isValued) : valuesIn gs o = (o.valuesGiven argv).flatMap o.pieces := by
  rw [valuesIn_addAll? h.recorded, h.valuesOf_eq hvalued]
  rfl

end Recorded

/-! ### What an accepted command line says -/

/-- The value of an option is the only one that a command line gives for it, or the default if it gives
none. -/
def Opt.IsValueIn (o : Opt) (argv : List Text) (value : Text) : Prop :=
  o.valuesGiven argv = [value] ∨ o.valuesGiven argv = [] ∧ o.default? = some value

/-- The word for a choice of color. -/
def colorWord : ColorChoice → Text
  | .always => "always"
  | .auto => "auto"
  | .never => "never"

/-- The word for a choice of theme. -/
def themeWord : ThemeChoice → Text
  | .dark => "dark"
  | .light => "light"
  | .auto => "auto"

namespace Arguments

/-- The options about the schema, for the command that is selected. -/
def schema (r : Arguments) : SchemaOptions := r.list?.getD r.generate.schema

/-- Everything that a command line gives is said, and nothing else. -/
structure Tells (r : Arguments) (argv : List Text) : Prop where
  schemaFile : Opt.schemaFile.IsValueIn argv r.schema.schemaFile
  operationNames :
    r.schema.operationNames = (Opt.operationNames.valuesGiven argv).flatMap (Text.splitOn ',')
  fragmentRegex : Opt.fragmentRegex.IsValueIn argv r.schema.fragmentRegex
  fragmentNameRegex : Opt.fragmentNameRegex.IsValueIn argv r.schema.fragmentNameRegex
  outputFolder : Opt.outputFolder.IsValueIn argv r.generate.outputFolder
  verbose : r.generate.verbose = true ↔ ∃ a ∈ argv, Opt.verbose.IsGivenBy a
  quiet : r.generate.quiet = true ↔ ∃ a ∈ argv, Opt.quiet.IsGivenBy a
  color : Opt.color.IsValueIn argv (colorWord r.color)
  theme : Opt.theme.IsValueIn argv (themeWord r.theme)

theorem schema_ofScan (c : Command) (s : Scan) : (ofScan c s).schema = s.schemaOptions := by
  cases c <;> rfl

end Arguments

theorem Recorded.isValueIn (h : Recorded argv c os gs) (hvalued : o.isValued)
    (hsingle : o.isList = false) {default : Text} (hdefault : o.default? = some default) :
    o.IsValueIn argv (({ given := gs } : Scan).value o) := by
  have hvalues : ({ given := gs } : Scan).values o = o.valuesGiven argv := by
    have hpieces : o.pieces = fun value => [value] := by
      unfold Opt.pieces
      simp only [hsingle, Bool.false_eq_true, if_false]
    refine (h.valuesIn_eq hvalued).trans ?_
    rw [hpieces]
    exact List.flatMap_singleton' _
  have hlength : (({ given := gs } : Scan).values o).length ≤ 1 :=
    length_valuesIn_addAll?_le h.recorded hsingle (Nat.zero_le 1)
  unfold Opt.IsValueIn Scan.value
  rw [hvalues] at hlength ⊢
  rw [hdefault]
  rcases hgiven : o.valuesGiven argv with _ | ⟨value, _ | ⟨next, rest⟩⟩
  · exact .inr ⟨rfl, rfl⟩
  · exact .inl rfl
  · rw [hgiven] at hlength
    simp at hlength

/-- Whichever command is selected, the options for generating documents that are not about the schema are
those that are recorded: none of them can be given to `list`. -/
theorem Recorded.generate_ofScan (h : Recorded argv c os gs) :
    (Arguments.ofScan c { given := gs }).generate =
      { ({ given := gs } : Scan).generateOptions with
        schema := (Arguments.ofScan c { given := gs }).generate.schema } := by
  cases c with
  | generate => rfl
  | list =>
      have hforeign : ∀ o, o ∉ Command.list.options → o ∉ opts gs := by
        intro o ho hrecorded
        obtain ⟨a, ha, hgiven⟩ := h.mem_opts_iff.mp hrecorded
        exact ho (h.mem_options ha hgiven)
      have hfolder : ({ given := gs } : Scan).value .outputFolder = ({} : Scan).value .outputFolder := by
        have hvalues : ({ given := gs } : Scan).values .outputFolder = [] :=
          valuesIn_of_not_mem (hforeign .outputFolder (by decide))
        unfold Scan.value
        rw [hvalues]
        rfl
      have hflag : ∀ o, o ∉ Command.list.options →
          decide (o ∈ ({ given := gs } : Scan).opts) = decide (o ∈ ({} : Scan).opts) := by
        intro o ho
        exact (decide_eq_false (hforeign o ho)).trans rfl
      unfold Scan.generateOptions
      rw [hfolder, hflag .verbose (by decide), hflag .quiet (by decide)]
      rfl

/-- The value of an option with choices is one of them. -/
theorem Recorded.value_mem_choices (h : Recorded argv c os gs) (hvalued : o.isValued)
    (hsingle : o.isList = false) {default : Text} (hdefault : o.default? = some default)
    (hmem : default ∈ o.choices) : ({ given := gs } : Scan).value o ∈ o.choices := by
  rcases h.isValueIn hvalued hsingle hdefault with hgiven | ⟨-, hvalue⟩
  · have hvalue : ({ given := gs } : Scan).value o ∈ valuesOf o os := by
      rw [h.valuesOf_eq hvalued, hgiven]
      exact List.mem_singleton_self _
    have hright := valueProblem?_of_addAll? h.recorded hsingle _ hvalue
    unfold Scan.valueProblem? at hright
    split_ifs at hright with hempty hchoices hnil
    rw [not_and, not_not] at hchoices
    exact hchoices (List.ne_nil_of_mem hmem)
  · rw [← Option.some.inj (hdefault.symm.trans hvalue)]
    exact hmem

theorem Recorded.colorWord_eq (h : Recorded argv c os gs) :
    colorWord ({ given := gs } : Scan).colorChoice = ({ given := gs } : Scan).value .color := by
  have hwords : ∀ value ∈ Opt.color.choices,
      colorWord (if value = "always" then .always else if value = "never" then .never else .auto) =
        value := by decide
  exact hwords _ (h.value_mem_choices rfl rfl rfl (by decide))

theorem Recorded.themeWord_eq (h : Recorded argv c os gs) :
    themeWord ({ given := gs } : Scan).themeChoice = ({ given := gs } : Scan).value .theme := by
  have hwords : ∀ value ∈ Opt.theme.choices,
      themeWord (if value = "dark" then .dark else if value = "light" then .light else .auto) =
        value := by decide
  exact hwords _ (h.value_mem_choices rfl rfl rfl (by decide))

/-- What an accepted command line gives is said, and nothing else. -/
theorem Recorded.tells (h : Recorded argv c os gs) :
    (Arguments.ofScan c { given := gs }).Tells argv where
  schemaFile := by
    rw [Arguments.schema_ofScan]
    exact h.isValueIn rfl rfl rfl
  operationNames := by
    rw [Arguments.schema_ofScan]
    exact h.valuesIn_eq rfl
  fragmentRegex := by
    rw [Arguments.schema_ofScan]
    exact h.isValueIn rfl rfl rfl
  fragmentNameRegex := by
    rw [Arguments.schema_ofScan]
    exact h.isValueIn rfl rfl rfl
  outputFolder := by
    rw [h.generate_ofScan]
    exact h.isValueIn rfl rfl rfl
  verbose := by
    rw [h.generate_ofScan]
    exact decide_eq_true_iff.trans h.mem_opts_iff
  quiet := by
    rw [h.generate_ofScan]
    exact decide_eq_true_iff.trans h.mem_opts_iff
  color := by
    change Opt.color.IsValueIn argv (colorWord ({ given := gs } : Scan).colorChoice)
    rw [h.colorWord_eq]
    exact h.isValueIn rfl rfl rfl
  theme := by
    change Opt.theme.IsValueIn argv (themeWord ({ given := gs } : Scan).themeChoice)
    rw [h.themeWord_eq]
    exact h.isValueIn rfl rfl rfl

/-- The options for generating documents when none of them is given. -/
def GenerateOptions.defaults : GenerateOptions where
  schema :=
    { schemaFile := "schema.graphql"
      operationNames := []
      fragmentRegex := Patterns.defaultBlock
      fragmentNameRegex := Patterns.defaultName }
  outputFolder := "src/generated"
  verbose := false
  quiet := false

/-- No accepted command line drops or contradicts an option.  It does not ask for more and for fewer
messages at once; the names of operations are the pieces of all values given for them; what is given is
said; and if `list` is selected, that word comes first, the options for generating have their defaults, and
no option is given that `list` does not take. -/
theorem read_tells (h : Arguments.read argv = .ok r) :
    ¬(r.generate.verbose = true ∧ r.generate.quiet = true) ∧
      (∀ name ∈ r.schema.operationNames, ',' ∉ name) ∧
      r.schema.operationNames = (Opt.operationNames.valuesGiven argv).flatMap (Text.splitOn ',') ∧
      (r.list?.isSome → argv.head? = some ("list" : Text) ∧ r.generate = .defaults ∧
        ∀ o ∈ Command.generate.options, o ∉ Command.list.options → ∀ a ∈ argv, ¬o.IsGivenBy a) ∧
      r.Tells argv := by
  obtain ⟨c, os, gs, hrecorded, rfl⟩ := exists_recorded h
  have htells := hrecorded.tells
  refine ⟨?_, ?_, htells.operationNames, ?_, htells⟩
  · rintro ⟨hverbose, hquiet⟩
    refine conflict?_eq_none_iff.mp hrecorded.noConflict ⟨?_, ?_⟩
    · exact hrecorded.mem_opts_iff.mpr (htells.verbose.mp hverbose)
    · exact hrecorded.mem_opts_iff.mpr (htells.quiet.mp hquiet)
  · intro name hname hcomma
    rw [htells.operationNames] at hname
    obtain ⟨value, -, hpiece⟩ := List.mem_flatMap.mp hname
    exact (Text.mem_of_mem_splitOn hpiece hcomma).1 rfl
  · intro hlist
    obtain ⟨args, hselects, -⟩ := hrecorded.taken
    cases hselects with
    | generate => cases hlist
    | list => exact ⟨rfl, rfl, fun o _ hforeign a ha hgiven => hforeign (hrecorded.mem_options ha hgiven)⟩

/-- A command line that asks for more messages, and twice for operations. -/
def verboseArgs : List Text :=
  ["--operation-names", "SaveOrder,order", "-v", "--schema-file", "list", "--operation-names=,item"]

/-- What it says. -/
def verboseArguments : Arguments :=
  .ofScan .generate
    { given :=
        [⟨.operationNames, ["SaveOrder", "order", "", "item"]⟩, ⟨.verbose, []⟩, ⟨.schemaFile, ["list"]⟩] }

/-- A command line that asks for a listing, and twice for operations. -/
def listingArgs : List Text := ["list", "--operation-names=SaveOrder,order", "--operation-names", "item"]

/-- What it says. -/
def listingArguments : Arguments :=
  .ofScan .list { given := [⟨.operationNames, ["SaveOrder", "order", "item"]⟩] }

theorem read_tells_repeated :
    (Arguments.read verboseArgs = .ok verboseArguments ∧ verboseArguments.Tells verboseArgs ∧
      ¬(verboseArguments.generate.verbose = true ∧ verboseArguments.generate.quiet = true)) ∧
    Arguments.read listingArgs = .ok listingArguments ∧ listingArguments.Tells listingArgs ∧
      listingArguments.generate = .defaults ∧ ¬Opt.outputFolder.IsGivenBy "--operation-names" := by
  have hverbose : Arguments.read verboseArgs = .ok verboseArguments :=
    ok_of_toOption (by decide +kernel)
  have hlisting : Arguments.read listingArgs = .ok listingArguments :=
    ok_of_toOption (by decide +kernel)
  obtain ⟨hboth, -, -, -, htells⟩ := read_tells hverbose
  obtain ⟨-, -, -, hlist, hlistTells⟩ := read_tells hlisting
  obtain ⟨-, hdefaults, hforeign⟩ := hlist rfl
  exact
    ⟨⟨hverbose, htells, hboth⟩, hlisting, hlistTells, hdefaults,
      hforeign .outputFolder (by decide) (by decide) "--operation-names" (by decide)⟩

end SchemaFragments.CommandLine
