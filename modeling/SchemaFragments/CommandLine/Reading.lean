import SchemaFragments.CommandLine.Problem

/-! # Reading the command line

`Arguments.read` reads the arguments of a call from left to right.  A value may follow its option as
the next argument or behind an equals sign; letters may be written together behind one hyphen.  The
word `list` selects the other command, but only before any option is given.  What is not given has a
default value.

A value is checked when the next argument has been looked at: `Scan.settle` does so, and a problem
with that next argument may come first. -/

namespace SchemaFragments.CommandLine

/-! ### What is read -/

/-- The options about the schema, which both commands take. -/
structure SchemaOptions where
  schemaFile : Path
  operationNames : List Text
  fragmentRegex : Text
  fragmentNameRegex : Text
  deriving DecidableEq, Repr

/-- The options for generating documents. -/
structure GenerateOptions where
  schema : SchemaOptions
  outputFolder : Path
  verbose : Bool
  quiet : Bool
  deriving DecidableEq, Repr

/-- What a command line says.  The options for generating have their defaults if it asks for a
list. -/
structure Arguments where
  list? : Option SchemaOptions
  generate : GenerateOptions
  color : ColorChoice
  theme : ThemeChoice
  deriving DecidableEq, Repr

/-- Why a command line asks for nothing to be run. -/
inductive Stop where
  | showHelp (page : Page)
  | showVersion
  | refuse (command : Command) (problem : Problem)
  deriving DecidableEq, Repr

/-! ### Options given -/

/-- An option and its values. -/
structure Given where
  opt : Opt
  values : List Text
  deriving DecidableEq, Repr

/-- How far the reading of a command's arguments has come. -/
structure Scan where
  /-- The options recorded so far, in the order in which they were first given. -/
  given : List Given := []
  /-- An option whose recording is due, and its value once that has been seen. -/
  due? : Option (Opt × Option Text) := none
  /-- Has any option been recognised? -/
  anyOption : Bool := false
  /-- Have two hyphens been passed, after which there are only words? -/
  wordsOnly : Bool := false
  deriving DecidableEq, Repr

namespace Scan

/-- The options recorded so far. -/
def opts (s : Scan) : List Opt := s.given.map (·.opt)

/-- The values of an option. -/
def values (s : Scan) (o : Opt) : List Text := ((s.given.find? (·.opt = o)).map (·.values)).getD []

/-- What is wrong with a value. -/
def valueProblem? (o : Opt) (value : Text) : Option Problem :=
  if o.isPath ∧ value = [] then some (.missingValue o)
  else if o.choices ≠ [] ∧ value ∉ o.choices then
    if value = [] then some (.missingValue o) else some (.invalidValue o value)
  else none

/-- Records an option with the value that it was given, if it takes one.  An option that was
recorded already is a problem and is forgotten; to a list the pieces of the value are added. -/
def record (s : Scan) (o : Opt) (value? : Option Text) : Scan × Option Problem :=
  if o.isList then
    let pieces := value?.elim [] (Text.splitOn ',')
    if o ∈ s.opts then
      ({ s with
          given := s.given.map fun g => if g.opt = o then ⟨o, g.values ++ pieces⟩ else g }, none)
    else ({ s with given := s.given ++ [⟨o, pieces⟩] }, none)
  else if o ∈ s.opts then
    ({ s with given := s.given.filter (·.opt ≠ o) }, some (.repeated o))
  else ({ s with given := s.given ++ [⟨o, value?.toList⟩] }, value?.bind (valueProblem? o))

/-- Records the option whose recording is due. -/
def settle (s : Scan) : Scan × Option Problem :=
  match s.due? with
  | none => (s, none)
  | some (o, none) => ({ s with due? := none }, some (.missingValue o))
  | some (o, some value) => { s with due? := none }.record o (some value)

end Scan

/-! ### Single arguments -/

/-- The outcome of one argument: the scan goes on, or it stops. -/
abbrev Advance := Except Stop Scan

namespace Command

/-- Goes on with a scan unless there is a problem. -/
def proceed (c : Command) (r : Scan × Option Problem) : Advance :=
  match r.2 with
  | some p => .error (.refuse c p)
  | none => .ok r.1

/-- An option that takes no value. -/
def takeFlag (c : Command) (s : Scan) (o : Opt) : Advance :=
  match c.proceed s.settle with
  | .error e => .error e
  | .ok s =>
    match o with
    | .help => .error (.showHelp (.command c))
    | .version => .error .showVersion
    | o => c.proceed (s.record o none)

/-- An argument that begins with two hyphens: `name` is what comes behind them, and `value?` what
comes behind an equals sign. -/
def takeLong (c : Command) (s : Scan) (name : Text) (value? : Option Text) : Advance :=
  match c.ofLong? name with
  | none =>
    let similar? := (mostSimilar? name (c.options.map (·.long))).bind c.ofLong?
    .error (.refuse c (.unknownLong name similar? s.settle.1.opts))
  | some o =>
    let s := { s with anyOption := true }
    match o.valueName?, value? with
    | none, none => c.takeFlag s o
    | none, some value => .error (.refuse c (.unexpectedValue o value s.opts))
    | some _, none =>
      match c.proceed s.settle with
      | .error e => .error e
      | .ok s => .ok { s with due? := some (o, none) }
    | some _, some value =>
      match c.proceed s.settle with
      | .error e => .error e
      | .ok s => c.proceed (s.record o (some value))

/-- The letters behind one hyphen. -/
def takeLetters (c : Command) (s : Scan) : Text → Advance
  | [] => .ok s
  | letter :: rest =>
    match c.ofLetter? letter with
    | none => .error (.refuse c (.unknownArgument ['-', letter]))
    | some o =>
      match c.takeFlag { s with anyOption := true } o with
      | .error e => .error e
      | .ok s => takeLetters c s rest

/-- The problem with a word that is no value and names nothing to do. -/
def wordProblem (c : Command) (s : Scan) (word : Text) : Problem :=
  if c.subcommands = [] then .unknownArgument word
  else if s.anyOption then .wordAfterOptions word s.settle.1.opts
  else if s.wordsOnly ∧ word ∈ c.subcommands then .wordAfterHyphens word
  else .unknownWord word (similarTo word c.subcommands)

/-- The name and the value of an argument that begins with two hyphens, given what comes behind
these. -/
def splitLong (t : Text) : Text × Option Text :=
  match t.dropWhile (· ≠ '=') with
  | [] => (t, none)
  | _ :: value => (t.takeWhile (· ≠ '='), some value)

/-- One argument that selects no command. -/
def take (c : Command) (s : Scan) (argument : Text) : Advance :=
  let word : Advance :=
    match s.due? with
    | some (o, none) => .ok { s with due? := some (o, some argument) }
    | _ => .error (.refuse c (c.wordProblem s argument))
  if s.wordsOnly then .error (.refuse c (c.wordProblem s argument))
  else
    match argument with
    | ['-', '-'] => .ok { s with wordsOnly := true }
    | '-' :: '-' :: long =>
      let (name, value?) := splitLong long
      c.takeLong s name value?
    | '-' :: letter :: letters => c.takeLetters s (letter :: letters)
    | _ => word

/-- All arguments of a command that selects no other. -/
def takeAll (c : Command) (s : Scan) : List Text → Advance
  | [] => .ok s
  | argument :: rest =>
    match c.take s argument with
    | .error e => .error e
    | .ok s => takeAll c s rest

end Command

/-! ### Whole command lines -/

/-- The page that is asked for by words behind the word for help. -/
def helpPage : List Text → Stop
  | [] => .showHelp (.command .generate)
  | word :: rest =>
    if word = "list" then
      match rest with
      | [] => .showHelp (.command .list)
      | next :: _ => .refuse .list (.unknownWord next [])
    else if word = "help" then
      match rest with
      | [] => .showHelp .help
      | next :: _ => .refuse .generate (.unknownTopic next)
    else .refuse .generate (.unknownWord word [])

/-- Reads all arguments; the command that they select and what was given to it. -/
def scanFrom (s : Scan) : List Text → Except Stop (Command × Scan)
  | [] => .ok (.generate, s)
  | argument :: rest =>
    if !s.anyOption ∧ !s.wordsOnly ∧ argument = "list" then
      (Command.list.takeAll {} rest).map fun s => (.list, s)
    else if !s.anyOption ∧ !s.wordsOnly ∧ argument = "help" then .error (helpPage rest)
    else
      match Command.generate.take s argument with
      | .error e => .error e
      | .ok s => scanFrom s rest

/-- The first option given that excludes another one, with that other one. -/
def Scan.conflict? (s : Scan) : Option (Opt × Opt) :=
  if .verbose ∈ s.opts ∧ .quiet ∈ s.opts then
    match s.opts.find? fun o => o = .verbose ∨ o = .quiet with
    | some .quiet => some (.quiet, .verbose)
    | _ => some (.verbose, .quiet)
  else none

/-- Settles what is due at the end and looks for options that exclude each other. -/
def Scan.finish (c : Command) (s : Scan) : Advance :=
  match c.proceed s.settle with
  | .error e => .error e
  | .ok s =>
    match s.conflict? with
    | some (first, second) =>
      .error (.refuse c (.conflict first second (s.opts.filter (· ≠ second))))
    | none => .ok s

namespace Scan

/-- The value of an option: the one that was given, or the default. -/
def value (s : Scan) (o : Opt) : Text := (s.values o).head?.getD (o.default?.getD [])

/-- The options about the schema. -/
def schemaOptions (s : Scan) : SchemaOptions where
  schemaFile := s.value .schemaFile
  operationNames := s.values .operationNames
  fragmentRegex := s.value .fragmentRegex
  fragmentNameRegex := s.value .fragmentNameRegex

/-- The options for generating documents. -/
def generateOptions (s : Scan) : GenerateOptions where
  schema := s.schemaOptions
  outputFolder := s.value .outputFolder
  verbose := .verbose ∈ s.opts
  quiet := .quiet ∈ s.opts

/-- When to paint. -/
def colorChoice (s : Scan) : ColorChoice :=
  if s.value .color = "always" then .always
  else if s.value .color = "never" then .never
  else .auto

/-- Which theme to use. -/
def themeChoice (s : Scan) : ThemeChoice :=
  if s.value .theme = "dark" then .dark else if s.value .theme = "light" then .light else .auto

end Scan

namespace Arguments

/-- What was given to a command. -/
def ofScan (c : Command) (s : Scan) : Arguments where
  list? := if c = .list then some s.schemaOptions else none
  generate := if c = .list then ({} : Scan).generateOptions else s.generateOptions
  color := s.colorChoice
  theme := s.themeChoice

/-- Reads the arguments of a call. -/
def read (argv : List Text) : Except Stop Arguments :=
  match scanFrom {} argv with
  | .error e => .error e
  | .ok (c, s) => (s.finish c).map (ofScan c)

end Arguments

namespace Stop

/-- What is printed, with control sequences or without. -/
def message (sequences : Bool) : Stop → Text
  | showHelp page => page.styled.render sequences
  | showVersion => versionText
  | refuse c p => (p.message c).render sequences

/-- The exit code of the program. -/
def exitCode : Stop → Nat
  | refuse .. => 2
  | _ => 0

end Stop

end SchemaFragments.CommandLine
