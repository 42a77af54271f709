import SchemaFragments.CommandLine.Reading
import SchemaFragments.Listing

/-! # The program

`run` is a whole call of the program: it reads the command line, carries out what that asks for, and
says what appears on standard output and on standard error, what the exit code is, and which file
tree is left. -/

namespace SchemaFragments

open CommandLine

/-- Everything that a call depends on. -/
structure Call where
  argv : List Text
  environment : Environment := {}
  /-- The width of the terminal that standard output goes to, if it goes to one. -/
  terminal? : Option Nat := none
  /-- The time of day, as it is shown. -/
  clock : Text

/-- What a call leaves behind. -/
structure Transcript where
  exitCode : Nat
  stdout : Text
  stderr : Text
  tree : FileTree

/-! ### Options -/

/-- What the options about the schema ask to be read. -/
def CommandLine.SchemaOptions.source (o : SchemaOptions) : Except Failure Source :=
  (Patterns.compile o.fragmentRegex o.fragmentNameRegex).map fun patterns =>
    ⟨o.schemaFile, patterns, .parse o.operationNames⟩

/-- The console that the options for generating ask for. -/
def CommandLine.GenerateOptions.console (o : GenerateOptions) (palette : Palette) (clock : Text) :
    Console where
  palette := palette
  verbose := o.verbose
  quiet := o.quiet
  clock := clock

/-- What generating with some options leaves behind. -/
def CommandLine.GenerateOptions.outcome (o : GenerateOptions) (c : Console) (t : FileTree)
    (m : Medium := .boundless) : Outcome :=
  match o.schema.source with
  | .error e => ⟨t, [], .error ⟨e, none⟩⟩
  | .ok source => generate source o.outputFolder c t m

/-- The palette for a call. -/
def CommandLine.Arguments.palette (a : Arguments) (e : Environment) (isTerminal : Bool) : Palette :=
  .choose e isTerminal a.color a.theme

/-! ### Error reports -/

/-- A text with every line but the first moved in. -/
def moveIn (blanks : Nat) (t : Text) : Text :=
  (['\n'] ++ List.replicate blanks ' ').intercalate (Text.splitOn '\n' t)

/-- The causes in a report: a single one stands alone, several are numbered. -/
def causeLines : List Text → Text
  | [] => []
  | [cause] => "\n\nCaused by:\n    " ++ moveIn 4 cause
  | causes =>
    let numbered : List Text := causes.zipIdx.map fun (cause, i) =>
      let number := Text.ofNat i
      ['\n'] ++ List.replicate (5 - number.length) ' ' ++ number ++ [':', ' '] ++ moveIn 7 cause
    "\n\nCaused by:" ++ numbered.flatten

/-- The report of a failure on standard error. -/
def RunFailure.report (f : RunFailure) : Text :=
  match f.chain with
  | [] => []
  | head :: causes => "Error: " ++ head ++ causeLines causes ++ ['\n']

/-! ### Calls -/

/-- Carries out what the arguments ask for. -/
def execute (c : Call) (a : Arguments) (t : FileTree) (m : Medium := .boundless) : Transcript :=
  let palette := a.palette c.environment c.terminal?.isSome
  match a.list? with
  | some options =>
    match options.source.bind (list · t) with
    | .error e => ⟨1, [], (RunFailure.mk e none).report, t⟩
    | .ok rows => ⟨0, printListing palette c.terminal? rows, [], t⟩
  | none =>
    let outcome := a.generate.outcome (a.generate.console palette c.clock) t m
    match outcome.result with
    | .error e => ⟨1, outcome.report, e.report, outcome.tree⟩
    | .ok _ => ⟨0, outcome.report, [], outcome.tree⟩

/-- A call of the program on a file tree. -/
def run (c : Call) (t : FileTree) (m : Medium := .boundless) : Transcript :=
  match Arguments.read c.argv with
  | .error stop =>
    let message := stop.message false
    if stop.exitCode = 0 then ⟨0, message, [], t⟩ else ⟨stop.exitCode, [], message, t⟩
  | .ok a => execute c a t m

end SchemaFragments
