import SchemaFragments.Program
import Std.Time.Format

/-! # The command line program

The outer layer: it hands the arguments and the environment to the library and carries out on the
real file system and the real console what the library asks for. -/

namespace SchemaFragments.Main

open CommandLine

/-! ### The file system -/

/-- The number and the text of an error of the operating system. -/
def systemError? : IO.Error → Option (UInt32 × String)
  | .alreadyExists _ code text => some (code, text)
  | .otherError code text => some (code, text)
  | .resourceBusy code text => some (code, text)
  | .resourceVanished code text => some (code, text)
  | .unsupportedOperation code text => some (code, text)
  | .hardwareFault code text => some (code, text)
  | .unsatisfiedConstraints code text => some (code, text)
  | .illegalOperation code text => some (code, text)
  | .protocolError code text => some (code, text)
  | .timeExpired code text => some (code, text)
  | .interrupted _ code text => some (code, text)
  | .noFileOrDirectory _ code text => some (code, text)
  | .invalidArgument _ code text => some (code, text)
  | .permissionDenied _ code text => some (code, text)
  | .resourceExhausted _ code text => some (code, text)
  | .inappropriateType _ code text => some (code, text)
  | .noSuchThing _ code text => some (code, text)
  | .unexpectedEof => none
  | .userError _ => none

/-- The fault that an error stands for.  Some errors come with the negative of their number. -/
def faultOf (e : IO.Error) : FileFault :=
  match systemError? e with
  | none => .nullInName
  | some (code, text) =>
    match (if 0x80000000 ≤ code.toNat then 0x100000000 - code.toNat else code.toNat : Nat) with
    | 2 => .notFound
    | 17 => .alreadyExists
    | 20 => .notAFolder
    | 21 => .isAFolder
    | 36 => .nameTooLong
    | n => .system n text.toList

/-- The text of a file. -/
def readText (path : Path) : IO (Except FileFault Text) := do
  try
    match Content.ofBytes (← IO.FS.readBinFile (String.ofList path)) with
    | .text t => return .ok t
    | .bytes _ => return .error .invalidText
  catch e => return .error (faultOf e)

/-- Makes a folder, and the folders above it if they are not there. -/
def makeFolders (p : String) : IO Unit := do
  try IO.FS.createDir p
  catch e =>
    if faultOf e = .notFound ∨ faultOf e = .alreadyExists then IO.FS.createDirAll p else throw e

/-- Carries out an action. -/
def perform (a : Action) : IO (Except Failure Unit) := do
  try
    match a with
    | .makeFolders p => makeFolders (String.ofList p)
    | .write p text => IO.FS.writeFile (String.ofList p) (String.ofList text)
    | .remove p => IO.FS.removeFile (String.ofList p)
    return .ok ()
  catch e =>
    let fault := faultOf e
    match a with
    | .makeFolders p => return .error (.createFolder p fault)
    | .write p _ => return .error (.write p fault)
    | .remove p => return if fault = .notFound then .ok () else .error (.remove p fault)

/-! ### The console -/

/-- Prints lines.  An error in printing is no concern of the run. -/
def say (c : Console) (ls : List Line) : IO Unit := do
  try
    let out ← IO.getStdout
    out.putStr (String.ofList (c.render ls))
    out.flush
  catch _ => return

/-- Carries out steps up to the first failure. -/
def performAll (c : Console) : List Step → IO (Except Failure Unit)
  | [] => return .ok ()
  | .say line :: rest => do
    say c [line]
    performAll c rest
  | .act a :: rest => do
    match ← perform a with
    | .ok () => performAll c rest
    | .error e => return .error e

/-- Reports a failure and gives the exit code. -/
def fail (f : RunFailure) : IO UInt32 := do
  (← IO.getStderr).putStr (String.ofList f.report)
  return 1

/-! ### Commands -/

/-- Reads the schema. -/
def readSchema (s : Source) : IO (Except Failure Text) := do
  match ← readText s.schemaFile with
  | .ok schema => return .ok schema
  | .error e => return .error (.unreadableSchema s.schemaFile e)

/-- Generates the documents. -/
def runGenerate (s : Source) (root : Path) (c : Console) : IO UInt32 := do
  say c (s.lines c.clock)
  match ← readSchema s with
  | .error e => fail ⟨e, none⟩
  | .ok schema =>
    match s.plan schema with
    | .error e => fail e
    | .ok p =>
      match ← performAll c (p.steps root) with
      | .error e => fail ⟨e, none⟩
      | .ok () => return 0

/-- Prints the listing. -/
def runList (s : Source) (palette : Palette) (terminal? : Option Nat) : IO UInt32 := do
  match ← readSchema s with
  | .error e => fail ⟨e, none⟩
  | .ok schema =>
    match s.patterns.extract schema with
    | .error e => fail ⟨e, none⟩
    | .ok cs =>
      let rows := cs.map (Listed.ofDeclaration s.allowed)
      (← IO.getStdout).putStr (String.ofList (printListing palette terminal? rows))
      return 0

/-- The environment of the process. -/
def environment : IO Environment := do
  let get (name : String) : IO (Option Text) := return (← IO.getEnv name).map String.toList
  return {
    colorFgBg? := ← get "COLORFGBG"
    termProgram? := ← get "TERM_PROGRAM"
    itermProfile? := ← get "ITERM_PROFILE"
    noColor? := ← get "NO_COLOR" }

/-- A number in two digits. -/
def twoDigits (n : Int) : Text := if n < 10 then '0' :: Text.ofNat n.toNat else Text.ofNat n.toNat

/-- The time of day. -/
def clock : IO Text := do
  let now ← Std.Time.PlainDateTime.now
  return ['['] ++ twoDigits now.hour.toInt ++ [':'] ++ twoDigits now.minute.toInt ++ [':'] ++
    twoDigits now.second.toInt ++ [']']

/-- Carries out what the arguments ask for. -/
def execute (a : Arguments) : IO UInt32 := do
  let isTerminal ← (← IO.getStdout).isTty
  let palette := a.palette (← environment) isTerminal
  match (a.list?.getD a.generate.schema).source with
  | .error e => fail ⟨e, none⟩
  | .ok source =>
    if a.list?.isSome then runList source palette (if isTerminal then some defaultWidth else none)
    else
      runGenerate source a.generate.outputFolder (a.generate.console palette (← clock))

end SchemaFragments.Main

/-- Runs the program. -/
def main (argv : List String) : IO UInt32 := do
  match SchemaFragments.CommandLine.Arguments.read (argv.map String.toList) with
  | .ok a => SchemaFragments.Main.execute a
  | .error stop =>
    let message := String.ofList (stop.message false)
    if stop.exitCode = 0 then (← IO.getStdout).putStr message
    else (← IO.getStderr).putStr message
    return stop.exitCode.toUInt32
