import SchemaFragments.CommandLine.Opt
import SchemaFragments.CommandLine.Styled

/-! # Usage and help

How a command is used, in one line or two, and the help pages. -/

namespace SchemaFragments.CommandLine

/-- An option as it is written on the command line. -/
def Opt.written (o : Opt) : StyledText :=
  .styled .literal ("--" ++ o.long) ::
    match o.valueName? with
    | some name => [.styled .placeholder " ", .styled .placeholder ("<" ++ name ++ ">")]
    | none => []

namespace Command

/-- The words that select the command. -/
def callName : Command → Text
  | generate => programName
  | list => programName ++ " list"

/-- How the command is used. -/
def usage : Command → StyledText
  | generate =>
    [.styled .literal programName, .plain " ", .styled .placeholder "[OPTIONS]",
     .plain "\n       ", .styled .literal programName, .plain " ", .styled .placeholder "<COMMAND>"]
  | list =>
    [.styled .literal list.callName, .plain " ", .styled .placeholder "[OPTIONS]"]

/-- A call of the command with some options. -/
def callWith (c : Command) (used : List Opt) : StyledText :=
  .styled .literal c.callName :: used.flatMap fun o => .plain " " :: o.written

/-- How the command is used with some options, if there are any. -/
def usageWith (c : Command) (used : List Opt) : StyledText :=
  if used = [] then c.usage else c.callWith used

/-- What the command does. -/
def about : Command → Text
  | generate => "GraphQL fragment, query and mutation generator"
  | list => "List the fragments found in the schema and their operation names"

end Command

/-! ### Help pages -/

/-- A value as help shows it: in quotation marks if there is a blank in it. -/
def shownValue (value : Text) : Text :=
  if value.any isBlank then
    ['"'] ++ value.flatMap (fun c => if c = '"' ∨ c = '\\' then ['\\', c] else [c]) ++ ['"']
  else value

/-- Texts with a comma and a blank between them. -/
def commaList (ts : List Text) : Text := [',', ' '].intercalate ts

namespace Opt

/-- What help says about the option. -/
def description (o : Opt) : Text :=
  let default : Text :=
    match o.default? with
    | some value => " [default: " ++ shownValue value ++ "]"
    | none => []
  let choices : Text :=
    if o.choices = [] then [] else " [possible values: " ++ commaList o.choices ++ "]"
  o.about ++ default ++ choices

/-- The option with its letter, as help lists it. -/
def listed (o : Opt) : StyledText :=
  match o.letter? with
  | some c => [.styled .literal ['-', c], .plain ", "] ++ o.written
  | none => .plain "    " :: o.written

end Opt

/-- An entry of a help page, its text filled up to the given width. -/
def helpEntry (width : Nat) (entry : StyledText) (about : Text) : StyledText :=
  let blanks := List.replicate (width - (entry.render false).length) ' '
  [.plain "  "] ++ entry ++ [.plain (blanks ++ "  " ++ about)]

/-- A section of a help page. -/
def helpSection (title : Text) (entries : List (StyledText × Text)) : StyledText :=
  let width := (entries.map fun (entry, _) => (entry.render false).length).foldl max 0
  .styled .header title :: entries.flatMap fun (entry, about) =>
    .plain "\n" :: helpEntry width entry about

/-- A page that help shows. -/
inductive Page where
  | command (c : Command)
  | help
  deriving DecidableEq, Repr

/-- What the word for help does. -/
def aboutHelp : Text := "Print this message or the help of the given subcommand(s)"

namespace Page

/-- What the page is about. -/
def about : Page → Text
  | command c => c.about
  | help => aboutHelp

/-- How what the page is about is used. -/
def usage : Page → StyledText
  | command c => c.usage
  | help =>
    [.styled .literal (programName ++ " help"), .plain " ", .styled .placeholder "[COMMAND]..."]

/-- The sections of the page. -/
def sections : Page → List StyledText
  | command c =>
    let words : List StyledText :=
      if c.subcommands = [] then []
      else
        [helpSection "Commands:"
          [([.styled .literal "list"], Command.list.about),
           ([.styled .literal "help"], aboutHelp)]]
    words ++ [helpSection "Options:" (c.options.map fun o => (o.listed, o.description))]
  | help =>
    [helpSection "Arguments:"
      [([.styled .placeholder "[COMMAND]..."], "Print help for the subcommand(s)")]]

/-- The page. -/
def styled (p : Page) : StyledText :=
  [.plain (p.about ++ "\n\n"), .styled .usage "Usage:", .plain " "] ++ p.usage ++
    p.sections.flatMap (.plain "\n\n" :: ·) ++ [.plain "\n"]

end Page

/-- What is shown when the version is asked for. -/
def versionText : Text := programName ++ " " ++ programVersion ++ "\n"

end SchemaFragments.CommandLine
