import SchemaFragments.CommandLine.Usage
import SchemaFragments.CommandLine.Similar

/-! # Problems with the command line

Every way in which a command line can be refused, with its message.  A message names the problem,
gives a tip if something similar exists, and shows how the command is used. -/

namespace SchemaFragments.CommandLine

/-- Why a command line is refused. -/
inductive Problem where
  /-- Two options that exclude each other; `others` are the further options that were given. -/
  | conflict (first second : Opt) (others : List Opt)
  /-- An option that may be given once is given again. -/
  | repeated (o : Opt)
  /-- A word after options that exclude it. -/
  | wordAfterOptions (word : Text) (given : List Opt)
  | missingValue (o : Opt)
  | invalidValue (o : Opt) (value : Text)
  /-- A value for an option that takes none. -/
  | unexpectedValue (o : Opt) (value : Text) (given : List Opt)
  /-- An argument that looks like a long option; `similar?` may have been meant. -/
  | unknownLong (name : Text) (similar? : Option Opt) (given : List Opt)
  | unknownArgument (argument : Text)
  /-- Two hyphens keep a word from being understood. -/
  | wordAfterHyphens (word : Text)
  /-- A word that names nothing to do; `similar` may have been meant. -/
  | unknownWord (word : Text) (similar : List Text)
  /-- A word behind a question for help about help. -/
  | unknownTopic (word : Text)
  deriving DecidableEq, Repr

/-- The kinds of problems that are told apart. -/
inductive ProblemKind where
  | argumentConflict
  | invalidValue
  | tooManyValues
  | unknownArgument
  | invalidSubcommand
  deriving DecidableEq, Repr

namespace Problem

/-- The kind of a problem. -/
def kind : Problem → ProblemKind
  | conflict .. | repeated .. | wordAfterOptions .. => .argumentConflict
  | missingValue .. | invalidValue .. => .invalidValue
  | unexpectedValue .. => .tooManyValues
  | unknownLong .. | unknownArgument .. | wordAfterHyphens .. => .unknownArgument
  | unknownWord .. | unknownTopic _ => .invalidSubcommand

/-! ### Messages -/

/-- Something that is wrong, in quotation marks. -/
def wrong (t : Text) : StyledText := [.plain "'", .styled .invalid t, .plain "'"]

/-- Something that would be right, in quotation marks. -/
def right (t : Text) : StyledText := [.plain "'", .styled .valid t, .plain "'"]

/-- An option that is not at fault itself, in quotation marks. -/
def meant (o : Opt) : StyledText := [.plain "'", .styled .literal o.display, .plain "'"]

/-- The values that an option allows, on a line of their own. -/
def choiceLine (o : Opt) : StyledText :=
  if o.choices = [] then []
  else
    [.plain "\n  [possible values: "] ++
      StyledText.joined ", " (o.choices.map fun c => [.styled .valid c]) ++ [.plain "]"]

/-- What the problem is. -/
def headline : Problem → StyledText
  | conflict first second _ =>
    [.plain "the argument "] ++ wrong first.display ++ [.plain " cannot be used with "] ++
      wrong second.display
  | repeated o =>
    [.plain "the argument "] ++ wrong o.display ++ [.plain " cannot be used multiple times"]
  | wordAfterOptions word given =>
    [.plain "the subcommand "] ++ wrong word ++ [.plain " cannot be used with"] ++
      match given with
      | [] => [.plain " one or more of the other specified arguments"]
      | [o] => .plain " " :: wrong o.display
      | os => .plain ":" :: os.flatMap fun o => [.plain "\n  ", .styled .invalid o.display]
  | missingValue o =>
    [.plain "a value is required for "] ++ wrong o.display ++
      [.plain " but none was supplied"] ++ choiceLine o
  | invalidValue o value =>
    [.plain "invalid value "] ++ wrong value ++ [.plain " for "] ++ meant o ++ choiceLine o
  | unexpectedValue o value _ =>
    [.plain "unexpected value "] ++ wrong value ++ [.plain " for "] ++ meant o ++
      [.plain " found; no more were expected"]
  | unknownLong name _ _ =>
    [.plain "unexpected argument "] ++ wrong ("--" ++ name) ++ [.plain " found"]
  | unknownArgument argument =>
    [.plain "unexpected argument "] ++ wrong argument ++ [.plain " found"]
  | wordAfterHyphens word =>
    [.plain "unexpected argument "] ++ wrong word ++ [.plain " found"]
  | unknownWord word _ => [.plain "unrecognized subcommand "] ++ wrong word
  | unknownTopic word => [.plain "unrecognized subcommand "] ++ wrong word

/-- The start of a tip. -/
def tipStart : StyledText := [.plain "\n\n  ", .styled .valid "tip:", .plain " "]

/-- A tip that something similar exists. -/
def similarTip (what : Text) : List Text → StyledText
  | [] => []
  | [name] => tipStart ++ [.plain ("a similar " ++ what ++ " exists: ")] ++ right name
  | names =>
    tipStart ++ [.plain ("some similar " ++ what ++ "s exist: ")] ++
      StyledText.joined ", " (names.map right)

/-- What might help. -/
def tip : Problem → StyledText
  | invalidValue o value => similarTip "value" (mostSimilar? value o.choices).toList
  | unknownLong _ similar? _ => similarTip "argument" (similar?.toList.map fun o => "--" ++ o.long)
  | unknownWord _ similar => similarTip "subcommand" similar
  | wordAfterHyphens word =>
    tipStart ++ [.plain "subcommand "] ++ right word ++
      [.plain " exists; to use it, remove the "] ++ wrong "--" ++ [.plain " before it"]
  | _ => []

/-- How the command that met the problem is used; nothing if the value of an option is at fault. -/
def usage? (c : Command) : Problem → Option StyledText
  | missingValue _ | invalidValue .. => none
  | conflict _ _ others => some (c.usageWith others)
  | unexpectedValue o _ given => some (c.usageWith (given ++ [o].filter (· ∉ given)))
  | unknownLong _ similar? given =>
    some (c.usageWith (given ++ similar?.toList.filter (· ∉ given)))
  | unknownTopic _ => some Page.help.usage
  | _ => some c.usage

/-- Where to find out more; help about help knows nothing more. -/
def hint : Problem → StyledText
  | unknownTopic _ => []
  | _ => [.plain "\n\nFor more information, try '", .styled .literal "--help", .plain "'."]

/-- The message about a problem that a command met. -/
def message (c : Command) (p : Problem) : StyledText :=
  let usage : StyledText :=
    match p.usage? c with
    | some u => [.plain "\n\n", .styled .usage "Usage:", .plain " "] ++ u
    | none => []
  [.styled .error "error:", .plain " "] ++ p.headline ++ p.tip ++ usage ++ p.hint ++ [.plain "\n"]

end Problem

end SchemaFragments.CommandLine
