import SchemaFragments.Console.Palette
import SchemaFragments.Extraction

/-! # Options

The program has two commands, and each takes options.  An option has a long name, perhaps a letter,
and either a value or none. -/

namespace SchemaFragments.CommandLine

/-- The name of the program. -/
def programName : Text := "gql-fragment-gen"

/-- The version of the program. -/
def programVersion : Text := "0.3.0"

/-- What the program can be told to do: to generate documents, which takes no word on the command
line, or to list the fragments. -/
inductive Command where
  | generate
  | list
  deriving DecidableEq, Repr

/-- The options. -/
inductive Opt where
  | schemaFile
  | operationNames
  | fragmentRegex
  | fragmentNameRegex
  | outputFolder
  | verbose
  | quiet
  | color
  | theme
  | help
  | version
  deriving DecidableEq, Repr

/-- The options about the schema, which every command takes. -/
def Opt.aboutSchema : List Opt := [schemaFile, operationNames, fragmentRegex, fragmentNameRegex]

/-- The options of a command, in the order of its help. -/
def Command.options : Command → List Opt
  | generate =>
    Opt.aboutSchema ++ [.outputFolder, .verbose, .quiet, .color, .theme, .help, .version]
  | list => Opt.aboutSchema ++ [.color, .theme, .help]

namespace Opt

/-- The long name, without hyphens. -/
def long : Opt → Text
  | schemaFile => "schema-file"
  | operationNames => "operation-names"
  | fragmentRegex => "fragment-regex"
  | fragmentNameRegex => "fragment-name-regex"
  | outputFolder => "output-folder"
  | verbose => "verbose"
  | quiet => "quiet"
  | color => "color"
  | theme => "theme"
  | help => "help"
  | version => "version"

/-- The letter. -/
def letter? : Opt → Option Char
  | verbose => some 'v'
  | quiet => some 'q'
  | help => some 'h'
  | version => some 'V'
  | _ => none

/-- What the value is called, if the option takes one. -/
def valueName? : Opt → Option Text
  | schemaFile => some "FILE"
  | operationNames => some "NAMES"
  | fragmentRegex => some "REGEX"
  | fragmentNameRegex => some "REGEX"
  | outputFolder => some "DIR"
  | color => some "COLOR"
  | theme => some "THEME"
  | _ => none

/-- The value if none is given. -/
def default? : Opt → Option Text
  | schemaFile => some "schema.graphql"
  | fragmentRegex => some Patterns.defaultBlock
  | fragmentNameRegex => some Patterns.defaultName
  | outputFolder => some "src/generated"
  | color => some "auto"
  | theme => some "auto"
  | _ => none

/-- The only values that are allowed, if not all are. -/
def choices : Opt → List Text
  | color => ["always", "auto", "never"]
  | theme => ["dark", "light", "auto"]
  | _ => []

/-- Does the value have to be a path, and so not empty? -/
def isPath : Opt → Bool
  | schemaFile | outputFolder => true
  | _ => false

/-- Is the value a list, to which every occurrence adds? -/
def isList : Opt → Bool
  | operationNames => true
  | _ => false

/-- What the option does. -/
def about : Opt → Text
  | schemaFile => "Path to the GraphQL schema file"
  | operationNames => "Queries and mutations to generate (comma-separated, case-insensitive)"
  | fragmentRegex => "Regular expression locating fragment blocks in the schema"
  | fragmentNameRegex =>
    "Regular expression extracting the fragment name (capture group 1) from a block"
  | outputFolder => "Root folder for the generated fragments/, mutations/ and queries/ folders"
  | verbose => "Enable verbose output with per-fragment progress"
  | quiet => "Suppress non-essential output (errors only)"
  | color => "Control color output"
  | theme => "Terminal theme (dark or light background)"
  | help => "Print help"
  | version => "Print version"

/-- The option in messages: its long name, and what its value is called. -/
def display (o : Opt) : Text :=
  "--" ++ o.long ++
    match o.valueName? with
    | some name => " <" ++ name ++ ">"
    | none => []

end Opt

namespace Command

/-- The words that name something to do, `list` and a word for help. -/
def words : List Text := ["list", "help"]

/-- The words that a command takes in the first place. -/
def subcommands : Command → List Text
  | generate => words
  | list => []

/-- The option of a long name. -/
def ofLong? (c : Command) (name : Text) : Option Opt := c.options.find? (·.long = name)

/-- The option of a letter. -/
def ofLetter? (c : Command) (letter : Char) : Option Opt :=
  c.options.find? (·.letter? = some letter)

end Command

end SchemaFragments.CommandLine
