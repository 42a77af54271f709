import SchemaFragments.Console.Line
import SchemaFragments.Document.Kind
import SchemaFragments.Plan

/-! # Runs

A run reads the schema, plans the documents, and brings the output folders in line with the plan:
every planned document is written, and the file of a document that is not planned is removed.  What
a plan asks for is a list of steps, `Plan.steps`; a step says a line or acts on the file tree.

`generate` carries out a run.  It stops at the first failure and keeps what was done before.  A run goes
on a medium, which may stop it while a file is written; if none is named, the medium takes whatever is
written. -/

namespace SchemaFragments

/-! ### Steps -/

/-- A change to the file tree. -/
inductive Action where
  | makeFolders (path : Path)
  | write (path : Path) (text : Text)
  | remove (path : Path)
  deriving DecidableEq, Repr

/-- Carries out an action.  To remove a file that is not there is no failure. -/
def Action.run (t : FileTree) (a : Action) (m : Medium := .boundless) :
    FileTree × Except Failure Unit :=
  match a with
  | makeFolders p =>
    match t.makeFolders p with
    | (t', .ok ()) => (t', .ok ())
    | (t', .error e) => (t', .error (.createFolder p e))
  | write p text =>
    match t.write p (.text text) m with
    | (t', .ok ()) => (t', .ok ())
    | (t', .error e) => (t', .error (.write p e))
  | remove p =>
    match t.remove p with
    | .ok t' => (t', .ok ())
    | .error .notFound => (t, .ok ())
    | .error e => (t, .error (.remove p e))

/-- Carries out actions up to the first failure. -/
def runActions (t : FileTree) (as : List Action) (m : Medium := .boundless) :
    FileTree × Except Failure Unit :=
  match as with
  | [] => (t, .ok ())
  | a :: rest =>
    match a.run t m with
    | (t', .ok ()) => runActions t' rest m
    | (t', .error e) => (t', .error e)

/-- A part of a run. -/
inductive Step where
  | say (line : Line)
  | act (action : Action)
  deriving DecidableEq, Repr

/-- How far some steps came: the tree and the lines that they left, and whether they failed. -/
structure Progress where
  tree : FileTree
  said : List Line
  result : Except Failure Unit

/-- Carries out steps up to the first failure. -/
def runSteps (t : FileTree) (ss : List Step) (m : Medium := .boundless) : Progress :=
  match ss with
  | [] => ⟨t, [], .ok ()⟩
  | .say line :: rest =>
    let p := runSteps t rest m
    { p with said := line :: p.said }
  | .act a :: rest =>
    match a.run t m with
    | (t', .ok ()) => runSteps t' rest m
    | (t', .error e) => ⟨t', [], .error e⟩

/-! ### The steps of a plan -/

/-- Makes the folders of all kinds below an output root. -/
def prepareActions (root : Path) : List Action :=
  DocumentKind.all.map fun k => .makeFolders (k.folder root)

/-- The document of an entity of the given kind, if it is planned. -/
def Entity.document? (e : Entity) : DocumentKind → Option Text
  | .fragment => some e.fragment
  | .mutation => e.mutation?
  | .query => e.query?

/-- The text of the file of a document: it ends in exactly one line feed. -/
def fileText (document : Text) : Text := Text.trimEnd document ++ ['\n']

/-- Brings one file of an entity in line with the plan. -/
def Entity.action (root : Path) (e : Entity) (k : DocumentKind) : Action :=
  match e.document? k with
  | some document => .write (k.path root e.name) (fileText document)
  | none => .remove (k.path root e.name)

/-- Brings the files of an entity in line with the plan. -/
def Entity.actions (root : Path) (e : Entity) : List Action := DocumentKind.all.map (e.action root)

/-- How many documents of a kind there are. -/
def Stats.count (s : Stats) : DocumentKind → Nat
  | .fragment => s.fragments
  | .mutation => s.mutations
  | .query => s.queries

/-- What is said before the entity's files are touched. -/
def Entity.line (e : Entity) : Line where
  pieces := [.plain "fragment ", .painted .success e.name]
  isDetail := true

/-- What is said at the end: the number of documents of each kind. -/
def Stats.summary (root : Path) (s : Stats) : List Line :=
  DocumentKind.all.map fun k =>
    { pieces := [.plain "Saved ", .painted .success (Text.ofNat (s.count k)),
        .plain (" " ++ k.plural ++ " to "), .painted .info (k.folder root)] }

/-- What is said about a warning. -/
def Warning.line (w : Warning) : Line where
  pieces := [.painted .accent "Warning:", .plain " ", .painted .primary w.text]
  isDetail := !w.overwrites

/-- What is said about the warnings, if there are any. -/
def Stats.warningLines (s : Stats) : List Line :=
  if s.warnings = [] then []
  else
    { pieces := [.painted .label "Warnings:", .plain " ",
        .painted .value (Text.ofNat s.warnings.length)] } :: s.warnings.map (·.line)

/-- The steps that bring the output root in line with the plan. -/
def Plan.steps (root : Path) (p : Plan) : List Step :=
  (prepareActions root).map .act ++
    p.entities.flatMap (fun e => .say e.line :: (e.actions root).map .act) ++
    (p.stats.summary root ++ p.stats.warningLines).map .say

/-! ### Runs -/

/-- What is read, and how. -/
structure Source where
  schemaFile : Path
  patterns : Patterns
  allowed : AllowList

namespace Source

/-- What is said before the schema is read. -/
def lines (s : Source) (clock : Text) : List Line :=
  { pieces := [.painted .timestamp clock, .plain " Reading graphql schema from ",
      .painted .info s.schemaFile] } ::
    if s.allowed.isEmpty then []
    else
      [{ pieces := [.painted .value (Text.ofNat s.allowed.size),
           .plain " operation names requested"]
         isDetail := true }]

/-- The text of the schema. -/
def read (s : Source) (t : FileTree) : Except Failure Text :=
  match t.read s.schemaFile with
  | .ok text => .ok text
  | .error e => .error (.unreadableSchema s.schemaFile e)

end Source

/-- A failure, and what was attempted when it arose. -/
structure RunFailure where
  failure : Failure
  attempt? : Option Text := none
  deriving DecidableEq, Repr

/-- The failure in words, from what was attempted down to the cause. -/
def RunFailure.chain (f : RunFailure) : List Text :=
  f.attempt?.toList ++ [f.failure.message] ++ f.failure.cause?.toList

namespace Source

/-- The plan for the text of the schema. -/
def plan (s : Source) (schema : Text) : Except RunFailure Plan :=
  match Plan.ofSchema s.patterns s.allowed schema with
  | .ok p => .ok p
  | .error e => .error ⟨e, some ("failed to extract fragments from '" ++ s.schemaFile ++ "'")⟩

end Source

/-- What a run leaves behind. -/
structure Outcome where
  tree : FileTree
  report : Text
  result : Except RunFailure Stats

/-- A run: the tree and the lines that it leaves, before they go to the console, and how it ends. -/
def trace (s : Source) (root : Path) (clock : Text) (t : FileTree) (m : Medium := .boundless) :
    FileTree × List Line × Except RunFailure Stats :=
  let opening := s.lines clock
  match s.read t with
  | .error e => (t, opening, .error ⟨e, none⟩)
  | .ok schema =>
    match s.plan schema with
    | .error e => (t, opening, .error e)
    | .ok p =>
      let done := runSteps t (p.steps root) m
      (done.tree, opening ++ done.said,
        match done.result with
        | .ok () => .ok p.stats
        | .error e => .error ⟨e, none⟩)

/-- Reads the schema and brings the output root in line with it. -/
def generate (s : Source) (root : Path) (c : Console) (t : FileTree) (m : Medium := .boundless) :
    Outcome :=
  let (tree, lines, result) := trace s root c.clock t m
  ⟨tree, c.render lines, result⟩

end SchemaFragments
