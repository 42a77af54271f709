import SchemaFragments.AllowList
import SchemaFragments.Document.Operation
import SchemaFragments.Extraction
import SchemaFragments.Document.Fragment

/-! # Plans

A plan says which documents every extracted entity gets: always a fragment, and a mutation and a
query if these are asked for.  It counts the documents and warns about two things: an entity that
is declared more than once, and a name asked for that no entity answers to. -/

namespace SchemaFragments

/-- The documents of an entity. -/
structure Entity where
  name : Text
  fragment : Text
  mutation? : Option Text
  query? : Option Text
  deriving DecidableEq, Repr

/-! ### Statistics -/

/-- What a plan warns about. -/
inductive Warning where
  | repeatedEntity (name : Text)
  | unknownName (name : Text)
  deriving DecidableEq, Repr

namespace Warning

/-- The name that the warning is about. -/
def name : Warning → Text
  | repeatedEntity n => n
  | unknownName n => n

/-- The warning in words. -/
def text : Warning → Text
  | repeatedEntity n => "Entity '" ++ n ++ "' is declared more than once; the last block wins"
  | unknownName n => "Operation '" ++ n ++ "' does not match any extracted fragment"

/-- Is one document written over another? -/
def overwrites : Warning → Bool
  | repeatedEntity _ => true
  | unknownName _ => false

end Warning

/-- The numbers of documents and the warnings of a plan. -/
structure Stats where
  fragments : Nat := 0
  mutations : Nat := 0
  queries : Nat := 0
  warnings : List Warning := []
  deriving DecidableEq, Repr

namespace Stats

/-- Counts a fragment. -/
def countFragment (s : Stats) : Stats := { s with fragments := s.fragments + 1 }

/-- Counts a mutation. -/
def countMutation (s : Stats) : Stats := { s with mutations := s.mutations + 1 }

/-- Counts a query. -/
def countQuery (s : Stats) : Stats := { s with queries := s.queries + 1 }

/-- Adds warnings after those that there are. -/
def warnAll (s : Stats) (ws : List Warning) : Stats := { s with warnings := s.warnings ++ ws }

/-- Adds a warning after those that there are. -/
def warn (s : Stats) (w : Warning) : Stats := s.warnAll [w]

/-- Counts the documents of an entity. -/
def countEntity (s : Stats) (e : Entity) : Stats :=
  let s := s.countFragment
  let s := if e.mutation?.isSome then s.countMutation else s
  if e.query?.isSome then s.countQuery else s

end Stats

/-! ### Planning -/

/-- The documents of all entities, in the order of the schema. -/
structure Plan where
  entities : List Entity := []
  stats : Stats := {}
  deriving DecidableEq, Repr

namespace Plan

/-- The documents of one declaration. -/
def entityOf (allowed : AllowList) (d : Declaration) : Entity where
  name := d.entity
  fragment := fragmentOf d.block
  mutation? :=
    if allowed.contains (mutationName d.entity) then some (saveMutation d.entity)
    else none
  query? :=
    if allowed.contains (queryName d.entity) then some (byIdQuery d.entity) else none

/-- The plan with one more declaration at its end. -/
def add (allowed : AllowList) (p : Plan) (d : Declaration) : Plan :=
  let e := entityOf allowed d
  let stats :=
    if (p.entities.map (·.name)).contains d.entity then
      p.stats.warn (.repeatedEntity d.entity)
    else p.stats
  { entities := p.entities ++ [e], stats := stats.countEntity e }

/-- The names by which the operations of an entity can be asked for. -/
def operationNames (entity : Text) : List Text :=
  [upper (mutationName entity), upper (queryName entity)]

/-- The names asked for that no declared entity answers to. -/
def unknownNames (allowed : AllowList) (ds : List Declaration) : List Text :=
  allowed.names.filter fun n => !(ds.flatMap fun d => operationNames d.entity).contains n

/-- The plan for some declarations. -/
def ofDeclarations (allowed : AllowList) (ds : List Declaration) : Plan :=
  let p := ds.foldl (add allowed) {}
  { p with
    stats := p.stats.warnAll ((unknownNames allowed ds).map .unknownName) }

/-- The plan for a schema. -/
def ofSchema (patterns : Patterns) (allowed : AllowList) (schema : Text) : Except Failure Plan :=
  match patterns.extract schema with
  | .error e => .error e
  | .ok ds => .ok (ofDeclarations allowed ds)

end Plan

end SchemaFragments
