import SchemaFragments.Document.Name

/-! # Operation documents

The GraphQL text of the two operations that an entity can have. -/

namespace SchemaFragments

/-- The save mutation of an entity. -/
def saveMutation (entity : Text) : Text :=
  let operation := mutationName entity
  let argument := decapitalized entity
  "mutation " ++ operation ++ "($" ++ argument ++ ": Input" ++ entity ++ typeEnding ++
    "!) \x7b\n  " ++ decapitalized operation ++ "Result(" ++ argument ++ ": $" ++ argument ++
    ") \x7b\n    ..." ++ entity ++ "\n  \x7d\n\x7d"

/-- The by-id query of an entity. -/
def byIdQuery (entity : Text) : Text :=
  "query " ++ entity ++ "($id: Int!) \x7b\n  " ++ queryName entity ++ "(id: $id) \x7b\n    ..." ++
    entity ++ "\n  \x7d\n\x7d"

end SchemaFragments
