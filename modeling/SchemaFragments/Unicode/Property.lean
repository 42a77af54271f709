import SchemaFragments.Unicode.Age
import SchemaFragments.Unicode.BinaryProperty
import SchemaFragments.Unicode.Category
import SchemaFragments.Unicode.GraphemeBreak
import SchemaFragments.Unicode.PropertyName
import SchemaFragments.Unicode.RangeAlgebra
import SchemaFragments.Unicode.Script
import SchemaFragments.Unicode.SentenceBreak
import SchemaFragments.Unicode.WordBreak

/-! # Properties by name

`Property.named?` and `Property.valued?` find the code points that a property name, or a property
name with a value, stands for.  Names are compared in the loose spelling of `looseName`: case,
spaces, hyphens, underscores and a leading `is` do not count. -/

namespace SchemaFragments

/-- Letter case, spaces, hyphens and underscores dropped, and `is` in front. -/
def looseName (name : List Char) : String :=
  let ascii := name.map Char.toLower
  let isPresent := "is".toList.isPrefixOf ascii
  let body := if isPresent then ascii.drop 2 else ascii
  let kept := body.filter fun c => c ≠ ' ' ∧ c ≠ '_' ∧ c ≠ '-' ∧ c.toNat < 0x80
  if isPresent ∧ kept = ['c'] then "isc" else String.ofList kept

/-- Why a property could not be found. -/
inductive PropertyFault where
  | unknownProperty
  | unknownValue
  deriving DecidableEq, Repr

namespace Property

/-- The members of the sets in a list. -/
def unite (sets : List NamedSet) : CodeRanges := .unionAll (sets.map (·.ranges))

/-- The members of a category, or of several. -/
def category? (name : String) : Option CodeRanges :=
  if name = "any" then some .full
  else if name = "ascii" then some [(0, 0x7f)]
  else if name = "assigned" then some (unite (Category.all ()))
  else if name ∈ ["cn", "unassigned"] then some (unite (Category.all ())).compl
  else if name ∈ ["c", "other"] then
    let visible := Category.letters () ++ Category.marks () ++ Category.numbers () ++
      Category.punctuation () ++ Category.symbols () ++ Category.separators ()
    some (unite visible).compl
  else if name ∈ ["lc", "casedletter"] then
    some (unite [Category.uppercaseLetter (), Category.lowercaseLetter (),
      Category.titlecaseLetter ()])
  else if name ∈ ["l", "letter"] then some (unite (Category.letters ()))
  else if name ∈ ["m", "mark", "combiningmark"] then some (unite (Category.marks ()))
  else if name ∈ ["n", "number"] then some (unite (Category.numbers ()))
  else if name ∈ ["p", "punctuation", "punct"] then some (unite (Category.punctuation ()))
  else if name ∈ ["s", "symbol"] then some (unite (Category.symbols ()))
  else if name ∈ ["z", "separator"] then some (unite (Category.separators ()))
  else NamedSet.find? (Category.all ()) name

/-- The members of a script, or of its extended form. -/
def script? (name : String) (extended : Bool) : Option CodeRanges :=
  ((Script.all ()).find? (name ∈ ·.names)).map fun s =>
    if extended then ((CodeRanges.parse s.members).union (.parse s.gained)).diff (.parse s.lost)
    else .parse s.members

/-- The code points that were assigned in a version of the standard or before it. -/
def age? (name : String) : Option CodeRanges :=
  ((Age.all ()).findIdx? (name ∈ ·.names)).map fun i => unite ((Age.all ()).take (i + 1))

/-- Is it a value without members?  Surrogates are no characters, and two names for scripts serve
other ends. -/
def isEmptyValue (name : String) : Bool :=
  name ∈ ["cs", "surrogate", "hrkt", "katakanaorhiragana", "zzzz", "unknown"]

/-- The property that a bare name stands for: a yes-or-no property, else a category, else a
script.  `cf`, `sc` and `lc` are categories only. -/
def named? (name : List Char) : Except PropertyFault CodeRanges :=
  let key := looseName name
  let asProperty := if key ∈ ["cf", "sc", "lc"] then none else
    NamedSet.find? (BinaryProperty.all ()) key
  match asProperty with
  | some s => .ok s
  | none =>
    if key ∉ ["cf", "sc", "lc"] ∧ key ∈ otherPropertyNames () then .error .unknownProperty
    else
      match category? key <|> script? key false with
      | some s => .ok s
      | none => .error (if isEmptyValue key then .unknownValue else .unknownProperty)

/-- Is it the name of a property? -/
def isKnown (name : String) : Bool :=
  (BinaryProperty.all ()).any (name ∈ ·.names) || name ∈ otherPropertyNames ()

/-- The property that a name with a value stands for. -/
def valued? (name value : List Char) : Except PropertyFault CodeRanges :=
  let key := looseName name
  let value := looseName value
  let members :=
    if key ∈ ["gc", "generalcategory"] then category? value
    else if key ∈ ["sc", "script"] then script? value false
    else if key ∈ ["scx", "scriptextensions"] then script? value true
    else if key = "age" then age? value
    else if key ∈ ["gcb", "graphemeclusterbreak"] then NamedSet.find? (GraphemeBreak.all ()) value
    else if key ∈ ["sb", "sentencebreak"] then NamedSet.find? (SentenceBreak.all ()) value
    else if key ∈ ["wb", "wordbreak"] then NamedSet.find? (WordBreak.all ()) value
    else none
  match members with
  | some s => .ok s
  | none => .error (if isKnown key then .unknownValue else .unknownProperty)

end Property

end SchemaFragments
