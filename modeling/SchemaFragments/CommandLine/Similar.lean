import SchemaFragments.Text

/-! # Similar words

To a word that is not known, `similarTo` finds the known words that may have been meant.  Two words
are the more similar the more characters they share at about the same place and the fewer of these
stand in another order. -/

namespace SchemaFragments.CommandLine

/-- The first place from `low` on and before `high` at which `c` stands and that is not taken. -/
def findPlace? (c : Char) (low high : Nat) (taken : List Nat) (word : Text) : Option Nat :=
  (List.range high).find? fun j => decide (low ≤ j) && word[j]? = some c && !taken.contains j

/-- Pairs the characters of a text, the first of which stands at place `i`, with equal characters of
`b` that lie no further away than `reach` and are not taken. -/
def pairUp (reach : Nat) (b : Text) (i : Nat) (taken : List Nat) : Text → List (Char × Nat)
  | [] => []
  | c :: rest =>
    match findPlace? c (i - reach) (min b.length (i + reach + 1)) taken b with
    | some j => (c, j) :: pairUp reach b (i + 1) (j :: taken) rest
    | none => pairUp reach b (i + 1) taken rest

/-- How similar two words are, from 0 for nothing in common to 1 for the same. -/
def similarity (a b : Text) : Float :=
  if a.isEmpty && b.isEmpty then 1
  else
    let pairs := pairUp (max a.length b.length / 2 - 1) b 0 [] a
    let common := pairs.length
    if common = 0 then 0
    else
      let fromA := pairs.map (·.1)
      let fromB := ((pairs.map (·.2)).mergeSort (· ≤ ·)).filterMap (b[·]?)
      let moved := ((List.zip fromA fromB).countP fun (x, y) => x ≠ y) / 2
      (common.toFloat / a.length.toFloat + common.toFloat / b.length.toFloat +
        (common - moved).toFloat / common.toFloat) / 3

/-- The known words that are similar to a word, the most similar last. -/
def similarTo (word : Text) (known : List Text) : List Text :=
  let rated := (known.map fun k => (similarity word k, k)).filter fun (s, _) => s > 0.7
  (rated.mergeSort fun x y => x.1 ≤ y.1).map (·.2)

/-- The known word that is the most similar to a word, if any is similar. -/
def mostSimilar? (word : Text) (known : List Text) : Option Text := (similarTo word known).getLast?

end SchemaFragments.CommandLine
