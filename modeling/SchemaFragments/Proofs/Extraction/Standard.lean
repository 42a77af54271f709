import SchemaFragments.Extraction

/-! # The patterns in force by default

`Patterns.standard` is what the two default pattern texts compile to (`compile_default`). -/

namespace SchemaFragments

open Regex

/-- A result whose value is known is that value. -/
theorem ok_of_toOption {ε α : Type} {x : Except ε α} {a : α} (h : x.toOption = some a) : x = .ok a := by
  cases x with
  | error e => cases h
  | ok b =>
      cases h
      rfl

namespace Patterns

/-- `type`, a word that ends in `Gql`, and a pair of braces around something, from the start of a
line to the end of a line; as little as possible between the braces. -/
def standardBlock : Pattern :=
  .seq (.look .anyLineStart) <| .seq (.text "type ") <| .seq (.repeated 1 none true (.set .word)) <|
    .seq (.text "Gql \x7b") <| .seq (.repeated 1 none false (.set .all)) <|
      .seq (.text "\x7d") (.look .anyLineEnd)

/-- The whole of a text that begins with `type` and a word with `Gql` in it; the word before the last
`Gql` is remembered. -/
def standardName : Pattern :=
  .seq (.look .textStart) <| .seq (.text "type ") <|
    .seq (.group 1 (.repeated 1 none true (.set .word))) <| .seq (.text "Gql") <|
      .seq (.repeated 0 none true (.set .all)) (.look .textEnd)

/-- The default patterns. -/
def standard : Patterns := ⟨standardBlock, standardName⟩

theorem compile_defaultBlock : Pattern.compile blockFlags defaultBlock = .ok standardBlock :=
  ok_of_toOption (by decide +kernel)

theorem compile_defaultName : Pattern.compile nameFlags defaultName = .ok standardName :=
  ok_of_toOption (by decide +kernel)

theorem compile_default : compile defaultBlock defaultName = .ok standard := by
  unfold compile
  rw [compile_defaultBlock, compile_defaultName]
  rfl

end Patterns

end SchemaFragments
