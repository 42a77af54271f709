import SchemaFragments.Unicode.BinaryProperty
import SchemaFragments.Unicode.Category

/-! # Letters and numbers

The characters of which names are made.  A later edition of the standard counts here than for the
properties that expressions ask for; what it adds to their tables is listed. -/

namespace SchemaFragments

/-- The letters that the later edition adds. -/
def laterLetters : CodeRanges :=
  .parse "88f c5c cdc a7ce-a7cf a7d2 a7d4 a7f1 10940-10959 10ec5-10ec7 10efa-10efb 11b60-11b67
    11db0-11ddb 16ea0-16eb8 16ebb-16ed3 16ff2-16ff6 187f8-187ff 18d09-18d1e 18d80-18df2
    1e6c0-1e6de 1e6e0-1e6f5 1e6fe-1e6ff 2b73a-2b73f 2cea2-2cead 323b0-33479"

/-- The numbers that the later edition adds. -/
def laterNumbers : CodeRanges := .parse "11de0-11de9 16ff4-16ff6"

/-- Letters, and marks that make up words with them. -/
def isLetter (c : Char) : Bool :=
  if c.toNat < 0x80 then c.isAlpha
  else ((NamedSet.find? (BinaryProperty.all ()) "alphabetic").getD []).mem c.toNat ||
    laterLetters.mem c.toNat

/-- Digits and other numbers. -/
def isNumber (c : Char) : Bool :=
  if c.toNat < 0x80 then c.isDigit
  else (Category.numbers ()).any (·.ranges.mem c.toNat) || laterNumbers.mem c.toNat

end SchemaFragments
