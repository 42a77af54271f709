import SchemaFragments.Text
import SchemaFragments.Unicode.ZeroWidth

/-! # The width of a text

How many columns a text takes on a terminal.  East Asian characters take two, marks and characters
that are not shown take none, all others one.  Some sequences are narrower or wider than their
characters, in particular where two letters become one sign; `Text.width` reads the text from its
end and keeps in mind, as a `Follower`, what the next character may join with. -/

namespace SchemaFragments

/-! ### Characters -/

def wideRanges1 : CodeRanges :=
  [(0x1100, 0x115f), (0x231a, 0x231b), (0x2329, 0x232a), (0x23e9, 0x23ec), (0x23f0, 0x23f0),
   (0x23f3, 0x23f3), (0x25fd, 0x25fe), (0x2614, 0x2615), (0x2630, 0x2637), (0x2648, 0x2653),
   (0x267f, 0x267f), (0x268a, 0x268f), (0x2693, 0x2693), (0x26a1, 0x26a1), (0x26aa, 0x26ab),
   (0x26bd, 0x26be), (0x26c4, 0x26c5), (0x26ce, 0x26ce), (0x26d4, 0x26d4), (0x26ea, 0x26ea),
   (0x26f2, 0x26f3), (0x26f5, 0x26f5), (0x26fa, 0x26fa), (0x26fd, 0x26fd), (0x2705, 0x2705),
   (0x270a, 0x270b), (0x2728, 0x2728), (0x274c, 0x274c), (0x274e, 0x274e), (0x2753, 0x2755),
   (0x2757, 0x2757), (0x2795, 0x2797), (0x27b0, 0x27b0), (0x27bf, 0x27bf), (0x2b1b, 0x2b1c),
   (0x2b50, 0x2b50), (0x2b55, 0x2b55), (0x2e80, 0x2e99), (0x2e9b, 0x2ef3), (0x2f00, 0x2fd5),
   (0x2ff0, 0x303e), (0x3041, 0x3096), (0x3099, 0x30ff), (0x3105, 0x312f), (0x3131, 0x318e),
   (0x3190, 0x31e5), (0x31ef, 0x321e), (0x3220, 0x3247), (0x3250, 0xa48c), (0xa490, 0xa4c6),
   (0xa960, 0xa97c), (0xac00, 0xd7a3), (0xf900, 0xfaff), (0xfe10, 0xfe19), (0xfe30, 0xfe52),
   (0xfe54, 0xfe66), (0xfe68, 0xfe6b), (0xff01, 0xff60), (0xffe0, 0xffe6), (0x16fe0, 0x16fe4)]

def wideRanges2 : CodeRanges :=
  [(0x16ff0, 0x16ff6), (0x17000, 0x18cd5), (0x18cff, 0x18d1e), (0x18d80, 0x18df2),
   (0x1aff0, 0x1aff3), (0x1aff5, 0x1affb), (0x1affd, 0x1affe), (0x1b000, 0x1b122),
   (0x1b132, 0x1b132), (0x1b150, 0x1b152), (0x1b155, 0x1b155), (0x1b164, 0x1b167),
   (0x1b170, 0x1b2fb), (0x1d300, 0x1d356), (0x1d360, 0x1d376), (0x1f004, 0x1f004),
   (0x1f0cf, 0x1f0cf), (0x1f18e, 0x1f18e), (0x1f191, 0x1f19a), (0x1f200, 0x1f202),
   (0x1f210, 0x1f23b), (0x1f240, 0x1f248), (0x1f250, 0x1f251), (0x1f260, 0x1f265),
   (0x1f300, 0x1f320), (0x1f32d, 0x1f335), (0x1f337, 0x1f37c), (0x1f37e, 0x1f393),
   (0x1f3a0, 0x1f3ca), (0x1f3cf, 0x1f3d3), (0x1f3e0, 0x1f3f0), (0x1f3f4, 0x1f3f4),
   (0x1f3f8, 0x1f43e), (0x1f440, 0x1f440), (0x1f442, 0x1f4fc), (0x1f4ff, 0x1f53d),
   (0x1f54b, 0x1f54e), (0x1f550, 0x1f567), (0x1f57a, 0x1f57a), (0x1f595, 0x1f596),
   (0x1f5a4, 0x1f5a4), (0x1f5fb, 0x1f64f), (0x1f680, 0x1f6c5), (0x1f6cc, 0x1f6cc),
   (0x1f6d0, 0x1f6d2), (0x1f6d5, 0x1f6d8), (0x1f6dc, 0x1f6df), (0x1f6eb, 0x1f6ec),
   (0x1f6f4, 0x1f6fc), (0x1f7e0, 0x1f7eb), (0x1f7f0, 0x1f7f0), (0x1f90c, 0x1f93a),
   (0x1f93c, 0x1f945), (0x1f947, 0x1f9ff), (0x1fa70, 0x1fa7c), (0x1fa80, 0x1fa8a),
   (0x1fa8e, 0x1fac6), (0x1fac8, 0x1fac8), (0x1facd, 0x1fadc), (0x1fadf, 0x1faea)]

def wideRanges3 : CodeRanges :=
  [(0x1faef, 0x1faf8), (0x20000, 0x2fffd), (0x30000, 0x3fffd)]

/-- Characters that take two columns. -/
def wideRanges : CodeRanges :=
  wideRanges1 ++ wideRanges2 ++ wideRanges3

/-- The columns of a character that stands alone. -/
def charWidth (c : Char) : Nat :=
  let n := c.toNat
  if n < 0x300 then if n = 0xad then 0 else 1
  else if n = 0x17d8 then 3
  else if zeroWidthRanges.mem n then 0
  else if n = 0x17a4 ∨ wideRanges.mem n then 2
  else 1

/-! ### Sequences -/

/-- What stands at the front of a text, as far as a character before it may join with it. -/
inductive Joinable where
  | nothing
  /-- A picture. -/
  | picture
  /-- A picture with a joiner before it, which makes it part of the picture before that. -/
  | joinedPicture
  /-- The same with the sign for a key before the joiner. -/
  | joinedKeycap
  | arabicAlef
  | bugineseYa
  | bugineseIYa
  | hebrewLamed
  | khmerConsonant
  | kiratE
  | kiratAi
  | lisuTone
  | turkicI
  | tifinaghConsonant
  | tifinaghJoined
  deriving DecidableEq, Repr

/-- The front of a text: what is there to join with, whether a joiner comes before that, and whether
a sign comes before that which asks for the picture of a character. -/
structure Follower where
  joinable : Joinable := .nothing
  joined : Bool := false
  asPicture : Bool := false
  deriving DecidableEq, Repr

/-- Is it a letter that letters join with? -/
def Joinable.isLetter : Joinable → Bool
  | nothing | picture | joinedPicture | joinedKeycap => false
  | _ => true

/-- Is it part of the picture before it, if there is one? -/
def Joinable.isJoined : Joinable → Bool
  | joinedPicture | joinedKeycap => true
  | _ => false

/-- Characters whose picture can be asked for, as far as they are word characters. -/
def hasPicture (n : Nat) : Bool :=
  isBetween 0x30 0x39 n || [0x2139, 0x24c2, 0x1f170, 0x1f171, 0x1f17e, 0x1f17f].contains n

/-- Marks that are not shown and do not part letters. -/
def isTransparent (n : Nat) : Bool :=
  n = 0x34f || isBetween 0x17b4 0x17b5 n || isBetween 0x180b 0x180d n || n = 0x180f ||
    isBetween 0xfe00 0xfe0f n || isBetween 0xe0100 0xe01ef n

/-- The letters of the form of Arabic alef. -/
def isArabicAlef (n : Nat) : Bool :=
  isBetween 0x622 0x623 n || n = 0x625 || n = 0x627 || isBetween 0x671 0x673 n || n = 0x675 ||
    isBetween 0x773 0x774 n || isBetween 0x870 0x882 n

/-- The letters of the form of Arabic lam. -/
def isArabicLam (n : Nat) : Bool :=
  n = 0x644 || isBetween 0x6b5 0x6b8 n || n = 0x76a || n = 0x8a6 || n = 0x8c7

/-- The Khmer letters that have a subscript form without a width. -/
def isKhmerConsonant (n : Nat) : Bool :=
  isBetween 0x1780 0x1782 n || isBetween 0x1784 0x1787 n || isBetween 0x1789 0x178c n ||
    isBetween 0x178e 0x1793 n || isBetween 0x1795 0x1798 n || isBetween 0x179b 0x179d n ||
    [0x17a0, 0x17a2, 0x17a7, 0x17ab, 0x17ac, 0x17af].contains n

/-- The consonants of Tifinagh. -/
def isTifinaghConsonant (n : Nat) : Bool := isBetween 0x2d31 0x2d65 n || n = 0x2d6f

/-- What a character offers to the character before it. -/
def Joinable.of (n : Nat) : Joinable :=
  if n < 0x300 then nothing
  else if isArabicAlef n then arabicAlef
  else if n = 0x1a10 then bugineseYa
  else if n = 0x5dc then hebrewLamed
  else if isKhmerConsonant n then khmerConsonant
  else if n = 0x16d67 then kiratE
  else if n = 0x16d68 then kiratAi
  else if isBetween 0xa4fc 0xa4fd n then lisuTone
  else if n = 0x10c03 then turkicI
  else if isTifinaghConsonant n then tifinaghConsonant
  else nothing

/-- The width of a character together with what it joins, less the width that was counted for that
already, if the character does join; and what the two offer to the character before them. -/
def joinWidth? (f : Follower) (n : Nat) : Option (Int × Joinable) :=
  match f.joinable with
  | .nothing | .joinedKeycap => none
  | .picture => if n = 0x200d then some (0, .joinedPicture) else none
  | .joinedPicture => if n = 0x20e3 then some (0, .joinedKeycap) else none
  | .arabicAlef => if isArabicLam n then some (0, .nothing) else none
  | .bugineseYa => if n = 0x1a17 ∧ f.joined then some (0, .bugineseIYa) else none
  | .bugineseIYa => if n = 0x1a15 then some (0, .nothing) else none
  | .hebrewLamed => if n = 0x5d0 ∧ f.joined then some (0, .nothing) else none
  | .khmerConsonant => if n = 0x17d2 then some (-1, .nothing) else none
  | .kiratE =>
    if n = 0x16d63 ∨ n = 0x16d69 then some (0, .nothing)
    else if n = 0x16d67 then some (0, .kiratAi)
    else if n = 0x16d68 then some (1, .kiratE)
    else none
  | .kiratAi => if n = 0x16d63 then some (0, .nothing) else none
  | .lisuTone => if isBetween 0xa4f8 0xa4fb n then some (0, .nothing) else none
  | .turkicI => if n = 0x10c32 ∧ f.joined then some (0, .nothing) else none
  | .tifinaghConsonant =>
    if n = 0x2d7f then some (1, .tifinaghJoined)
    else if isTifinaghConsonant n ∧ f.joined then some (0, .nothing)
    else none
  | .tifinaghJoined => if isTifinaghConsonant n then some (-1, .nothing) else none

/-- The front of a text whose next character has no picture. -/
def Follower.unasked (f : Follower) : Follower :=
  if !f.asPicture then f else if f.joinable.isLetter then { f with asPicture := false } else {}

/-- The front with the sign before it that asks for a picture. -/
def Follower.asked (f : Follower) : Follower :=
  if f.joinable.isLetter || f.joinable.isJoined then { f with asPicture := true }
  else { asPicture := true }

/-- The front behind a character that does not part letters, if the character is one. -/
def Follower.passed? (f : Follower) (n : Nat) : Option Follower :=
  if f.joinable = .arabicAlef then
    if zeroWidthRanges.mem n && !partingRanges.mem n then some f else none
  else if !f.joinable.isLetter then none
  else if n = 0x200d then some { f with joined := true }
  else if isTransparent n then some f
  else none

/-- Puts a character before a text of known width and front. -/
def addWidth (c : Char) : Int × Follower → Int × Follower
  | (w, f) =>
    let n := c.toNat
    if f.asPicture ∧ hasPicture n then
      (w + if f.joinable.isJoined then 0 else 2, { joinable := .picture })
    else
      let f := f.unasked
      match joinWidth? f n with
      | some (more, joinable) => (w + more, { joinable := joinable })
      | none =>
        if n = 0xfe0f then (w, f.asked)
        else
          match f.passed? n with
          | some f => (w, f)
          | none => (w + charWidth c, { joinable := .of n })

/-- The columns of a text. -/
def Text.width (t : Text) : Nat := (t.foldr addWidth (0, {})).1.toNat

end SchemaFragments
