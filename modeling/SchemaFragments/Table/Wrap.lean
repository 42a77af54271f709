import SchemaFragments.Unicode.Cluster
import SchemaFragments.Unicode.Width

/-! # Wrapping

`wrap` cuts the text of a cell into lines of a given width.  It breaks at spaces where it can and
inside a word where it has to; it would rather break a long word at the end of a line than leave
more than two columns of the line empty.

A line is complete when it comes within one column of the width, even if another word could
follow. -/

namespace SchemaFragments.Table

/-! ### Long words -/

/-- The clusters that fit into the room, one after the other, and the rest of the text. -/
def takeFitting (room : Nat) : List Text → Text × Text
  | [] => ([], [])
  | cluster :: rest =>
    let w := Text.width cluster
    if w ≤ room then
      let (head, tail) := takeFitting (room - w) rest
      (cluster ++ head, tail)
    else ([], cluster ++ rest.flatten)

/-- The part of a word that fits into the room, and the rest of the word. -/
def cutWord (room : Nat) (word : Text) : Text × Text := takeFitting room (Text.clusters word)

/-- Like `cutWord`, but takes one character if nothing fits. -/
def cutFreshWord (room : Nat) (word : Text) : Text × Text :=
  if (cutWord room word).1 = [] then word.splitAt 1 else cutWord room word

/-! ### Lines -/

/-- A line with a word added to it. -/
def addWord (line word : Text) : Text := if line = [] then word else line ++ [' '] ++ word

/-- The columns that are left on a line for another word. -/
def roomAfter (width : Nat) (line : Text) : Nat :=
  if line = [] then width else width - Text.width line - 1

/-- Is a line complete? -/
def isComplete (width : Nat) (line : Text) : Bool := decide (width - 2 < Text.width line)

theorem flatten_length_takeFitting (room : Nat) (cs : List Text) :
    (takeFitting room cs).1.length + (takeFitting room cs).2.length = cs.flatten.length := by
  induction cs generalizing room with
  | nil => rfl
  | cons c rest ih =>
    simp only [takeFitting]
    split
    · have := ih (room - Text.width c)
      simp only [List.length_append, List.flatten_cons]
      omega
    · simp

theorem flatten_clustersFrom (s : ClusterState) (t : Text) :
    (Text.clustersFrom s t).1 ++ (Text.clustersFrom s t).2.flatten = t := by
  induction t generalizing s with
  | nil => rfl
  | cons c rest ih =>
    simp only [Text.clustersFrom]
    split
    · simpa using ih (s.add c)
    · simpa using ih (.start c)

theorem flatten_clusters (t : Text) : (Text.clusters t).flatten = t := by
  cases t with
  | nil => rfl
  | cons c rest => simpa [Text.clusters] using flatten_clustersFrom (.start c) rest

theorem length_cutWord (room : Nat) (word : Text) :
    (cutWord room word).1.length + (cutWord room word).2.length = word.length := by
  simp [cutWord, flatten_length_takeFitting, flatten_clusters]

theorem length_cutFreshWord_lt (room : Nat) {word : Text} (h : word ≠ []) :
    (cutFreshWord room word).2.length < word.length := by
  unfold cutFreshWord
  split
  · cases word with
    | nil => exact absurd rfl h
    | cons c rest => simp
  · next hne =>
    have := length_cutWord room word
    have : 0 < (cutWord room word).1.length := List.length_pos_iff.mpr hne
    omega

theorem ne_nil_of_width_pos {t : Text} (h : 0 < Text.width t) : t ≠ [] := by
  rintro rfl
  simp [Text.width] at h

/-- The lines of some words behind the beginning `line` of a line. -/
def wrapFrom (width : Nat) (line : Text) : List Text → List Text
  | [] => if line = [] then [] else [line]
  | word :: words =>
    let longer := addWord line word
    if Text.width line + (if line = [] then 0 else 1) + Text.width word ≤ width then
      if isComplete width longer then longer :: wrapFrom width [] words
      else wrapFrom width longer words
    else if line ≠ [] ∧ roomAfter width line ≤ 2 then line :: wrapFrom width [] (word :: words)
    else if width < Text.width word then
      if line = [] then
        (cutFreshWord width word).1 :: wrapFrom width [] ((cutFreshWord width word).2 :: words)
      else
        (line ++ [' '] ++ (cutWord (roomAfter width line) word).1) ::
          wrapFrom width [] ((cutWord (roomAfter width line) word).2 :: words)
    else if isComplete width word then line :: word :: wrapFrom width [] words
    else line :: wrapFrom width word words
termination_by words => 2 * (words.flatten.length + words.length) + if line = [] then 0 else 1
decreasing_by
  · simp only [List.flatten_cons, List.length_append, List.length_cons, if_pos]; omega
  · simp only [List.flatten_cons, List.length_append, List.length_cons]; split <;> split <;> omega
  · next h => simp only [List.flatten_cons, List.length_append, List.length_cons, if_pos, if_neg h.1]; omega
  · next h hl =>
    have hne : word ≠ [] := ne_nil_of_width_pos (Nat.lt_of_le_of_lt (Nat.zero_le _) h)
    have := length_cutFreshWord_lt width hne
    simp only [List.flatten_cons, List.length_append, List.length_cons, if_pos, hl]; omega
  · next hl =>
    have := length_cutWord (roomAfter width line) word
    simp only [List.flatten_cons, List.length_append, List.length_cons, if_pos, if_neg hl]; omega
  · simp only [List.flatten_cons, List.length_append, List.length_cons, if_pos]; omega
  · simp only [List.flatten_cons, List.length_append, List.length_cons]; split <;> split <;> omega

/-- The lines of a text that is wider than `width`. -/
def wrap (width : Nat) (text : Text) : List Text := wrapFrom width [] (Text.splitOn ' ' text)

end SchemaFragments.Table
