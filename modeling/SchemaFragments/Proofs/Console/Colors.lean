import SchemaFragments.Console.Line
import SchemaFragments.Proofs.Text

/-! # Colors in console text

`withoutColors` takes the control sequences out of a text that select a color.  Painting puts such a
sequence before a text and another one behind it; neither the text nor what comes next can take part in
them as long as there is no escape character in it.  So of a painted text, a line and a report the plain
one is left (`withoutColors_paint`, `withoutColors_line`, `withoutColors_render`). -/

namespace SchemaFragments

/-! ### Taking colors out -/

/-- Do the parameters of a control sequence select the color that the terminal starts with, or a mixture
of red, green and blue? -/
def selectsColor (parameters : Text) : Bool :=
  match Text.splitOn ';' parameters with
  | [color] => color = "39"
  | [ground, kind, r, g, b] =>
    ground = "38" && kind = "2" && (byteOfDigits? r).isSome && (byteOfDigits? g).isSome &&
      (byteOfDigits? b).isSome
  | _ => false

/-- What comes behind a control sequence that selects a color, if a text begins with one. -/
def behindColor? : Text → Option Text
  | '\x1b' :: '[' :: rest =>
    match rest.dropWhile (· ≠ 'm') with
    | [] => none
    | _ :: behind => if selectsColor (rest.takeWhile (· ≠ 'm')) then some behind else none
  | _ => none

theorem length_behindColor?_lt {t behind : Text} (h : behindColor? t = some behind) :
    behind.length < t.length := by
  unfold behindColor? at h
  split at h
  · next rest =>
      split at h
      · cases h
      · next c end_ hdrop =>
          split_ifs at h
          cases h
          have hle := (List.dropWhile_suffix (l := rest) (· ≠ 'm')).length_le
          rw [hdrop, List.length_cons] at hle
          simp only [List.length_cons]
          omega
  · cases h

/-- A text without the control sequences that select a color. -/
def withoutColors : Text → Text
  | [] => []
  | c :: cs =>
    match _h : behindColor? (c :: cs) with
    | some behind => withoutColors behind
    | none => c :: withoutColors cs
termination_by t => t.length
decreasing_by
  · exact length_behindColor?_lt _h
  · simp

theorem withoutColors_of_behindColor? {t behind : Text} (h : behindColor? t = some behind) :
    withoutColors t = withoutColors behind := by
  cases t with
  | nil => cases h
  | cons c cs =>
      rw [withoutColors]
      split
      · next behind' h' =>
          cases h.symm.trans h'
          rfl
      · next h' => cases h.symm.trans h'

theorem withoutColors_cons {c : Char} (hc : c ≠ '\x1b') (t : Text) :
    withoutColors (c :: t) = c :: withoutColors t := by
  have hnone : behindColor? (c :: t) = none := by
    unfold behindColor?
    split
    · next h => cases h; exact absurd rfl hc
    · rfl
  rw [withoutColors]
  split
  · next behind h => cases hnone.symm.trans h
  · rfl

/-- Without an escape character there is nothing to take out. -/
theorem withoutColors_append {t : Text} (h : '\x1b' ∉ t) (u : Text) :
    withoutColors (t ++ u) = t ++ withoutColors u := by
  induction t with
  | nil => rfl
  | cons c t ih =>
      rw [List.mem_cons, not_or] at h
      rw [List.cons_append, withoutColors_cons (Ne.symm h.1), ih h.2, List.cons_append]

/-! ### Painted text -/

namespace Palette

variable {p q : Palette}

theorem withoutColors_foreground (hp : p.namesColors = true) {color : Color}
    (hcolor : selectsColor color.foreground) (hend : 'm' ∉ color.foreground) (t : Text) :
    withoutColors (p.foreground color ++ t) = withoutColors t := by
  have hall : ∀ c ∈ color.foreground, (decide (c ≠ 'm')) = true := by
    intro c hc
    simpa using fun h : c = 'm' => hend (h ▸ hc)
  have htake : (color.foreground ++ 'm' :: t).takeWhile (· ≠ 'm') = color.foreground := by
    rw [List.takeWhile_append_of_pos hall]
    simp
  have hdrop : (color.foreground ++ 'm' :: t).dropWhile (· ≠ 'm') = 'm' :: t := by
    rw [List.dropWhile_append_of_pos hall]
    simp
  -- The first letter behind the bracket is the one that ends the sequence.
  refine withoutColors_of_behindColor? ?_
  unfold foreground Color.sequenceStart
  rw [if_pos hp, List.append_assoc, List.append_assoc, List.singleton_append]
  change (match (color.foreground ++ 'm' :: t).dropWhile (· ≠ 'm') with
    | [] => none
    | _ :: behind =>
      if selectsColor ((color.foreground ++ 'm' :: t).takeWhile (· ≠ 'm')) then some behind else none) =
      some t
  rw [htake, hdrop]
  exact if_pos hcolor

theorem selectsColor_color (r : Role) (theme : Theme) :
    selectsColor (r.color theme).foreground ∧ 'm' ∉ (r.color theme).foreground := by
  cases r <;> cases theme <;> decide +kernel

theorem withoutColors_paint (he : p.enabled = true) (hp : p.namesColors = true) (r : Role) {text : Text}
    (h : '\x1b' ∉ text) (t : Text) : withoutColors (p.paint r text ++ t) = text ++ withoutColors t := by
  obtain ⟨hcolor, hend⟩ := selectsColor_color r p.theme
  unfold paint colorOf
  rw [if_pos he, if_pos he, List.append_assoc, List.append_assoc,
    withoutColors_foreground hp hcolor hend, withoutColors_append h,
    withoutColors_foreground hp (by decide) (by decide)]

end Palette

/-! ### Lines -/

/-- The text of a piece. -/
def Piece.text : Piece → Text
  | plain text => text
  | painted _ text => text

/-- There is no escape character in what the line says. -/
def Line.Unescaped (l : Line) : Prop := ∀ piece ∈ l.pieces, '\x1b' ∉ piece.text

variable {p q : Palette}

theorem Piece.render_of_not_enabled (hq : q.enabled = false) (piece : Piece) :
    piece.render q = piece.text := by
  cases piece with
  | plain text => rfl
  | painted r text => simp [render, Palette.paint, hq, Piece.text]

theorem withoutColors_piece (he : p.enabled = true) (hp : p.namesColors = true) {piece : Piece}
    (h : '\x1b' ∉ piece.text) (t : Text) :
    withoutColors (piece.render p ++ t) = piece.text ++ withoutColors t := by
  cases piece with
  | plain text => exact withoutColors_append h t
  | painted r text => exact p.withoutColors_paint he hp r h t

theorem withoutColors_line (he : p.enabled = true) (hp : p.namesColors = true) (hq : q.enabled = false)
    {l : Line} (h : l.Unescaped) (t : Text) :
    withoutColors (l.render p ++ t) = l.render q ++ withoutColors t := by
  obtain ⟨pieces, isDetail⟩ := l
  unfold Line.Unescaped at h
  unfold Line.render
  dsimp only at h ⊢
  induction pieces with
  | nil => rfl
  | cons piece pieces ih =>
      rw [List.forall_mem_cons] at h
      rw [List.flatMap_cons, List.flatMap_cons, List.append_assoc, withoutColors_piece he hp h.1, ih h.2,
        piece.render_of_not_enabled hq, List.append_assoc]

theorem escape_not_mem_line (hq : q.enabled = false) {l : Line} (h : l.Unescaped) :
    '\x1b' ∉ l.render q := by
  intro hmem
  obtain ⟨piece, hpiece, hc⟩ := List.mem_flatMap.mp hmem
  rw [piece.render_of_not_enabled hq] at hc
  exact h piece hpiece hc

/-! ### Reports -/

/-- The console with another palette and at another time of day. -/
def Console.under (c : Console) (p : Palette) (clock : Text) : Console :=
  { c with palette := p, clock := clock }

@[simp] theorem Console.clock_under (c : Console) (p : Palette) (clock : Text) :
    (c.under p clock).clock = clock := rfl

theorem Console.render_under (c : Console) (p : Palette) (clock : Text) (ls : List Line) :
    (c.under p clock).render ls =
      if c.broken then [] else (ls.filter c.shows).flatMap fun l => l.render p ++ ['\n'] := rfl

theorem withoutColors_lines (he : p.enabled = true) (hp : p.namesColors = true)
    (hq : q.enabled = false) {ls : List Line} (h : ∀ l ∈ ls, l.Unescaped) :
    withoutColors (ls.flatMap fun l => l.render p ++ ['\n']) =
      ls.flatMap fun l => l.render q ++ ['\n'] := by
  induction ls with
  | nil => rw [List.flatMap_nil, List.flatMap_nil, withoutColors]
  | cons l ls ih =>
      rw [List.forall_mem_cons] at h
      rw [List.flatMap_cons, List.flatMap_cons, List.append_assoc, withoutColors_line he hp hq h.1,
        List.singleton_append, withoutColors_cons (by decide), ih h.2, List.append_assoc,
        List.singleton_append]

/-- Of a report in color the plain one is left. -/
theorem withoutColors_render (he : p.enabled = true) (hp : p.namesColors = true)
    (hq : q.enabled = false) (c : Console) (clock : Text) {ls : List Line}
    (h : ∀ l ∈ ls, l.Unescaped) :
    withoutColors ((c.under p clock).render ls) = (c.under q clock).render ls := by
  rw [c.render_under, c.render_under]
  split_ifs
  · rw [withoutColors]
  · exact withoutColors_lines he hp hq fun l hl => h l (List.mem_filter.mp hl).1

theorem escape_not_mem_render {c : Console} (hq : c.palette.enabled = false) {ls : List Line}
    (h : ∀ l ∈ ls, l.Unescaped) : '\x1b' ∉ c.render ls := by
  unfold Console.render
  split_ifs
  · exact List.not_mem_nil
  · intro hmem
    obtain ⟨l, hl, hc⟩ := List.mem_flatMap.mp hmem
    rcases List.mem_append.mp hc with hc | hc
    · exact escape_not_mem_line hq (h l (List.mem_filter.mp hl).1) hc
    · exact absurd (List.mem_singleton.mp hc) (by decide)

end SchemaFragments
