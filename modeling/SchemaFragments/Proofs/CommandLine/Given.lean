import SchemaFragments.Proofs.CommandLine.Occurrences

/-! # What is given on a command line

An argument gives an option by its long name or by its letter, and a value stands behind an equals sign or
as the next argument: `Opt.IsGivenBy` and `Opt.valuesGiven` say so of the arguments alone.  What may be taken
off one argument is said once (`Takes`), and along the arguments (`TakesAll`) it follows that the options
that are taken off are those that the arguments give (`TakesAll.mem_iff`), that they are options of the
command (`TakesAll.options`), and that their values are those that the arguments give
(`TakesAll.values`). -/

namespace SchemaFragments.CommandLine

variable {c : Command} {o p : Opt} {os fs : List Occurrence} {missing? next? : Option Opt}
  {a name text value : Text} {value? : Option Text} {args : List Text}

/-! ### Names and letters -/

/-- The long name of an option, as it is written. -/
def Opt.argument (o : Opt) : Text := ['-', '-'] ++ o.long

/-- An argument that gives an option by its long name, with or without a value behind an equals sign. -/
def Opt.IsNamedBy (o : Opt) (a : Text) : Prop := a = o.argument ∨ o.argument ++ ['='] <+: a

instance (o : Opt) (a : Text) : Decidable (o.IsNamedBy a) :=
  inferInstanceAs (Decidable (a = o.argument ∨ o.argument ++ ['='] <+: a))

/-- An argument that gives an option, by its long name or by its letter among others behind one hyphen. -/
def Opt.IsGivenBy (o : Opt) (a : Text) : Prop :=
  o.IsNamedBy a ∨
    ∃ letters, a = '-' :: letters ∧ letters.head? ≠ some '-' ∧ ∃ letter ∈ o.letter?, letter ∈ letters

theorem Opt.long_inj (h : o.long = p.long) : o = p := by
  cases o <;> cases p <;> first | rfl | exact absurd h (by decide)

theorem Opt.letter?_inj {letter : Char} (ho : o.letter? = some letter) (hp : p.letter? = some letter) :
    o = p := by
  cases o <;> cases ho <;> cases p <;> first | rfl | cases hp

namespace Command

theorem eq_of_splitLong (t : Text) :
    t = (splitLong t).1 ++ (splitLong t).2.elim [] ('=' :: ·) := by
  have hcut := List.takeWhile_append_dropWhile (p := (· ≠ '=')) (l := t)
  unfold splitLong
  cases hrest : t.dropWhile (· ≠ '=') with
  | nil => exact (List.append_nil t).symm
  | cons x value =>
      have hx : x = '=' := by
        have hhead := List.head?_dropWhile_not (· ≠ '=') t
        rw [hrest] at hhead
        simpa using hhead
      rw [hrest, hx] at hcut
      exact hcut.symm

theorem long_of_ofLong? (h : c.ofLong? name = some o) : name = o.long := by
  have hlong := List.find?_some h
  exact (of_decide_eq_true hlong).symm

theorem letter_of_ofLetter? {letter : Char} (h : c.ofLetter? letter = some o) :
    o.letter? = some letter := by
  have hletter := List.find?_some h
  exact of_decide_eq_true hletter

end Command

namespace Argument

theorem of_argument (o : Opt) : of o.argument = .long o.long none := by
  cases o <;> rfl

theorem of_argument_append (o : Opt) (value : Text) :
    of (o.argument ++ '=' :: value) = .long o.long (some value) := by
  cases o <;> rfl

theorem eq_of_long (h : of a = .long name value?) :
    a = ['-', '-'] ++ name ++ value?.elim [] ('=' :: ·) := by
  unfold of at h
  split at h
  · cases h
  · next t _ =>
      obtain ⟨rfl, rfl⟩ := Argument.long.inj h
      rw [List.append_assoc, ← Command.eq_of_splitLong]
      rfl
  · cases h
  · cases h

theorem of_letters (hne : text ≠ []) (hhead : text.head? ≠ some '-') :
    of ('-' :: text) = .letters text := by
  obtain ⟨x, rest, rfl⟩ := List.exists_cons_of_ne_nil hne
  have hx : x ≠ '-' := fun hx => hhead (congrArg some hx)
  unfold of
  split
  · next h => exact absurd (List.cons.inj (List.cons.inj h).2).1 hx
  · next h => exact absurd (List.cons.inj (List.cons.inj h).2).1 hx
  · next h => rw [(List.cons.inj h).2]
  · next h => exact absurd rfl (h x rest)

theorem eq_of_letters (h : of a = .letters text) :
    a = '-' :: text ∧ text.head? ≠ some '-' := by
  unfold of at h
  split at h
  · cases h
  · cases h
  · next hlong =>
      cases h
      exact ⟨rfl, fun hhead => hlong (Option.some.inj hhead)⟩
  · cases h

end Argument

namespace Opt

theorem eq_argument_iff : a = o.argument ↔ Argument.of a = .long o.long none := by
  constructor
  · rintro rfl
    exact Argument.of_argument o
  · exact fun h => (Argument.eq_of_long h).trans (List.append_nil _)

theorem isNamedBy_iff : o.IsNamedBy a ↔ ∃ value?, Argument.of a = .long o.long value? := by
  constructor
  · rintro (ha | ⟨value, rfl⟩)
    · exact ⟨none, eq_argument_iff.mp ha⟩
    · rw [List.append_assoc]
      exact ⟨some value, Argument.of_argument_append o value⟩
  · rintro ⟨_ | value, h⟩
    · exact .inl (eq_argument_iff.mpr h)
    · refine .inr ⟨value, ?_⟩
      rw [Argument.eq_of_long h, List.append_assoc]
      rfl

/-- The form of an argument says which options it gives. -/
theorem isGivenBy_iff :
    o.IsGivenBy a ↔
      match Argument.of a with
      | .long name _ => name = o.long
      | .letters text => ∃ letter ∈ o.letter?, letter ∈ text
      | _ => False := by
  unfold IsGivenBy
  rw [isNamedBy_iff]
  constructor
  · rintro (⟨value?, h⟩ | ⟨text, rfl, hhead, letter, hletter, hmem⟩)
    · rw [h]
    · rw [Argument.of_letters (List.ne_nil_of_mem hmem) hhead]
      exact ⟨letter, hletter, hmem⟩
  · cases h : Argument.of a with
    | long name value? =>
        rintro rfl
        exact .inl ⟨value?, rfl⟩
    | letters text =>
        rintro ⟨letter, hletter, hmem⟩
        obtain ⟨ha, hhead⟩ := Argument.eq_of_letters h
        exact .inr ⟨text, ha, hhead, letter, hletter, hmem⟩
    | hyphens => exact False.elim
    | word => exact False.elim

end Opt

/-! ### Taking off options -/

namespace Command

/-- What may be taken off one argument: the options that it gives, and the option whose value has to come
next.  The first option is the one whose value this argument has to be. -/
inductive Takes (c : Command) : Option Opt → Text → List Occurrence → Option Opt → Prop
  | value {a : Text} (o : Opt) (ha : Argument.of a = .word) : Takes c (some o) a [(o, some a)] none
  | letters {a text : Text} {os : List Opt} (ha : Argument.of a = .letters text)
      (hos : text.map c.ofLetter? = os.map some) : Takes c none a (os.map (·, none)) none
  | attached {a value : Text} {o : Opt} (ho : o ∈ c.options)
      (ha : Argument.of a = .long o.long (some value)) : Takes c none a [(o, some value)] none
  | awaiting {a : Text} {o : Opt} (ho : o ∈ c.options) (hvalued : o.isValued)
      (ha : Argument.of a = .long o.long none) : Takes c none a [] (some o)
  | flag {a : Text} {o : Opt} (ho : o ∈ c.options) (hvalued : o.isValued = false)
      (ha : Argument.of a = .long o.long none) : Takes c none a [(o, none)] none

/-- What may be taken off some arguments. -/
inductive TakesAll (c : Command) : Option Opt → List Text → List Occurrence → Prop
  | nil : TakesAll c none [] []
  | hyphens {a : Text} (ha : Argument.of a = .hyphens) : TakesAll c none [a] []
  | cons {missing? next? : Option Opt} {a : Text} {rest : List Text} {fs os : List Occurrence}
      (htakes : c.Takes missing? a fs next?) (hrest : TakesAll c next? rest os) :
      TakesAll c missing? (a :: rest) (fs ++ os)

theorem exists_of_flags? (h : c.flags? text = some fs) :
    ∃ os : List Opt, text.map c.ofLetter? = os.map some ∧ fs = os.map (·, none) := by
  induction text generalizing fs with
  | nil =>
      cases h
      exact ⟨[], rfl, rfl⟩
  | cons letter text ih =>
      rw [flags?_cons] at h
      obtain ⟨o, ho, h⟩ := Option.bind_eq_some_iff.mp h
      split_ifs at h
      obtain ⟨fs', hfs', rfl⟩ := Option.map_eq_some_iff.mp h
      obtain ⟨os, hos, rfl⟩ := ih hfs'
      exact ⟨o :: os, by rw [List.map_cons, List.map_cons, ho, hos], rfl⟩

theorem takes_of_step? (h : c.step? missing? a = some (fs, next?)) : c.Takes missing? a fs next? := by
  unfold step? at h
  split at h
  · next o ha =>
      obtain ⟨rfl, rfl⟩ := Prod.mk.inj (Option.some.inj h)
      exact .value o ha
  · next text ha =>
      obtain ⟨fs', hfs', heq⟩ := Option.map_eq_some_iff.mp h
      obtain ⟨rfl, rfl⟩ := Prod.mk.inj heq
      obtain ⟨os, hos, rfl⟩ := exists_of_flags? hfs'
      exact .letters ha hos
  · next name value? ha =>
      obtain ⟨o, ho, h⟩ := Option.bind_eq_some_iff.mp h
      have hmem := List.mem_of_find?_eq_some ho
      rw [long_of_ofLong? ho] at ha
      cases value? with
      | some value =>
          simp only at h
          split_ifs at h
          obtain ⟨rfl, rfl⟩ := Prod.mk.inj (Option.some.inj h)
          exact .attached hmem ha
      | none =>
          simp only at h
          split_ifs at h with hvalued hflag
          · obtain ⟨rfl, rfl⟩ := Prod.mk.inj (Option.some.inj h)
            exact .awaiting hmem hvalued ha
          · obtain ⟨rfl, rfl⟩ := Prod.mk.inj (Option.some.inj h)
            exact .flag hmem (Bool.eq_false_iff.mpr hvalued) ha
  · cases h

theorem takesAll_of_occurrences? (h : c.occurrences? missing? args = some os) :
    c.TakesAll missing? args os := by
  induction args generalizing missing? os with
  | nil =>
      cases missing? with
      | none =>
          cases h
          exact .nil
      | some o => cases h
  | cons a rest ih =>
      rw [occurrences?] at h
      split_ifs at h with hend hrest
      · cases h
        obtain ⟨rfl, ha⟩ := hend
        rw [hrest]
        exact .hyphens ha
      · obtain ⟨⟨fs, next?⟩, hstep, h⟩ := Option.bind_eq_some_iff.mp h
        obtain ⟨os', hos', rfl⟩ := Option.map_eq_some_iff.mp h
        exact .cons (takes_of_step? hstep) (ih hos')

/-! ### The options -/

theorem mem_iff_ofLetter? {os : List Opt} (hos : text.map c.ofLetter? = os.map some) :
    o ∈ os ↔ ∃ letter ∈ text, c.ofLetter? letter = some o := by
  rw [← List.mem_map, hos, List.mem_map_of_injective fun _ _ => Option.some.inj]

theorem mem_iff_letter? {os : List Opt} (hos : text.map c.ofLetter? = os.map some) :
    o ∈ os ↔ ∃ letter ∈ o.letter?, letter ∈ text := by
  rw [mem_iff_ofLetter? hos]
  constructor
  · rintro ⟨letter, hletter, ho⟩
    exact ⟨letter, letter_of_ofLetter? ho, hletter⟩
  · rintro ⟨letter, ho, hletter⟩
    have hknown : c.ofLetter? letter ∈ os.map some := hos ▸ List.mem_map_of_mem hletter
    obtain ⟨p, -, hp⟩ := List.mem_map.mp hknown
    rw [← Opt.letter?_inj (letter_of_ofLetter? hp.symm) ho]
    exact ⟨letter, hletter, hp.symm⟩

/-- One argument gives the options that are taken off it and the one whose value has to come next. -/
theorem Takes.mem_iff (h : c.Takes missing? a fs next?) :
    (∃ x ∈ fs, x.1 = o) ∨ next? = some o ↔ missing? = some o ∨ o.IsGivenBy a := by
  rw [Opt.isGivenBy_iff]
  have hlong : ∀ p : Opt, p.long = o.long ↔ p = o := fun p => ⟨Opt.long_inj, congrArg _⟩
  cases h with
  | value p ha => simp [ha]
  | letters ha hos => simp [ha, mem_iff_letter? hos]
  | attached _ ha => simp [ha, hlong]
  | awaiting _ _ ha => simp [ha, hlong]
  | flag _ _ ha => simp [ha, hlong]

/-- The options that are taken off some arguments are those that the arguments give. -/
theorem TakesAll.mem_iff (h : c.TakesAll missing? args os) :
    (∃ x ∈ os, x.1 = o) ↔ missing? = some o ∨ ∃ a ∈ args, o.IsGivenBy a := by
  induction h with
  | nil => simp
  | hyphens ha => simp [Opt.isGivenBy_iff, ha]
  | cons htakes _ ih =>
      rw [List.exists_mem_cons_iff, ← or_assoc, ← htakes.mem_iff, or_assoc, ← ih]
      simp only [List.mem_append, or_and_right, exists_or]

theorem Takes.options (h : c.Takes missing? a fs next?) (hmissing : ∀ o ∈ missing?, o ∈ c.options) :
    (∀ x ∈ fs, x.1 ∈ c.options) ∧ ∀ o ∈ next?, o ∈ c.options := by
  cases h with
  | value p ha => exact ⟨List.forall_mem_singleton.mpr (hmissing p rfl), nofun⟩
  | letters _ hos =>
      refine ⟨List.forall_mem_map.mpr fun p hp => ?_, nofun⟩
      obtain ⟨letter, -, hp⟩ := (mem_iff_ofLetter? hos).mp hp
      exact List.mem_of_find?_eq_some hp
  | attached ho _ => exact ⟨List.forall_mem_singleton.mpr ho, nofun⟩
  | awaiting ho _ _ => exact ⟨nofun, fun _ h => Option.some.inj h ▸ ho⟩
  | flag ho _ _ => exact ⟨List.forall_mem_singleton.mpr ho, nofun⟩

/-- A command takes none but its own options. -/
theorem TakesAll.options (h : c.TakesAll missing? args os) (hmissing : ∀ o ∈ missing?, o ∈ c.options) :
    ∀ x ∈ os, x.1 ∈ c.options := by
  induction h with
  | nil => exact nofun
  | hyphens _ => exact nofun
  | cons htakes _ ih =>
      obtain ⟨hfs, hnext⟩ := htakes.options hmissing
      exact List.forall_mem_append.mpr ⟨hfs, ih hnext⟩

end Command

/-! ### The values -/

/-- The value that an argument gives to an option behind an equals sign. -/
def Opt.attached (o : Opt) (a : Text) : List Text :=
  if o.argument ++ ['='] <+: a then [a.drop (o.argument.length + 1)] else []

/-- The values that are given to an option, behind an equals sign or as the next argument. -/
def Opt.valuesGiven (o : Opt) : List Text → List Text
  | [] => []
  | a :: rest =>
    o.attached a ++ (if a = o.argument then rest.head?.toList else []) ++ o.valuesGiven rest

/-- The values of an option among options that are given. -/
def valuesOf (o : Opt) (os : List Occurrence) : List Text :=
  os.filterMap fun x => if x.1 = o then x.2 else none

theorem valuesOf_append (o : Opt) (os os' : List Occurrence) :
    valuesOf o (os ++ os') = valuesOf o os ++ valuesOf o os' := List.filterMap_append

theorem valuesOf_cons (o : Opt) (x : Occurrence) (os : List Occurrence) :
    valuesOf o (x :: os) = valuesOf o [x] ++ valuesOf o os := valuesOf_append o [x] os

theorem Opt.attached_of_long (h : Argument.of a = .long name (some value)) :
    o.attached a = if name = o.long then [value] else [] := by
  unfold attached
  split_ifs with hprefix hname hname
  · have ha := Argument.eq_of_long h
    rw [hname] at ha
    rw [ha]
    simp [argument]
  · obtain ⟨rest, rfl⟩ := hprefix
    rw [List.append_assoc, List.singleton_append, Argument.of_argument_append] at h
    exact absurd (Argument.long.inj h).1.symm hname
  · refine absurd ⟨value, ?_⟩ hprefix
    rw [Argument.eq_of_long h, hname, List.append_assoc]
    rfl
  · rfl

theorem Opt.attached_eq_nil (h : ∀ value, Argument.of a ≠ .long o.long (some value)) :
    o.attached a = [] := by
  refine if_neg ?_
  rintro ⟨value, rfl⟩
  rw [List.append_assoc] at h
  exact h value (Argument.of_argument_append o value)

namespace Command

/-- An argument gives an option the value that is taken off it. -/
theorem Takes.values (h : c.Takes missing? a fs next?) :
    valuesOf o fs = (if missing? = some o then [a] else []) ++ o.attached a := by
  unfold valuesOf
  cases h with
  | value p ha =>
      rw [Opt.attached_eq_nil (by simp [ha])]
      by_cases hp : p = o <;> simp [hp]
  | letters ha _ =>
      rw [Opt.attached_eq_nil (by simp [ha])]
      simp
  | @attached _ value p _ ha =>
      rw [Opt.attached_of_long ha]
      by_cases hp : p = o
      · simp [hp]
      · have hlong : p.long ≠ o.long := mt Opt.long_inj hp
        simp [hp, hlong]
  | awaiting _ _ ha =>
      rw [Opt.attached_eq_nil (by simp [ha])]
      rfl
  | flag _ _ ha =>
      rw [Opt.attached_eq_nil (by simp [ha])]
      simp

/-- The value of an option has to come next if the option is named without it. -/
theorem Takes.next?_iff (h : c.Takes missing? a fs next?) (hvalued : o.isValued) :
    next? = some o ↔ a = o.argument := by
  rw [Opt.eq_argument_iff]
  cases h with
  | value p ha => simp [ha]
  | letters ha _ => simp [ha]
  | attached _ ha => simp [ha]
  | awaiting _ _ ha => simpa [ha] using ⟨congrArg Opt.long, Opt.long_inj⟩
  | @flag _ p _ hnot ha =>
      have hlong : p.long ≠ o.long := by
        rintro heq
        rw [Opt.long_inj heq, hvalued] at hnot
        cases hnot
      simp [ha, hlong]

/-- The values that are taken off some arguments are those that the arguments give. -/
theorem TakesAll.values (h : c.TakesAll missing? args os) (hvalued : o.isValued) :
    valuesOf o os = (if missing? = some o then args.head?.toList else []) ++ o.valuesGiven args := by
  induction h with
  | nil => rfl
  | @hyphens a ha =>
      have hne : a ≠ o.argument := by
        rw [Ne, Opt.eq_argument_iff, ha]
        exact nofun
      simp [valuesOf, Opt.valuesGiven, Opt.attached_eq_nil, ha, hne]
  | @cons _ _ a rest _ _ htakes _ ih =>
      rw [valuesOf_append, htakes.values, ih, Opt.valuesGiven]
      -- A value that stands next to the name is taken off with the next argument.
      simp only [htakes.next?_iff hvalued, List.append_assoc, List.head?_cons, Option.toList_some]

end Command

end SchemaFragments.CommandLine
