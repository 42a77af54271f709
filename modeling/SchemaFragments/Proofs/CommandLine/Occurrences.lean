import Mathlib.Data.List.Basic
import SchemaFragments.CommandLine.Reading
import SchemaFragments.Proofs.Extraction.Standard

/-! # The options on a command line

A command line is a list of options, each with its value if it takes one; `occurrences?` takes them off
the arguments without looking at what they mean.  To read the arguments of a command is to take off the
options and to record them one after the other (`result?_eq`), although a value is recorded only when the
next argument has been looked at. -/

namespace SchemaFragments.CommandLine

/-! ### Arguments -/

/-- The forms of an argument. -/
inductive Argument where
  | hyphens
  | long (name : Text) (value? : Option Text)
  | letters (text : Text)
  | word
  deriving DecidableEq, Repr

/-- The form of an argument. -/
def Argument.of : Text → Argument
  | ['-', '-'] => .hyphens
  | '-' :: '-' :: t => .long (Command.splitLong t).1 (Command.splitLong t).2
  | '-' :: letter :: rest => .letters (letter :: rest)
  | _ => .word

theorem Argument.letters_ne_nil {a text : Text} (h : Argument.of a = .letters text) : text ≠ [] := by
  unfold Argument.of at h
  split at h <;> cases h
  exact List.cons_ne_nil _ _

/-- Does the option take a value? -/
def Opt.isValued (o : Opt) : Bool := o.valueName?.isSome

/-- Does the option take no value, and does the reading go on behind it? -/
def Opt.isFlag (o : Opt) : Bool := !o.isValued && o ≠ .help && o ≠ .version

/-- An option as it is given: with its value, if it takes one. -/
abbrev Occurrence := Opt × Option Text

namespace Command

/-- The flags of some letters behind one hyphen. -/
def flags? (c : Command) : Text → Option (List Occurrence)
  | [] => some []
  | letter :: letters =>
    match c.ofLetter? letter with
    | none => none
    | some o => if o.isFlag then (c.flags? letters).map ((o, none) :: ·) else none

/-- The options that one argument gives, and the option whose value has to come behind it; `missing?` is
the option whose value has to be this argument. -/
def step? (c : Command) (missing? : Option Opt) (a : Text) : Option (List Occurrence × Option Opt) :=
  match missing?, Argument.of a with
  | some o, .word => some ([(o, some a)], none)
  | none, .letters text => (c.flags? text).map (·, none)
  | none, .long name value? =>
    (c.ofLong? name).bind fun o =>
      match value? with
      | some value => if o.isValued then some ([(o, some value)], none) else none
      | none =>
        if o.isValued then some ([], some o)
        else if o.isFlag then some ([(o, none)], none)
        else none
  | _, _ => none

/-- The options that some arguments give.  Two hyphens may stand at the end. -/
def occurrences? (c : Command) (missing? : Option Opt) : List Text → Option (List Occurrence)
  | [] => if missing?.isNone then some [] else none
  | a :: rest =>
    if missing? = none ∧ Argument.of a = .hyphens then if rest = [] then some [] else none
    else (c.step? missing? a).bind fun r => (c.occurrences? r.2 rest).map (r.1 ++ ·)

theorem occurrences?_cons (c : Command) {missing? : Option Opt} {a : Text}
    (h : missing?.isSome ∨ Argument.of a ≠ .hyphens) (rest : List Text) :
    c.occurrences? missing? (a :: rest) =
      (c.step? missing? a).bind fun r => (c.occurrences? r.2 rest).map (r.1 ++ ·) := by
  rw [occurrences?, if_neg]
  rintro ⟨rfl, ha⟩
  rcases h with h | h
  · cases h
  · exact h ha

end Command

/-! ### Recording -/

/-- What is given when an option is recorded, unless there is a problem. -/
def add? (gs : List Given) (o : Occurrence) : Option (List Given) :=
  match ({ given := gs } : Scan).record o.1 o.2 with
  | (s, none) => some s.given
  | (_, some _) => none

/-- The options of some records. -/
def opts (gs : List Given) : List Opt := gs.map (·.opt)

theorem add?_eq (gs : List Given) (o : Opt) (value? : Option Text) :
    add? gs (o, value?) =
      if o.isList then
        if o ∈ opts gs then
          some (gs.map fun g =>
            if g.opt = o then ⟨o, g.values ++ value?.elim [] (Text.splitOn ',')⟩ else g)
        else some (gs ++ [⟨o, value?.elim [] (Text.splitOn ',')⟩])
      else if o ∈ opts gs ∨ (value?.bind (Scan.valueProblem? o)).isSome then none
      else some (gs ++ [⟨o, value?.toList⟩]) := by
  unfold add? Scan.record Scan.opts opts
  by_cases hlist : o.isList
  · simp only [hlist, if_true]
    split_ifs <;> rfl
  · simp only [hlist, if_false, Bool.false_eq_true]
    by_cases hgiven : o ∈ gs.map (·.opt)
    · simp only [hgiven, if_true, true_or]
    · simp only [hgiven, if_false, false_or]
      cases value?.bind (Scan.valueProblem? o) <;> rfl

/-- What is given when some options are recorded one after the other. -/
def addAll? (gs : List Given) (os : List Occurrence) : Option (List Given) := os.foldlM add? gs

theorem addAll?_cons (gs : List Given) (o : Occurrence) (os : List Occurrence) :
    addAll? gs (o :: os) = (add? gs o).bind (addAll? · os) := rfl

theorem addAll?_singleton (gs : List Given) (o : Occurrence) : addAll? gs [o] = add? gs o := by
  rw [addAll?_cons]
  exact Option.bind_fun_some (add? gs o)

theorem addAll?_append (gs : List Given) (os os' : List Occurrence) :
    addAll? gs (os ++ os') = (addAll? gs os).bind (addAll? · os') := List.foldlM_append

variable {c : Command} {s : Scan} {a : Text} {o : Opt} {rest : List Text}

/-- Recording changes nothing but what is given, and depends on nothing else. -/
theorem record_eq (s : Scan) (o : Opt) (value? : Option Text) :
    s.record o value? =
      ({ s with given := (({ given := s.given } : Scan).record o value?).1.given },
        (({ given := s.given } : Scan).record o value?).2) := by
  unfold Scan.record Scan.opts
  split_ifs <;> rfl

theorem proceed_record (c : Command) (s : Scan) (o : Opt) (value? : Option Text) :
    (c.proceed (s.record o value?)).toOption =
      (add? s.given (o, value?)).map fun gs => { s with given := gs } := by
  rw [record_eq]
  unfold Command.proceed add?
  rcases ({ given := s.given } : Scan).record o value? with ⟨s', _ | p⟩ <;> rfl

namespace Scan

/-- The option whose value has to come next. -/
def missing? (s : Scan) : Option Opt :=
  match s.due? with
  | some (o, none) => some o
  | _ => none

/-- What is given, with the value that has been seen last. -/
def kept? (s : Scan) : Option (List Given) :=
  match s.due? with
  | some (o, some value) => add? s.given (o, some value)
  | _ => some s.given

/-- What is given if the command line ends here. -/
def settled? (s : Scan) : Option (List Given) := if s.missing?.isNone then s.kept? else none

theorem settled?_of_missing (h : s.missing? = some o) : s.settled? = none := by
  rw [settled?, h]
  rfl

theorem settled?_of_not_missing (h : s.missing? = none) : s.settled? = s.kept? := by
  rw [settled?, h]
  rfl

theorem due?_of_missing (h : s.missing? = some o) : s.due? = some (o, none) := by
  unfold missing? at h
  split at h
  · next hdue => rw [hdue, Option.some.inj h]
  · cases h

end Scan

namespace Command

/-! ### Single arguments -/

theorem proceed_settle (c : Command) (s : Scan) :
    (c.proceed s.settle).toOption = s.settled?.map fun gs => { s with due? := none, given := gs } := by
  obtain ⟨given, due?, anyOption, wordsOnly⟩ := s
  rcases due? with _ | ⟨o, _ | value⟩
  · rfl
  · rfl
  · exact proceed_record c ⟨given, none, anyOption, wordsOnly⟩ o (some value)

/-- What goes on when everything that is due has been recorded, and fails otherwise. -/
theorem toOption_of_settle (c : Command) (s : Scan) {x : Advance} (f : Scan → Advance)
    (hfails : ∀ e, c.proceed s.settle = .error e → x = .error e)
    (hgoesOn : ∀ s', c.proceed s.settle = .ok s' → x = f s') :
    x.toOption = s.settled?.bind fun gs => (f { s with due? := none, given := gs }).toOption := by
  have hsettle := proceed_settle c s
  cases hp : c.proceed s.settle with
  | error e =>
      rw [hp] at hsettle
      rw [hfails e hp, Option.map_eq_none_iff.mp hsettle.symm]
      rfl
  | ok s' =>
      rw [hp] at hsettle
      obtain ⟨gs, hgs, rfl⟩ := Option.map_eq_some_iff.mp hsettle.symm
      rw [hgoesOn _ hp, hgs]
      rfl

/-- What a flag does when everything before it has been recorded. -/
def flagged (c : Command) (o : Opt) (s : Scan) : Advance :=
  match o with
  | .help => .error (.showHelp (.command c))
  | .version => .error .showVersion
  | o => c.proceed (s.record o none)

theorem toOption_flagged (c : Command) (s : Scan) (hvalue : o.isValued = false) :
    (c.flagged o s).toOption =
      if o.isFlag then (add? s.given (o, none)).map fun gs => { s with given := gs } else none := by
  cases o with
  | verbose => exact proceed_record c s .verbose none
  | quiet => exact proceed_record c s .quiet none
  | help => rfl
  | version => rfl
  | _ => cases hvalue

/-- A flag settles what is due and is recorded. -/
theorem takeFlag_eq (c : Command) (s : Scan) (hvalue : o.isValued = false) :
    (c.takeFlag s o).toOption = s.settled?.bind fun gs =>
      if o.isFlag then (add? gs (o, none)).map fun gs => { s with due? := none, given := gs }
      else none := by
  rw [toOption_of_settle c s (c.flagged o) (fun e h => by unfold takeFlag; rw [h])
    (fun s' h => by unfold takeFlag; rw [h]; rfl)]
  simp only [toOption_flagged c _ hvalue]

theorem isValued_of_ofLetter? {letter : Char} (h : c.ofLetter? letter = some o) :
    o.isValued = false := by
  have hletter := List.find?_some h
  cases o <;> first | rfl | cases hletter

theorem flags?_cons (c : Command) (letter : Char) (text : Text) :
    c.flags? (letter :: text) = (c.ofLetter? letter).bind fun o =>
      if o.isFlag then (c.flags? text).map ((o, none) :: ·) else none := by
  rw [flags?]
  cases c.ofLetter? letter <;> rfl

theorem takeLetters_cons (c : Command) (s : Scan) (letter : Char) (text : Text) :
    (c.takeLetters s (letter :: text)).toOption = (c.ofLetter? letter).bind fun o =>
      (c.takeFlag { s with anyOption := true } o).toOption.bind fun s =>
        (c.takeLetters s text).toOption := by
  rw [takeLetters]
  cases c.ofLetter? letter with
  | none => rfl
  | some o =>
      simp only [Option.bind_some]
      cases c.takeFlag { s with anyOption := true } o <;> rfl

/-- The letters behind the first, which has settled what was due. -/
theorem takeLetters_of_settled (c : Command) (gs : List Given) (wordsOnly : Bool) (text : Text) :
    (c.takeLetters ⟨gs, none, true, wordsOnly⟩ text).toOption = (c.flags? text).bind fun fs =>
      (addAll? gs fs).map fun gs => ⟨gs, none, true, wordsOnly⟩ := by
  induction text generalizing gs with
  | nil => rfl
  | cons letter text ih =>
      rw [takeLetters_cons, flags?_cons]
      cases ho : c.ofLetter? letter with
      | none => rfl
      | some o =>
          have hsettled : (⟨gs, none, true, wordsOnly⟩ : Scan).settled? = some gs := rfl
          rw [Option.bind_some, Option.bind_some, takeFlag_eq c _ (isValued_of_ofLetter? ho), hsettled,
            Option.bind_some]
          split_ifs
          · cases hgs : add? gs (o, none) with
            | none => cases c.flags? text <;> simp [addAll?_cons, hgs]
            | some gs' =>
                rw [Option.map_some, Option.bind_some, ih gs']
                cases c.flags? text <;> simp [addAll?_cons, hgs]
          · rfl

/-- Letters are flags one after the other. -/
theorem takeLetters_eq (c : Command) (s : Scan) {text : Text} (h : text ≠ []) :
    (c.takeLetters s text).toOption = s.settled?.bind fun gs => (c.flags? text).bind fun fs =>
      (addAll? gs fs).map fun gs => { s with due? := none, given := gs, anyOption := true } := by
  have hsettled : ({ s with anyOption := true } : Scan).settled? = s.settled? := rfl
  obtain ⟨letter, text, rfl⟩ := List.exists_cons_of_ne_nil h
  rw [takeLetters_cons]
  simp only [flags?_cons]
  cases ho : c.ofLetter? letter with
  | none => cases s.settled? <;> rfl
  | some o =>
      rw [Option.bind_some, takeFlag_eq c _ (isValued_of_ofLetter? ho), hsettled]
      cases s.settled? with
      | none => rfl
      | some gs =>
          have hfirst := takeLetters_of_settled c gs s.wordsOnly (letter :: text)
          rw [takeLetters_cons, flags?_cons, ho, Option.bind_some, Option.bind_some,
            takeFlag_eq c _ (isValued_of_ofLetter? ho)] at hfirst
          exact hfirst

/-- A long option settles what is due; it is recorded with its value, or the value has to come next. -/
theorem takeLong_eq (c : Command) (s : Scan) (name : Text) (value? : Option Text) :
    (c.takeLong s name value?).toOption = s.settled?.bind fun gs => (c.ofLong? name).bind fun o =>
      match value? with
      | some value =>
        if o.isValued then
          (add? gs (o, some value)).map fun gs => { s with due? := none, given := gs, anyOption := true }
        else none
      | none =>
        if o.isValued then some { s with due? := some (o, none), given := gs, anyOption := true }
        else if o.isFlag then
          (add? gs (o, none)).map fun gs => { s with due? := none, given := gs, anyOption := true }
        else none := by
  have hsettled : ({ s with anyOption := true } : Scan).settled? = s.settled? := rfl
  cases ho : c.ofLong? name with
  | none =>
      unfold takeLong
      rw [ho]
      cases s.settled? <;> rfl
  | some o =>
      simp only [Option.bind_some]
      cases hvalue : o.valueName? with
      | none =>
          have hnot : o.isValued = false := by rw [Opt.isValued, hvalue, Option.isSome_none]
          cases value? with
          | none =>
              have hflag : c.takeLong s name none = c.takeFlag { s with anyOption := true } o := by
                unfold takeLong
                simp only [ho, hvalue]
              rw [hflag, takeFlag_eq c _ hnot, hsettled]
              simp only [hnot, Bool.false_eq_true, if_false]
          | some value =>
              unfold takeLong
              simp only [ho, hvalue, hnot, Bool.false_eq_true, if_false]
              cases s.settled? <;> rfl
      | some valueName =>
          have hvalued : o.isValued = true := by rw [Opt.isValued, hvalue, Option.isSome_some]
          simp only [hvalued, if_true]
          cases value? with
          | none =>
              rw [toOption_of_settle c { s with anyOption := true }
                (fun s => .ok { s with due? := some (o, none) })
                (fun e h => by unfold takeLong; simp only [ho, hvalue, h])
                (fun s' h => by unfold takeLong; simp only [ho, hvalue, h]), hsettled]
              rfl
          | some value =>
              rw [toOption_of_settle c { s with anyOption := true }
                (fun s => c.proceed (s.record o (some value)))
                (fun e h => by unfold takeLong; simp only [ho, hvalue, h])
                (fun s' h => by unfold takeLong; simp only [ho, hvalue, h]), hsettled]
              simp only [proceed_record]

theorem take_eq (c : Command) (hwords : s.wordsOnly = false) (a : Text) :
    c.take s a =
      match Argument.of a with
      | .hyphens => .ok { s with wordsOnly := true }
      | .long name value? => c.takeLong s name value?
      | .letters text => c.takeLetters s text
      | .word =>
        match s.due? with
        | some (o, none) => .ok { s with due? := some (o, some a) }
        | _ => .error (.refuse c (c.wordProblem s a)) := by
  unfold take Argument.of
  rw [hwords, if_neg Bool.false_ne_true]
  split
  · rfl
  · simp only
  · simp only
  · obtain _ | ⟨o, _ | value⟩ := s.due? <;> simp only

/-! ### All arguments -/

/-- What is given when all arguments of a command have been read and what is due has been recorded. -/
def result? (c : Command) (s : Scan) (args : List Text) : Option (List Given) :=
  ((c.takeAll s args).toOption.bind fun s => (c.proceed s.settle).toOption).map (·.given)

theorem result?_nil (c : Command) (s : Scan) : c.result? s [] = s.settled? := by
  have hend : c.result? s [] = (c.proceed s.settle).toOption.map (·.given) := rfl
  rw [hend, proceed_settle, Option.map_map]
  exact Option.map_id'

theorem result?_cons (c : Command) (s : Scan) (a : Text) (rest : List Text) :
    c.result? s (a :: rest) = (c.take s a).toOption.bind (c.result? · rest) := by
  unfold result?
  rw [takeAll]
  cases c.take s a <;> rfl

/-- Behind two hyphens nothing may come. -/
theorem result?_wordsOnly (c : Command) (hwords : s.wordsOnly = true) (rest : List Text) :
    c.result? s rest = if rest = [] then s.settled? else none := by
  cases rest with
  | nil => exact result?_nil c s
  | cons a rest =>
      have htake : c.take s a = .error (.refuse c (c.wordProblem s a)) := by
        unfold take
        rw [hwords, if_pos rfl]
      rw [result?_cons, htake, if_neg (List.cons_ne_nil a rest)]
      rfl

/-- Reading the arguments is to take off the options and to record them one after the other. -/
def Follows (c : Command) (s : Scan) (args : List Text) : Prop :=
  c.result? s args = s.kept?.bind fun gs => (c.occurrences? s.missing? args).bind (addAll? gs)

/-- Options that are recorded at once come before those of the arguments behind them. -/
theorem result?_recorded (h : ∀ s : Scan, s.wordsOnly = false → c.Follows s rest) (gs : List Given)
    (os : List Occurrence) {anyOption wordsOnly : Bool} (hwords : wordsOnly = false) :
    ((addAll? gs os).map (⟨·, none, anyOption, wordsOnly⟩)).bind (c.result? · rest) =
      ((c.occurrences? none rest).map (os ++ ·)).bind (addAll? gs) := by
  have hnext : ∀ gs', c.result? ⟨gs', none, anyOption, wordsOnly⟩ rest =
      (c.occurrences? none rest).bind (addAll? gs') :=
    fun gs' => h ⟨gs', none, anyOption, wordsOnly⟩ hwords
  cases hos : addAll? gs os with
  | none => cases c.occurrences? none rest <;> simp [addAll?_append, hos]
  | some gs' =>
      rw [Option.map_some, Option.bind_some, hnext]
      cases c.occurrences? none rest <;> simp [addAll?_append, hos]

theorem follows_nil (c : Command) (s : Scan) : c.Follows s [] := by
  unfold Follows
  rw [result?_nil]
  unfold Scan.settled? occurrences?
  cases s.missing? <;> cases s.kept? <;> rfl

/-- A value that is missing has to come next. -/
theorem follows_cons_of_missing (h : ∀ s : Scan, s.wordsOnly = false → c.Follows s rest)
    (hwords : s.wordsOnly = false) (hmissing : s.missing? = some o) (a : Text) :
    c.Follows s (a :: rest) := by
  unfold Follows
  have hdue := Scan.due?_of_missing hmissing
  have hkept : s.kept? = some s.given := by rw [Scan.kept?, hdue]
  have hsettled := Scan.settled?_of_missing hmissing
  rw [result?_cons, take_eq c hwords, hmissing, hkept, Option.bind_some, c.occurrences?_cons (.inl rfl)]
  unfold step?
  cases ha : Argument.of a with
  | word =>
      -- The loop keeps the value until the next argument; it could as well be recorded now.
      have hnext : c.result? { s with due? := some (o, some a) } rest =
          (add? s.given (o, some a)).bind fun gs => (c.occurrences? none rest).bind (addAll? gs) :=
        h { s with due? := some (o, some a) } hwords
      simp only [hdue, Except.toOption, Option.bind_some, hnext]
      cases c.occurrences? none rest with
      | none => cases add? s.given (o, some a) <;> rfl
      | some os => rfl
  | hyphens =>
      have hrest : c.result? { s with wordsOnly := true } rest =
          if rest = [] then s.settled? else none := result?_wordsOnly c rfl rest
      -- Two hyphens are taken even here, but then the value is missing for good.
      simp only [Except.toOption, Option.bind_some, hrest, hsettled, ite_self]
      rfl
  | letters text =>
      rw [takeLetters_eq c s (Argument.letters_ne_nil ha), hsettled]
      rfl
  | long name value? =>
      rw [takeLong_eq, hsettled]
      rfl

theorem follows_cons_of_not_missing (h : ∀ s : Scan, s.wordsOnly = false → c.Follows s rest)
    (hwords : s.wordsOnly = false) (hmissing : s.missing? = none) (a : Text) :
    c.Follows s (a :: rest) := by
  unfold Follows
  have hsettled := Scan.settled?_of_not_missing hmissing
  rw [result?_cons, hmissing]
  cases ha : Argument.of a with
  | word =>
      have hnone : (c.take s a).toOption = none := by
        rw [take_eq c hwords, ha]
        unfold Scan.missing? at hmissing
        rcases hdue : s.due? with _ | ⟨o, _ | value⟩
        · rfl
        · rw [hdue] at hmissing
          cases hmissing
        · rfl
      rw [hnone, c.occurrences?_cons (.inr (by rw [ha]; exact nofun))]
      unfold step?
      rw [ha]
      cases s.kept? <;> rfl
  | hyphens =>
      have hrest : c.result? { s with wordsOnly := true } rest =
          if rest = [] then s.settled? else none := result?_wordsOnly c rfl rest
      rw [take_eq c hwords, ha, occurrences?, if_pos ⟨rfl, ha⟩]
      simp only [Except.toOption, Option.bind_some, hrest, hsettled]
      cases s.kept? <;> split_ifs <;> rfl
  | letters text =>
      rw [take_eq c hwords, ha, c.occurrences?_cons (.inr (by rw [ha]; exact nofun))]
      unfold step?
      simp only [ha, takeLetters_eq c s (Argument.letters_ne_nil ha), hsettled, Option.bind_assoc]
      cases s.kept? with
      | none => rfl
      | some gs =>
          simp only [Option.bind_some]
          cases c.flags? text with
          | none => rfl
          | some fs => exact result?_recorded h gs fs hwords
  | long name value? =>
      rw [take_eq c hwords, ha, c.occurrences?_cons (.inr (by rw [ha]; exact nofun))]
      unfold step?
      simp only [ha, takeLong_eq, hsettled, Option.bind_assoc]
      cases s.kept? with
      | none => rfl
      | some gs =>
          simp only [Option.bind_some]
          cases c.ofLong? name with
          | none => rfl
          | some o =>
              simp only [Option.bind_some]
              cases value? with
              | some value =>
                  simp only
                  split_ifs
                  · rw [← addAll?_singleton]
                    exact result?_recorded h gs [(o, some value)] hwords
                  · rfl
              | none =>
                  simp only
                  split_ifs
                  · have hnext : c.result? ⟨gs, some (o, none), true, s.wordsOnly⟩ rest =
                        (c.occurrences? (some o) rest).bind (addAll? gs) :=
                      h ⟨gs, some (o, none), true, s.wordsOnly⟩ hwords
                    rw [Option.bind_some, Option.bind_some, hnext]
                    cases c.occurrences? (some o) rest <;> rfl
                  · rw [← addAll?_singleton]
                    exact result?_recorded h gs [(o, none)] hwords
                  · rfl

/-- To read arguments is to take off the options and to record them one after the other. -/
theorem result?_eq (c : Command) (hwords : s.wordsOnly = false) (args : List Text) :
    c.result? s args = s.kept?.bind fun gs => (c.occurrences? s.missing? args).bind (addAll? gs) := by
  change c.Follows s args
  -- On the arguments, from any state: what is due was left by the arguments before.
  induction args generalizing s with
  | nil => exact follows_nil c s
  | cons a rest ih =>
      cases hmissing : s.missing? with
      | none => exact follows_cons_of_not_missing (fun _ => ih) hwords hmissing a
      | some o => exact follows_cons_of_missing (fun _ => ih) hwords hmissing a

theorem result?_eq_some_iff {args : List Text} {gs : List Given} :
    c.result? s args = some gs ↔
      ∃ s₁ s₂, c.takeAll s args = .ok s₁ ∧ c.proceed s₁.settle = .ok s₂ ∧ s₂.given = gs := by
  unfold result?
  constructor
  · intro h
    obtain ⟨s₂, hs₂, rfl⟩ := Option.map_eq_some_iff.mp h
    obtain ⟨s₁, hs₁, hs₂⟩ := Option.bind_eq_some_iff.mp hs₂
    exact ⟨s₁, s₂, ok_of_toOption hs₁, ok_of_toOption hs₂, rfl⟩
  · rintro ⟨s₁, s₂, hs₁, hs₂, rfl⟩
    rw [hs₁]
    simp only [Except.toOption, Option.bind_some, hs₂, Option.map_some]

/-- The arguments of a command are accepted if they are options, these can be recorded, and none of them
excludes another. -/
theorem accepted_iff {args : List Text} {a : Arguments} :
    (∃ s, c.takeAll {} args = .ok s ∧ (s.finish c).map (Arguments.ofScan c) = .ok a) ↔
      ∃ os gs, c.occurrences? none args = some os ∧ addAll? [] os = some gs ∧
        ({ given := gs } : Scan).conflict? = none ∧ a = .ofScan c { given := gs } := by
  have hresult : c.result? {} args = (c.occurrences? none args).bind (addAll? []) :=
    result?_eq c rfl args
  constructor
  · rintro ⟨s, hs, ha⟩
    unfold Scan.finish at ha
    cases hp : c.proceed s.settle with
    | error e => rw [hp] at ha; cases ha
    | ok s₂ =>
        rw [hp] at ha
        cases hc : s₂.conflict? with
        | some o => simp [hc, Except.map] at ha
        | none =>
            simp only [hc, Except.map, Except.ok.injEq] at ha
            have hgs := result?_eq_some_iff.mpr ⟨s, s₂, hs, hp, rfl⟩
            obtain ⟨os, hos, hadd⟩ := Option.bind_eq_some_iff.mp (hresult.symm.trans hgs)
            exact ⟨os, s₂.given, hos, hadd, hc, ha.symm⟩
  · rintro ⟨os, gs, hos, hadd, hc, rfl⟩
    have hgs : c.result? {} args = some gs := by rw [hresult, hos, Option.bind_some, hadd]
    obtain ⟨s, s₂, hs, hp, rfl⟩ := result?_eq_some_iff.mp hgs
    have hconflict : s₂.conflict? = none := hc
    refine ⟨s, hs, ?_⟩
    unfold Scan.finish
    simp only [hp, hconflict]
    rfl

end Command

end SchemaFragments.CommandLine
