/-! # Lists computed on demand

A `LazyList` computes its elements one after the other, each only when it is asked for.  What the
list holds is said by `LazyList.toList`: for every operation there is a lemma that says which
operation on lists it is. -/

namespace SchemaFragments.Regex

/-- A list whose tail is computed on demand. -/
inductive LazyList (α : Type) where
  | nil
  | cons (head : α) (tail : Unit → LazyList α)

namespace LazyList

variable {α β : Type}

/-- All elements. -/
def toList : LazyList α → List α
  | nil => []
  | cons a tail => a :: (tail ()).toList

@[simp] theorem toList_nil : (nil : LazyList α).toList = [] := rfl

@[simp] theorem toList_cons (a : α) (tail : Unit → LazyList α) :
    (cons a tail).toList = a :: (tail ()).toList := rfl

/-- The list of one element. -/
def single (a : α) : LazyList α := cons a fun _ => nil

@[simp] theorem toList_single (a : α) : (single a).toList = [a] := rfl

/-- The first element. -/
def head? : LazyList α → Option α
  | nil => none
  | cons a _ => some a

@[simp] theorem head?_toList (l : LazyList α) : l.toList.head? = l.head? := by cases l <;> rfl

/-- The elements of a list. -/
def ofList : List α → LazyList α
  | [] => nil
  | a :: as => cons a fun _ => ofList as

@[simp] theorem toList_ofList (as : List α) : (ofList as).toList = as := by
  induction as with
  | nil => rfl
  | cons a as ih => simp [ofList, ih]

/-- The elements of one list, then those of another one. -/
def append : LazyList α → (Unit → LazyList α) → LazyList α
  | nil, more => more ()
  | cons a tail, more => cons a fun _ => (tail ()).append more

@[simp] theorem toList_append (l : LazyList α) (more : Unit → LazyList α) :
    (l.append more).toList = l.toList ++ (more ()).toList := by
  induction l with
  | nil => rfl
  | cons a tail ih => simp [append, ih]

/-- What `f` makes of the elements. -/
def map (f : α → β) : LazyList α → LazyList β
  | nil => nil
  | cons a tail => cons (f a) fun _ => (tail ()).map f

@[simp] theorem toList_map (f : α → β) (l : LazyList α) : (l.map f).toList = l.toList.map f := by
  induction l with
  | nil => rfl
  | cons a tail ih => simp [map, ih]

/-- What `f` makes of those elements of which it makes something. -/
def filterMap (f : α → Option β) : LazyList α → LazyList β
  | nil => nil
  | cons a tail =>
    match f a with
    | some b => cons b fun _ => (tail ()).filterMap f
    | none => (tail ()).filterMap f

@[simp] theorem toList_filterMap (f : α → Option β) (l : LazyList α) :
    (l.filterMap f).toList = l.toList.filterMap f := by
  induction l with
  | nil => rfl
  | cons a tail ih => cases h : f a <;> simp [filterMap, h, ih]

/-- The elements of the lists that `f` makes of the elements. -/
def flatMap (f : α → LazyList β) : LazyList α → LazyList β
  | nil => nil
  | cons a tail =>
    match f a with
    | nil => (tail ()).flatMap f
    | cons b more => cons b fun _ => (more ()).append fun _ => (tail ()).flatMap f

@[simp] theorem toList_flatMap (f : α → LazyList β) (l : LazyList α) :
    (l.flatMap f).toList = l.toList.flatMap fun a => (f a).toList := by
  induction l with
  | nil => rfl
  | cons a tail ih => cases h : f a <;> simp [flatMap, h, ih]

/-- The elements but for the first `n`. -/
def drop : Nat → LazyList α → LazyList α
  | 0, l => l
  | _ + 1, nil => nil
  | n + 1, cons _ tail => (tail ()).drop n

@[simp] theorem toList_drop (n : Nat) (l : LazyList α) : (l.drop n).toList = l.toList.drop n := by
  induction l generalizing n with
  | nil => cases n <;> rfl
  | cons a tail ih => cases n <;> simp [drop, ih]

/-- The elements from the last to the first, and then those of `as`. -/
def reverseOnto (as : List α) : LazyList α → List α
  | nil => as
  | cons a tail => (tail ()).reverseOnto (a :: as)

theorem reverseOnto_eq (as : List α) (l : LazyList α) :
    l.reverseOnto as = l.toList.reverse ++ as := by
  induction l generalizing as with
  | nil => rfl
  | cons a tail ih => simp [reverseOnto, ih]

/-- The elements from the last to the first. -/
def reverse (l : LazyList α) : LazyList α := ofList (l.reverseOnto [])

@[simp] theorem toList_reverse (l : LazyList α) : l.reverse.toList = l.toList.reverse := by
  simp [reverse, reverseOnto_eq]

end LazyList

end SchemaFragments.Regex
