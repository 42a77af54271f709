import SchemaFragments.Files.Path
import Std.Data.ExtTreeMap.Lemmas

/-! # File trees

A file tree says what lies at each location below a working folder.  A location is the list of
names that lead to it, so equal trees are equal values.  Each file operation finds its location by
following the names of a path through the folders, and either fails for a `FileFault` or gives the
tree that it leaves behind.

`FileTree.makeFolders` and `FileTree.write` may fail half-way and give the tree in any case.  Folders
are made one after the other, and a file that is written is opened first, which makes it or takes away
what it held; how far the writing comes then is up to a `Medium`. -/

namespace SchemaFragments

/-- Why a file operation fails. -/
inductive FileFault where
  | notFound
  | alreadyExists
  | notAFolder
  | isAFolder
  | nameTooLong
  | invalidText
  | nullInName
  /-- Any other error of an operating system.  Only a medium meets one, never a file tree. -/
  | system (code : Nat) (text : Text)
  deriving DecidableEq, Repr

/-- The message of the operating system. -/
def FileFault.message : FileFault → Text
  | notFound => "No such file or directory (os error 2)"
  | alreadyExists => "File exists (os error 17)"
  | notAFolder => "Not a directory (os error 20)"
  | isAFolder => "Is a directory (os error 21)"
  | nameTooLong => "File name too long (os error 36)"
  | invalidText => "stream did not contain valid UTF-8"
  | nullInName => "file name contained an unexpected NUL byte"
  | system code text => text ++ " (os error " ++ Text.ofNat code ++ ")"

/-- What a file holds: a text, or bytes that are not the UTF-8 form of one. -/
inductive Content where
  | text (t : Text)
  | bytes (b : List UInt8)
  deriving DecidableEq, Repr

/-- The content that some bytes are. -/
def Content.ofBytes (b : ByteArray) : Content :=
  match String.fromUTF8? b with
  | some s => .text s.toList
  | none => .bytes b.toList

/-- The bytes of a content. -/
def Content.toBytes : Content → ByteArray
  | text t => (String.ofList t).toUTF8
  | bytes b => ⟨b.toArray⟩

/-- The content that the first `n` bytes of a content are. -/
def Content.front (c : Content) (n : Nat) : Content := .ofBytes (c.toBytes.extract 0 n)

/-- What lies at a location. -/
inductive Entry where
  | folder
  | file (content : Content)
  deriving DecidableEq, Repr

/-- The names that lead from the working folder to a place in the tree. -/
abbrev Location := List Text

/-- What lies at each location below the working folder.  A tree has no links, no access rights and no
limit to its room: what a path leads to can be read, made, written and removed.  Only a `Medium` may
stop the writing of a file. -/
structure FileTree where
  entries : Std.ExtTreeMap Location Entry

/-- How far the writing of a file comes: to the end of the content; not even to the opening of the file;
or, once the file is open and empty, through so many bytes, with a fault at the next one. -/
inductive Writing where
  | whole
  | unopened (fault : FileFault)
  | cutShort (bytes : Nat) (fault : FileFault)
  deriving DecidableEq, Repr

/-- What a tree is kept on.  It decides how far the writing of a content to a location comes. -/
structure Medium where
  writing : FileTree → Location → Content → Writing

/-- A medium that takes whatever is written. -/
def Medium.boundless : Medium := ⟨fun _ _ _ => .whole⟩

namespace FileTree

/-- The empty working folder. -/
def empty : FileTree := ⟨∅⟩

/-- What lies at a location; the working folder itself is a folder. -/
def entry? (t : FileTree) (l : Location) : Option Entry :=
  if l = [] then some .folder else t.entries[l]?

/-- Everything in the tree, in the order of the locations. -/
def toList (t : FileTree) : List (Location × Entry) := t.entries.toList

/-- Puts an entry at a location. -/
def set (t : FileTree) (l : Location) (e : Entry) : FileTree := ⟨t.entries.insert l e⟩

/-- Takes away the entry at a location. -/
def clear (t : FileTree) (l : Location) : FileTree := ⟨t.entries.erase l⟩

/-! ### Following a path -/

/-- The place of a name in a folder; two dots lead to the folder above. -/
def step (here : Location) (name : Text) : Except FileFault Location :=
  if name = ['.', '.'] then .ok here.dropLast
  else if Path.nameLimit < Path.byteLength name then .error .nameTooLong
  else .ok (here ++ [name])

/-- Goes from a folder into the folder of a name. -/
def enter (t : FileTree) (here : Location) (name : Text) : Except FileFault Location :=
  match step here name with
  | .error e => .error e
  | .ok l =>
    match t.entry? l with
    | some .folder => .ok l
    | some (.file _) => .error .notAFolder
    | none => .error .notFound

/-- The location that names lead to.  All but the last have to be folders. -/
def follow (t : FileTree) (here : Location) : List Text → Except FileFault Location
  | [] => .ok here
  | [name] => step here name
  | name :: rest =>
    match t.enter here name with
    | .error e => .error e
    | .ok l => t.follow l rest

/-- The location of a path. -/
def locate (t : FileTree) (p : Path) : Except FileFault Location :=
  if '\x00' ∈ p then .error .nullInName
  else if Path.lengthLimit ≤ Path.byteLength p then .error .nameTooLong
  else if p = [] then .error .notFound
  else t.follow [] (Path.names p)

/-! ### File operations -/

/-- The text of a file. -/
def read (t : FileTree) (p : Path) : Except FileFault Text :=
  match t.locate p with
  | .error e => .error e
  | .ok l =>
    match t.entry? l with
    | none => .error .notFound
    | some .folder => .error .isAFolder
    | some (.file c) =>
      if Path.endsAsFolder p then .error .notAFolder
      else
        match c with
        | .text s => .ok s
        | .bytes _ => .error .invalidText

/-- Writes a file, over the one that is there if there is one.  If the writing is cut short before the end
of the content, the file is left with the bytes that were written until then. -/
def write (t : FileTree) (p : Path) (c : Content) (m : Medium := .boundless) :
    FileTree × Except FileFault Unit :=
  match t.locate p with
  | .error e => (t, .error e)
  | .ok l =>
    if t.entry? l = some .folder ∨ Path.endsAsFolder p then (t, .error .isAFolder)
    else
      match m.writing t l c with
      | .whole => (t.set l (.file c), .ok ())
      | .unopened e => (t, .error e)
      | .cutShort n e =>
        if n < c.toBytes.size then (t.set l (.file (c.front n)), .error e)
        else (t.set l (.file c), .ok ())

/-- Removes a file. -/
def remove (t : FileTree) (p : Path) : Except FileFault FileTree :=
  match t.locate p with
  | .error e => .error e
  | .ok l =>
    match t.entry? l with
    | none => .error .notFound
    | some .folder => .error .isAFolder
    | some (.file _) => if Path.endsAsFolder p then .error .notAFolder else .ok (t.clear l)

/-- Makes the folder that names lead to.  The folder above has to be there. -/
def makeFolder (t : FileTree) (names : List Text) : Except FileFault FileTree :=
  match t.follow [] names with
  | .error e => .error e
  | .ok l => if (t.entry? l).isSome then .error .alreadyExists else .ok (t.set l .folder)

/-- Do the names lead to a folder? -/
def isFolderAt (t : FileTree) (names : List Text) : Bool :=
  match t.follow [] names with
  | .error _ => false
  | .ok l => t.entry? l = some .folder

/-- Makes the folders of the prefixes of a list of names, the shortest first, each once those above
are there.  A folder that is there already is left alone. -/
def makeFoldersFrom (t : FileTree) (above : List Text) :
    List Text → FileTree × Except FileFault Unit
  | [] => (t, .ok ())
  | name :: rest =>
    let names := above ++ [name]
    match t.makeFolder names with
    | .ok t' => t'.makeFoldersFrom names rest
    | .error e => if t.isFolderAt names then t.makeFoldersFrom names rest else (t, .error e)

/-- Makes a folder and all folders above it. -/
def makeFolders (t : FileTree) (p : Path) : FileTree × Except FileFault Unit :=
  if p = [] then (t, .ok ())
  else
    match t.locate p with
    | .error .notFound => t.makeFoldersFrom [] (Path.names p)
    | .error e => (t, .error e)
    | .ok l =>
      match t.entry? l with
      | some .folder => (t, .ok ())
      | some (.file _) => (t, .error .alreadyExists)
      | none => (t.set l .folder, .ok ())

/-- Removes a file, or a folder and everything in it. -/
def removeAll (t : FileTree) (p : Path) : Except FileFault FileTree :=
  match t.locate p with
  | .error e => .error e
  | .ok l =>
    match t.entry? l with
    | none => .error .notFound
    | some (.file _) => t.remove p
    | some .folder => .ok ⟨t.entries.filter fun l' _ => !l.isPrefixOf l'⟩

/-- Writes a file and makes the folders above it. -/
def place (t : FileTree) (p : Path) (c : Content) : Except FileFault FileTree :=
  match t.makeFolders (Path.parent p) with
  | (_, .error e) => .error e
  | (t', .ok ()) =>
    match t'.write p c with
    | (_, .error e) => .error e
    | (t'', .ok ()) => .ok t''

end FileTree

end SchemaFragments
