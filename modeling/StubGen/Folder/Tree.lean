/-
Folder trees: the folders and files of the system, and the roots that paths are given
below.

A tree is a folder: the names of its files, and its folders by name, each with what it
holds, kept in order of name.  The system stores a name as bytes (see `Text.Bytes`): two
texts with the same bytes name the same entry, and a name read back from the system is
the text its bytes read as.  A root is a folder of the system, given by its path from the
top; it is shown by a text (the scratch folder of a request is shown as `<tmp>`), and its
real path has a length in bytes, which counts towards the longest path the system accepts.
A path below a root is followed from the root, or from the top of the system when its
text starts with a slash.  Before a path is followed it must have bytes, hold no
character zero, and be short enough; each check reports the path as it was given.
-/
import StubGen.Fault
import StubGen.Text.Bytes

namespace StubGen.Folder

open Text (Point)

/-- A name of a folder entry as the system stores it: its bytes. -/
abbrev Name := List UInt8

/-- A relative path as given: its names, each a text, from the outside in. -/
abbrev Path := List (List Point)

/-- The text of a relative path: its names joined by slashes. -/
def Path.text (p : Path) : List Point := [Point.char '/'].intercalate p

/-- Whether a path is followed from the top of the system: its text starts with a slash. -/
def Path.isAbsolute (p : Path) : Bool := p.text.head? = some (.char '/')

/-- Joins a path to a folder text, as a path is written below a folder: an absolute path
stands alone, and a slash is put between the two unless the folder is empty or ends in one. -/
def joinText (folder name : List Point) : List Point :=
  if name.head? = some (.char '/') then name
  else if folder.isEmpty || folder.getLast? = some (.char '/') then folder ++ name
  else folder ++ Point.char '/' :: name

/-- The longest name of one folder entry, in bytes. -/
def nameLimit : Nat := 255

/-- The length in bytes from which a whole path is refused. -/
def pathLimit : Nat := 4096

/-- Orders stored names by their bytes. -/
def nameLe : Name → Name → Bool
  | [], _ => true
  | _ :: _, [] => false
  | a :: as, b :: bs => if a = b then nameLe as bs else a.toNat < b.toNat

/-- A folder: the names of its files, and its folders by name with what each holds. -/
inductive Tree where
  | node (files : List Name) (folders : List (Name × Tree))

namespace Tree

/-- The folder that holds nothing. -/
def empty : Tree := .node [] []

/-- The names of the files of a folder. -/
def files : Tree → List Name
  | .node fs _ => fs

/-- The folders of a folder, by name, in order of name. -/
def folders : Tree → List (Name × Tree)
  | .node _ ds => ds

/-- The folder of a given name inside a folder. -/
def child? (t : Tree) (name : Name) : Option Tree := t.folders.lookup name

/-- Whether a folder holds an entry, a file or a folder, of a given name. -/
def holdsName (t : Tree) (name : Name) : Bool := (t.child? name).isSome || t.files.contains name

/-- The folder that a path of stored names leads to through folders. -/
def at? : Tree → List Name → Option Tree
  | t, [] => some t
  | t, name :: rest =>
    match t.child? name with
    | some c => c.at? rest
    | none => none

/-- Changes the folder that the path leads to by `f`; a tree without it stays as it is. -/
def modify (f : Tree → Tree) : Tree → List Name → Tree
  | t, [] => f t
  | .node fs ds, name :: rest =>
    .node fs (ds.map fun (n, c) => if n = name then (n, c.modify f rest) else (n, c))

/-- The folder that a path of stored names leads to, or an empty one where there is none. -/
def folder (t : Tree) (p : List Name) : Tree := (t.at? p).getD empty

/-- Puts a named folder among folders in order of name, after those of a name not above it. -/
def insertFolder (name : Name) (d : Tree) : List (Name × Tree) → List (Name × Tree)
  | [] => [(name, d)]
  | (n, c) :: rest =>
    if nameLe n name then (n, c) :: insertFolder name d rest else (name, d) :: (n, c) :: rest

/-- Adds an empty folder `name` inside the folder `dir`. -/
def addFolder (t : Tree) (dir : List Name) (name : Name) : Tree :=
  t.modify (fun d => .node d.files (insertFolder name empty d.folders)) dir

/-- Adds a file `name` inside the folder `dir`. -/
def addFile (t : Tree) (dir : List Name) (name : Name) : Tree :=
  t.modify (fun d => .node (d.files ++ [name]) d.folders) dir

end Tree

/-- A root folder: the text it is shown by, the length in bytes of its real path, which
is ASCII, so that the length is also its number of characters, and its path from the top
of the system. -/
structure Root where
  shown : List Point
  size : Nat
  path : List Name

/-- How the path `names` below a root is shown. -/
def Root.show (r : Root) (names : Path) : List Point := joinText r.shown names.text

/-- The fault of a text that cannot be stored. -/
def unstorable (u : Text.Unstorable) : Fault := .unencodable u.unit u.first u.last

/-- The length in bytes of the real path that a path below a root is written after: the
root's, or none for a path from the top. -/
def Root.offset (r : Root) (names : Path) : Nat := if names.isAbsolute then 0 else r.size

/-- The checks made on a whole path below a root before it is followed, giving the stored
names: the path has bytes (the index of a surrogate that has none counts from the start
of the real path), it holds no character zero, and its real path is shorter than
`pathLimit` bytes. -/
def Root.check (r : Root) (names : Path) : Except Fault (List Name) := do
  let whole ← (Text.encode Text.escapesByte (r.offset names) names.text).mapError unstorable
  if names.any (·.contains (.char (Char.ofNat 0))) then throw .nullByte
  if pathLimit ≤ r.offset names + whole.length then throw (.nameTooLong (r.show names))
  names.mapM fun n => (Text.nameBytes n).mapError unstorable

end StubGen.Folder
