/-
The scan that plans a build from a folder of descriptions.

The scan walks the description folder from the top, each folder before its subfolders
and subfolders in order of name, and keeps every folder that directly holds description
files, files whose extension is `.yaml` after a stem that is not only dots.  It then
makes those folders again in the source folder: one that leads to an entry already is
left alone, and any other is made with all its missing parents; a folder that cannot be
made is reported and skipped, keeping what was made on the way.  Last it lists, per kept
folder, the source folder to write to and the description files to read.

A kept folder is filed in a table under a key made from the text of its path as the walk
gives it, the description folder's text joined with one name after another: every
occurrence of the description folder's text is cut out of it, the first one and any that
stands further on.  Two folders may so get one key; the table then keeps the one walked
last, in the place of the first.  The source folder and the full paths of the files are
made again from the key.

A walk goes down the tree by calls (see `CallDepth`): each folder is walked in a call of
its own, opened from the walk of the folder above, so a deep tree runs out of room.
-/
import StubGen.Folder.Make
import StubGen.Text.Split

namespace StubGen.Folder

open Text (Point lit)

/-- Whether a file name is that of a description: it ends in `.yaml` after a stem that
holds a character other than a dot. -/
def isDescription (name : List Point) : Bool :=
  let ext := lit ".yaml"
  ext.isSuffixOf name && (name.take (name.length - ext.length)).any (· != .char '.')

mutual
/-- Walks the folder `t` at the path `p`, in a call with `depth` calls open: the folder
first, then each subfolder in order of name with all below it.  Reading the entries of a
folder is a built-in call; stepping into a subfolder joins its name to the path, a call
that opens one more inside it, and walks the subfolder with one more call open. -/
def Tree.walk (depth : Nat) (p : List Name) : Tree → Except Fault (List (List Name × Tree))
  | .node fs ds => do
    CallDepth.call depth
    let below ← Tree.walkFolders depth p ds
    pure ((p, .node fs ds) :: below)

/-- Walks the subfolders `ds` of the folder at the path `p`, whose walk has `depth` calls
open, in turn. -/
def Tree.walkFolders (depth : Nat) (p : List Name) :
    List (Name × Tree) → Except Fault (List (List Name × Tree))
  | [] => pure []
  | (name, d) :: rest => do
    CallDepth.enter (depth + 1)
    let here ← d.walk (depth + 1) (p ++ [name])
    let more ← Tree.walkFolders depth p rest
    pure (here ++ more)
end

/-- Every folder of a tree, with what it holds, in the order of a walk started with `depth`
calls open: the walk opens a call, and walks the root in one more. -/
def Tree.walkAll (t : Tree) (depth : Nat) : Except Fault (List (List Name × Tree)) := do
  CallDepth.enter (depth + 1)
  t.walk (depth + 2) []

/-- The folders below the root of a tree, as a walk started with `depth` calls open lists
them, each name read back from its bytes. -/
def Tree.folderPaths (t : Tree) (depth : Nat) : Except Fault (List Path) := do
  let folders ← t.walkAll depth
  pure (folders.filterMap fun (p, _) => if p.isEmpty then none else some (p.map Text.decode))

/-- The folders that directly hold description files, with those files, in the order of a
walk started with `depth` calls open, each name read back from its bytes; the root folder is
the empty path. -/
def Tree.descriptions (t : Tree) (depth : Nat) :
    Except Fault (List (Path × List (List Point))) := do
  let folders ← t.walkAll depth
  pure (folders.filterMap fun (p, d) =>
    match (d.files.map Text.decode).filter isDescription with
    | [] => none
    | names => some (p.map Text.decode, names))

/-- What making the folders of a scan did: the source tree afterwards, the faults reported
on the way, and the fault that stopped it, if one did. -/
structure Repeat where
  made : Tree
  reports : List Fault
  stop : Option Fault

/-- Makes the folders `ps` of a scan in the source tree below `r`, in order, with `depth`
calls open.  A folder that leads to an entry already is left alone; one that cannot be
made is reported by its fault, unless the fault is that the calls ran out of room, which
stops the making. -/
def Tree.repeatFolders (t : Tree) (r : Root) (depth : Nat) : List Path → Repeat
  | [] => ⟨t, [], none⟩
  | p :: ps =>
    if t.reaches r p then t.repeatFolders r depth ps
    else
      match t.makeFolders r false p depth with
      | (made, none) => made.repeatFolders r depth ps
      | (made, some (.tooDeep o)) => ⟨made, [], some (.tooDeep o)⟩
      | (made, some f) =>
        let rest := made.repeatFolders r depth ps
        { rest with reports := f :: rest.reports }

/-- The text of the path that a walk started at the folder text `F` gives for the folder
at `r` below it: each name joined to the path of the folder above. -/
def walkedPath (F : List Point) (r : Path) : List Point := r.foldl joinText F

/-- The key under which a scan files a folder whose walked path is `w`: `w` with every
occurrence of the description folder's text `F` cut out. -/
def keyOf (F w : List Point) : List Point := Text.eraseAll F w

/-- Sets the key `k` to `v` in a table kept in the order in which keys were first set: a key
that is there takes the new value in its place, and a new key goes last. -/
def setEntry {β : Type} (st : List (List Point × β)) (k : List Point) (v : β) :
    List (List Point × β) :=
  if st.any (fun e => e.1 = k) then st.map fun e => if e.1 = k then (k, v) else e
  else st ++ [(k, v)]

/-- The table a scan builds from the folders of its walk that hold descriptions, in the
order of the walk: each folder's descriptions set under its key. -/
def scanStructure (F : List Point) (found : List (Path × List (List Point))) :
    List (List Point × List (List Point)) :=
  found.foldl (fun st e => setEntry st (keyOf F (walkedPath F e.1)) e.2) []

/-- The build plan of a scan: per key of its table that holds a file, the source folder to
write to and the description files, by their full paths, each made again from the key.  A
table that holds no file has no plan. -/
def buildPlan (yamlRoot sourceRoot : List Point) (table : List (List Point × List (List Point))) :
    Except Fault (List (List Point × List (List Point))) :=
  let entries := table.map fun (k, names) =>
    (joinText sourceRoot k, names.map fun n => joinText (joinText yamlRoot k) n)
  match entries.filter (fun e => !e.2.isEmpty) with
  | [] => .error .noItems
  | plan => .ok plan

/-- The text that reports a folder that could not be made. -/
def report (f : Fault) : String := "Couldn't make files\n     " ++ f.message ++ "\n"

end StubGen.Folder
