/-
Making folders and files in the system.

A path is followed from where it starts, its root or the top of the system, name by
name: an empty name and `.` stay where they are, `..` goes up (the top is its own folder
above), a name longer than `nameLimit` bytes is refused, and every other name but the last
must be a folder of the tree.  Making a folder needs a last name that is new; making a
file needs one that is no folder, and a file that exists is left as it is.  Making a
folder with its parents starts below the deepest path above it that exists and makes
each folder in turn; with `existOk`, a folder that exists already is no fault.  A fault
is reported under the whole path of the operation that meets it.

Making a folder with its parents is a call that makes the parent by a call of its own, so
a path with many missing folders above it opens many calls (see `CallDepth`): with `depth`
calls open, the call, the split of its path, and the lookup of the separator inside the
split need room for `depth + 2`.
-/
import StubGen.Folder.Tree

namespace StubGen.Folder

open Text (Point)

/-- Why a path cannot be followed to its last name. -/
inductive Blocked where
  /-- A name on the way is no entry of its folder. -/
  | missing
  /-- A name on the way is a file. -/
  | throughFile
  /-- A name on the way is longer than a folder entry may be. -/
  | tooLong

/-- The fault of a blocked path, reported under the text `shown`. -/
def Blocked.fault (shown : List Point) : Blocked → Fault
  | .missing => .missingFolder shown
  | .throughFile => .notFolder shown
  | .tooLong => .nameTooLong shown

/-- Where a walk along a path stands: the names and the folders on the way to a folder of
the system from the top, innermost first. -/
abbrev Trail := List (Name × Tree)

/-- The folder above the end of a trail; the top is its own folder above. -/
def Trail.up : Trail → Trail
  | [] => []
  | _ :: trail => trail

/-- The path of the folder at the end of a trail. -/
def trailPath (trail : Trail) : List Name := (trail.map (·.1)).reverse

/-- The folder at the end of a trail in the system `t`. -/
def folderAt (t : Tree) : Trail → Tree
  | [] => t
  | (_, d) :: _ => d

/-- The trail from the top of the system `t` along the folders of a path, as far as they
exist. -/
def Tree.trailTo (t : Tree) (p : List Name) : Trail :=
  (p.foldl (fun (acc : Trail × Tree) name =>
    match acc.2.child? name with
    | some c => ((name, c) :: acc.1, c)
    | none => acc) ([], t)).1

/-- Where a path below a root starts: at the top for a path from the top, at the root
otherwise. -/
def Tree.start (t : Tree) (r : Root) (names : Path) : Trail :=
  if names.isAbsolute then [] else t.trailTo r.path

/-- The stored name `.`. -/
def dot : Name := [0x2E]

/-- The stored name `..`. -/
def dotDot : Name := [0x2E, 0x2E]

/-- Follows every stored name of a path but the last from the trail `here`: gives the
trail to the folder that holds the last name, and that name (empty for a path without
names). -/
def Tree.follow (t : Tree) (here : Trail) : List Name → Except Blocked (Trail × Name)
  | [] => .ok (here, [])
  | [last] => .ok (here, last)
  | name :: rest =>
    if name = [] || name = dot then t.follow here rest
    else if name = dotDot then t.follow here.up rest
    else if nameLimit < name.length then .error .tooLong
    else
      let d := folderAt t here
      match d.child? name with
      | some c => t.follow ((name, c) :: here) rest
      | none => if d.files.contains name then .error .throughFile else .error .missing

/-- Whether a last name stands for a folder on the way: the one that holds it, or the one
above. -/
def isHere (name : Name) : Bool := name = [] || name = dot || name = dotDot

/-- Follows the path `names` below the root to the folder that holds its last name: the
trail to that folder and the last name, once the path has passed its checks. -/
def Tree.locate (t : Tree) (r : Root) (names : Path) : Except Fault (Trail × Name) := do
  let stored ← r.check names
  (t.follow (t.start r names) stored).mapError (·.fault (r.show names))

/-- Whether the path `names` below the root leads to an entry of the system. -/
def Tree.reaches (t : Tree) (r : Root) (names : Path) : Bool :=
  match t.locate r names with
  | .ok (trail, last) =>
    isHere last || (last.length ≤ nameLimit && (folderAt t trail).holdsName last)
  | .error _ => false

/-- Whether the path `names` below the root is a folder of the system. -/
def Tree.isFolder (t : Tree) (r : Root) (names : Path) : Bool :=
  match t.locate r names with
  | .ok (trail, last) =>
    isHere last || (last.length ≤ nameLimit && ((folderAt t trail).child? last).isSome)
  | .error _ => false

/-- Makes the folder `names` below the root. -/
def Tree.makeFolder (t : Tree) (r : Root) (names : Path) : Except Fault Tree := do
  let (trail, last) ← t.locate r names
  let shown := r.show names
  if isHere last then .error (.fileExists shown)
  else if nameLimit < last.length then .error (.nameTooLong shown)
  else if (folderAt t trail).holdsName last then .error (.fileExists shown)
  else .ok (t.addFolder (trailPath trail) last)

/-- Where a file `names` below the root lands: its stored name, when it lands in the root
itself. -/
def Tree.landing (t : Tree) (r : Root) (names : Path) : Option Name :=
  match t.locate r names with
  | .ok (trail, last) => if trailPath trail = r.path then some last else none
  | .error _ => none

/-- Makes the file `names` below the root, or keeps it if it exists. -/
def Tree.makeFile (t : Tree) (r : Root) (names : Path) : Except Fault Tree := do
  let (trail, last) ← t.locate r names
  let shown := r.show names
  if isHere last then .error (.isFolder shown)
  else if nameLimit < last.length then .error (.nameTooLong shown)
  else
    let d := folderAt t trail
    if (d.child? last).isSome then .error (.isFolder shown)
    else if d.files.contains last then .ok t
    else .ok (t.addFile (trailPath trail) last)

/-- Makes the first `k` names of `names` as a folder with its parents, with `depth` calls
open: first the parent, when it does not lead to an entry (a parent that exists already
as no folder is no fault there), then the folder itself.  Gives the tree as far as it was
made, and the fault that stopped it. -/
def Tree.makeFoldersUpTo (t : Tree) (r : Root) (existOk : Bool) (names : Path) (depth : Nat) :
    Nat → Tree × Option Fault
  | 0 => (t, none)
  | k + 1 =>
    match CallDepth.enter (depth + 2) with
    | .error f => (t, some f)
    | .ok () =>
      let (above, stop) :=
        if 0 < k && !t.reaches r (names.take k) then
          match t.makeFoldersUpTo r existOk names (depth + 1) k with
          | (made, some (.fileExists _)) => (made, none)
          | result => result
        else (t, none)
      match stop with
      | some f => (above, some f)
      | none =>
        let here := names.take (k + 1)
        match above.makeFolder r here with
        | .ok made => (made, none)
        | .error f => if existOk && above.isFolder r here then (above, none) else (above, some f)

/-- Makes the folder `names` below the root with all its missing parents, with `depth`
calls open. -/
def Tree.makeFolders (t : Tree) (r : Root) (existOk : Bool) (names : Path) (depth : Nat) :
    Tree × Option Fault :=
  t.makeFoldersUpTo r existOk names depth names.length

/-- Makes the folder `names` with its parents, where one that exists is no fault. -/
def Tree.ensureFolder (t : Tree) (r : Root) (names : Path) (depth : Nat) : Except Fault Tree :=
  match t.makeFolders r true names depth with
  | (made, none) => .ok made
  | (_, some f) => .error f

/-- Makes the file `names` with the folders above it. -/
def Tree.ensureFile (t : Tree) (r : Root) (names : Path) (depth : Nat) : Except Fault Tree := do
  let t ← t.ensureFolder r names.dropLast depth
  t.makeFile r names

end StubGen.Folder
