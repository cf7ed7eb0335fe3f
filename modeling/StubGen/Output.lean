/-
Writing generated files, and reading description files.

A generated file is written in tidy form into an existing, empty output folder, under
the file name of the class followed by `.cpp`.  The name is a path below the folder:
names `.` and empty names between slashes stay where they are, `..` leads out of the
folder, a name from the top leads through the system around it (see `Folder.system`), and
any other folder name leads into a folder that does not exist, so the write fails there
(see `Folder.Tree.makeFile`).  A file written outside the folder is not among the files
written into it.  Whether a name given as a text may lead out of the folder is
decided beforehand, by `leavesFolder`.

Writing changes the system, which holds a text for each file (`Disk`): the file is opened
for writing, made if it is missing and emptied if it is not, before its text is encoded,
so a text with a lone surrogate, which no file can hold, leaves the file made and empty.
-/
import StubGen.FileName
import StubGen.Folder.Make
import StubGen.Text.Tidy

namespace StubGen.Output

open Text (Point lit)

/-- Whether a class name given as a text is taken to lead out of the output folder: without
its surrounding blanks it is absolute, or one of its names, as written, is `..`. -/
def leavesFolder (name : List Point) : Bool :=
  (Text.trim name).head? = some (.char '/') || (Text.splitOn '/' name).contains (lit "..")

/-- Whether a text can be the text of a file, which holds no lone surrogate. -/
def storable (text : List Point) : Except Fault Unit :=
  match Text.fileBytes text with
  | .error u => .error (Folder.unstorable u)
  | .ok _ => .ok ()

/-- The system with what its files hold: its tree of folders and files, and the text of each
file by the file's path of stored names from the top. -/
structure Disk where
  tree : Folder.Tree
  text : List Folder.Name → List Point

namespace Disk

/-- The system with `text` as what the file at `file` holds, and all else as it was. -/
def put (d : Disk) (file : List Folder.Name) (text : List Point) : Disk :=
  ⟨d.tree, fun q => if q = file then text else d.text q⟩

/-- Opens the file `names` below the root for writing: makes it if it is missing, and empties
it.  Gives the system afterwards and the path of the file from the top. -/
def openFile (d : Disk) (root : Folder.Root) (names : Folder.Path) :
    Except Fault (Disk × List Folder.Name) := do
  let made ← d.tree.makeFile root names
  let (trail, last) ← d.tree.locate root names
  let file := Folder.trailPath trail ++ [last]
  pure ((⟨made, d.text⟩ : Disk).put file [], file)

end Disk

/-- The text of a generated file and the path of the file below the output folder: the
data, tidied, and the file name of the class followed by `.cpp`.  Nothing is made yet; the
data is read before the class name. -/
def prepare (data spec : Node) : Except Fault (List Point × Folder.Path) := do
  let text := Text.tidy (← data.asText "splitlines")
  let name ← FileName.ofNode (← spec.field "name")
  pure (text, Text.splitOn '/' (name ++ lit ".cpp"))

/-- Writes a generated file into the system `d` below the output folder `root`: the system
afterwards, and the path of the file written or the fault that stopped the write.  The file
is opened before its text is encoded, so a text that cannot be stored leaves the file made
and empty; a fault before that leaves the system as it was. -/
def store (d : Disk) (root : Folder.Root) (data spec : Node) :
    Disk × Except Fault (List Folder.Name) :=
  match prepare data spec with
  | .error f => (d, .error f)
  | .ok (text, names) =>
    match d.openFile root names with
    | .error f => (d, .error f)
    | .ok (opened, file) =>
      match storable text with
      | .error f => (opened, .error f)
      | .ok () => (opened.put file text, .ok file)

/-- The files that writing a generated file for a class description leaves in the empty
folder `root` of the system `world`, by their names there as the system reads them back,
with their texts. -/
def write (world : Folder.Tree) (root : Folder.Root) (data spec : Node) :
    Except Fault (List (List Point × List Point)) :=
  match store ⟨world, fun _ => []⟩ root data spec with
  | (_, .error f) => .error f
  | (after, .ok _) =>
    .ok ((after.tree.folder root.path).files.map fun n =>
      (Text.decode n, after.text (root.path ++ [n])))

/-- A loader of descriptions: the value that the YAML library reads from the text of a
file, or the fault it raises. -/
abbrev Loader := List Point → Except Fault Node

/-- The loader that reading a description calls: the installed YAML library's `load`,
called with the text alone.  That library asks for a `Loader` argument besides the text, so
the call fails whatever the text holds. -/
def installedLoad : Loader := fun _ => .error .loaderRequired

/-- Reads the description file at `path`, whose text is `text` when it is `present`, with
the loader `load`: a file that is present reads as what the loader gives, and prints
nothing; a missing one reads as an empty dictionary and is reported. -/
def readDescription (load : Loader) (present : Bool) (path : String) (text : List Point) :
    Except Fault (Node × String) :=
  if present then (load text).map fun v => (v, "") else .ok (.dict [], "No file " ++ path ++ "\n")

end StubGen.Output
