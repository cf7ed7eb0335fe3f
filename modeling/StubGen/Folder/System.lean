/-
The system that a request runs in: the folders and files around its scratch folder.

A request works in a fresh, empty scratch folder inside `/tmp`; a path that climbs out of
it, or starts from the top, meets the rest of the system.  Of that, what a path can run
into is listed here: the usual folders at the top, the device files in `/dev`, and the
account and host files in `/etc`.  A device or a file on the way of a path is no folder, a
folder that is not listed is missing, and a new entry may be made in any listed folder.
The scratch folder's own name is one that no request knows; the tree holds it under the
zero byte, a name that no path passing its checks can spell.
-/
import StubGen.Folder.Tree

namespace StubGen.Folder

/-- The stored name of a name written in ASCII. -/
def nameOf (s : String) : Name := s.toList.map fun c => c.toNat.toUInt8

/-- A folder with the files and folders of the given names, its folders in order of name. -/
def Tree.ofNames (files : List String) (folders : List (String × Tree)) : Tree :=
  .node (files.map nameOf) (folders.foldl (fun ds (n, d) => insertFolder (nameOf n) d ds) [])

/-- The name of the scratch folder in the tree: the zero byte, which no checked path holds. -/
def scratchName : Name := [0]

/-- The path of the scratch folder from the top of the system. -/
def scratchPath : List Name := [nameOf "tmp", scratchName]

/-- The system around a scratch folder that holds `scratch`. -/
def system (scratch : Tree) : Tree :=
  Tree.ofNames [] [
    ("bin", .empty), ("boot", .empty),
    ("dev", Tree.ofNames ["console", "full", "null", "ptmx", "random", "tty", "urandom", "zero"]
      [("pts", .empty), ("shm", .empty)]),
    ("etc", Tree.ofNames ["group", "hostname", "hosts", "os-release", "passwd", "resolv.conf",
      "shadow"] []),
    ("home", .empty), ("lib", .empty), ("lib64", .empty), ("media", .empty), ("mnt", .empty),
    ("opt", .empty), ("root", .empty), ("run", .empty), ("sbin", .empty), ("srv", .empty),
    ("tmp", .node [] [(scratchName, scratch)]),
    ("usr", Tree.ofNames [] [("bin", .empty), ("include", .empty), ("lib", .empty),
      ("local", .empty), ("sbin", .empty), ("share", .empty)]),
    ("var", Tree.ofNames [] [("cache", .empty), ("lib", .empty), ("log", .empty),
      ("tmp", .empty)])]

end StubGen.Folder
