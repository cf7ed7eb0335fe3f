/-
File names of classes: a class name in camel case becomes a file name in snake case.

Every uppercase character that does not start the name starts a new word and gets an
underscore before it; the name is then trimmed of blanks and lowered.  A name given as
a list or dictionary is taken member by member (items or keys): a member is tested for
capitals only once something has been written, so the first members may be of any kind,
and each is written as its text.
-/
import StubGen.Node.Access
import StubGen.Node.Show
import StubGen.Text.Case
import StubGen.Text.Split

namespace StubGen.FileName

open Text (Point)

/-- The name with an underscore before each uppercase character but the first. -/
def markWords : List Point → List Point
  | [] => []
  | c :: rest => c :: rest.flatMap fun d => if Text.isUppercase d then [.char '_', d] else [d]

/-- The file name of a class name given as a text. -/
def ofText (s : List Point) : List Point := Text.lower (Text.trim (markWords s))

/-- Writes members after `acc`, each after an underscore if something has been written and
the member is a text in capitals. -/
def joinMembers : List Point → List Node → Except Fault (List Point)
  | acc, [] => .ok acc
  | acc, m :: ms =>
    if acc.isEmpty then joinMembers (acc ++ m.display) ms
    else
      match m with
      | .text t =>
        joinMembers (acc ++ (if Text.isCapitals t then [.char '_'] else []) ++ t) ms
      | _ => .error (.noAttribute m.kind "isupper")

/-- The file name of a class name given as any value. -/
def ofNode (v : Node) : Except Fault (List Point) :=
  match v with
  | .text s => .ok (ofText s)
  | _ => do
    let ms ← v.members
    let joined ← joinMembers [] ms
    pure (Text.lower (Text.trim joined))

end StubGen.FileName
