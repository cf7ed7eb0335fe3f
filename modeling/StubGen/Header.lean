/-
Class headers: the file generated from a class description.

A description is a dictionary with a `name`, optional `supers` (base classes) and
`template` (template parameters), and dictionaries `functions` and `members`, each with
optional sections `public`, `protected` and `private`; other sections are ignored.  The
header is a banner naming the file, an include guard from the name in capitals, and the
class, named by the title case of the name, with its function sections, then its member
sections, each in the order public, protected, private.  The sections are made through
a helper per group, one call deeper than the other parts.
-/
import StubGen.Decl

namespace StubGen

open Text (Point lit)

/-- The parts of a class header, each as it stands in the text. -/
structure Header where
  /-- The file name shown in the banner. -/
  fileName : List Point
  /-- The name in capitals, for the include guard. -/
  guard : List Point
  /-- The class name. -/
  className : List Point
  params : List Point
  template : List Point
  supers : List Point
  /-- Function sections, then member sections, public, protected, private. -/
  sections : List (List Point)

namespace Header

/-- A banner rule: two slashes and seventy-seven tildes. -/
def rule : List Point := lit "//" ++ List.replicate 77 (.char '~')

/-- The text of a header, before tidying. -/
def text (h : Header) : List Point :=
  let lines : List (List Point) :=
    [rule,
     lit "// " ++ h.fileName ++ lit " Authored by Nathan Ross Powell.",
     rule,
     lit "#ifndef __HEADER_" ++ h.guard ++ lit "__",
     lit "#define __HEADER_" ++ h.guard ++ lit "__",
     [], [], [], [],
     rule,
     lit "// Definition of " ++ h.className ++ h.params ++ [.char '.'],
     h.template ++ lit "class " ++ h.className ++ .char ' ' :: h.supers,
     [.char '\x7b']] ++
    h.sections ++
    [lit "\x7d;",
     [],
     lit "#endif __HEADER_" ++ h.guard ++ lit "__"]
  [Point.char '\n'].intercalate lines

end Header

namespace Generator

/-- The access levels, in the order their sections are written. -/
def accessLevels : List String := ["public", "protected", "private"]

/-- The sections of one group of a description (`functions` or `members`), each asked for
when `depth` calls are open. -/
def group (g : Generator) (depth : Nat) (spec : Node) (key : String) (functions : Bool) :
    Except Fault (List (List Point)) :=
  accessLevels.mapM fun level => do
    let data ← (← spec.field key).get level (.dict [])
    g.accessSection depth (.text (lit level)) data functions

/-- The header of a class description, asked for when `depth` calls are open. -/
def header (g : Generator) (depth : Nat) (spec : Node) : Except Fault Header := do
  let nameNode ← spec.field "name"
  let name ← nameNode.asText "upper"
  let supers ← g.supers (depth + 1) (← spec.get "supers" (.list []))
  let params ← g.templateParams (depth + 1) (← spec.get "template" (.list []))
  let functionSections ← g.group (depth + 2) spec "functions" true
  let memberSections ← g.group (depth + 2) spec "members" false
  pure {
    fileName := nameNode.display ++ lit ".cpp"
    guard := Text.upper name
    className := Text.title name
    params := params
    template := template params
    supers := supers
    sections := functionSections ++ memberSections }

end Generator

end StubGen
