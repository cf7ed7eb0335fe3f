/-
Type names: how a type written in a description becomes a type of the generated code.

A description writes a type as words, then optionally ` of ` and a comma-separated list
of argument types: `List of int`, `Map of Id, ptr-Node`.  A word `m-w` stands for the
word `w` under the modifier `m`, which is written after the whole type as `&`, `*` and
so on; when several words carry one, the last wins, and a modifier the tables do not
know is dropped.  The head words are joined by single blanks.  With arguments, each
argument is rendered in turn, and the head's template pattern is filled with them.  A
head that the tables know has its own pattern (`List`, `Map`); any other head `h` takes
`h< %s >`, so that a head with a percent sign, or the wrong number of arguments, fails
as its pattern does.

Rendering recurs on the argument texts, each shorter than the type by at least the
separator ` of `; that is the measure it terminates by.  Rendering a type opens one call
and calls built-in operations inside it; its arguments are rendered from a pass over them,
two calls deeper.  So a type nested deeply enough fails for want of room for its calls
(`CallDepth`), at the first level that does not fit.
-/
import StubGen.Node.Access
import StubGen.Text.Split
import StubGen.Text.Case

namespace StubGen

open Text (Point lit)

/-- The tables with which a generator renders types: a template pattern for some heads,
and the suffix of each modifier, by its name in lower case. -/
structure Tables where
  templates : List (List Point × List Point)
  modifiers : List (List Point × List Point)

/-- The standard tables: lists and maps of the standard library, and references and
pointers up to three levels. -/
def Tables.standard : Tables where
  templates := [(lit "List", lit "std::vector< %s >"), (lit "Map", lit "std::map< %s, %s >")]
  modifiers := [(lit "ref", lit "&"), (lit "ptr", lit "*"), (lit "refptr", lit "&*"),
    (lit "ptrref", lit "*&"), (lit "ptrptr", lit "**"), (lit "ptrptrptr", lit "***")]

namespace TypeHead

/-- The separator between a head and its arguments. -/
def ofSep : List Point := [.char ' ', .char 'o', .char 'f', .char ' ']

/-- A word of a head without its modifier, and the modifier: `m-w` is the word `w` under
`m`, and pieces after a second hyphen are dropped. -/
def unmodify (w : List Point) : List Point × Option (List Point) :=
  match Text.splitOn '-' w with
  | m :: base :: _ => (base, some m)
  | _ => (w, none)

/-- The modifier that a head carries: that of its last word that has one. -/
def modifierOf (words : List (List Point)) : Option (List Point) :=
  (words.filterMap fun w => (unmodify w).2).getLast?

/-- The words of a head without their modifiers, joined by single blanks. -/
def baseOf (words : List (List Point)) : List Point :=
  [Point.char ' '].intercalate (words.map fun w => (unmodify w).1)

end TypeHead

namespace Tables

open TypeHead

/-- The suffix for the modifier of a head, looked up by its lower case. -/
def suffix (t : Tables) (m : Option (List Point)) : List Point :=
  match m with
  | some name => (t.modifiers.lookup (Text.lower name)).getD []
  | none => []

/-- The template pattern of a head. -/
def templateOf (t : Tables) (head : List Point) : List Point :=
  (t.templates.lookup head).getD (head ++ lit "< %s >")

set_option linter.unusedVariables false in
/-- Renders a type written in a description, when `depth` calls are open: the rendering
opens a call, calls built-ins in it, and renders each argument two calls deeper. -/
def render (t : Tables) (depth : Nat) (s : List Point) : Except Fault (List Point) := do
  CallDepth.enter depth
  CallDepth.call (depth + 1)
  match h : Text.splitFirst ofSep s with
  | none =>
    let ws := Text.words s
    .ok (baseOf ws ++ t.suffix (modifierOf ws))
  | some (before, after) => do
    let ws := Text.words before
    let args ← (Text.splitOn ',' after).attach.mapM fun ⟨p, _⟩ =>
      t.render (depth + 2) (Text.trim p)
    let filled ← (Pattern.format (t.templateOf (baseOf ws)) args).mapError Fault.pattern
    pure (filled ++ t.suffix (modifierOf ws))
termination_by s.length
decreasing_by
  rename_i hp
  have h1 := Text.length_trim_le p
  have h2 := Text.length_le_of_mem_splitOn hp
  have h3 := Text.splitFirst_length h
  simp only [ofSep, List.length_cons, List.length_nil] at h3
  omega

set_option linter.unusedVariables false in
/-- How deep rendering a type recurs: none for a type without arguments, and one more than
for its deepest argument otherwise. -/
def nesting (s : List Point) : Nat :=
  match h : Text.splitFirst ofSep s with
  | none => 0
  | some (_, after) =>
    1 + ((Text.splitOn ',' after).attach.map fun ⟨p, _⟩ => nesting (Text.trim p)).foldl max 0
termination_by s.length
decreasing_by
  rename_i hp
  have h1 := Text.length_trim_le p
  have h2 := Text.length_le_of_mem_splitOn hp
  have h3 := Text.splitFirst_length h
  simp only [ofSep, List.length_cons, List.length_nil] at h3
  omega

end Tables

/-- A generator of declarations, with its tables once they are installed. -/
structure Generator where
  tables : Option Tables

namespace Generator

/-- A generator whose tables are not installed yet. -/
def fresh : Generator := ⟨none⟩

/-- Installs the standard tables; installing them again changes nothing. -/
def install (_ : Generator) : Generator := ⟨some Tables.standard⟩

/-- A generator with the standard tables. -/
def ready : Generator := fresh.install

/-- The type of the generated code that a description value names, when `depth` calls are
open.  The rendering opens a call; the value must be a text; built-ins are called on it; and
the tables are needed only after that. -/
def typeName (g : Generator) (depth : Nat) (v : Node) : Except Fault (List Point) := do
  CallDepth.enter depth
  let s ← v.asText "split"
  CallDepth.call (depth + 1)
  match g.tables with
  | none => .error .unready
  | some t => t.render depth s

end Generator

end StubGen
