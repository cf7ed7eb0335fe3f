/-
Declarations of a class: functions, members, template parameters, base classes and
access sections, as lines of generated code.

A function is described by a dictionary with optional keys `args` (a dictionary from
argument names to types, in order), `return` (a type, `void` by default), `dec` (words
before the return type) and `mod` (words after the argument list).  Its declaration is
`dec ret name( t₁ a₁, t₂ a₂ ) mod;`, trimmed.  The loop over the arguments reuses the
name of the function for the name of each argument, so a function with arguments is
declared under the name of its last argument.  A member is declared `type m_name;`.
Template parameters and base classes are written by one loop (`appendSeparated`) that
puts a comma before every item but the first, keeping whether one has been written yet.

Each declaration takes the number of calls open when it is asked for, and opens one
more for itself; the return type of a function is looked up from a helper one call
deeper still (see `CallDepth`).
-/
import StubGen.TypeName
import StubGen.Node.Show

namespace StubGen.Generator

open Text (Point lit)

/-- The blank, as a code point. -/
def blank : Point := .char ' '

/-- The declaration of the function `name` described by `values`, asked for when `depth`
calls are open. -/
def function (g : Generator) (depth : Nat) (name values : Node) : Except Fault (List Point) := do
  let args ← (← values.get "args" (.dict [])).entries
  let typed ← args.mapM fun (k, t) => do pure (k, ← g.typeName (depth + 1) t)
  let argText :=
    if typed.isEmpty then []
    else blank :: (lit ", ").intercalate (typed.map fun (k, t) => t ++ blank :: k) ++ [blank]
  let declared := match typed.getLast? with
    | some (k, _) => k
    | none => name.display
  let dec ← values.get "dec" (.text [])
  let ret ← g.typeName (depth + 2) (← values.get "return" (.text (lit "void")))
  let mod ← values.get "mod" (.text [])
  let modText := if mod.truthy then blank :: mod.display else []
  let lead := Text.trim (dec.display ++ blank :: ret)
  pure (Text.trim (lead ++ blank :: declared ++ .char '(' :: argText ++ .char ')' :: modText ++
    [.char ';']))

/-- The declaration of the member `name` of type `type`, asked for when `depth` calls are
open. -/
def member (g : Generator) (depth : Nat) (name type : Node) : Except Fault (List Point) := do
  let t ← g.typeName (depth + 1) type
  pure (Text.trim (t ++ lit " m_" ++ name.display ++ [.char ';']))

/-- One turn of the separated loop: the text so far and whether an item has been written
yet, then a comma if one has, and the text of the next item. -/
def separatedStep {α : Type} (item : α → Except Fault (List Point)) (acc : List Point × Bool)
    (x : α) : Except Fault (List Point × Bool) := do
  let sep : List Point := if acc.2 then [.char ','] else []
  pure (acc.1 ++ sep ++ (← item x), true)

/-- Appends the text of each item to `start` in turn, with a comma before every item but the
first.  It stops at the first item whose text fails. -/
def appendSeparated {α : Type} (item : α → Except Fault (List Point)) (start : List Point)
    (items : List α) : Except Fault (List Point) := do
  let (text, _) ← items.foldlM (separatedStep item) (start, false)
  pure text

/-- The template parameters of a class, `< t₁ n₁, t₂ n₂ = d >`, from a list of dictionaries
with keys `type`, `name` and optionally `default`; nothing for no parameters.  A default
whose text is empty is left out.  They are asked for when `depth` calls are open. -/
def templateParams (g : Generator) (depth : Nat) (data : Node) : Except Fault (List Point) := do
  if (← data.size) = 0 then return []
  let params ← appendSeparated (fun d => do
      let t ← g.typeName (depth + 1) (← d.field "type")
      let default := (← d.get "default" (.text [])).display
      let defaultText := if default.isEmpty then [] else lit " = " ++ default
      let name ← d.field "name"
      pure (blank :: t ++ blank :: name.display ++ defaultText))
    [.char '<'] (← data.members)
  pure (params ++ lit " >")

/-- The template line for parameters: `template< … >` and a line feed, or nothing. -/
def template (params : List Point) : List Point :=
  if params.isEmpty then [] else lit "template" ++ params ++ [.char '\n']

/-- The base classes of a class, ` : public B₁, public B₂`, or nothing, asked for when
`depth` calls are open. -/
def supers (g : Generator) (depth : Nat) (v : Node) : Except Fault (List Point) := do
  if (← v.size) = 0 then return []
  appendSeparated (fun s => do pure (lit " public " ++ (← g.typeName (depth + 1) s)))
    (lit " :") (← v.members)

/-- An access section: a comment, the access label `name`, and one indented line per
entry of `data`, declared as functions or as members; nothing when `data` is empty.  It is
asked for when `depth` calls are open. -/
def accessSection (g : Generator) (depth : Nat) (name data : Node) (functions : Bool) :
    Except Fault (List Point) := do
  let title := Text.title (← name.asText "title")
  let entries ← data.entries
  let lines ← entries.mapM fun (k, v) => do
    let d ←
      if functions then g.function (depth + 1) (.text k) v else g.member (depth + 1) (.text k) v
    pure (lit "    " ++ d ++ [.char '\n'])
  if lines.isEmpty then return []
  let kind := if functions then lit "functions" else lit "members"
  pure (lit "// " ++ title ++ blank :: kind ++ lit ".\n" ++ name.display ++ lit ":\n" ++
    lines.flatten)

end StubGen.Generator
