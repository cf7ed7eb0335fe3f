/-
Types as trees: the structure that the written form of a type stands for.

A tree is a list of words, or a head (a list of words) applied to argument trees, and
either may carry a modifier, written in some letter case as a prefix `m-` of one of its
words.  Two printers read a tree: `yaml` writes it the way a description does (`ref-Map
of Id, List of Node`), and `cpp` writes the type of generated code it stands for
(`std::map< Id, std::vector< Node > >&`).  The library's renderer reads the first form;
comparing it with the second is comparing the renderer with the structure it is meant
to read.  `WellFormed` collects what a written form needs to be read back at all: words
without blanks, hyphens, commas or percent signs, no word `of`, marks on existing words
spelling a known modifier, and two arguments for a map and one for any other head.
`height` measures how deep arguments nest, and `MapFree` says that no map stands
anywhere in a tree, so that its written form holds no comma.
-/
import StubGen.Text.Case
import StubGen.Text.Blank

namespace StubGen

/-- The modifiers of a type: references and pointers, up to three levels. -/
inductive Modifier where
  | ref
  | ptr
  | refptr
  | ptrref
  | ptrptr
  | ptrptrptr
  deriving DecidableEq

namespace Modifier

/-- The name of a modifier, as a prefix writes it in lower case. -/
def name : Modifier → String
  | .ref => "ref"
  | .ptr => "ptr"
  | .refptr => "refptr"
  | .ptrref => "ptrref"
  | .ptrptr => "ptrptr"
  | .ptrptrptr => "ptrptrptr"

/-- The suffix a modifier puts after a type. -/
def symbol : Modifier → String
  | .ref => "&"
  | .ptr => "*"
  | .refptr => "&*"
  | .ptrref => "*&"
  | .ptrptr => "**"
  | .ptrptrptr => "***"

end Modifier

/-- A modifier as written: the modifier, its spelling, and the index of the word it prefixes. -/
structure Mark where
  modifier : Modifier
  spelling : String
  word : Nat

/-- A type as a tree. -/
inductive TypeTree where
  | leaf (words : List String) (mark : Option Mark)
  | node (head : List String) (mark : Option Mark) (args : List TypeTree)

namespace TypeTree

/-- Words with a mark written on the word it names. -/
def markWords (words : List String) : Option Mark → List String
  | none => words
  | some m => words.modify m.word fun w => m.spelling ++ "-" ++ w

/-- The suffix of an optional mark. -/
def suffix : Option Mark → String
  | none => ""
  | some m => m.modifier.symbol

mutual

/-- A tree written as a description writes it. -/
def yaml : TypeTree → String
  | .leaf words mark => " ".intercalate (markWords words mark)
  | .node head mark args => " ".intercalate (markWords head mark) ++ " of " ++ yamlArgs args

/-- Argument trees as a description writes them, separated by a comma and a blank. -/
def yamlArgs : List TypeTree → String
  | [] => ""
  | [t] => yaml t
  | t :: ts => yaml t ++ ", " ++ yamlArgs ts

end

mutual

/-- The type of generated code that a tree stands for. -/
def cpp : TypeTree → String
  | .leaf words mark => " ".intercalate words ++ suffix mark
  | .node head mark args =>
    (match head with
     | ["List"] => "std::vector< " ++ cppArgs args ++ " >"
     | ["Map"] => "std::map< " ++ cppArgs args ++ " >"
     | _ => " ".intercalate head ++ "< " ++ cppArgs args ++ " >") ++ suffix mark

/-- Argument types of generated code, separated by a comma and a blank. -/
def cppArgs : List TypeTree → String
  | [] => ""
  | [t] => cpp t
  | t :: ts => cpp t ++ ", " ++ cppArgs ts

end

/-- A word that the written form can carry: not empty, without blanks, hyphens, commas
or percent signs, and not `of`. -/
def GoodWord (w : String) : Prop :=
  w ≠ "" ∧ w ≠ "of" ∧ ∀ c ∈ w.toList, Text.isBlank c = false ∧ c ≠ '-' ∧ c ≠ ',' ∧ c ≠ '%'

/-- Words with an optional mark that the written form can carry: at least one word, all
good, and a mark on one of them spelling its modifier in some letter case. -/
def GoodWords (words : List String) (mark : Option Mark) : Prop :=
  words ≠ [] ∧ (∀ w ∈ words, GoodWord w) ∧
    ∀ m, mark = some m →
      m.word < words.length ∧ Text.lower (Text.lit m.spelling) = Text.lit m.modifier.name ∧
        ∀ c ∈ m.spelling.toList, Text.isBlank c = false ∧ c ≠ '-' ∧ c ≠ ',' ∧ c ≠ '%'

/-- The arguments of a tree: none for a list of words. -/
def args : TypeTree → List TypeTree
  | .leaf _ _ => []
  | .node _ _ args => args

mutual

/-- How deep arguments nest in a tree: not at all in a list of words, and one level more
than in the deepest argument of a node. -/
def height : TypeTree → Nat
  | .leaf _ _ => 0
  | .node _ _ args => heightArgs args + 1

/-- How deep arguments nest in the deepest of some trees. -/
def heightArgs : List TypeTree → Nat
  | [] => 0
  | t :: ts => max (height t) (heightArgs ts)

end

/-- A tree with no map in it, at any depth. -/
inductive MapFree : TypeTree → Prop
  | leaf {words mark} : MapFree (.leaf words mark)
  | node {head mark args} : head ≠ ["Map"] → (∀ t ∈ args, MapFree t) →
      MapFree (.node head mark args)

/-- A tree whose written form can be read back: good words everywhere, and two arguments
for a map, one for any other head. -/
inductive WellFormed : TypeTree → Prop
  | leaf {words mark} : GoodWords words mark → WellFormed (.leaf words mark)
  | node {head mark args} : GoodWords head mark →
      args.length = (if head = ["Map"] then 2 else 1) →
      (∀ t ∈ args, WellFormed t) → WellFormed (.node head mark args)

end TypeTree

end StubGen
