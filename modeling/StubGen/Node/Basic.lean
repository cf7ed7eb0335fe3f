/-
Description documents: the values a class description is made of.

A value is null, a truth value, a whole number, a double, a text, a list of values, or
a dictionary from texts to values.  A text is a list of code points (`Text.Point`).  A dictionary keeps its entries in the order they
were written, and that order is the order of everything generated from it: arguments,
members, sections.  Values of any kind may stand where a description expects a text,
so the generator is defined on all of them and names the kind of a value it cannot use.
-/
import StubGen.Text.Point

namespace StubGen

open Text (Point)

/-- A value of a description document. -/
inductive Node where
  | null
  | bool (b : Bool)
  | int (n : Int)
  | float (x : Float)
  | text (s : List Point)
  | list (items : List Node)
  | dict (entries : List (List Point × Node))

/-- The kinds of value. -/
inductive Kind where
  | null
  | bool
  | int
  | float
  | text
  | list
  | dict
  deriving DecidableEq

/-- The name of a kind, as messages give it. -/
def Kind.name : Kind → String
  | .null => "NoneType"
  | .bool => "bool"
  | .int => "int"
  | .float => "float"
  | .text => "str"
  | .list => "list"
  | .dict => "dict"

namespace Node

instance : Inhabited Node := ⟨.null⟩

/-- The kind of a value. -/
def kind : Node → Kind
  | .null => .null
  | .bool _ => .bool
  | .int _ => .int
  | .float _ => .float
  | .text _ => .text
  | .list _ => .list
  | .dict _ => .dict

/-- Whether a double is zero of either sign; not-a-number is not zero. -/
def floatIsZero (x : Float) : Bool := x.toBits &&& 0x7fffffffffffffff == 0

/-- Whether a value counts as true in a test: null, false, zero and empty values do not. -/
def truthy : Node → Bool
  | .null => false
  | .bool b => b
  | .int n => n != 0
  | .float x => !floatIsZero x
  | .text s => !s.isEmpty
  | .list items => !items.isEmpty
  | .dict entries => !entries.isEmpty

end Node

end StubGen
