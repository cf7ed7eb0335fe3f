/-
The text of a description value, as generated code shows it.

A text shows as itself.  Every other value shows in its quoted form: `None`, `True`,
`False`, whole numbers in decimal, doubles by their shortest decimal, and lists and
dictionaries with their members in quoted form, texts among them quoted, between
brackets or braces and separated by a comma and a blank.
-/
import StubGen.Node.Basic
import StubGen.Decimal.Layout
import StubGen.Text.Quoted

namespace StubGen.Node

/-- Doubles are written positionally when the exponent of their leading digit lies in
`-4 … 15` and with an exponent otherwise (`1e+16`, `1e-05`); a whole number keeps `.0`. -/
def floatStyle : Decimal.Style :=
  ⟨-4, 16, true, 'e', true, 2, "inf", "nan"⟩

/-- A whole number in decimal. -/
def intText (n : Int) : List Char :=
  (if n < 0 then ['-'] else []) ++ Nat.toDigits 10 n.natAbs

mutual

/-- The quoted form of a value. -/
def quoted : Node → List Char
  | .null => "None".toList
  | .bool true => "True".toList
  | .bool false => "False".toList
  | .int n => intText n
  | .float x => floatStyle.render x
  | .text s => Text.quote s
  | .list items => '[' :: quotedItems items ++ [']']
  | .dict entries => '\x7b' :: quotedEntries entries ++ ['\x7d']

/-- The quoted forms of items, separated by a comma and a blank. -/
def quotedItems : List Node → List Char
  | [] => []
  | [x] => quoted x
  | x :: rest => quoted x ++ ',' :: ' ' :: quotedItems rest

/-- The quoted forms of entries, each key and value separated by a colon. -/
def quotedEntries : List (List Text.Point × Node) → List Char
  | [] => []
  | [(k, v)] => Text.quote k ++ ':' :: ' ' :: quoted v
  | (k, v) :: rest => Text.quote k ++ ':' :: ' ' :: quoted v ++ ',' :: ' ' :: quotedEntries rest

end

/-- The text of a value: a text is itself, any other value its quoted form. -/
def display : Node → List Text.Point
  | .text s => s
  | v => (quoted v).map .char

end StubGen.Node
