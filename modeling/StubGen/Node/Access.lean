/-
Reading a description value: its fields, entries, members and size.

Each reading applies to some kinds of value and fails with a fault naming the kind
for the others, so that a description of the wrong shape is reported, not guessed at.
-/
import StubGen.Fault

namespace StubGen.Node

open Text (Point lit)

/-- The value under `key` in a dictionary, or `default` when there is none; only a
dictionary can be asked. -/
def get (v : Node) (key : String) (default : Node) : Except Fault Node :=
  match v with
  | .dict entries => .ok ((entries.lookup (lit key)).getD default)
  | _ => .error (.noAttribute v.kind "get")

/-- The value under `key` in a dictionary, which must hold it. -/
def field (v : Node) (key : String) : Except Fault Node :=
  match v with
  | .dict entries =>
    match entries.lookup (lit key) with
    | some x => .ok x
    | none => .error (.missingKey key)
  | .text _ => .error .textIndex
  | .list _ => .error .listIndex
  | _ => .error (.notSubscriptable v.kind)

/-- The entries of a dictionary, in order. -/
def entries (v : Node) : Except Fault (List (List Point × Node)) :=
  match v with
  | .dict es => .ok es
  | _ => .error (.noAttribute v.kind "items")

/-- The members of a value taken one by one: the characters of a text, each as a text,
the items of a list, and the keys of a dictionary. -/
def members (v : Node) : Except Fault (List Node) :=
  match v with
  | .text s => .ok (s.map fun c => .text [c])
  | .list items => .ok items
  | .dict es => .ok (es.map fun e => .text e.1)
  | _ => .error (.notIterable v.kind)

/-- The number of members of a text, list or dictionary. -/
def size (v : Node) : Except Fault Nat :=
  match v with
  | .text s => .ok s.length
  | .list items => .ok items.length
  | .dict es => .ok es.length
  | _ => .error (.noLength v.kind)

/-- The text of a value that must be a text for the operation `use`. -/
def asText (v : Node) (use : String) : Except Fault (List Point) :=
  match v with
  | .text s => .ok s
  | _ => .error (.noAttribute v.kind use)

end StubGen.Node
