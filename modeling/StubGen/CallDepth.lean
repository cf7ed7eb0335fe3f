/-
Call depth: how many calls may be open at once.

Every request runs inside a stack of open calls with room for `limit` of them.  A call
can open only while fewer than `limit` calls are open; otherwise it fails, and the
fault names what was being opened: a definition of the generator, a built-in operation
called from one, or a nested list or dictionary of a request being read.  A type nested
in a type opens two calls per level (the rendering of the type and the pass over its
arguments), so a deep enough type runs out of room.
-/

namespace StubGen.CallDepth

/-- How many calls may be open at once. -/
def limit : Nat := 1000

/-- Whether a call can open when `depth` calls are open already. -/
def fits (depth : Nat) : Bool := depth < limit

/-- What was being opened when the room ran out. -/
inductive Overflow where
  /-- A definition of the generator. -/
  | frame
  /-- A built-in operation called from a definition. -/
  | builtin
  /-- A nested list (`array`) or dictionary (`object`) of a request being read. -/
  | reading (container : String)

/-- The end of the message of an overflow, after the common start. -/
def Overflow.detail : Overflow → String
  | .frame => ""
  | .builtin => " while calling a Python object"
  | .reading container => " while decoding a JSON " ++ container ++ " from a unicode string"

end StubGen.CallDepth
