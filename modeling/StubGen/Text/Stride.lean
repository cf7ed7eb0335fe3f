/-
Strides of code points, the compact form in which the character tables of this
library are written.

A stride is an arithmetic progression of code points.  A table is a list of strides
sorted by their first point whose spans do not overlap, so a look-up stops at the
first stride that starts above the point it looks for.  A case map is a table of
shifts: strides whose points all move by the same amount.
-/
import StubGen.Text.Point

namespace StubGen.Text

/-- The code points `lo`, `lo + step`, `lo + 2 * step`, … that do not exceed `hi`. -/
structure Stride where
  lo : Nat
  hi : Nat
  step : Nat

namespace Stride

/-- Whether the stride holds the code point `n`. -/
def holds (s : Stride) (n : Nat) : Bool :=
  s.lo ≤ n && n ≤ s.hi && (n - s.lo) % s.step == 0

/-- Whether a stride of a sorted table holds `n`. -/
def anyHolds : List Stride → Nat → Bool
  | [], _ => false
  | s :: rest, n => if n < s.lo then false else s.holds n || anyHolds rest n

end Stride

/-- A stride of code points that a case map moves by the same amount `delta`. -/
structure Shift where
  lo : Nat
  hi : Nat
  step : Nat
  delta : Int

namespace Shift

/-- The image of `n` under a sorted table of shifts, or `none` where no shift holds `n`.
Spans do not overlap, so a point inside a span but off its stride has no image. -/
def find? : List Shift → Nat → Option Nat
  | [], _ => none
  | s :: rest, n =>
    if n < s.lo then none
    else if n ≤ s.hi then
      if (n - s.lo) % s.step == 0 then some (((n : Int) + s.delta).toNat) else none
    else find? rest n

end Shift

/-- The image of a character under a case map given by its shifts and by the characters
that map to several characters; a character that neither names keeps itself. -/
def caseImage (several : List (Nat × List Nat)) (shifts : List Shift) (c : Point) : List Point :=
  match several.lookup c.val with
  | some ns => ns.map Point.ofNat
  | none =>
    match Shift.find? shifts c.val with
    | some n => [Point.ofNat n]
    | none => [c]

end StubGen.Text
