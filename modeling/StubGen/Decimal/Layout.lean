/-
Laying out a decimal as text.

A decimal is written positionally when the exponent of its leading digit lies in a
range the style gives, and in scientific notation otherwise.  Positionally the point
stands after, inside or before the digits; a whole number may keep a point and a zero.
In scientific notation one digit stands before the point and the exponent follows a
mark, with its sign and at least the style's number of digits.
-/
import StubGen.Decimal.Shortest

namespace StubGen.Decimal

/-- The choices of a format for doubles. -/
structure Style where
  /-- Leading-digit exponents `e` with `plainFrom ≤ e < plainBelow` are written positionally. -/
  plainFrom : Int
  plainBelow : Int
  /-- Whether a whole number keeps `.0`. -/
  pointZero : Bool
  /-- The mark before the exponent. -/
  expMark : Char
  /-- Whether a non-negative exponent carries `+`. -/
  expPlus : Bool
  /-- The least number of exponent digits. -/
  expWidth : Nat
  /-- The texts of the infinity and of not-a-number. -/
  infinity : String
  notANumber : String

/-- The digits of `n`, padded with zeros in front to `width` digits. -/
def padDigits (width n : Nat) : List Char :=
  let ds := Nat.toDigits 10 n
  List.replicate (width - ds.length) '0' ++ ds

/-- A decimal without its sign, laid out in the style. -/
def Style.layout (st : Style) (d : Dec) : List Char :=
  let ds := Nat.toDigits 10 d.digits
  let len : Int := ds.length
  let point : Int := len + d.exp
  let e := point - 1
  if st.plainFrom ≤ e && e < st.plainBelow then
    if point ≤ 0 then '0' :: '.' :: List.replicate (-point).toNat '0' ++ ds
    else if len ≤ point then
      ds ++ List.replicate (point - len).toNat '0' ++ (if st.pointZero then ['.', '0'] else [])
    else ds.take point.toNat ++ '.' :: ds.drop point.toNat
  else
    let mantissa := match ds with
      | [] => []
      | [c] => [c]
      | c :: rest => c :: '.' :: rest
    let sign := if e < 0 then ['-'] else if st.expPlus then ['+'] else []
    mantissa ++ st.expMark :: sign ++ padDigits st.expWidth e.natAbs

/-- The text of a double in the style: the shortest decimal that reads back, laid out, after
a minus sign when the double is negative. -/
def Style.render (st : Style) (x : Float) : List Char :=
  match Value.ofBits x.toBits with
  | .notANumber => st.notANumber.toList
  | .infinite negative => (if negative then ['-'] else []) ++ st.infinity.toList
  | .finite negative b =>
    let d := if b.m = 0 then ⟨0, 0⟩ else b.shortest.trim
    (if negative then ['-'] else []) ++ st.layout d

end StubGen.Decimal
