/-
The shortest decimal that reads back as a given double.

A finite double is `m · 2^q`.  The reals that round to it form an interval around it
whose ends lie half a gap away on each side; the gap below a power of two is half the
gap above, and the ends belong to the interval when `m` is even, since a tie rounds to
the even neighbour.  For `n = 1, 2, …` digits the search looks at the two neighbours of
the value on the grid of `n`-digit decimals: the first grid with a neighbour inside the
interval gives the digits, the nearer neighbour when both are inside, the even one on a
tie.  If a point of a grid lies in the interval, so does one of the two neighbours, as
the interval is convex and holds the value; so no shorter decimal reads back.
-/

namespace StubGen.Decimal

/-- A finite double without its sign: the value `m · 2^q`.  `narrowBelow` marks a power of
two above the least normal exponent, whose gap to the next smaller double is half the
gap above. -/
structure Binary where
  m : Nat
  q : Int
  narrowBelow : Bool

/-- What the bits of a double stand for. -/
inductive Value where
  | finite (negative : Bool) (b : Binary)
  | infinite (negative : Bool)
  | notANumber

/-- Reads the sign, exponent and fraction fields of a double. -/
def Value.ofBits (bits : UInt64) : Value :=
  let negative := bits >>> 63 == 1
  let e := ((bits >>> 52) &&& 0x7ff).toNat
  let f := (bits &&& 0xfffffffffffff).toNat
  if e == 0x7ff then (if f == 0 then .infinite negative else .notANumber)
  else if e == 0 then .finite negative ⟨f, -1074, false⟩
  else .finite negative ⟨Nat.pow 2 52 + f, (e : Int) - 1075, f == 0 && e > 1⟩

/-- A decimal `digits · 10^exp`. -/
structure Dec where
  digits : Nat
  exp : Int

namespace Binary

/-- The value divided by `10^k`, as a numerator and a denominator. -/
def scaled (x : Binary) (k : Int) : Nat × Nat :=
  (x.m * Nat.pow 2 x.q.toNat * Nat.pow 10 (-k).toNat, Nat.pow 2 (-x.q).toNat * Nat.pow 10 k.toNat)

/-- The exponent of the leading decimal digit of a non-zero value: the `e` with
`10^e ≤ x < 10^(e+1)`.  The value is scaled by `10^400`, which makes even the least
double at least one, and the digits of the integral part are counted. -/
def leadExp (x : Binary) : Int :=
  let (num, den) := x.scaled (-400)
  ((Nat.toDigits 10 (num / den)).length : Int) - 1 - 400

/-- Whether the decimal `c · 10^k`, given with the value scaled by `10^k` as `num / den`,
reads back as the value: it lies within half a gap of it, the ends included when `m` is
even.  All sides are multiplied by `4 · m · den` to stay in whole numbers. -/
def holds (x : Binary) (num den c : Nat) : Bool :=
  let lo := (if x.narrowBelow then 4 * x.m - 1 else 4 * x.m - 2) * num
  let hi := (4 * x.m + 2) * num
  let v := 4 * x.m * den * c
  if x.m % 2 == 0 then lo ≤ v && v ≤ hi else lo < v && v < hi

/-- The decimal of `n` significant digits that reads back as the value and lies nearest
to it, if one does. -/
def onGrid (x : Binary) (n : Nat) : Option Dec :=
  let k := x.leadExp + 1 - n
  let (num, den) := x.scaled k
  let below := num / den
  let above := below + 1
  let inBelow := x.holds num den below
  let inAbove := x.holds num den above
  if inBelow && inAbove then
    let dBelow := num - below * den
    let dAbove := above * den - num
    if dBelow < dAbove then some ⟨below, k⟩
    else if dAbove < dBelow then some ⟨above, k⟩
    else if below % 2 == 0 then some ⟨below, k⟩ else some ⟨above, k⟩
  else if inBelow then some ⟨below, k⟩
  else if inAbove then some ⟨above, k⟩
  else none

/-- The nearest decimal of seventeen significant digits, which always reads back. -/
def seventeen (x : Binary) : Dec :=
  let k := x.leadExp - 16
  let (num, den) := x.scaled k
  let below := num / den
  if 2 * (num - below * den) < den then ⟨below, k⟩ else ⟨below + 1, k⟩

/-- The shortest decimal that reads back as the value, nearest to it among those. -/
def shortest (x : Binary) : Dec :=
  ((List.range 17).findSome? fun i => x.onGrid (i + 1)).getD x.seventeen

end Binary

/-- The decimal with its trailing zero digits moved into the exponent. -/
def Dec.trim (d : Dec) : Dec :=
  if h : d.digits ≠ 0 ∧ d.digits % 10 = 0 then Dec.trim ⟨d.digits / 10, d.exp + 1⟩ else d
termination_by d.digits
decreasing_by omega

end StubGen.Decimal
