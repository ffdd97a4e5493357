import SpatialCatalog.Number.Binary64
import SpatialCatalog.Number.Numeral

/-!
# Shortest decimals

A finite value is written with the fewest digits that still identify it. All decimals between its
two rounding limits identify it, the limits themselves exactly when its significand is even. For
1, 2, … digits the two neighbours of the value on that decimal grid are tried; the first grid with
a neighbour between the limits wins, of two such neighbours the nearer, and a tie goes to the even
one. The search is in natural numbers, so nothing is lost.

`Layout` then places the point: decimals with a first digit of moderate weight are written plainly
and keep a point, all others have an exponent.
-/

namespace SpatialCatalog

/-- What rounds to one magnitude, in quarters of a unit. -/
structure RoundingInterval where
  low : Nat
  high : Nat
  closed : Bool

namespace RoundingInterval

/-- The limits lie half way to the neighbours; the lower one is nearer above a power of two. -/
def of (m : Nat) : RoundingInterval :=
  let gap := twoPow (spacing m)
  { low := if m = twoPow m.log2 ∧ 0 < spacing m then 4 * m - gap else 4 * m - 2 * gap
    high := 4 * m + 2 * gap
    closed := decide (m / gap % 2 = 0) }

/-- Whether the quotient `a / s` lies between the limits. -/
def contains (i : RoundingInterval) (a s : Nat) : Bool :=
  if i.closed then decide (i.low * s ≤ a) && decide (a ≤ i.high * s)
  else decide (i.low * s < a) && decide (a < i.high * s)

end RoundingInterval

/-- The number of times that a magnitude below one has to be multiplied by ten to reach one. -/
def leadingZeros : Nat → Nat → Nat
  | 0, _ => 0
  | fuel + 1, m => if unitsPerOne ≤ m then 0 else leadingZeros fuel (10 * m) + 1

/-- The power of ten of the first digit of a magnitude other than zero. -/
def leadingExponent (m : Nat) : Int :=
  if unitsPerOne ≤ m then ((decimalDigits (m / unitsPerOne)).length : Int) - 1
  else -(leadingZeros 324 m : Int)

/-- The multiple of `10 ^ p` that identifies a magnitude and is nearest to it, if there is one. -/
def nearestMultiple? (m : Nat) (p : Int) : Option Nat :=
  let s := tenPow (-p).toNat
  let t := 4 * unitsPerOne * tenPow p.toNat
  let value := 4 * m * s
  let d := value / t
  let limits := RoundingInterval.of m
  match limits.contains (d * t) s, limits.contains ((d + 1) * t) s with
  | true, true => some (roundHalfEven value t)
  | true, false => some d
  | false, true => some (d + 1)
  | false, false => none

/-- A decimal as its digits, without zeros at the end, and the power of ten of the first digit. -/
structure Decimal where
  digits : List Digit
  exponent : Int
deriving DecidableEq

/-- `d * 10 ^ p` as a decimal. -/
def Decimal.ofScaled (d : Nat) (p : Int) : Decimal :=
  let ds := decimalDigits d
  { digits := (ds.reverse.dropWhile (· == 0)).reverse
    exponent := p + ds.length - 1 }

/-- The shortest decimal that identifies a magnitude other than zero. Seventeen digits always
suffice. -/
def shortestDecimal (m : Nat) : Decimal :=
  let e := leadingExponent m
  let found := (List.range 17).findSome? fun (k : Nat) =>
    (nearestMultiple? m (e - k)).map fun d => Decimal.ofScaled d (e - k)
  found.getD ⟨[], 0⟩

/-- The weights of the first digit between which a decimal is written without an exponent. -/
structure Layout where
  least : Int
  greatest : Int

/-- Place the point of a decimal. A plain decimal has at least one digit on either side of it. -/
def Layout.place (layout : Layout) (negative : Bool) (d : Decimal) : Numeral :=
  if layout.least ≤ d.exponent ∧ d.exponent ≤ layout.greatest then
    if 0 ≤ d.exponent then
      let n := d.exponent.toNat + 1
      let rest := d.digits.drop n
      { negative
        whole := d.digits.take n ++ List.replicate (n - d.digits.length) 0
        fraction := if rest.isEmpty then [0] else rest
        exponent := none }
    else
      { negative
        whole := [0]
        fraction := List.replicate ((-d.exponent).toNat - 1) 0 ++ d.digits
        exponent := none }
  else
    { negative
      whole := d.digits.take 1
      fraction := d.digits.drop 1
      exponent := some ⟨decide (d.exponent < 0), decimalDigits d.exponent.natAbs⟩ }

/-- The shortest numeral of a finite value. Zero is `0.0` or `-0.0`. -/
def Finite64.numeral (layout : Layout) (x : Finite64) : Numeral :=
  if x.magnitude = 0 then ⟨x.negative, [0], [0], none⟩
  else layout.place x.negative (shortestDecimal x.magnitude)

end SpatialCatalog
