import SpatialCatalog.Number.Binary64
import SpatialCatalog.Number.Numeral

/-!
# Reading numerals

A numeral is read as a binary64 value in one of two ways.

* `Numeral.nearest` is correctly rounded: the value nearest to the decimal that is written.
* `Numeral.scaled?` works with a significand of 64 bits, which is converted, and then multiplied
  or divided by powers of ten, with a rounding at each step. It can differ from the nearest value
  in the last place, and it refuses what becomes too large.
-/

namespace SpatialCatalog

/-! ### Correctly rounded -/

/-- The value nearest to `n * 10 ^ p`. Exponents that are out of range by hundreds of digits need
no arithmetic. -/
def Double.ofDecimal (negative : Bool) (n : Nat) (p : Int) : Double :=
  if n = 0 then .finite (.zero negative)
  else
    let size := p + (decimalDigits n).length
    if 400 < size then .infinite negative
    else if size < -400 then .finite (.zero negative)
    else .ofRatio negative (n * tenPow p.toNat * unitsPerOne) (tenPow (-p).toNat)

/-- The exponent that is written, zero if there is none. -/
def Numeral.writtenExponent (m : Numeral) : Int :=
  match m.exponent with
  | none => 0
  | some e => if e.negative then -(digitsValue e.digits : Int) else digitsValue e.digits

/-- The value nearest to the decimal that is written, infinite when it is too large. -/
def Numeral.nearest (m : Numeral) : Double :=
  .ofDecimal m.negative (digitsValue (m.whole ++ m.fraction)) (m.writtenExponent - m.fraction.length)

/-! ### With a significand of 64 bits -/

/-- The first number that does not fit the significand. -/
def significandLimit : Nat := twoPow 64

/-- Read whole digits into a significand. The first digit that does not fit is dropped with all
after it; the second number counts the dropped ones. -/
def readWhole : Nat → List Digit → Nat × Nat
  | sig, [] => (sig, 0)
  | sig, d :: ds =>
    if 10 * sig + d.val < significandLimit then readWhole (10 * sig + d.val) ds
    else (sig, ds.length + 1)

/-- Read digits after the point into a significand. The first digit that does not fit is dropped
with all after it; the second number counts those that were kept. -/
def readFraction : Nat → List Digit → Nat × Nat
  | sig, [] => (sig, 0)
  | sig, d :: ds =>
    if 10 * sig + d.val < significandLimit then
      let (sig', kept) := readFraction (10 * sig + d.val) ds
      (sig', kept + 1)
    else (sig, 0)

/-- The greatest power of ten that is a finite value. -/
def greatestPower : Nat := 308

/-- The magnitude of the value nearest to `10 ^ k`. -/
def powerOfTen (k : Nat) : Nat := roundRatio (tenPow k * unitsPerOne) 1

/-- The magnitude of a rounded quotient. -/
def divideMagnitude (a b : Nat) : Nat := roundRatio (a * unitsPerOne) b

/-- Divide repeatedly by the greatest power of ten. -/
def divideByPowers : Nat → Nat → Nat
  | 0, m => m
  | n + 1, m => if m = 0 then 0 else divideByPowers n (divideMagnitude m (powerOfTen greatestPower))

/-- Scale a significand by a power of ten, rounding after each step. -/
def scale? (negative : Bool) (sig : Nat) (p : Int) : Option Finite64 :=
  let m := roundRatio (sig * unitsPerOne) 1
  if 0 ≤ p then
    if p ≤ greatestPower then Finite64.ofRatio? negative (m * powerOfTen p.toNat) unitsPerOne
    else if sig = 0 then some (.zero negative)
    else none
  else
    let blocks := ((-p).toNat - 1) / greatestPower
    let last := (-p).toNat - blocks * greatestPower
    Finite64.ofRatio? negative (divideByPowers blocks m * unitsPerOne) (powerOfTen last)

/-- The first exponent that does not fit 31 bits. -/
def exponentLimit : Nat := twoPow 31

/-- Read a numeral by scaling its significand. -/
def Numeral.scaled? (m : Numeral) : Option Finite64 :=
  let (whole, dropped) := readWhole 0 m.whole
  let (sig, kept) := readFraction whole m.fraction
  match m.exponent with
  | none => scale? m.negative sig (dropped - kept)
  | some e =>
    let n := digitsValue e.digits
    if n < exponentLimit then
      scale? m.negative sig ((dropped : Int) - kept + (if e.negative then -(n : Int) else n))
    else if sig = 0 ∨ e.negative then some (.zero m.negative)
    else none

end SpatialCatalog
