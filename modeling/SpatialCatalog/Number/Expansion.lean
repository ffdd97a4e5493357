import SpatialCatalog.Number.Arithmetic

/-!
# Expansions

The rounding error of a sum, a difference or a product is itself a binary64 value, unless something
overflows or underflows on the way, and it can be found by a few more operations. An expansion is a
list of values, least first, whose exact sum is meant; with the errors as further parts, sums and
differences of products are computed without loss.
-/

namespace SpatialCatalog

/-- A rounded result, and the error by which the exact one differs from it. -/
structure Compensated where
  value : Double
  error : Double
deriving DecidableEq

namespace Compensated

/-- The error of a sum that was rounded to `x`. -/
def sumError (a b x : Double) : Double :=
  let b' := x - a
  let a' := x - b'
  (a - a') + (b - b')

/-- The error of a difference that was rounded to `x`. -/
def differenceError (a b x : Double) : Double :=
  let b' := a - x
  let a' := x + b'
  (a - a') + (b' - b)

/-- The factor that splits a significand of 53 bits in two halves, `2 ^ 27 + 1`. -/
def splitter : Double := .ofUnits ((twoPow 27 + 1) * unitsPerOne)

/-- A value as a sum of two, each with half of the bits. -/
def halves (a : Double) : Double × Double :=
  let c := splitter * a
  let high := c - (c - a)
  (high, a - high)

/-- The error of a product that was rounded to `x`. -/
def productError (a b x : Double) : Double :=
  let (aHigh, aLow) := halves a
  let (bHigh, bLow) := halves b
  aLow * bLow - (((x - aHigh * bHigh) - aLow * bHigh) - aHigh * bLow)

def sum (a b : Double) : Compensated := ⟨a + b, sumError a b (a + b)⟩

/-- A sum whose first part is not the smaller one. -/
def orderedSum (a b : Double) : Compensated := ⟨a + b, b - ((a + b) - a)⟩

def difference (a b : Double) : Compensated := ⟨a - b, differenceError a b (a - b)⟩

def product (a b : Double) : Compensated := ⟨a * b, productError a b (a * b)⟩

end Compensated

/-- Values whose exact sum is meant, least first. -/
abbrev Expansion := List Double

namespace Expansion

open Compensated

/-- A compensated value less one value: the least part, and the others as a compensated value. -/
def minusOne (p : Compensated) (b : Double) : Double × Compensated :=
  let low := difference p.error b
  (low.error, sum p.value low.value)

/-- The difference of two compensated values, in four parts. -/
def ofDifference (p q : Compensated) : Expansion :=
  let (x0, r) := minusOne p q.error
  let low := difference r.error q.value
  let high := sum r.value low.value
  [x0, low.error, high.error, high.value]

/-- The parts added up in order, with rounding. -/
def estimate : Expansion → Double
  | [] => .zero
  | x :: xs => xs.foldl (· + ·) x

/-- Whether a part of one expansion comes before a part of another: it is not the larger one. -/
def precedes (x y : Double) : Bool := x.lt y == (-x).lt y

/-- Add parts to a value in order; errors that are not zero, and the sum at the end, are the parts
of the result. -/
def accumulate (q : Double) : List Double → Expansion
  | [] => if q.isZero then [] else [q]
  | x :: xs =>
    let s := sum q x
    (if s.error.isZero then [] else [s.error]) ++ accumulate s.value xs

/-- Add merged parts. The second part is not smaller than the first where both expansions have
parts left. -/
def addMerged (bothLeft : Bool) : List Double → Expansion
  | [] => []
  | [q] => accumulate q []
  | q :: x :: xs =>
    let s := if bothLeft then orderedSum x q else sum q x
    (if s.error.isZero then [] else [s.error]) ++ accumulate s.value xs

/-- The sum of two expansions, without parts that are zero unless it is zero. -/
def add (e f : Expansion) : Expansion :=
  let bothLeft :=
    match e, f with
    | x :: xs, y :: ys => if precedes x y then !xs.isEmpty else !ys.isEmpty
    | _, _ => false
  let parts := addMerged bothLeft (e.merge f precedes)
  if parts.isEmpty then [.zero] else parts

/-- The greatest part, which has the sign of the sum. -/
def greatest (e : Expansion) : Double := e.getLast?.getD .zero

end Expansion

end SpatialCatalog
