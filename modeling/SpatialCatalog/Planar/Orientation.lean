import SpatialCatalog.Number.Expansion
import SpatialCatalog.Planar.Basic

/-!
# Orientation

Three points turn to the left, to the right, or lie on a line; the sign of the determinant of two
of them, seen from the third, tells. It is computed in stages, each of which stops when an error
bound says that the sign is certain: with plain arithmetic, with exact products of the rounded
offsets, with the errors of the offsets to first order, and at last without any loss.

The sign is that of the exact determinant unless something overflows or underflows. A determinant
that has no value counts as zero.
-/

namespace SpatialCatalog.Planar

/-! ### Offsets -/

/-- How far a point is from another, in binary64 arithmetic. -/
structure Offset where
  x : Double
  y : Double
deriving DecidableEq

namespace Offset

/-- The rounded offset of `a` from `c`. -/
def of (a c : Point) : Offset := ⟨(a.x : Double) - c.x, (a.y : Double) - c.y⟩

/-- The error of the rounded offset of `a` from `c`. -/
def error (rounded : Offset) (a c : Point) : Offset :=
  ⟨Compensated.differenceError a.x c.x rounded.x, Compensated.differenceError a.y c.y rounded.y⟩

def isZero (p : Offset) : Bool := p.x.isZero && p.y.isZero

/-- The determinant of two offsets, without loss. -/
def determinant (p q : Offset) : Expansion := .ofDifference (.product p.x q.y) (.product p.y q.x)

end Offset

/-! ### Error bounds -/

/-- The unit of the error bounds, `2 ^ (-106)`. -/
def boundUnit : Nat := twoPow 968

/-- The relative error of a determinant in plain arithmetic. -/
def plainBound : Double := .ofUnits ((3 * twoPow 53 - 94906242) * boundUnit)

/-- The relative error of a determinant of rounded offsets. -/
def offsetBound : Double := .ofUnits ((2 * twoPow 53 + 12) * boundUnit)

/-- The relative error of a rounded sum of the parts of an expansion. -/
def estimateBound : Double := .ofUnits ((3 * twoPow 53 + 8) * boundUnit)

/-- The relative error of a determinant with the errors of the offsets to first order. -/
def firstOrderBound : Double := .ofUnits ((9 * twoPow 53 + 64) * twoPow 915)

/-! ### The determinant -/

/-- The determinant of two offsets with their errors, without loss. -/
def fullDeterminant (p q pError qError : Offset) : Expansion :=
  (((p.determinant q).add (pError.determinant q)).add (p.determinant qError)).add
    (pError.determinant qError)

/-- The determinant of two points seen from a third, where plain arithmetic is not certain. The
size is that of the products in it. -/
def refinedDeterminant (a b c : Point) (size : Double) : Double :=
  let p := Offset.of a c
  let q := Offset.of b c
  let estimate := (p.determinant q).estimate
  let pError := p.error a c
  let qError := q.error b c
  if (offsetBound * size).le estimate.abs || (pError.isZero && qError.isZero) then estimate
  else
    let corrected := estimate +
      ((p.x * qError.y + q.y * pError.x) - (p.y * qError.x + q.x * pError.y))
    if (firstOrderBound * size + estimateBound * estimate.abs).le corrected.abs then corrected
    else (fullDeterminant p q pError qError).greatest

/-- The determinant of two points seen from a third. -/
def determinant (a b c : Point) : Double :=
  let p := Offset.of a c
  let q := Offset.of b c
  let left := p.x * q.y
  let right := p.y * q.x
  let plain := left - right
  let size := (left + right).abs
  if (plainBound * size).le plain.abs then plain else refinedDeterminant a b c size

/-- The sign of the turn from `a` over `b` to `c`: positive to the left, zero on a line. -/
def orientation (a b c : Point) : Int := (determinant a b c).sign

end SpatialCatalog.Planar
