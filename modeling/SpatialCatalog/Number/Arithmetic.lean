import SpatialCatalog.Number.Binary64

/-!
# Arithmetic of binary64 values

A sum or a product is that of the exact values, rounded to nearest with ties to even. What is too
large becomes infinite, and what has no value is not a number.
-/

namespace SpatialCatalog.Double

/-- Zero, with the positive sign. -/
def zero : Double := .finite (.zero false)

/-- The value nearest to a number of units. -/
def ofUnits (n : Nat) : Double := ofRatio false n 1

/-- The opposite value. -/
def neg : Double → Double
  | finite x => finite ⟨!x.negative, x.magnitude, x.representable⟩
  | infinite negative => infinite !negative
  | nan negative => nan !negative

/-- The rounded sum. A sum that is exactly zero is positive, unless both parts are negative
zeros. -/
def add : Double → Double → Double
  | nan negative, _ => nan negative
  | _, nan negative => nan negative
  | infinite a, infinite b => if a = b then infinite a else nan false
  | infinite a, finite _ => infinite a
  | finite _, infinite b => infinite b
  | finite x, finite y =>
    let n := x.units + y.units
    if n = 0 then .finite (.zero (x.negative && y.negative))
    else ofRatio (decide (n < 0)) n.natAbs 1

/-- The rounded product. -/
def mul : Double → Double → Double
  | nan negative, _ => nan negative
  | _, nan negative => nan negative
  | infinite a, infinite b => infinite (a != b)
  | infinite a, finite y => if y.magnitude = 0 then nan false else infinite (a != y.negative)
  | finite x, infinite b => if x.magnitude = 0 then nan false else infinite (x.negative != b)
  | finite x, finite y => ofRatio (x.negative != y.negative) (x.magnitude * y.magnitude) unitsPerOne

instance : Neg Double := ⟨neg⟩

instance : Add Double := ⟨add⟩

instance : Sub Double := ⟨fun x y => x.add y.neg⟩

instance : Mul Double := ⟨mul⟩

/-- The value without its sign. -/
def abs : Double → Double
  | finite x => finite ⟨false, x.magnitude, x.representable⟩
  | infinite _ => infinite false
  | nan _ => nan false

/-- Strictly less; nothing compares with what is not a number. -/
def lt (x y : Double) : Bool := x.le y && !y.le x

/-- Whether a value is zero, of either sign. -/
def isZero : Double → Bool
  | finite x => x.magnitude == 0
  | _ => false

/-- The sign of a value: `1`, `-1`, or zero, which is also that of what is not a number. -/
def sign : Double → Int
  | finite x => x.units.sign
  | infinite negative => if negative then -1 else 1
  | nan _ => 0

end SpatialCatalog.Double
