import SpatialCatalog.Error

/-!
# Bounding boxes

A box is given by four numbers, or by six, of which the altitudes are dropped. Its corners are kept
as they were given: a box whose least easting is above its greatest is not corrected, and meets
only what reaches across the gap between the two.
-/

namespace SpatialCatalog

/-- A box in the plane. -/
structure Bbox where
  minX : Double
  minY : Double
  maxX : Double
  maxY : Double
deriving DecidableEq

namespace Bbox

/-- A box from four or six numbers. -/
def ofList : List Double → Except RequestFault Bbox
  | [minX, minY, maxX, maxY] => .ok { minX, minY, maxX, maxY }
  | [minX, minY, _, maxX, maxY, _] => .ok { minX, minY, maxX, maxY }
  | _ => .error .bboxLength

/-- The four numbers of a box. -/
def toList (b : Bbox) : List Double := [b.minX, b.minY, b.maxX, b.maxY]

/-- Whether a box meets the envelope between two corners; touching counts. -/
def meets (b envelope : Bbox) : Bool :=
  envelope.minX.le b.maxX && b.minX.le envelope.maxX &&
    envelope.minY.le b.maxY && b.minY.le envelope.maxY

end Bbox

end SpatialCatalog
