import SpatialCatalog.Bbox
import SpatialCatalog.Geometry.Rendered

/-!
# Shapes in the plane

Intersection looks at eastings and northings alone. A `Shape` is a geometry without altitudes and
further members, whose rings are closed, and `Shape.box?` is the least box around it. The box of a
polygon is that of its exterior; what has no points has no box.
-/

namespace SpatialCatalog.Planar

/-- A point. Coordinates compare by value, so the sign of a zero does not count. -/
structure Point where
  x : Finite64
  y : Finite64
deriving DecidableEq

/-- Whether two points are at the same place. -/
def Point.same (p q : Point) : Bool := p.x.units == q.x.units && p.y.units == q.y.units

/-- A polygon: a ring around it and the rings around its holes. -/
structure Polygon where
  exterior : List Point
  holes : List (List Point)
deriving DecidableEq

/-- A shape. -/
inductive Shape where
  | point (p : Point)
  | multiPoint (ps : List Point)
  | lineString (ps : List Point)
  | polygon (p : Polygon)
  | multiLineString (lines : List (List Point))
  | multiPolygon (ps : List Polygon)
  | collection (members : List Shape)

/-! ### Construction -/

/-- A position without what is above the plane. -/
def Point.ofRendered (p : RenderedPosition) : Point := ⟨p.x, p.y⟩

/-- Points of a line. -/
def points (ps : RenderedPositions) : List Point := ps.map Point.ofRendered

/-- A ring that ends where it begins; the first point is repeated where it does not. -/
def closeRing (ps : List Point) : List Point :=
  match ps.head?, ps.getLast? with
  | some first, some last => if first.same last then ps else ps ++ [first]
  | _, _ => ps

/-- A polygon from its rings, the first of which is the exterior. -/
def Polygon.ofRings (rings : List RenderedPositions) : Polygon :=
  let closed := rings.map fun ring => closeRing (points ring)
  { exterior := closed.head?.getD [], holes := closed.tail }

namespace Shape

mutual

/-- The shape of a geometry. -/
def ofRendered : RenderedGeometry → Shape
  | .point p _ => point (.ofRendered p)
  | .multiPoint ps _ => multiPoint (points ps)
  | .lineString ps _ => lineString (points ps)
  | .polygon rings _ => polygon (.ofRings rings)
  | .multiLineString lines _ => multiLineString (lines.map points)
  | .multiPolygon polygons _ => multiPolygon (polygons.map .ofRings)
  | .collection members _ => collection (listOfRendered members)

/-- Shape by shape. -/
def listOfRendered : List RenderedGeometry → List Shape
  | [] => []
  | g :: gs => ofRendered g :: listOfRendered gs

end

/-- The shape of a text, which a store must be able to read. -/
def parse (text : String) : Except InternalFault Shape :=
  match RenderedGeometry.parse? text with
  | some g => .ok (ofRendered g)
  | none => .error .geometryText

end Shape

/-! ### Boxes -/

/-- The lesser of two values. -/
def lesser (a b : Finite64) : Finite64 := if a.units ≤ b.units then a else b

/-- The greater of two values. -/
def greater (a b : Finite64) : Finite64 := if a.units ≤ b.units then b else a

/-- A box around something. -/
structure Box where
  minX : Finite64
  minY : Finite64
  maxX : Finite64
  maxY : Finite64
deriving DecidableEq

namespace Box

def ofPoint (p : Point) : Box := ⟨p.x, p.y, p.x, p.y⟩

/-- The least box around two. -/
def union (a b : Box) : Box :=
  ⟨lesser a.minX b.minX, lesser a.minY b.minY, greater a.maxX b.maxX, greater a.maxY b.maxY⟩

/-- The least box around two, either of which may be missing. -/
def union? : Option Box → Option Box → Option Box
  | some a, some b => some (a.union b)
  | some a, none => some a
  | none, b => b

/-- The least box around points. -/
def ofPoints? (ps : List Point) : Option Box :=
  ps.foldl (fun box p => union? box (some (ofPoint p))) none

/-- Whether two boxes have no point in common. -/
def apart (a b : Box) : Bool :=
  decide (a.maxX.units < b.minX.units) || decide (b.maxX.units < a.minX.units) ||
    decide (a.maxY.units < b.minY.units) || decide (b.maxY.units < a.minY.units)

/-- Whether two boxes are both there and have no point in common. -/
def apart? : Option Box → Option Box → Bool
  | some a, some b => a.apart b
  | _, _ => false

/-- The box as an envelope. -/
def toBbox (b : Box) : Bbox := ⟨b.minX, b.minY, b.maxX, b.maxY⟩

end Box

namespace Shape

mutual

/-- The least box around a shape. -/
def box? : Shape → Option Box
  | point p => some (.ofPoint p)
  | multiPoint ps => Box.ofPoints? ps
  | lineString ps => Box.ofPoints? ps
  | polygon p => Box.ofPoints? p.exterior
  | multiLineString lines => Box.ofPoints? lines.flatten
  | multiPolygon ps => Box.ofPoints? (ps.flatMap Polygon.exterior)
  | collection members => boxOfAll? members

/-- The least box around shapes. -/
def boxOfAll? : List Shape → Option Box
  | [] => none
  | s :: ss => Box.union? s.box? (boxOfAll? ss)

end

end Shape

end SpatialCatalog.Planar
