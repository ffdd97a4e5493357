import SpatialCatalog.Number.Binary64

/-!
# Geometries

Points, lines, polygons, their multiples and collections of any of these, on positions with an
optional altitude. Decoding and construction have their own modules; here are the types, equality
by numerical value, and finiteness.
-/

namespace SpatialCatalog

/-- A position: easting, northing and an optional altitude. -/
structure Position where
  x : Double
  y : Double
  z : Option Double := none
deriving DecidableEq

namespace Position

/-- Equal horizontally, whatever the altitudes. -/
def sameXY (p q : Position) : Bool := p.x.same q.x && p.y.same q.y

def isFinite (p : Position) : Bool :=
  p.x.isFinite && p.y.isFinite && p.z.all Double.isFinite

/-- Numerically equal, with altitude. -/
def same (p q : Position) : Bool :=
  p.sameXY q &&
    match p.z, q.z with
    | some a, some b => a.same b
    | none, none => true
    | _, _ => false

/-- The coordinates in order. -/
def coordinates (p : Position) : List Double := p.x :: p.y :: p.z.toList

end Position

/-- A ring or a line. -/
abbrev Positions := List Position

/-- The seven types of geometries. -/
inductive GeometryType where
  | point
  | multiPoint
  | lineString
  | polygon
  | multiLineString
  | multiPolygon
  | collection
deriving DecidableEq

namespace GeometryType

/-- The name in a document. -/
def name : GeometryType → String
  | point => "Point"
  | multiPoint => "MultiPoint"
  | lineString => "LineString"
  | polygon => "Polygon"
  | multiLineString => "MultiLineString"
  | multiPolygon => "MultiPolygon"
  | collection => "GeometryCollection"

/-- All types. -/
def all : List GeometryType :=
  [point, multiPoint, lineString, polygon, multiLineString, multiPolygon, collection]

/-- The type with a name. -/
def ofName? (s : String) : Option GeometryType := all.find? (·.name == s)

@[simp] theorem ofName?_name (t : GeometryType) : ofName? t.name = some t := by
  cases t <;> decide

end GeometryType

/-- A geometry. -/
inductive Geometry where
  | point (p : Position)
  | multiPoint (ps : Positions)
  | lineString (ps : Positions)
  | polygon (rings : List Positions)
  | multiLineString (lines : List Positions)
  | multiPolygon (polygons : List (List Positions))
  | collection (members : List Geometry)

namespace Geometry

/-- The type of a geometry. -/
def type : Geometry → GeometryType
  | point _ => .point
  | multiPoint _ => .multiPoint
  | lineString _ => .lineString
  | polygon _ => .polygon
  | multiLineString _ => .multiLineString
  | multiPolygon _ => .multiPolygon
  | collection _ => .collection

mutual

/-- Whether all coordinates, altitudes included, are finite. -/
def isFinite : Geometry → Bool
  | point p => p.isFinite
  | multiPoint ps => ps.all Position.isFinite
  | lineString ps => ps.all Position.isFinite
  | polygon rings => rings.all (·.all Position.isFinite)
  | multiLineString lines => lines.all (·.all Position.isFinite)
  | multiPolygon polygons => polygons.all (·.all (·.all Position.isFinite))
  | collection members => allFinite members

/-- Whether all geometries are finite. -/
def allFinite : List Geometry → Bool
  | [] => true
  | g :: gs => g.isFinite && allFinite gs

end

end Geometry

/-- Two lists of equal length, related item by item. -/
def allSame {α : Type} (same : α → α → Bool) : List α → List α → Bool
  | [], [] => true
  | a :: as, b :: bs => same a b && allSame same as bs
  | _, _ => false

namespace Geometry

mutual

/-- Equal in shape, and numerically equal in every coordinate. -/
def same : Geometry → Geometry → Bool
  | point p, point q => p.same q
  | multiPoint ps, multiPoint qs => allSame Position.same ps qs
  | lineString ps, lineString qs => allSame Position.same ps qs
  | polygon ps, polygon qs => allSame (allSame Position.same) ps qs
  | multiLineString ps, multiLineString qs => allSame (allSame Position.same) ps qs
  | multiPolygon ps, multiPolygon qs => allSame (allSame (allSame Position.same)) ps qs
  | collection gs, collection hs => sameMembers gs hs
  | _, _ => false

/-- Equal item by item. -/
def sameMembers : List Geometry → List Geometry → Bool
  | [], [] => true
  | g :: gs, h :: hs => g.same h && sameMembers gs hs
  | _, _ => false

end

end Geometry

end SpatialCatalog
