import SpatialCatalog.Error

/-!
# Canonical texts of geometries

A geometry has one canonical text: no spaces, the type first, and every coordinate written with a
point or an exponent. Only finite coordinates can be written.
-/

namespace SpatialCatalog

/-- A finite value as a number of a document. -/
def Double.toJson? (x : Double) : Option Json := x.toFinite?.map .float

/-- A list of finite values as a position of a document. -/
def coordinatesToJson? (xs : List Double) : Option Json := (xs.mapM Double.toJson?).map .arr

namespace Position

def toJson? (p : Position) : Option Json := coordinatesToJson? p.coordinates

end Position

namespace Geometry

/-- Positions as an array. -/
def positionsToJson? (ps : Positions) : Option Json := (ps.mapM Position.toJson?).map .arr

/-- Lists of positions as an array. -/
def positionListsToJson? (pss : List Positions) : Option Json :=
  (pss.mapM positionsToJson?).map .arr

/-- An object with the type of a geometry and its coordinates. -/
def typed (type : GeometryType) (key : String) (value : Json) : Json :=
  .obj [("type", .str type.name), (key, value)]

mutual

/-- A geometry as a value, if all its coordinates are finite. -/
def toJson? : Geometry → Option Json
  | point p => p.toJson?.map (typed .point "coordinates")
  | multiPoint ps => (positionsToJson? ps).map (typed .multiPoint "coordinates")
  | lineString ps => (positionsToJson? ps).map (typed .lineString "coordinates")
  | polygon rings => (positionListsToJson? rings).map (typed .polygon "coordinates")
  | multiLineString lines => (positionListsToJson? lines).map (typed .multiLineString "coordinates")
  | multiPolygon polygons =>
    (polygons.mapM positionListsToJson?).map fun items =>
      typed .multiPolygon "coordinates" (.arr items)
  | collection members =>
    (listToJson? members).map fun items => typed .collection "geometries" (.arr items)

/-- Geometry by geometry. -/
def listToJson? : List Geometry → Option (List Json)
  | [] => some []
  | g :: gs => g.toJson?.bind fun j => (listToJson? gs).map (j :: ·)

end

/-- The canonical text of a geometry. -/
def text (g : Geometry) : Except InternalFault String :=
  match g.toJson? with
  | none => .error (.nonFinite g.type)
  | some j => .ok j.render

end Geometry

end SpatialCatalog
