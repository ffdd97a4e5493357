import SpatialCatalog.Geometry.Basic
import SpatialCatalog.Json.Text

/-!
# Geometries as a store renders them

A store keeps a geometry as text and renders it as text. Such a text is read more leniently than a
request: any lengths, no closure, and every member is kept. Coordinates and boxes are written back
as binary64 values.
-/

namespace SpatialCatalog

/-- A position: easting, northing and any further coordinates. -/
structure RenderedPosition where
  x : Finite64
  y : Finite64
  more : List Finite64
deriving DecidableEq

/-- A ring or a line. -/
abbrev RenderedPositions := List RenderedPosition

/-- The members of a geometry other than its type and its parts. -/
structure RenderedMembers where
  bbox : Option (List Finite64)
  others : Members

/-- A geometry with all its members. -/
inductive RenderedGeometry where
  | point (p : RenderedPosition) (more : RenderedMembers)
  | multiPoint (ps : RenderedPositions) (more : RenderedMembers)
  | lineString (ps : RenderedPositions) (more : RenderedMembers)
  | polygon (rings : List RenderedPositions) (more : RenderedMembers)
  | multiLineString (lines : List RenderedPositions) (more : RenderedMembers)
  | multiPolygon (polygons : List (List RenderedPositions)) (more : RenderedMembers)
  | collection (members : List RenderedGeometry) (more : RenderedMembers)

/-! ### Reading -/

namespace Json

/-- A number as a finite value. -/
def finite? : Json → Option Finite64
  | num n => n.toDouble.toFinite?
  | _ => none

/-- A list, item by item. -/
def listOf? {α : Type} (read? : Json → Option α) : Json → Option (List α)
  | arr xs => xs.mapM read?
  | _ => none

end Json

/-- A position from a list of two or more numbers. -/
def RenderedPosition.ofJson? (j : Json) : Option RenderedPosition :=
  (j.listOf? Json.finite?).bind fun
    | x :: y :: more => some ⟨x, y, more⟩
    | _ => none

namespace RenderedMembers

/-- The members of an object other than the type, the box and one more key. -/
def ofMembers? (ms : Members) (part : String) : Option RenderedMembers :=
  let others := ms.filter fun m => !(["type", "bbox", part].contains m.1)
  match ms.get? "bbox" with
  | none | some .null => some ⟨none, others⟩
  | some j => (j.listOf? Json.finite?).map fun bbox => ⟨some bbox, others⟩

/-- The members as a list. -/
def toMembers (m : RenderedMembers) : Members :=
  (m.bbox.toList.map fun bbox => ("bbox", .arr (bbox.map .float))) ++ m.others

end RenderedMembers

namespace RenderedGeometry

def positions? : Json → Option RenderedPositions := Json.listOf? RenderedPosition.ofJson?

def positionLists? : Json → Option (List RenderedPositions) := Json.listOf? positions?

/-- The type that an object names. -/
def type? (ms : Members) : Option GeometryType :=
  match ms.get? "type" with
  | some (.str name) => GeometryType.ofName? name
  | _ => none

/-- Read the coordinates of an object and its other members. -/
def simple? {α : Type} (ms : Members) (read? : Json → Option α)
    (make : α → RenderedMembers → RenderedGeometry) : Option RenderedGeometry :=
  (ms.get? "coordinates").bind fun j => (read? j).bind fun a =>
    (RenderedMembers.ofMembers? ms "coordinates").map (make a)

mutual

/-- Read a geometry from a value. -/
def ofJson? : Json → Option RenderedGeometry
  | .obj ms =>
    match type? ms with
    | none => none
    | some .point => simple? ms RenderedPosition.ofJson? point
    | some .multiPoint => simple? ms positions? multiPoint
    | some .lineString => simple? ms positions? lineString
    | some .polygon => simple? ms positionLists? polygon
    | some .multiLineString => simple? ms positionLists? multiLineString
    | some .multiPolygon => simple? ms (Json.listOf? positionLists?) multiPolygon
    | some .collection =>
      (geometries? ms).bind fun gs =>
        (RenderedMembers.ofMembers? ms "geometries").map (collection gs)
  | _ => none

/-- Read the members of a collection, which an object must have. -/
def geometries? : List (String × Json) → Option (List RenderedGeometry)
  | [] => none
  | (key, j) :: ms => if key = "geometries" then items? j else geometries? ms

/-- Read an array of geometries. -/
def items? : Json → Option (List RenderedGeometry)
  | .arr xs => list? xs
  | _ => none

/-- Read geometry by geometry. -/
def list? : List Json → Option (List RenderedGeometry)
  | [] => some []
  | x :: xs => (ofJson? x).bind fun g => (list? xs).map (g :: ·)

end

/-- Read a geometry from a text. -/
def parse? (text : String) : Option RenderedGeometry := (Json.parse? text).bind ofJson?

/-! ### Writing -/

def positionToJson (p : RenderedPosition) : Json := .arr ((p.x :: p.y :: p.more).map .float)

def positionsToJson (ps : RenderedPositions) : Json := .arr (ps.map positionToJson)

def positionListsToJson (pss : List RenderedPositions) : Json := .arr (pss.map positionsToJson)

/-- An object with a type, one part and further members. -/
def object (type : GeometryType) (part : String) (value : Json) (more : RenderedMembers) : Json :=
  .obj (("type", .str type.name) :: (part, value) :: more.toMembers)

mutual

/-- A geometry as a value. -/
def toJson : RenderedGeometry → Json
  | point p more => object .point "coordinates" (positionToJson p) more
  | multiPoint ps more => object .multiPoint "coordinates" (positionsToJson ps) more
  | lineString ps more => object .lineString "coordinates" (positionsToJson ps) more
  | polygon rings more => object .polygon "coordinates" (positionListsToJson rings) more
  | multiLineString lines more =>
    object .multiLineString "coordinates" (positionListsToJson lines) more
  | multiPolygon polygons more =>
    object .multiPolygon "coordinates" (.arr (polygons.map positionListsToJson)) more
  | collection members more => object .collection "geometries" (.arr (listToJson members)) more

/-- Geometry by geometry. -/
def listToJson : List RenderedGeometry → List Json
  | [] => []
  | g :: gs => g.toJson :: listToJson gs

end

end RenderedGeometry

end SpatialCatalog
