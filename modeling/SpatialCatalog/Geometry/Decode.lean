import SpatialCatalog.Error
import SpatialCatalog.Geometry.Raw

/-!
# Decoding geometries

`Geometry.ofRaw` looks at the type first, decodes the coordinates to the depth of that type, and
then checks lengths and closure: a line has two positions, a polygon has an exterior ring, a ring
has four positions and ends where it begins. Closure ignores altitudes.
-/

namespace SpatialCatalog

/-- A position is a list of numbers, of which the first three count. -/
def Position.decode (j : Json) : Decoded Position :=
  (j.list Json.double).bind fun
    | x :: y :: rest => .ok ⟨x, y, rest.head?⟩
    | values => .error (.shortPosition values.length)

/-- A result of decoding a geometry. -/
abbrev GeometryResult (α : Type) := Except GeometryFault α

namespace Geometry

/-- A line has two positions at least. -/
def line (ps : Positions) : GeometryResult Positions :=
  if ps.length < 2 then .error (.shortLine ps.length) else .ok ps

/-- Whether a ring ends where it begins. -/
def isClosed (ring : Positions) : Bool :=
  match ring.head?, ring.getLast? with
  | some first, some last => first.sameXY last
  | _, _ => false

/-- A ring has four positions at least and is closed. -/
def ring (ps : Positions) : GeometryResult Unit :=
  if ps.length < minimumRing then .error (.shortRing ps.length)
  else if isClosed ps then .ok () else .error .openRing

/-- A polygon has an exterior ring, and then its holes. -/
def rings (rs : List Positions) : GeometryResult (List Positions) :=
  if rs.isEmpty then .error .noExterior else (rs.forM ring).map fun _ => rs

/-- Decode the coordinates of a geometry, which must be there. -/
def coordinates {α : Type} (type : GeometryType) (decode : Json → Decoded α) :
    Option Json → GeometryResult α
  | none => .error (.missingCoordinates type)
  | some j => (decode j).mapError (.coordinates type)

/-- A list of positions. -/
def positions : Json → Decoded Positions := Json.list Position.decode

/-- A list of lists of positions. -/
def positionLists : Json → Decoded (List Positions) := Json.list positions

mutual

/-- Decode a geometry. -/
def ofRaw : RawGeometry → GeometryResult Geometry
  | ⟨name, cs, gs⟩ =>
    match GeometryType.ofName? name with
    | none => .error (.unknownType name)
    | some .point => (coordinates .point Position.decode cs).map point
    | some .multiPoint =>
      (coordinates .multiPoint positions cs).bind fun ps =>
        if ps.isEmpty then .error .noPositions else .ok (multiPoint ps)
    | some .lineString => ((coordinates .lineString positions cs).bind line).map lineString
    | some .polygon => ((coordinates .polygon positionLists cs).bind rings).map polygon
    | some .multiLineString =>
      ((coordinates .multiLineString positionLists cs).bind (·.mapM line)).map multiLineString
    | some .multiPolygon =>
      ((coordinates .multiPolygon (Json.list positionLists) cs).bind (·.mapM rings)).map
        multiPolygon
    | some .collection => ofRawMembers gs

/-- Decode the members of a collection, which must be given. -/
def ofRawMembers : Option (List RawGeometry) → GeometryResult Geometry
  | none => .error .missingMembers
  | some gs => (ofRawList gs).map collection

/-- Decode geometry by geometry. -/
def ofRawList : List RawGeometry → GeometryResult (List Geometry)
  | [] => .ok []
  | g :: gs => (ofRaw g).bind fun g' => (ofRawList gs).map (g' :: ·)

end

/-- Decode a geometry from a value. -/
def ofJson (j : Json) : GeometryResult Geometry :=
  ((RawGeometry.decode j).mapError .form).bind ofRaw

/-- Decode a geometry from a text. -/
def parse (text : String) : GeometryResult Geometry :=
  match RawGeometry.parse? text with
  | none => .error .textForm
  | some raw => ofRaw raw

end Geometry

end SpatialCatalog
