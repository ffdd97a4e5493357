import SpatialCatalog.Document.Item
import SpatialCatalog.Geometry.Decode
import SpatialCatalog.Geometry.Rendered
import SpatialCatalog.Geometry.Text

/-!
# Item records

An item is stored as a record: its id, its collection, its whole document, and the canonical text
of the geometry that is decoded from the document. A store gives back the document with the text
that it renders, which replaces the geometry of the document in the feature that is returned.
-/

namespace SpatialCatalog

/-- An item ready to be stored. -/
structure ItemRecord where
  id : String
  collection : String
  data : Json
  geometry : String

/-- An item as a store gives it back. -/
structure StoredItem where
  id : String
  collection : String
  data : Json
  geometry : Option String

namespace ItemRecord

/-- The geometry of a document, which must have one. -/
def geometryOf (id : String) (data : Json) : GeometryResult Geometry :=
  match data.get? "geometry" with
  | none | some .null => .error (.missing id)
  | some j => Geometry.ofJson j

/-- The record of a document. -/
def ofDocument (id collection : String) (data : Json) : Result ItemRecord := do
  let g ← (geometryOf id data).mapError .geometry
  let geometry ← g.text.mapError .internal
  return { id, collection, data, geometry }

/-- The record of an item, which must have a collection. -/
def ofItem (item : Item) : Result ItemRecord :=
  match item.collection with
  | none => .error (.request (.itemWithoutCollection item.id))
  | some collection => ofDocument item.id collection item.document

end ItemRecord

namespace StoredItem

/-- The feature of a stored item: its document with the geometry that the store renders. -/
def toFeature (s : StoredItem) : Result Members :=
  match s.data with
  | .obj ms =>
    match s.geometry with
    | none => .ok ms
    | some text =>
      match RenderedGeometry.parse? text with
      | some g => .ok (Members.set ms "geometry" g.toJson)
      | none => .error (.internal .renderedText)
  | _ => .error (.internal (.storedItem s.id s.collection))

end StoredItem

end SpatialCatalog
