import SpatialCatalog.Document.Schema

/-!
# Items and collections

An item or a collection is a document that has been read against its schema, together with the
members that the catalog looks at. The types hold the proof that these are those of the document.
-/

namespace SpatialCatalog

/-- An item. -/
structure Item where
  id : String
  collection : Option String
  document : Json
  id_eq : document.get? "id" = some (.str id)
  collection_eq : document.get? "collection" = collection.map .str

/-- An item from a document that has been read. -/
def Item.ofDocument? (document : Json) : Option Item :=
  match hid : document.get? "id", hc : document.get? "collection" with
  | some (.str id), none => some ⟨id, none, document, hid, hc⟩
  | some (.str id), some (.str c) => some ⟨id, some c, document, hid, hc⟩
  | _, _ => none

/-- An item from any document. -/
def Item.ofJson? (j : Json) : Option Item := (Schema.item.read j).bind Item.ofDocument?

/-- A collection. -/
structure Collection where
  id : String
  document : Json
  id_eq : document.get? "id" = some (.str id)

/-- A collection from a document that has been read. -/
def Collection.ofDocument? (document : Json) : Option Collection :=
  match hid : document.get? "id" with
  | some (.str id) => some ⟨id, document, hid⟩
  | _ => none

/-- A collection from any document. -/
def Collection.ofJson? (j : Json) : Option Collection :=
  (Schema.collection.read j).bind Collection.ofDocument?

end SpatialCatalog
