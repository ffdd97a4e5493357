import SpatialCatalog.Document.Record
import SpatialCatalog.Proofs.Success

/-!
# What a record says about its document

A record is faithful when its id, its collection and its text are those of its document.
`ItemRecord.ofItem_eq_ok_iff` says which items have a record and which record that is, and
`ItemRecord.faithful_ofItem` that it is faithful.
-/

namespace SpatialCatalog.ItemRecord

/-- The id and the collection stand in the document, and the text is the canonical one of the
geometry that the document decodes to. -/
structure Faithful (r : ItemRecord) : Prop where
  id_eq : r.data.get? "id" = some (.str r.id)
  collection_eq : r.data.get? "collection" = some (.str r.collection)
  geometry_eq : ∃ j g, r.data.get? "geometry" = some j ∧ Geometry.ofJson j = .ok g ∧
    g.text = .ok r.geometry

/-- The documents that have a geometry, and their geometries. -/
theorem geometryOf_eq_ok_iff {id : String} {data : Json} {g : Geometry} :
    geometryOf id data = .ok g ↔
      ∃ j, data.get? "geometry" = some j ∧ j ≠ .null ∧ Geometry.ofJson j = .ok g := by
  unfold geometryOf
  split
  next h => simp [h]
  next h => simp [h]
  next j hnull h =>
    constructor
    · exact fun hg => ⟨j, h, hnull, hg⟩
    · rintro ⟨j', hj', -, hg⟩
      rw [h, Option.some.injEq] at hj'
      exact hj' ▸ hg

theorem ofDocument_eq_ok_iff {id collection : String} {data : Json} {r : ItemRecord} :
    ofDocument id collection data = .ok r ↔
      r.id = id ∧ r.collection = collection ∧ r.data = data ∧
        ∃ g, geometryOf id data = .ok g ∧ g.text = .ok r.geometry := by
  simp only [ofDocument, do_eq_ok_iff, mapError_eq_ok_iff, pure_eq_ok_iff]
  constructor
  · rintro ⟨g, hg, text, ht, rfl⟩
    exact ⟨rfl, rfl, rfl, g, hg, ht⟩
  · rintro ⟨rfl, rfl, rfl, g, hg, ht⟩
    exact ⟨g, hg, _, ht, rfl⟩

/-- The items that have a record, and their records. -/
theorem ofItem_eq_ok_iff {item : Item} {r : ItemRecord} :
    ofItem item = .ok r ↔
      item.collection = some r.collection ∧ r.id = item.id ∧ r.data = item.document ∧
        ∃ g, geometryOf item.id item.document = .ok g ∧ g.text = .ok r.geometry := by
  unfold ofItem
  cases hc : item.collection with
  | none => simp
  | some c =>
    simp only [ofDocument_eq_ok_iff, Option.some.injEq]
    grind

theorem faithful_ofItem {item : Item} {r : ItemRecord} (h : ofItem item = .ok r) : r.Faithful := by
  obtain ⟨hc, hid, hdata, g, hg, ht⟩ := ofItem_eq_ok_iff.mp h
  obtain ⟨j, hj, -, hd⟩ := geometryOf_eq_ok_iff.mp hg
  refine ⟨?_, ?_, j, g, ?_, hd, ht⟩
  · rw [hdata, hid, item.id_eq]
  · rw [hdata, item.collection_eq, hc, Option.map_some]
  · rw [hdata, hj]

/-- A faithful record has an object for its document. -/
theorem Faithful.data_eq_obj {r : ItemRecord} (h : r.Faithful) : ∃ ms, r.data = .obj ms := by
  have hid := h.id_eq
  cases hd : r.data with
  | obj ms => exact ⟨ms, rfl⟩
  | _ => simp [hd, Json.get?] at hid

end SpatialCatalog.ItemRecord
