import SpatialCatalog.Operation
import SpatialCatalog.Store.Query

/-!
# Operations on the store

`Store.perform` interprets the primitives of the catalog by the store in memory, and `Store.run`
runs an operation with them.
-/

namespace SpatialCatalog.Store

/-- Perform a primitive. -/
def perform : (p : Primitive) → Store → Result p.Reply × Store
  | .collectionExists id, s => (.ok (s.hasCollection id), s)
  | .insertCollection id data, s =>
    let (inserted, s') := s.insertCollection id data
    (.ok inserted, s')
  | .fetchCollection id, s => (.ok (s.collection? id), s)
  | .removeCollection id, s =>
    let (removed, s') := s.removeCollection id
    (.ok removed, s')
  | .insertItem r, s => s.insertItem r
  | .replaceItem r, s => s.replaceItem r
  | .removeItem id collection, s =>
    let (removed, s') := s.removeItem id collection
    (.ok removed, s')
  | .query plan, s => ((s.query plan).mapError .internal, s)

/-- Run an operation. -/
def run {α : Type} (p : Program α) (s : Store) : Result α × Store := p.run perform s

end SpatialCatalog.Store
