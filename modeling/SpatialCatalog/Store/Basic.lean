import SpatialCatalog.Document.Record
import SpatialCatalog.Planar.Basic
import Std.Data.ExtTreeMap

/-!
# The store in memory

A store has a table of collections by id, and a table of items by collection and id. With each item
it keeps the shape of its geometry, so that a search does not read the text again. Tables are
ordered by key: collections by id, items by collection and then by id.

Here are the primitive reads and writes. Each leaves the store as it was where it fails or has
nothing to do.
-/

namespace SpatialCatalog

/-- Where an item is filed. -/
structure ItemKey where
  collection : String
  id : String
deriving DecidableEq

/-- Items are ordered by collection, and within a collection by id. -/
instance : Ord ItemKey where
  compare := compareLex (compareOn ItemKey.collection) (compareOn ItemKey.id)

instance : Std.TransOrd ItemKey :=
  inferInstanceAs (Std.TransCmp (compareLex (compareOn ItemKey.collection) (compareOn ItemKey.id)))

instance : Std.LawfulEqOrd ItemKey where
  eq_of_compare {a b} h := by
    obtain ⟨hc, hi⟩ := Ordering.then_eq_eq.mp h
    cases a
    cases b
    simp only [compareOn] at hc hi
    simp [Std.LawfulEqOrd.eq_of_compare hc, Std.LawfulEqOrd.eq_of_compare hi]

/-- A stored item: its record, and the shape of its geometry. -/
structure Entry where
  record : ItemRecord
  shape : Planar.Shape

/-- Where a record is filed. -/
def ItemRecord.key (r : ItemRecord) : ItemKey := ⟨r.collection, r.id⟩

/-- A store of collections and items. -/
structure Store where
  collections : Std.ExtTreeMap String Json
  items : Std.ExtTreeMap ItemKey Entry

namespace Store

/-- The store with nothing in it. -/
def empty : Store := ⟨∅, ∅⟩

instance : Inhabited Store := ⟨empty⟩

/-- The entry of a record, whose geometry must be readable. -/
def entry (r : ItemRecord) : Except InternalFault Entry :=
  (Planar.Shape.parse r.geometry).map fun shape => ⟨r, shape⟩

def hasCollection (s : Store) (id : String) : Bool := s.collections.contains id

/-- Add a collection; false if there is one. -/
def insertCollection (s : Store) (id : String) (data : Json) : Bool × Store :=
  if s.hasCollection id then (false, s)
  else (true, { s with collections := s.collections.insert id data })

def collection? (s : Store) (id : String) : Option Json := s.collections[id]?

/-- Remove a collection with its items; false if there is none. -/
def removeCollection (s : Store) (id : String) : Bool × Store :=
  if s.hasCollection id then
    (true, { collections := s.collections.erase id
             items := s.items.filter fun key _ => key.collection != id })
  else (false, s)

/-- Add an item to a collection, which must be there; false if there is one with its key. -/
def insertItem (s : Store) (r : ItemRecord) : Result Bool × Store :=
  match entry r with
  | .error e => (.error (.internal e), s)
  | .ok entry =>
    if s.hasCollection r.collection then
      if s.items.contains r.key then (.ok false, s)
      else (.ok true, { s with items := s.items.insert r.key entry })
    else (.error (.notFound (.collection r.collection)), s)

/-- Replace an item; false if there is none. -/
def replaceItem (s : Store) (r : ItemRecord) : Result Bool × Store :=
  match entry r with
  | .error e => (.error (.internal e), s)
  | .ok entry =>
    if s.items.contains r.key then
      (.ok true, { s with items := s.items.insert r.key entry })
    else (.ok false, s)

/-- Remove an item; false if there is none. -/
def removeItem (s : Store) (id collection : String) : Bool × Store :=
  let key : ItemKey := ⟨collection, id⟩
  if s.items.contains key then (true, { s with items := s.items.erase key }) else (false, s)

end Store

end SpatialCatalog
