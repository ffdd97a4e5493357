import SpatialCatalog.Json.Order
import SpatialCatalog.Json.Path
import SpatialCatalog.Plan
import SpatialCatalog.Planar.Intersection
import SpatialCatalog.Store.Basic

/-!
# Searching the store

A plan is run in three steps: the items for which its filter holds, sorted by its keys, cut at its
limit. Items that no key tells apart stay in the order of the table.

The texts of a filter's geometries are read once, into a `Condition`, before any item is looked at.
-/

namespace SpatialCatalog.Store

/-- A filter with its geometries read. -/
inductive Condition where
  | all (conditions : List Condition)
  | any (conditions : List Condition)
  | ids (ids : List String)
  | collections (ids : List String)
  | envelope (box : Bbox)
  | intersects (shape : Planar.Shape)

namespace Condition

mutual

/-- Read the geometries of a filter. -/
def ofFilter : Filter → Except InternalFault Condition
  | .all fs => (ofFilters fs).map all
  | .any fs => (ofFilters fs).map any
  | .ids xs => .ok (ids xs)
  | .collections xs => .ok (collections xs)
  | .envelope box => .ok (envelope box)
  | .intersects text => (Planar.Shape.parse text).map intersects

/-- Filter by filter. -/
def ofFilters : List Filter → Except InternalFault (List Condition)
  | [] => .ok []
  | f :: fs => (ofFilter f).bind fun c => (ofFilters fs).map (c :: ·)

end

mutual

/-- Whether a condition holds of an entry. What has no box meets no envelope. -/
def holds : Condition → Entry → Bool
  | all cs, e => holdAll cs e
  | any cs, e => holdAny cs e
  | ids xs, e => xs.contains e.record.id
  | collections xs, e => xs.contains e.record.collection
  | envelope box, e => e.shape.box?.any fun b => box.meets b.toBbox
  | intersects shape, e => e.shape.intersects shape

def holdAll : List Condition → Entry → Bool
  | [], _ => true
  | c :: cs, e => c.holds e && holdAll cs e

def holdAny : List Condition → Entry → Bool
  | [], _ => false
  | c :: cs, e => c.holds e || holdAny cs e

end

end Condition

/-- Compare two values of which either may be missing; what is missing comes last. -/
def compareMissing : Option Json → Option Json → Ordering
  | some a, some b => a.compareTop b
  | some _, none => .lt
  | none, some _ => .gt
  | none, none => .eq

/-- Compare two items on one field. -/
def compareField (a b : ItemRecord) : SortField → Ordering
  | .column .id => compare a.id b.id
  | .column .collection => compare a.collection b.collection
  | .path path => compareMissing (a.data.at? path) (b.data.at? path)

/-- Compare two items on one key. -/
def compareKey (a b : ItemRecord) (key : SortKey) : Ordering :=
  match key.direction with
  | .ascending => compareField a b key.field
  | .descending => (compareField a b key.field).swap

/-- Compare two items on keys; the first difference counts. -/
def compareRecords (keys : List SortKey) (a b : ItemRecord) : Ordering :=
  keys.foldr (fun key later => (compareKey a b key).then later) .eq

/-- An item as the store gives it back. -/
def Entry.stored (e : Entry) : StoredItem :=
  { id := e.record.id
    collection := e.record.collection
    data := e.record.data
    geometry := some e.record.geometry }

/-- The items for which a condition holds, in the order of the table. -/
def select (s : Store) (condition : Option Condition) : List Entry :=
  s.items.values.filter fun e => condition.all (·.holds e)

/-- Run a plan. The geometries of its filter must be readable, and its limit not negative. -/
def query (s : Store) (plan : QueryPlan) : Except InternalFault (List StoredItem) :=
  (plan.filter.mapM Condition.ofFilter).bind fun condition =>
    if plan.limit < 0 then .error (.negativeLimit plan.limit)
    else
      let sorted := (s.select condition).mergeSort fun a b =>
        (compareRecords plan.sort a.record b.record).isLE
      .ok ((sorted.take plan.limit.toNat).map Entry.stored)

end SpatialCatalog.Store
