import SpatialCatalog.Bbox
import SpatialCatalog.Geometry.Decode
import SpatialCatalog.Geometry.Text
import SpatialCatalog.Search

/-!
# Query plans

A search is compiled once, into a filter, sort keys and a limit, and every store runs the same
plan. A collection of geometries becomes the alternative of its members, so an empty one matches
nothing, while an empty list of ids or collections does not restrict.
-/

namespace SpatialCatalog

/-- A condition on a stored item. -/
inductive Filter where
  /-- All of these hold; without any, always true. -/
  | all (filters : List Filter)
  /-- One of these holds; without any, never true. -/
  | any (filters : List Filter)
  | ids (ids : List String)
  | collections (ids : List String)
  /-- The box of the item's geometry meets this box. -/
  | envelope (box : Bbox)
  /-- The item's geometry meets the geometry with this text. -/
  | intersects (text : String)

/-- A key of a sort. -/
structure SortKey where
  field : SortField
  direction : Direction
deriving DecidableEq

/-- What a store needs to run a search. -/
structure QueryPlan where
  filter : Option Filter
  sort : List SortKey
  limit : Int

namespace Filter

mutual

/-- The condition that a geometry is met. -/
def ofGeometry : Geometry → Except InternalFault Filter
  | .collection members => (ofGeometries members).map any
  | g => g.text.map intersects

/-- The conditions that geometries are met, one by one. -/
def ofGeometries : List Geometry → Except InternalFault (List Filter)
  | [] => .ok []
  | g :: gs => (ofGeometry g).bind fun f => (ofGeometries gs).map (f :: ·)

end

/-- The condition that holds when all of a list do, without a wrapping where there is no need. -/
def conjunction? : List Filter → Option Filter
  | [] => none
  | [f] => some f
  | fs => some (all fs)

end Filter

namespace Search

/-- The spatial filter of an undecoded geometry. -/
def geometryFilter (raw : RawGeometry) : Result Filter :=
  ((Geometry.ofRaw raw).mapError .geometry).bind fun g =>
    (Filter.ofGeometry g).mapError .internal

/-- The condition on where the items are. A search has one at most. -/
def spatialFilter (s : Search) : Result (Option Filter) :=
  match s.bbox, s.geometry, s.geometrycollection with
  | none, none, none => .ok none
  | some values, none, none => ((Bbox.ofList values).map fun b => some (.envelope b)).mapError .request
  | none, some raw, none => (geometryFilter raw).map some
  | none, none, some raw =>
    if raw.type = GeometryType.collection.name then (geometryFilter raw).map some
    else .error (.geometry (.notCollection raw.type))
  | _, _, _ => .error (.request .severalSpatialFilters)

/-- The key that a directive stands for. -/
def sortKey (s : SortBy) : Except RequestFault SortKey :=
  s.resolve.map fun (field, direction) => ⟨field, direction⟩

/-- Compile a search. The limit is checked first, then the spatial filter, then the directives. -/
def compile (s : Search) : Result QueryPlan := do
  let limit ← s.effectiveLimit.mapError .request
  let spatial ← s.spatialFilter
  let sort ← (s.sortby.mapM sortKey).mapError .request
  let filters :=
    (if s.ids.isEmpty then [] else [Filter.ids s.ids]) ++
      (if s.collections.isEmpty then [] else [Filter.collections s.collections]) ++ spatial.toList
  return { filter := Filter.conjunction? filters, sort, limit }

end Search

end SpatialCatalog
