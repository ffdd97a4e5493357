import SpatialCatalog.Plan
import SpatialCatalog.Sql.Parameter

/-!
# Searches as statements

A plan becomes a `SELECT` over the table of items. Ids, collections, numbers, paths and geometries
are parameters; the statement itself holds only their numbers.

* `Condition` and `Select` are the parts of the statement, with parameters by number from one.
* `Condition.ofFilter` and `Select.ofPlan` build them, with the parameters in order.
* `Select.text` writes the statement.
-/

namespace SpatialCatalog.Sql

/-- The reference system of stored geometries. -/
def referenceSystem : Nat := 4326

/-- How many decimals a stored geometry is rendered with. -/
def renderedDecimals : Nat := 15

/-- A condition on a row. Numbers stand for parameters. -/
inductive Condition where
  | all (conditions : List Condition)
  | any (conditions : List Condition)
  | oneOf (column : Column) (values : Nat)
  | envelope (minX minY maxX maxY : Nat)
  | intersects (geometry : Nat)

/-- What rows are ordered by: a column, or a path in the document. -/
inductive OrderField where
  | column (c : Column)
  | path (keys : Nat)
deriving DecidableEq

/-- A key of the order of rows. -/
structure OrderKey where
  field : OrderField
  direction : Direction
deriving DecidableEq

/-- A search over the table of items. -/
structure Select where
  condition : Option Condition
  order : List OrderKey
  limit : Nat

/-! ### Building -/

namespace Condition

mutual

/-- The condition of a filter and its parameters, after `n` parameters. -/
def ofFilter : Nat → Filter → Condition × List Parameter
  | n, .all fs =>
    let (cs, ps) := ofFilters n fs
    (all cs, ps)
  | n, .any fs =>
    let (cs, ps) := ofFilters n fs
    (any cs, ps)
  | n, .ids ids => (oneOf .id (n + 1), [.textArray ids])
  | n, .collections ids => (oneOf .collection (n + 1), [.textArray ids])
  | n, .envelope box => (envelope (n + 1) (n + 2) (n + 3) (n + 4), box.toList.map .float)
  | n, .intersects text => (intersects (n + 1), [.text text])

/-- The conditions of a list of filters and their parameters. -/
def ofFilters : Nat → List Filter → List Condition × List Parameter
  | _, [] => ([], [])
  | n, f :: fs =>
    let (c, ps) := ofFilter n f
    let (cs, qs) := ofFilters (n + ps.length) fs
    (c :: cs, ps ++ qs)

end

/-- The condition of a filter that may be absent. -/
def ofFilter? (n : Nat) : Option Filter → Option Condition × List Parameter
  | none => (none, [])
  | some f =>
    let (c, ps) := ofFilter n f
    (some c, ps)

end Condition

/-- The order of a sort and its parameters, after `n` parameters. -/
def OrderKey.ofSort : Nat → List SortKey → List OrderKey × List Parameter
  | _, [] => ([], [])
  | n, ⟨.column c, direction⟩ :: keys =>
    let (order, ps) := ofSort n keys
    (⟨.column c, direction⟩ :: order, ps)
  | n, ⟨.path path, direction⟩ :: keys =>
    let (order, ps) := ofSort (n + 1) keys
    (⟨.path (n + 1), direction⟩ :: order, .textArray path :: ps)

/-- The statement of a plan and its parameters. The limit is the last of them. -/
def Select.ofPlan (plan : QueryPlan) : Select × List Parameter :=
  let (condition, ps) := Condition.ofFilter? 0 plan.filter
  let (order, qs) := OrderKey.ofSort ps.length plan.sort
  ({ condition, order, limit := (ps ++ qs).length + 1 }, ps ++ qs ++ [.bigint plan.limit])

/-! ### Writing -/

/-- A parameter in a statement. -/
def placeholder (n : Nat) : String := "$" ++ decimalText n

/-- A geometry made from a parameter. -/
def geometryOf (n : Nat) : String :=
  "ST_SetSRID(ST_GeomFromGeoJSON(" ++ placeholder n ++ "::text), " ++
    decimalText referenceSystem ++ ")"

namespace Condition

mutual

/-- A condition in a statement. Lists are in parentheses; an empty one is a constant. -/
def text : Condition → String
  | all [] => "TRUE"
  | all (c :: cs) => "(" ++ c.text ++ textAfter " AND " cs ++ ")"
  | any [] => "FALSE"
  | any (c :: cs) => "(" ++ c.text ++ textAfter " OR " cs ++ ")"
  | oneOf column values => column.name ++ " = ANY(" ++ placeholder values ++ ")"
  | envelope minX minY maxX maxY =>
    "(ST_XMin(geometry) <= " ++ placeholder maxX ++ " AND ST_XMax(geometry) >= " ++
      placeholder minX ++ " AND ST_YMin(geometry) <= " ++ placeholder maxY ++
      " AND ST_YMax(geometry) >= " ++ placeholder minY ++ ")"
  | intersects geometry => "ST_Intersects(geometry, " ++ geometryOf geometry ++ ")"

/-- Further conditions, each after a word. -/
def textAfter (word : String) : List Condition → String
  | [] => ""
  | c :: cs => word ++ c.text ++ textAfter word cs

end

end Condition

namespace OrderField

def text : OrderField → String
  | column c => c.name
  | path keys => "data #> " ++ placeholder keys ++ "::text[]"

end OrderField

namespace OrderKey

def text (k : OrderKey) : String :=
  match k.direction with
  | .ascending => k.field.text ++ " ASC"
  | .descending => k.field.text ++ " DESC"

end OrderKey

namespace Select

/-- What a search selects, and from where. -/
def head : String :=
  "SELECT id, collection, data, ST_AsGeoJSON(geometry, " ++ decimalText renderedDecimals ++
    ") AS geometry FROM items"

/-- The text of a search. -/
def text (s : Select) : String :=
  head ++
    (match s.condition with
      | none => ""
      | some c => " WHERE " ++ c.text) ++
    (if s.order.isEmpty then ""
      else " ORDER BY " ++ String.intercalate ", " (s.order.map OrderKey.text)) ++
    " LIMIT " ++ placeholder s.limit

end Select

end SpatialCatalog.Sql
