import SpatialCatalog.Document.Record
import SpatialCatalog.Planar.Intersection
import SpatialCatalog.Proofs.Sql.Grammar
import SpatialCatalog.Sql.Select

/-!
# What an expression evaluates to

Expressions are evaluated in a row, with the parameters of the statement. Truth has three values, as
a comparison with null is neither true nor false, and a row is selected where a condition is true.

Geometries of the database are of a type of its own, of which only a few functions are known
(`PostGis`). `PostGis.Faithful` says that these functions are those of shapes in the plane.
-/

namespace SpatialCatalog.Sql

/-! ### Geometries of the database -/

/-- Functions on the geometries of a database. A geometry without points has no bounds. -/
structure PostGis (G : Type) where
  /-- The geometry of a text, if the text is accepted. -/
  ofGeoJson : String → Option G
  setSrid : G → Int → G
  xMin : G → Option Double
  yMin : G → Option Double
  xMax : G → Option Double
  yMax : G → Option Double
  intersects : G → G → Bool

namespace PostGis

variable {G : Type} (db : PostGis G)

/-- The geometry that a text is stored as, and that a search compares with. -/
def geometry? (text : String) : Option G := (db.ofGeoJson text).map (db.setSrid · referenceSystem)

/-- A geometry was made from a text that is read as a shape. -/
def Shows (g : G) (shape : Planar.Shape) : Prop :=
  ∃ text, Planar.Shape.parse text = .ok shape ∧ db.geometry? text = some g

/-- The database accepts the texts that shapes are read from, and the geometries that it makes from
them have the bounds of the shapes and intersect where the shapes do. -/
structure Faithful : Prop where
  accepts : ∀ {text shape}, Planar.Shape.parse text = .ok shape → (db.ofGeoJson text).isSome
  xMin : ∀ {g shape}, db.Shows g shape → db.xMin g = shape.box?.map fun b => ↑b.minX
  yMin : ∀ {g shape}, db.Shows g shape → db.yMin g = shape.box?.map fun b => ↑b.minY
  xMax : ∀ {g shape}, db.Shows g shape → db.xMax g = shape.box?.map fun b => ↑b.maxX
  yMax : ∀ {g shape}, db.Shows g shape → db.yMax g = shape.box?.map fun b => ↑b.maxY
  intersects : ∀ {g h shape other}, db.Shows g shape → db.Shows h other →
    db.intersects g h = shape.intersects other

end PostGis

/-! ### Values -/

/-- A value. Truth values and numbers may be null, which is `none`. -/
inductive Value (G : Type) where
  | bool (b : Option Bool)
  | float (x : Option Double)
  | integer (n : Int)
  | text (s : String)
  | textArray (ss : List String)
  | geometry (g : G)

/-- A row of the table of items, as far as conditions can be about it. -/
structure Row (G : Type) where
  id : String
  collection : String
  geometry : G

/-- At most, where what is not a number is the greatest of all and equal to itself. -/
def floatLe (x : Double) : Double → Bool
  | .nan _ => true
  | y => x.le y

/-- Conjunction of three values: false where one is false, else null where one is null. -/
def kleeneAnd : Option Bool → Option Bool → Option Bool
  | some false, _ => some false
  | _, some false => some false
  | some true, some true => some true
  | _, _ => none

/-- Disjunction of three values. -/
def kleeneOr : Option Bool → Option Bool → Option Bool
  | some true, _ => some true
  | _, some true => some true
  | some false, some false => some false
  | _, _ => none

/-- Compare two numbers. -/
def Comparator.ofFloats : Comparator → Double → Double → Bool
  | equal, x, y => floatLe x y && floatLe y x
  | atMost, x, y => floatLe x y
  | atLeast, x, y => floatLe y x

namespace Value

variable {G : Type}

def ofParameter : Parameter → Value G
  | .text s => text s
  | .textArray ss => textArray ss
  | .float x => float (some x)
  | .bigint n => integer n

/-- Compare two values; what is compared with null is null. -/
def compare? (op : Comparator) : Value G → Value G → Option (Value G)
  | float x, float y => some (bool (x.bind fun x => y.map (op.ofFloats x)))
  | text s, text t => if op = .equal then some (bool (some (s == t))) else none
  | _, _ => none

/-- Compare a value with the elements of an array. -/
def compareAny? (op : Comparator) : Value G → Value G → Option (Value G)
  | text s, textArray ss => if op = .equal then some (bool (some (ss.contains s))) else none
  | _, _ => none

/-- Cast a value; texts are texts already. -/
def cast? : Value G → String → Option (Value G)
  | text s, "text" => some (text s)
  | _, _ => none

/-- Apply an operation to two truth values. -/
def connect? (op : Option Bool → Option Bool → Option Bool) : Value G → Value G → Option (Value G)
  | bool a, bool b => some (bool (op a b))
  | _, _ => none

end Value

/-- The row that a record is stored as. -/
def Row.ofRecord? {G : Type} (db : PostGis G) (r : ItemRecord) : Option (Row G) :=
  (db.geometry? r.geometry).map fun geometry => { id := r.id, collection := r.collection, geometry }

/-- The value in a column. -/
def Row.column? {G : Type} (row : Row G) : String → Option (Value G)
  | "id" => some (.text row.id)
  | "collection" => some (.text row.collection)
  | "geometry" => some (.geometry row.geometry)
  | _ => none

/-- Call a function of the database. -/
def PostGis.call? {G : Type} (db : PostGis G) : String → List (Value G) → Option (Value G)
  | "st_xmin", [.geometry g] => some (.float (db.xMin g))
  | "st_ymin", [.geometry g] => some (.float (db.yMin g))
  | "st_xmax", [.geometry g] => some (.float (db.xMax g))
  | "st_ymax", [.geometry g] => some (.float (db.yMax g))
  | "st_geomfromgeojson", [.text s] => (db.ofGeoJson s).map .geometry
  | "st_setsrid", [.geometry g, .integer n] => some (.geometry (db.setSrid g n))
  | "st_intersects", [.geometry g, .geometry h] => some (.bool (some (db.intersects g h)))
  | _, _ => none

namespace Expr

variable {G : Type} (db : PostGis G) (row : Row G) (parameters : List Parameter)

mutual

/-- The value of an expression, if it has one. Parameters are numbered from one. -/
def eval : Expr → Option (Value G)
  | constant b => some (.bool (some b))
  | number n => some (.integer n)
  | parameter 0 => none
  | parameter (n + 1) => parameters[n]?.map .ofParameter
  | column name => row.column? name
  | call function arguments => (evalAll arguments).bind (db.call? function)
  | cast e type => e.eval.bind (·.cast? type)
  | compare op a b => a.eval.bind fun x => b.eval.bind (x.compare? op)
  | compareAny op a array => a.eval.bind fun x => array.eval.bind (x.compareAny? op)
  | and a b => a.eval.bind fun x => b.eval.bind (x.connect? kleeneAnd)
  | or a b => a.eval.bind fun x => b.eval.bind (x.connect? kleeneOr)

def evalAll : List Expr → Option (List (Value G))
  | [] => some []
  | e :: es => e.eval.bind fun x => (evalAll es).map (x :: ·)

end

end Expr

end SpatialCatalog.Sql
