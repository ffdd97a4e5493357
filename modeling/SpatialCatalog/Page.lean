import SpatialCatalog.Decoding

/-!
# Pages

A page is what a search returns: features, how many there are, and the limit that capped them. The
page of one collection's items names the collection.
-/

namespace SpatialCatalog

/-- How many features a page has, and its limit. -/
structure PageContext where
  returned : Nat
  limit : Int
deriving DecidableEq

/-- A page of features. -/
structure Page where
  type : String
  features : List Members
  context : PageContext
  collection : Option String := none

namespace Page

/-- The type of every page that a search returns. -/
def collectionType : String := "FeatureCollection"

/-- A page of features under a limit. -/
def ofFeatures (features : List Members) (limit : Int) : Page :=
  { type := collectionType, features, context := { returned := features.length, limit } }

/-- The value of a page; the collection is left out when there is none. -/
def toJson (p : Page) : Json :=
  .obj ([("type", .str p.type), ("features", .arr (p.features.map .obj)),
    ("context", .obj [("returned", .int p.context.returned), ("limit", .int p.context.limit)])] ++
    p.collection.toList.map fun c => ("collection", .str c))

end Page

/-! ### Decoding -/

namespace PageContext

def shape : RecordShape := ⟨"Context", 2⟩

/-- The fields found so far. -/
structure Draft where
  returned : Option Nat := none
  limit : Option Int := none

/-- Read a member into a draft. -/
def Draft.read (d : Draft) (key : String) (value : Json) : Decoded Draft :=
  match key with
  | "returned" => value.nat64.map fun n => { d with returned := some n }
  | "limit" => value.int64.map fun n => { d with limit := some n }
  | _ => .ok d

/-- The context of a draft. -/
def Draft.finish (d : Draft) : Decoded PageContext :=
  (required d.returned "returned").bind fun returned =>
    (required d.limit "limit").map fun limit => ⟨returned, limit⟩

/-- A context from its fields in order. -/
def ofArray : List Json → Decoded PageContext
  | [] => shape.tooFew 0
  | [r] => r.nat64.bind fun _ => shape.tooFew 1
  | r :: l :: _ => r.nat64.bind fun returned => l.int64.map fun limit => ⟨returned, limit⟩

/-- Decode a context. -/
def decode : Json → Decoded PageContext := shape.decode {} Draft.read Draft.finish ofArray

end PageContext

namespace Page

def shape : RecordShape := ⟨"Page", 4⟩

/-- The fields found so far. -/
structure Draft where
  type : Option String := none
  features : Option (List Members) := none
  context : Option PageContext := none
  collection : Option String := none

/-- Read a member into a draft. -/
def Draft.read (d : Draft) (key : String) (value : Json) : Decoded Draft :=
  match key with
  | "type" => value.string.map fun s => { d with type := some s }
  | "features" => (value.list Json.members).map fun fs => { d with features := some fs }
  | "context" => (PageContext.decode value).map fun c => { d with context := some c }
  | "collection" => (value.optional Json.string).map fun collection => { d with collection }
  | _ => .ok d

/-- The page of a draft. -/
def Draft.finish (d : Draft) : Decoded Page := do
  let type ← required d.type "type"
  let features ← required d.features "features"
  let context ← required d.context "context"
  return { type, features, context, collection := d.collection }

/-- The fields in order. -/
def fieldNames : List String := ["type", "features", "context", "collection"]

/-- A page from its fields in order, all of which an array must have. -/
def ofArray (xs : List Json) : Decoded Page :=
  ((fieldNames.zip xs).foldlM (fun d (key, value) => Draft.read d key value) {}).bind fun d =>
    if xs.length < 4 then shape.tooFew xs.length else d.finish

/-- Decode a page. -/
def decode : Json → Decoded Page := shape.decode {} Draft.read Draft.finish ofArray

end Page

end SpatialCatalog
