import SpatialCatalog.Geometry.Raw
import SpatialCatalog.Sort

/-!
# Searches

A search names the items wanted: ids, collections, one spatial filter, sort directives and a limit.
What is absent does not restrict; an empty box, however, is a box with the wrong number of elements
and not an absent one.
-/

namespace SpatialCatalog

/-- A search as it is posted. -/
structure Search where
  ids : List String := []
  collections : List String := []
  limit : Option Int := none
  bbox : Option (List Double) := none
  geometry : Option RawGeometry := none
  geometrycollection : Option RawGeometry := none
  sortby : List SortBy := []

/-- The limit of a search that gives none. -/
def defaultLimit : Int := 100

namespace Search

/-- The greatest number of items that a search returns. -/
def effectiveLimit (s : Search) : Except RequestFault Int :=
  match s.limit with
  | none => .ok defaultLimit
  | some n => if 0 < n then .ok n else .error (.limitNotPositive n)

/-- Whether a search restricts where the items are. -/
def hasSpatialFilter (s : Search) : Bool :=
  s.bbox.isSome || s.geometry.isSome || s.geometrycollection.isSome

/-! ### Decoding -/

def shape : RecordShape := ⟨"Search", 7⟩

def strings : Json → Decoded (List String) := Json.list Json.string

def directives : Json → Decoded (List SortBy) := Json.list SortBy.decode

/-- Read a member into a search. No field has to be there. -/
def read (s : Search) (key : String) (value : Json) : Decoded Search :=
  match key with
  | "ids" => (strings value).map fun ids => { s with ids }
  | "collections" => (strings value).map fun collections => { s with collections }
  | "limit" => (value.optional Json.int64).map fun limit => { s with limit }
  | "bbox" => (value.optional (Json.list Json.double)).map fun bbox => { s with bbox }
  | "geometry" => (value.optional RawGeometry.decode).map fun geometry => { s with geometry }
  | "geometrycollection" =>
    (value.optional RawGeometry.decode).map fun geometrycollection => { s with geometrycollection }
  | "sortby" => (directives value).map fun sortby => { s with sortby }
  | _ => .ok s

/-- The fields in order. -/
def fieldNames : List String :=
  ["ids", "collections", "limit", "bbox", "geometry", "geometrycollection", "sortby"]

/-- The index of the first field that an array of some length lacks and must have. The lists at
either end may be missing. -/
def firstMissing? (length : Nat) : Option Nat :=
  if length < 2 then some 2 else if length < 6 then some length else none

/-- A search from its fields in order. -/
def ofArray (xs : List Json) : Decoded Search :=
  ((fieldNames.zip xs).foldlM (fun s (key, value) => read s key value) {}).bind fun s =>
    match firstMissing? xs.length with
    | some index => shape.tooFew index
    | none => .ok s

/-- Decode a search. -/
def decode : Json → Decoded Search := shape.decode {} read .ok ofArray

/-! ### Encoding -/

/-- A member of an object that is left out when there is no value. -/
def member {α : Type} (key : String) (toJson : α → Json) : Option α → Members
  | none => []
  | some a => [(key, toJson a)]

/-- A member of an object that is left out when its list is empty. -/
def listMember {α : Type} (key : String) (toJson : α → Json) : List α → Members
  | [] => []
  | xs => [(key, .arr (xs.map toJson))]

/-- A number of a document, null for what is not finite. -/
def numberToJson (x : Double) : Json := (x.toFinite?.map Json.float).getD .null

/-- The value of a search, without what is absent or empty. -/
def toJson (s : Search) : Json :=
  .obj (listMember "ids" .str s.ids ++ listMember "collections" .str s.collections ++
    member "limit" .int s.limit ++
    member "bbox" (fun xs => .arr (xs.map numberToJson)) s.bbox ++
    member "geometry" RawGeometry.toJson s.geometry ++
    member "geometrycollection" RawGeometry.toJson s.geometrycollection ++
    listMember "sortby" SortBy.toJson s.sortby)

end Search

end SpatialCatalog
