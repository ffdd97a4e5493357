import SpatialCatalog.Search
import SpatialCatalog.Number.Decimal

/-!
# Searches as request parameters

The same search can be asked for with request parameters, each a text: lists have commas between
their parts, numbers are decimal, and the geometry is a JSON text. `SearchParameters.toSearch`
reads them; limit, box and geometry are checked in this order.
-/

namespace SpatialCatalog

/-- The parameters of a search, as they are given. -/
structure SearchParameters where
  ids : Option String := none
  collections : Option String := none
  limit : Option String := none
  bbox : Option String := none
  geometry : Option String := none
  sortby : Option String := none
deriving DecidableEq

namespace SearchParameters

/-- The parts of a list. -/
def stringParts (s : String) : List String := (parts s.toList).map String.ofList

/-- A limit, with blanks around it or none. -/
def readLimit (s : String) : Except RequestFault Int :=
  match readInt64? (trim s.toList) with
  | some n => .ok n
  | none => .error (.limitNumber s)

/-- A number of a box. -/
def readCoordinate (s : List Char) : Except RequestFault Double :=
  match readDouble? s with
  | some x => .ok x
  | none => .error (.bboxNumber (String.ofList s))

/-- The numbers of a box. -/
def readBbox (s : String) : Except RequestFault (List Double) := (parts s.toList).mapM readCoordinate

/-- The directives of a list. -/
def readSortby (s : String) : List SortBy := (parts s.toList).map SortBy.ofParameter

/-- A geometry from its text. -/
def readGeometry (s : String) : Except GeometryFault RawGeometry :=
  match RawGeometry.parse? s with
  | some raw => .ok raw
  | none => .error .parameter

/-- Read a parameter that may be absent. -/
def readOptional {α ε : Type} (read : String → Except ε α) : Option String → Except ε (Option α)
  | none => .ok none
  | some s => (read s).map some

/-- The search that the parameters ask for. -/
def toSearch (p : SearchParameters) : Result Search := do
  let limit ← (readOptional readLimit p.limit).mapError .request
  let bbox ← (readOptional readBbox p.bbox).mapError .request
  let geometry ← (readOptional readGeometry p.geometry).mapError .geometry
  return {
    ids := (p.ids.map stringParts).getD []
    collections := (p.collections.map stringParts).getD []
    limit, bbox, geometry
    sortby := (p.sortby.map readSortby).getD [] }

/-! ### Decoding -/

def shape : RecordShape := ⟨"GetSearch", 6⟩

/-- Read a member into parameters. No field has to be there. -/
def read (p : SearchParameters) (key : String) (value : Json) : Decoded SearchParameters :=
  let text := value.optional Json.string
  match key with
  | "ids" => text.map fun ids => { p with ids }
  | "collections" => text.map fun collections => { p with collections }
  | "limit" => text.map fun limit => { p with limit }
  | "bbox" => text.map fun bbox => { p with bbox }
  | "geometry" => text.map fun geometry => { p with geometry }
  | "sortby" => text.map fun sortby => { p with sortby }
  | _ => .ok p

/-- The fields in order. -/
def fieldNames : List String := ["ids", "collections", "limit", "bbox", "geometry", "sortby"]

/-- Parameters from their fields in order, all of which an array must have. -/
def ofArray (xs : List Json) : Decoded SearchParameters :=
  ((fieldNames.zip xs).foldlM (fun p (key, value) => read p key value) {}).bind fun p =>
    if xs.length < 6 then shape.tooFew xs.length else .ok p

/-- Decode parameters. -/
def decode : Json → Decoded SearchParameters := shape.decode {} read .ok ofArray

end SearchParameters

end SpatialCatalog
