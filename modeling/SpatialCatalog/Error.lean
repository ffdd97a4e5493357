import SpatialCatalog.Decoding
import SpatialCatalog.Geometry.Basic

/-!
# Errors

Everything that an operation can report, by cause. The five kinds are: the geometry of a request
cannot be decoded, a request is not valid, something is not there, the catalog contradicts itself,
and the database or a stored document is not as it should be. Each kind has a fixed beginning of
its message and a status code; the first three are the client's fault.
-/

namespace SpatialCatalog

/-- Why a geometry cannot be decoded. -/
inductive GeometryFault where
  /-- The value does not have the form of a geometry. -/
  | form (cause : DecodeError)
  /-- The text does not have the form of a geometry. -/
  | textForm
  /-- The geometry parameter of a search is not the text of a geometry. -/
  | parameter
  | unknownType (name : String)
  | missingCoordinates (type : GeometryType)
  | coordinates (type : GeometryType) (cause : DecodeError)
  | noPositions
  | shortLine (positions : Nat)
  | noExterior
  | shortRing (positions : Nat)
  | openRing
  | missingMembers
  /-- A collection is wanted, and the type is another. -/
  | notCollection (name : String)
  /-- An item has no geometry. -/
  | missing (item : String)
  | other (text : String)
deriving DecidableEq

/-- Why a request is not valid. -/
inductive RequestFault where
  | bboxLength
  | bboxNumber (text : String)
  | limitNumber (text : String)
  | limitNotPositive (limit : Int)
  | unknownSortField (text : String)
  | invalidSortField (text : String)
  | sortDirection (text : String)
  | severalSpatialFilters
  | itemWithoutCollection (item : String)
  | collectionExists (id : String)
  | itemExists (item collection : String)
  | other (text : String)
deriving DecidableEq

/-- What is not there. -/
inductive Missing where
  | collection (id : String)
  | item (item collection : String)
  | other (text : String)
deriving DecidableEq

/-- How the catalog contradicts itself. -/
inductive InternalFault where
  | nonFinite (type : GeometryType)
  /-- The text of a geometry that is to be stored or searched for cannot be read. -/
  | geometryText
  /-- The text of a geometry that a store gave cannot be read. -/
  | renderedText
  | storedItem (item collection : String)
  | negativeLimit (limit : Int)
  | other (text : String)
deriving DecidableEq

/-- What went wrong between the catalog and its database. -/
inductive DatabaseFault where
  /-- The database refused the statement. -/
  | refused
  | parameterCount (wanted given : Nat)
  | parameter (index : Nat)
  | rowCount
  | missingColumn (name : String)
  | column (index : Nat)
deriving DecidableEq

/-- What an operation reports. -/
inductive Error where
  | geometry (cause : GeometryFault)
  | request (cause : RequestFault)
  | notFound (what : Missing)
  | internal (cause : InternalFault)
  /-- A stored document does not have the form that it should have. -/
  | document
  | database (cause : DatabaseFault)
deriving DecidableEq

/-- The result of an operation. -/
abbrev Result (α : Type) := Except Error α

/-! ### Wording -/

/-- How few positions a ring may have. -/
def minimumRing : Nat := 4

namespace GeometryFault

def message : GeometryFault → String
  | .form cause => "not a geometry object: " ++ cause.message
  | .textForm => "not a geometry object"
  | .parameter => "geometry is not GeoJSON"
  | .unknownType name => "unknown geometry type: " ++ name
  | .missingCoordinates type => type.name ++ " is missing coordinates"
  | .coordinates type cause => "invalid " ++ type.name ++ " coordinates: " ++ cause.message
  | .noPositions => "MultiPoint must have at least one position"
  | .shortLine n => "a line string needs at least two positions, found " ++ decimalText n
  | .noExterior => "a polygon needs an exterior ring"
  | .shortRing n =>
    "a polygon ring needs at least " ++ decimalText minimumRing ++ " positions, found " ++
      decimalText n
  | .openRing => "polygon ring is not closed"
  | .missingMembers => "GeometryCollection is missing geometries"
  | .notCollection name =>
    "geometrycollection must have type GeometryCollection, got " ++ name
  | .missing item => "item " ++ item ++ " has no geometry"
  | .other s => s

end GeometryFault

namespace RequestFault

def message : RequestFault → String
  | .bboxLength => "bbox must have 4 or 6 elements"
  | .bboxNumber text => "bbox value is not a number: " ++ quoted text
  | .limitNumber text => "limit must be an integer, got " ++ quoted text
  | .limitNotPositive limit => "limit must be greater than zero, got " ++ decimalText limit
  | .unknownSortField text => "unknown sort field: " ++ quoted text
  | .invalidSortField text => "invalid sort field: " ++ quoted text
  | .sortDirection text => "sort direction must be asc or desc, got " ++ quoted text
  | .severalSpatialFilters =>
    "only one of bbox, geometry, or geometrycollection may be supplied"
  | .itemWithoutCollection item => "item " ++ item ++ " has no collection"
  | .collectionExists id => "collection " ++ id ++ " already exists"
  | .itemExists item collection =>
    "item " ++ item ++ " already exists in collection " ++ collection
  | .other s => s

end RequestFault

namespace Missing

def message : Missing → String
  | .collection id => "collection " ++ id ++ " does not exist"
  | .item i c => "item " ++ i ++ " does not exist in collection " ++ c
  | .other s => s

end Missing

namespace InternalFault

def message : InternalFault → String
  | .nonFinite type => type.name ++ " has a non-finite coordinate"
  | .geometryText => "invalid GeoJSON text"
  | .renderedText => "store rendered invalid GeoJSON"
  | .storedItem item collection =>
    "stored item " ++ item ++ " in " ++ collection ++ " is not a JSON object"
  | .negativeLimit limit => "negative limit: " ++ decimalText limit
  | .other s => s

end InternalFault

namespace DatabaseFault

def message : DatabaseFault → String
  | .refused => "db error"
  | .parameterCount wanted given =>
    "expected " ++ decimalText wanted ++ " parameters but got " ++ decimalText given
  | .parameter index => "error serializing parameter " ++ decimalText index
  | .rowCount => "query returned an unexpected number of rows"
  | .missingColumn name => "invalid column `" ++ name ++ "`"
  | .column index => "error deserializing column " ++ decimalText index

end DatabaseFault

namespace Error

/-- The message of an error. A stored document of the wrong form has none. -/
def message? : Error → Option String
  | .geometry cause => some ("invalid geometry: " ++ cause.message)
  | .request cause => some ("invalid request: " ++ cause.message)
  | .notFound what => some ("not found: " ++ what.message)
  | .internal cause => some ("internal error: " ++ cause.message)
  | .document => none
  | .database cause => some cause.message

/-- The status code that describes an error to a client. -/
def status : Error → Nat
  | .geometry _ => 400
  | .request _ => 400
  | .notFound _ => 404
  | .internal _ => 500
  | .document => 500
  | .database _ => 500

/-- Whether the request, and not the server, is at fault. -/
def isClientError (e : Error) : Bool := 400 ≤ e.status && e.status < 500

end Error

end SpatialCatalog
