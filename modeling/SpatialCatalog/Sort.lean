import SpatialCatalog.Error
import SpatialCatalog.Text.Blank

/-!
# Sort directives

A directive names a field and a direction, both as text. `SortBy.resolve` finds what they mean: a
field is one of two columns or a path into the item's document, written with dots, and a direction
is `asc` or `desc` in any letter case.
-/

namespace SpatialCatalog

/-- A sort directive as it is given. -/
structure SortBy where
  field : String
  direction : String
deriving DecidableEq

/-- A direction. -/
inductive Direction where
  | ascending
  | descending
deriving DecidableEq

/-- A column that can be sorted on. -/
inductive Column where
  | id
  | collection
deriving DecidableEq

/-- What a directive sorts on. -/
inductive SortField where
  | column (c : Column)
  | path (keys : List String)
deriving DecidableEq

namespace Direction

/-- The word for a direction. -/
def word : Direction → String
  | ascending => "asc"
  | descending => "desc"

/-- A direction from its word; ASCII letters count in either case. -/
def parse (s : String) : Except RequestFault Direction :=
  let lower := String.ofList (s.toList.map Char.toLower)
  if lower = ascending.word then .ok ascending
  else if lower = descending.word then .ok descending
  else .error (.sortDirection s)

end Direction

namespace Column

def name : Column → String
  | id => "id"
  | collection => "collection"

end Column

namespace SortField

/-- The keys of a path that is written with dots. -/
def keys (s : String) : List String := (s.toList.splitOn '.').map String.ofList

/-- A field from its text. A path has two keys at least, none of them empty. -/
def parse (s : String) : Except RequestFault SortField :=
  if s = Column.id.name then .ok (column .id)
  else if s = Column.collection.name then .ok (column .collection)
  else if '.' ∈ s.toList then
    if "" ∈ keys s then .error (.invalidSortField s) else .ok (path (keys s))
  else .error (.unknownSortField s)

end SortField

namespace SortBy

/-- A directive from a part of a request parameter: a field, descending after `-` and ascending
otherwise, where a `+` may stand in front. -/
def ofParameter (s : List Char) : SortBy :=
  match trim s with
  | '-' :: field => ⟨String.ofList field, Direction.descending.word⟩
  | '+' :: field => ⟨String.ofList field, Direction.ascending.word⟩
  | field => ⟨String.ofList field, Direction.ascending.word⟩

/-- What a directive means. Of two faults, that of the field is reported. -/
def resolve (s : SortBy) : Except RequestFault (SortField × Direction) :=
  (SortField.parse s.field).bind fun field =>
    (Direction.parse s.direction).map fun direction => (field, direction)

/-! ### Decoding -/

def shape : RecordShape := ⟨"SortBy", 2⟩

/-- The fields found so far. -/
structure Draft where
  field : Option String := none
  direction : Option String := none

/-- Read a member into a draft. -/
def Draft.read (d : Draft) (key : String) (value : Json) : Decoded Draft :=
  match key with
  | "field" => value.string.map fun s => { d with field := some s }
  | "direction" => value.string.map fun s => { d with direction := some s }
  | _ => .ok d

/-- The directive of a draft. -/
def Draft.finish (d : Draft) : Decoded SortBy :=
  (required d.field "field").bind fun field =>
    (required d.direction "direction").map fun direction => ⟨field, direction⟩

/-- A directive from its fields in order. -/
def ofArray : List Json → Decoded SortBy
  | [] => shape.tooFew 0
  | [f] => f.string.bind fun _ => shape.tooFew 1
  | f :: d :: _ =>
    f.string.bind fun field => d.string.map fun direction => ⟨field, direction⟩

/-- Decode a directive. -/
def decode : Json → Decoded SortBy := shape.decode {} Draft.read Draft.finish ofArray

/-- The value of a directive. -/
def toJson (s : SortBy) : Json := .obj [("field", .str s.field), ("direction", .str s.direction)]

end SortBy

end SpatialCatalog
