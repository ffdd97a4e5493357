import SpatialCatalog.Json.Basic

/-!
# Document schemas

A document is read against a schema. Reading checks the form of what the schema names, writes
numbers as binary64 values, leaves out what is null where that means absent, and keeps all other
members of a record that is open as they are.

A record that is not open drops other members, and may be written as the array of its fields.
-/

namespace SpatialCatalog

/-- What may be missing from a record, and what is written then. -/
inductive Presence where
  | required
  /-- Left out when missing or null. -/
  | optional
  /-- Written as null when missing or null. -/
  | nullable
  /-- Left out when missing or empty. -/
  | unlessEmpty
deriving DecidableEq

/-- The form of a document. -/
inductive Schema where
  | string
  /-- One text. -/
  | word (s : String)
  | number
  | bool
  /-- Any object, kept as it is. -/
  | object
  | orNull (schema : Schema)
  | list (item : Schema)
  | pair (item : Schema)
  /-- An object with any keys, and values of one form. -/
  | dictionary (value : Schema)
  | record (fields : List (String × Presence × Schema)) (isOpen : Bool)

namespace Schema

/-- Whether a value is an object without members. -/
def isEmptyObject : Json → Bool
  | .obj [] => true
  | _ => false

/-- Members whose keys are not among the fields of a record. -/
def otherMembers (fields : List (String × Presence × Schema)) (ms : Members) : Members :=
  ms.filter fun m => !(fields.map Prod.fst).contains m.1

mutual

/-- Read a document against a schema. -/
def read : Schema → Json → Option Json
  | string, .str s => some (.str s)
  | word w, .str s => if s = w then some (.str s) else none
  | number, .num n => n.toDouble.toFinite?.map .float
  | bool, .bool b => some (.bool b)
  | object, .obj ms => some (.obj ms)
  | orNull _, .null => some .null
  | orNull schema, j => read schema j
  | list item, .arr xs => (xs.mapM (read item)).map .arr
  | pair item, .arr [a, b] => (read item a).bind fun a' => (read item b).map fun b' => .arr [a', b']
  | dictionary value, .obj ms =>
    (ms.mapM fun (m : String × Json) => (read value m.2).map fun j => (m.1, j)).map .obj
  | record fields isOpen, .obj ms =>
    (readMembers fields ms).map fun known =>
      .obj (known ++ if isOpen then otherMembers fields ms else [])
  | record fields false, .arr xs => (readElements fields xs).map .obj
  | _, _ => none

/-- Read the fields of a record from the members of an object. -/
def readMembers : List (String × Presence × Schema) → Members → Option Members
  | [], _ => some []
  | (key, presence, schema) :: fields, ms =>
    let here : Option Members :=
      match presence, ms.get? key with
      | .required, none => none
      | .required, some j => (read schema j).map fun j' => [(key, j')]
      | .optional, none => some []
      | .optional, some .null => some []
      | .optional, some j => (read schema j).map fun j' => [(key, j')]
      | .nullable, none => some [(key, .null)]
      | .nullable, some .null => some [(key, .null)]
      | .nullable, some j => (read schema j).map fun j' => [(key, j')]
      | .unlessEmpty, none => some []
      | .unlessEmpty, some j =>
        (read schema j).map fun j' => if isEmptyObject j' then [] else [(key, j')]
    here.bind fun m => (readMembers fields ms).map (m ++ ·)

/-- Read the fields of a record from the elements of an array. -/
def readElements : List (String × Presence × Schema) → List Json → Option Members
  | [], [] => some []
  | (key, _, schema) :: fields, x :: xs =>
    (read schema x).bind fun x' => (readElements fields xs).map ((key, x') :: ·)
  | _, _ => none

end

/-! ### Fields -/

/-- A field that must be there. -/
def needs (key : String) (schema : Schema) : String × Presence × Schema := (key, .required, schema)

/-- A field that may be absent. -/
def may (key : String) (schema : Schema) : String × Presence × Schema := (key, .optional, schema)

/-- Texts that may be absent. -/
def texts (keys : List String) : List (String × Presence × Schema) := keys.map (may · string)

/-! ### The documents of a catalog -/

/-- A link to another document. -/
def link : Schema :=
  record ([needs "href" string, needs "rel" string] ++ texts ["type", "title", "method"] ++
    [may "headers" object, may "body" object, may "merge" bool]) true

/-- A file that belongs to a document. -/
def asset : Schema :=
  record ([needs "href" string] ++ texts ["title", "description", "type", "created", "updated"] ++
    [may "roles" (list string)]) true

/-- The properties of an item. -/
def properties : Schema :=
  record (("datetime", .nullable, string) ::
    texts ["start_datetime", "end_datetime", "title", "description", "created", "updated"]) true

/-- The geometry of an item, of which only the type is looked at. -/
def geometry : Schema := record [needs "type" string] true

/-- An item. -/
def item : Schema :=
  record [needs "type" (word "Feature"), needs "stac_version" string,
    may "stac_extensions" (list string), needs "id" string, ("geometry", .nullable, geometry),
    may "bbox" (list number), needs "properties" properties, needs "links" (list link),
    needs "assets" (dictionary asset), may "collection" string] true

/-- Who provides a collection. -/
def provider : Schema :=
  record [needs "name" string, may "description" string, may "roles" (list string),
    may "url" string] true

/-- Where and when a collection has items. -/
def extent : Schema :=
  record [needs "spatial" (record [needs "bbox" (list (list number))] false),
    needs "temporal" (record [needs "interval" (list (pair (orNull string)))] false)] true

/-- A collection. -/
def collection : Schema :=
  record [needs "type" (word "Collection"), needs "stac_version" string,
    may "stac_extensions" (list string), needs "id" string, may "title" string,
    needs "description" string, may "keywords" (list string), needs "license" string,
    may "providers" (list provider), needs "extent" extent, may "summaries" object,
    needs "links" (list link), ("assets", .unlessEmpty, dictionary asset)] true

end Schema

end SpatialCatalog
