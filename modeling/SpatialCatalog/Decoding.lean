import SpatialCatalog.Json.Text

/-!
# Decoding values

A request is decoded from a JSON value, and what is wrong with it is reported as one cause.

* `DecodeError` lists the causes and `DecodeError.message` words them.
* The functions `Json.string`, `Json.double`, … decode the leaves.
* A record is decoded from an object, member by member in the order of the object, or from an array
  of its fields in order; `RecordShape` words what is wrong with the number of elements.
-/

namespace SpatialCatalog

/-- What a decoder met. -/
inductive Found where
  | null
  | boolean (b : Bool)
  | integer (n : Int)
  | float (x : Finite64)
  | string (s : String)
  | sequence
  | map
deriving DecidableEq

/-- What a decoder wanted. -/
inductive Expected where
  | string
  | sequence
  | double
  | int64
  | nat64
  | map
  | record (name : String)
deriving DecidableEq

/-- Why a value was not decoded. -/
inductive DecodeError where
  | wrongType (found : Found) (expected : Expected)
  /-- A whole number of the right kind that does not fit. -/
  | outOfRange (n : Int) (expected : Expected)
  | missingField (name : String)
  /-- An array in place of a record, without an element that the record needs. -/
  | tooFewElements (length : Nat) (name : String) (fields : Nat)
  /-- An array in place of a record, with more elements than the record has fields. -/
  | tooManyElements (length : Nat)
  /-- A position with fewer than two coordinates. -/
  | shortPosition (length : Nat)
deriving DecidableEq

/-- A result of decoding. -/
abbrev Decoded (α : Type) := Except DecodeError α

/-! ### Wording -/

/-- A number as a document writes it. -/
def Finite64.text (x : Finite64) : String := String.ofList (x.numeral Source.layout).text

namespace Found

def text : Found → String
  | null => "null"
  | boolean b => "boolean `" ++ (if b then "true" else "false") ++ "`"
  | integer n => "integer `" ++ decimalText n ++ "`"
  | float x => "floating point `" ++ x.text ++ "`"
  | string s => "string " ++ quoted s
  | sequence => "sequence"
  | map => "map"

end Found

namespace Expected

def text : Expected → String
  | string => "a string"
  | sequence => "a sequence"
  | double => "f64"
  | int64 => "i64"
  | nat64 => "usize"
  | map => "a map"
  | record name => "struct " ++ name

end Expected

namespace DecodeError

def message : DecodeError → String
  | wrongType found expected =>
    "invalid type: " ++ found.text ++ ", expected " ++ expected.text
  | outOfRange n expected =>
    "invalid value: integer `" ++ decimalText n ++ "`, expected " ++ expected.text
  | missingField name => "missing field `" ++ name ++ "`"
  | tooFewElements length name fields =>
    "invalid length " ++ decimalText length ++ ", expected struct " ++ name ++ " with " ++
      decimalText fields ++ " elements"
  | tooManyElements length =>
    "invalid length " ++ decimalText length ++ ", expected fewer elements in array"
  | shortPosition length =>
    "invalid length " ++ decimalText length ++
      ", expected a position with at least two coordinates"

end DecodeError

/-! ### Leaves -/

namespace Json

/-- What a decoder meets in a value. -/
def found : Json → Found
  | null => .null
  | bool b => .boolean b
  | num (.int n) => .integer n
  | num (.float x) => .float x
  | str s => .string s
  | arr _ => .sequence
  | obj _ => .map

/-- Refuse a value of another type. -/
def refuse {α : Type} (j : Json) (expected : Expected) : Decoded α :=
  .error (.wrongType j.found expected)

def string : Json → Decoded String
  | str s => .ok s
  | j => j.refuse .string

/-- A number, whole or not, as the nearest binary64 value. -/
def double : Json → Decoded Double
  | num n => .ok n.toDouble
  | j => j.refuse .double

def items : Json → Decoded (List Json)
  | arr xs => .ok xs
  | j => j.refuse .sequence

def members : Json → Decoded Members
  | obj ms => .ok ms
  | j => j.refuse .map

/-- A whole number between two bounds. -/
def boundedInt (least greatest : Int) (expected : Expected) : Json → Decoded Int
  | num (.int n) =>
    if least ≤ n ∧ n ≤ greatest then .ok n else .error (.outOfRange n expected)
  | j => j.refuse expected

/-- A signed whole number of 64 bits. -/
def int64 (j : Json) : Decoded Int := j.boundedInt (-twoPow 63) (twoPow 63 - 1) .int64

/-- An unsigned whole number of 64 bits. -/
def nat64 (j : Json) : Decoded Nat := (j.boundedInt 0 (twoPow 64 - 1) .nat64).map Int.toNat

/-- A list, each item decoded in order; the first that fails is the error. -/
def list {α : Type} (decode : Json → Decoded α) (j : Json) : Decoded (List α) :=
  j.items.bind fun xs => xs.mapM decode

/-- A value that may be null. -/
def optional {α : Type} (decode : Json → Decoded α) : Json → Decoded (Option α)
  | null => .ok none
  | j => (decode j).map some

end Json

/-! ### Records -/

/-- The name of a record and the number of its fields, as errors word them. -/
structure RecordShape where
  name : String
  fields : Nat

namespace RecordShape

/-- An array in place of the record has no element at this index. -/
def tooFew {α : Type} (shape : RecordShape) (index : Nat) : Decoded α :=
  .error (.tooFewElements index shape.name shape.fields)

/-- Decode a record from an object, by reading its members in order into a draft, or from an
array. -/
def decode {α δ : Type} (shape : RecordShape) (empty : δ)
    (read : δ → String → Json → Decoded δ) (finish : δ → Decoded α)
    (ofArray : List Json → Decoded α) : Json → Decoded α
  | .obj ms => (ms.foldlM (fun draft (key, value) => read draft key value) empty).bind finish
  | .arr xs =>
    (ofArray xs).bind fun a =>
      if shape.fields < xs.length then .error (.tooManyElements xs.length) else .ok a
  | j => j.refuse (.record shape.name)

end RecordShape

/-- The value that a draft has for a field, which the record needs. -/
def required {α : Type} (field : Option α) (name : String) : Decoded α :=
  match field with
  | some a => .ok a
  | none => .error (.missingField name)

end SpatialCatalog
