import SpatialCatalog.Number.Binary64

/-!
# Parameters of statements

Values reach the database as parameters of a statement, in the binary form of their own kind.
-/

namespace SpatialCatalog.Sql

/-- The types of the database that matter here; all others are known by name only. -/
inductive ColumnType where
  | text
  | varchar
  | bpchar
  | name
  | unknown
  | int8
  | float8
  | json
  | jsonb
  | array (element : ColumnType)
  | other (name : String)
deriving DecidableEq

namespace ColumnType

/-- The types that are not arrays, by name. -/
def scalars : List (String × ColumnType) :=
  [("text", text), ("varchar", varchar), ("bpchar", bpchar), ("name", name), ("unknown", unknown),
    ("int8", int8), ("float8", float8), ("json", json), ("jsonb", jsonb)]

/-- A type from its name; the name of an array ends in brackets. -/
def ofName (s : String) : ColumnType :=
  let scalar := fun s => (scalars.lookup s).getD (other s)
  match s.toList.reverse with
  | ']' :: '[' :: element => array (scalar (String.ofList element.reverse))
  | _ => scalar s

/-- Types whose values are texts. -/
def isText : ColumnType → Bool
  | text | varchar | bpchar | name | unknown => true
  | _ => false

/-- Arrays of texts. -/
def isTextArray : ColumnType → Bool
  | array element => element.isText
  | _ => false

/-- Types whose values are documents. -/
def isDocument : ColumnType → Bool
  | json | jsonb => true
  | _ => false

end ColumnType

/-- A parameter of a search. -/
inductive Parameter where
  | text (s : String)
  | textArray (ss : List String)
  | float (x : Double)
  | bigint (n : Int)
deriving DecidableEq

/-- A number in a fixed number of bytes, the most significant first. -/
def bigEndian (bytes n : Nat) : List UInt8 :=
  (List.range bytes).reverse.map fun k => UInt8.ofNat (n / twoPow (8 * k) % 256)

/-- A signed number in 32 bits. -/
def int32Bytes (n : Nat) : List UInt8 := bigEndian 4 (n % twoPow 32)

/-- The number by which the database knows the type of an array's elements. -/
def elementNumber? : ColumnType → Option Nat
  | .array .text => some 25
  | .array .varchar => some 1043
  | .array .bpchar => some 1042
  | .array .name => some 19
  | .array .unknown => some 705
  | _ => none

namespace Parameter

/-- Whether a parameter may be given where the database wants a type: any that one of the kinds of
parameters has. -/
def accepts (t : ColumnType) : Bool :=
  t.isText || t.isTextArray || t == .float8 || t == .int8

/-- The bytes of a parameter. A list of texts has them only where an array is wanted. -/
def bytes? (t : ColumnType) : Parameter → Option (List UInt8)
  | text s => some s.toUTF8.toList
  | float x => some (bigEndian 8 x.bits)
  | bigint n => some (bigEndian 8 (n % twoPow 64).toNat)
  | textArray ss =>
    (elementNumber? t).map fun element =>
      int32Bytes 1 ++ int32Bytes 0 ++ int32Bytes element ++ int32Bytes ss.length ++ int32Bytes 1 ++
        ss.flatMap fun s => int32Bytes s.utf8ByteSize ++ s.toUTF8.toList

end Parameter

end SpatialCatalog.Sql
