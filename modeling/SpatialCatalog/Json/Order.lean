import SpatialCatalog.Json.Basic

/-!
# The order of JSON values

Documents are sorted on values of any kind: nulls, texts, numbers, truth values, arrays and
objects, in this order. Texts compare by code point, numbers as binary64 values, arrays by length
and then item by item, objects by size and then member by member in storage order, where shorter
keys come first.

`Json.compare` is this order, and `Json.compareTop` the order of the values that are sorted on: it
puts an empty array before everything else.
-/

namespace SpatialCatalog

/-- The order in which keys are stored: shorter ones first, and then by code point. -/
def compareKeys (a b : String) : Ordering :=
  (Ord.compare a.utf8ByteSize b.utf8ByteSize).then (Ord.compare a b)

namespace Json

mutual

/-- A value with the members of each object in storage order. -/
def storageForm : Json → Json
  | arr items => arr (storageItems items)
  | obj ms => obj ((storageMembers ms).mergeSort fun a b => (compareKeys a.1 b.1).isLE)
  | j => j

/-- Item by item. -/
def storageItems : List Json → List Json
  | [] => []
  | x :: xs => x.storageForm :: storageItems xs

/-- Member by member. -/
def storageMembers : List (String × Json) → List (String × Json)
  | [] => []
  | (key, x) :: ms => (key, x.storageForm) :: storageMembers ms

end

/-- The place of a kind of value among the others. -/
def rank : Json → Nat
  | null => 0
  | str _ => 1
  | num _ => 2
  | bool _ => 3
  | arr _ => 4
  | obj _ => 5

mutual

/-- Compare two values in storage form. -/
def compareStored : Json → Json → Ordering
  | str a, str b => Ord.compare a b
  | num a, num b => Ord.compare a.units b.units
  | bool a, bool b => Ord.compare a b
  | arr xs, arr ys => (Ord.compare xs.length ys.length).then (compareItems xs ys)
  | obj xs, obj ys => (Ord.compare xs.length ys.length).then (compareMembers xs ys)
  | x, y => Ord.compare x.rank y.rank

/-- Compare item by item; the first difference counts. -/
def compareItems : List Json → List Json → Ordering
  | x :: xs, y :: ys => (compareStored x y).then (compareItems xs ys)
  | _, _ => .eq

/-- Compare member by member, the key of a member before its value. -/
def compareMembers : List (String × Json) → List (String × Json) → Ordering
  | (k, x) :: xs, (l, y) :: ys =>
    ((compareKeys k l).then (compareStored x y)).then (compareMembers xs ys)
  | _, _ => .eq

end

/-- Compare two values. -/
def compare (a b : Json) : Ordering := compareStored a.storageForm b.storageForm

/-- Whether a value is an array without items. -/
def isEmptyArray : Json → Bool
  | arr [] => true
  | _ => false

/-- Compare two values that are sorted on. -/
def compareTop (a b : Json) : Ordering :=
  match a.isEmptyArray, b.isEmptyArray with
  | true, true => .eq
  | true, false => .lt
  | false, true => .gt
  | false, false => a.compare b

end Json

end SpatialCatalog
