import SpatialCatalog.Number.Shortest

/-!
# JSON values

Documents are JSON values. Numbers are whole numbers or binary64 values, and keep which of the two
they are; an object keeps its members in order.

`Members.set` is the one way in which a member is added: a key that is there keeps its place and
takes the new value.
-/

namespace SpatialCatalog

/-- A number in a document: a whole number, or a binary64 value. -/
inductive Number where
  | int (n : Int)
  | float (x : Finite64)
deriving DecidableEq, Inhabited

namespace Number

/-- The nearest binary64 value. -/
def toDouble : Number → Double
  | int n => .ofInt n
  | float x => x

/-- The nearest binary64 value in units, so that numbers compare as binary64 values do. -/
def units : Number → Int
  | int n =>
    let m : Int := roundRatio (n.natAbs * unitsPerOne) 1
    if n < 0 then -m else m
  | float x => x.units

end Number

/-- A JSON value. -/
inductive Json where
  | null
  | bool (b : Bool)
  | num (n : Number)
  | str (s : String)
  | arr (items : List Json)
  | obj (members : List (String × Json))
deriving Inhabited

/-- The members of an object, in order. -/
abbrev Members := List (String × Json)

namespace Members

/-- The value of a key. -/
def get? (ms : Members) (key : String) : Option Json := ms.lookup key

/-- Give a key a value, in its place if it has one and at the end otherwise. -/
def set : Members → String → Json → Members
  | [], key, value => [(key, value)]
  | (k, v) :: ms, key, value => if k = key then (k, value) :: ms else (k, v) :: set ms key value

/-- Members from pairs in which keys may be repeated; the last value of a key counts. -/
def ofPairs (pairs : List (String × Json)) : Members :=
  pairs.foldl (fun ms (key, value) => ms.set key value) []

@[simp] theorem get?_set_self (ms : Members) (key : String) (value : Json) :
    (ms.set key value).get? key = some value := by
  induction ms with
  | nil => simp [set, get?]
  | cons m ms ih =>
    obtain ⟨k, v⟩ := m
    by_cases h : k = key
    · simp [set, get?, h]
    · simpa [set, get?, h, List.lookup_cons, beq_eq_false_iff_ne.mpr (Ne.symm h)] using ih

theorem get?_set_of_ne (ms : Members) {key other : String} (value : Json) (h : other ≠ key) :
    (ms.set key value).get? other = ms.get? other := by
  induction ms with
  | nil => simp [set, get?, List.lookup_cons, beq_eq_false_iff_ne.mpr h]
  | cons m ms ih =>
    obtain ⟨k, v⟩ := m
    by_cases hk : k = key
    · subst hk
      simp [set, get?, List.lookup_cons, beq_eq_false_iff_ne.mpr h]
    · simp only [get?] at ih
      simp [set, get?, hk, List.lookup_cons, ih]

end Members

namespace Json

/-- The value of a key, of objects only. -/
def get? : Json → String → Option Json
  | obj ms, key => Members.get? ms key
  | _, _ => none

/-- A whole number as a value. -/
def int (n : Int) : Json := num (.int n)

/-- A finite number as a value. -/
def float (x : Finite64) : Json := num (.float x)

end Json

end SpatialCatalog
