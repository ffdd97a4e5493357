import SpatialCatalog.Number.Power

/-!
# Written numbers

A numeral is a decimal number as it is written: sign, whole digits, digits after the point, and an
exponent. It keeps what the writer chose, so `1.0` and `1` are different numerals, and reading one
as a number is a separate step.

* `decimalDigits` and `digitsValue` are the digits of a natural number and back.
* `Numeral.text` writes a numeral; an exponent is written with its sign, as in `1e+16`.
-/

namespace SpatialCatalog

/-- A decimal digit. -/
abbrev Digit := Fin 10

namespace Digit

def toChar (d : Digit) : Char := Nat.digitChar d

/-- The last digit of a number. -/
def last (n : Nat) : Digit := ⟨n % 10, Nat.mod_lt _ (by decide)⟩

@[simp] theorem val_last (n : Nat) : (last n).val = n % 10 := rfl

/-- The digit that an ASCII character stands for. -/
def ofChar? (c : Char) : Option Digit :=
  if h : '0' ≤ c ∧ c ≤ '9' then
    some ⟨c.toNat - '0'.toNat, by
      have : c.toNat ≤ '9'.toNat := UInt32.le_iff_toNat_le.mp (Char.le_def.mp h.2)
      have h9 : '9'.toNat = 57 := rfl
      have h0 : '0'.toNat = 48 := rfl
      omega⟩
  else none

@[simp] theorem ofChar?_toChar (d : Digit) : ofChar? d.toChar = some d := by
  revert d
  decide

end Digit

/-- The number that a list of digits stands for, most significant digit first. -/
def digitsValue (ds : List Digit) : Nat := ds.foldl (fun n d => 10 * n + d.val) 0

/-- The digits of `n` in front of those already found. -/
def digitsOnto : Nat → Nat → List Digit → List Digit
  | 0, _, ds => ds
  | fuel + 1, n, ds =>
    if n < 10 then Digit.last n :: ds else digitsOnto fuel (n / 10) (Digit.last n :: ds)

/-- The decimal digits of a number, most significant first; zero has one digit. -/
def decimalDigits (n : Nat) : List Digit := digitsOnto (n.log2 + 1) n []

theorem digitsValue_cons_aux (ds : List Digit) (a : Nat) :
    ds.foldl (fun n d => 10 * n + d.val) a = a * tenPow ds.length + digitsValue ds := by
  induction ds generalizing a with
  | nil => simp [digitsValue]
  | cons d ds ih =>
    rw [List.foldl_cons, ih, List.length_cons, tenPow_succ]
    have : digitsValue (d :: ds) = ds.foldl (fun n d => 10 * n + d.val) (10 * 0 + d.val) := rfl
    rw [this, ih]
    grind

theorem digitsValue_cons (d : Digit) (ds : List Digit) :
    digitsValue (d :: ds) = d.val * tenPow ds.length + digitsValue ds := by
  rw [digitsValue, List.foldl_cons, digitsValue_cons_aux]
  simp

theorem digitsValue_digitsOnto (fuel n : Nat) (ds : List Digit) (h : n < tenPow fuel) :
    digitsValue (digitsOnto fuel n ds) = n * tenPow ds.length + digitsValue ds := by
  induction fuel generalizing n ds with
  | zero =>
    have : n = 0 := by rw [tenPow_zero] at h; omega
    simp [digitsOnto, this]
  | succ fuel ih =>
    rw [digitsOnto]
    split
    next hn =>
      rw [digitsValue_cons, Digit.val_last, Nat.mod_eq_of_lt hn]
    next hn =>
      rw [ih _ _ (by rw [tenPow_succ] at h; omega), digitsValue_cons, List.length_cons,
        tenPow_succ, Digit.val_last]
      have := Nat.div_add_mod n 10
      grind

theorem lt_tenPow_log2_succ (n : Nat) : n < tenPow (n.log2 + 1) :=
  Nat.lt_of_lt_of_le (lt_twoPow_log2_succ n) (twoPow_le_tenPow _)

@[simp] theorem digitsValue_decimalDigits (n : Nat) : digitsValue (decimalDigits n) = n := by
  rw [decimalDigits, digitsValue_digitsOnto _ _ _ (lt_tenPow_log2_succ n)]
  simp [digitsValue]

/-- A power of ten, written after the mark `e`. -/
structure Exponent where
  negative : Bool
  digits : List Digit
deriving DecidableEq

/-- A decimal number as it is written. Without a point it has no fraction digits. -/
structure Numeral where
  negative : Bool
  whole : List Digit
  fraction : List Digit
  exponent : Option Exponent
deriving DecidableEq

namespace Numeral

/-- The numeral of an integer. -/
def ofInt (n : Int) : Numeral := ⟨decide (n < 0), decimalDigits n.natAbs, [], none⟩

/-- The characters of a numeral. -/
def text (m : Numeral) : List Char :=
  (if m.negative then ['-'] else []) ++ m.whole.map Digit.toChar ++
    (if m.fraction.isEmpty then [] else '.' :: m.fraction.map Digit.toChar) ++
    match m.exponent with
    | none => []
    | some e => 'e' :: (if e.negative then '-' else '+') :: e.digits.map Digit.toChar

end Numeral

/-- An integer in decimal, with a minus sign when negative. -/
def decimalText (n : Int) : String := String.ofList (Numeral.ofInt n).text

end SpatialCatalog
