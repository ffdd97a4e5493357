import SpatialCatalog.Number.Power

/-!
# Binary64 numbers

Every finite binary64 value is a whole number of units of `2 ^ (-1074)`, the least positive one.
`Finite64` keeps the sign and that number, so comparison is comparison of integers and the sign of
a product or a sum of products can be computed without error.

* `Representable` says which magnitudes a finite value can have: at most 53 significant bits, and
  below the overflow threshold.
* `roundRatio` rounds a quotient to the nearest such magnitude, a tie to the even neighbour;
  `representable_roundRatio` says that the result is one unless it overflows.
* `Double` adds the infinities and the value that is not a number.
-/

namespace SpatialCatalog

/-- The number of units in `1`. -/
def unitsPerOne : Nat := twoPow 1074

/-- The least magnitude that is too large for a finite value, `2 ^ 1024`. -/
def overflowUnits : Nat := twoPow 2098

theorem overflowUnits_pos : 0 < overflowUnits := twoPow_pos 2098

/-- The spacing of the representable magnitudes just above `m` is `2 ^ spacing m` units. -/
def spacing (m : Nat) : Nat := m.log2 - 52

/-- The magnitudes of finite values: 53 significant bits at most, and no overflow. -/
def Representable (m : Nat) : Prop := m < overflowUnits ∧ twoPow (spacing m) ∣ m

instance (m : Nat) : Decidable (Representable m) := inferInstanceAs (Decidable (_ ∧ _))

/-! ### Rounding -/

/-- The whole number nearest to `n / d`, a tie going to the even one. -/
def roundHalfEven (n d : Nat) : Nat :=
  let q := n / d
  let r := n % d
  if 2 * r < d then q
  else if d < 2 * r then q + 1
  else if q % 2 = 0 then q else q + 1

theorem roundHalfEven_le (n d : Nat) : roundHalfEven n d ≤ n / d + 1 := by
  unfold roundHalfEven
  dsimp only
  split
  · omega
  · split
    · omega
    · split <;> omega

/-- The magnitude nearest to `n / d` with at most 53 significant bits, a tie going to the even
one. -/
def roundRatio (n d : Nat) : Nat :=
  let k := spacing (n / d)
  roundHalfEven n (d * twoPow k) * twoPow k

theorem twoPow_spacing_dvd {a k : Nat} (h : a ≤ twoPow 53) :
    twoPow (spacing (a * twoPow k)) ∣ a * twoPow k := by
  have hk := twoPow_pos k
  by_cases h0 : a = 0
  · simp [h0]
  have hne : a * twoPow k ≠ 0 := Nat.mul_ne_zero h0 (by omega)
  by_cases hlt : a < twoPow 53
  · have : (a * twoPow k).log2 < 53 + k := by
      rw [log2_lt_iff hne, twoPow_add]
      exact Nat.mul_lt_mul_of_pos_right hlt hk
    exact Nat.dvd_trans (twoPow_dvd_twoPow (by unfold spacing; omega)) (Nat.dvd_mul_left _ _)
  · have ha : a = twoPow 53 := by omega
    subst ha
    rw [← twoPow_add, spacing, log2_twoPow]
    exact twoPow_dvd_twoPow (by omega)

/-- A rounded magnitude is that of a finite value unless it overflows. -/
theorem representable_roundRatio {n d : Nat} (h : roundRatio n d < overflowUnits) :
    Representable (roundRatio n d) := by
  refine ⟨h, ?_⟩
  unfold roundRatio
  refine twoPow_spacing_dvd (Nat.le_trans (roundHalfEven_le _ _) ?_)
  have hq := lt_twoPow_log2_succ (n / d)
  have hle : twoPow ((n / d).log2 + 1) ≤ twoPow (53 + spacing (n / d)) :=
    twoPow_le_twoPow (by unfold spacing; omega)
  rw [← Nat.div_div_eq_div_mul]
  have : n / d / twoPow (spacing (n / d)) < twoPow 53 := by
    rw [Nat.div_lt_iff_lt_mul (twoPow_pos _), ← twoPow_add]
    omega
  omega

/-! ### Finite values -/

/-- A finite value: a sign, and a magnitude in units of `2 ^ (-1074)`. Zero has either sign. -/
structure Finite64 where
  negative : Bool
  magnitude : Nat
  representable : Representable magnitude
deriving DecidableEq

namespace Finite64

/-- The value in units, as an integer. -/
def units (x : Finite64) : Int := if x.negative then -(x.magnitude : Int) else x.magnitude

/-- Zero, of either sign. -/
def zero (negative : Bool) : Finite64 := ⟨negative, 0, overflowUnits_pos, Nat.dvd_zero _⟩

instance : Inhabited Finite64 := ⟨zero false⟩

/-- The finite value with a rounded magnitude, unless it overflows. -/
def ofRatio? (negative : Bool) (n d : Nat) : Option Finite64 :=
  if h : roundRatio n d < overflowUnits then
    some ⟨negative, roundRatio n d, representable_roundRatio h⟩
  else none

/-- The value as a word: the sign bit, eleven bits of exponent and 52 of significand. -/
def bits (x : Finite64) : Nat :=
  (if x.negative then twoPow 63 else 0) + spacing x.magnitude * twoPow 52 +
    x.magnitude / twoPow (spacing x.magnitude)

end Finite64

/-! ### All values -/

/-- A binary64 value: finite, an infinity, or not a number. What is not a number has a sign too,
which its word shows. -/
inductive Double where
  | finite (x : Finite64)
  | infinite (negative : Bool)
  | nan (negative : Bool)
deriving DecidableEq

namespace Double

instance : Coe Finite64 Double := ⟨finite⟩

instance : Inhabited Double := ⟨nan false⟩

/-- The nearest value to `n / d` units, infinite when that overflows. -/
def ofRatio (negative : Bool) (n d : Nat) : Double :=
  match Finite64.ofRatio? negative n d with
  | some x => x
  | none => infinite negative

/-- The nearest value to an integer. -/
def ofInt (n : Int) : Double := ofRatio (decide (n < 0)) (n.natAbs * unitsPerOne) 1

/-- The value, if it is finite. -/
def toFinite? : Double → Option Finite64
  | finite x => some x
  | _ => none

def isFinite (x : Double) : Bool := x.toFinite?.isSome

/-- The order of the extended reals; nothing compares with what is not a number. -/
def le : Double → Double → Bool
  | nan _, _ => false
  | _, nan _ => false
  | infinite true, _ => true
  | _, infinite false => true
  | infinite false, _ => false
  | _, infinite true => false
  | finite x, finite y => decide (x.units ≤ y.units)

/-- Numerical equality: the two zeros are equal, and what is not a number differs from itself. -/
def same (x y : Double) : Bool := x.le y && y.le x

/-- The value as a 64-bit word; what is not a number has one word of each sign here,
`7ff8000000000000` and `fff8000000000000`. -/
def bits : Double → Nat
  | finite x => x.bits
  | infinite negative => (if negative then twoPow 63 else 0) + 2047 * twoPow 52
  | nan negative => (if negative then twoPow 63 else 0) + 2047 * twoPow 52 + twoPow 51

/-- The value of a 64-bit word. -/
def ofBits (w : Nat) : Double :=
  let negative := decide (w / twoPow 63 % 2 = 1)
  let exponent := w / twoPow 52 % twoPow 11
  let fraction := w % twoPow 52
  if exponent = 2047 then (if fraction = 0 then infinite negative else nan negative)
  else if exponent = 0 then ofRatio negative fraction 1
  else ofRatio negative ((twoPow 52 + fraction) * twoPow (exponent - 1)) 1

end Double

end SpatialCatalog
