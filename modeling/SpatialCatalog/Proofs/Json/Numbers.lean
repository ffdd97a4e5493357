import SpatialCatalog.Json.Order
import SpatialCatalog.Proofs.Json.Range

/-!
# How numbers compare

Documents hold whole numbers of 64 bits and binary64 values. `Number.value` is the exact value of
a number, and what it is compared as, `Number.units`, is the binary64 value nearest to it. So what
a comparison of numbers says about their values depends on whether they are rounded to one:
`Number.Compared` collects what it says.
-/

namespace SpatialCatalog

/-! ### Finite values -/

/-- What is rounded to a finite value does not overflow. -/
theorem Double.roundRatio_lt_of_isFinite {negative : Bool} {n d : Nat}
    (h : (ofRatio negative n d).isFinite) : roundRatio n d < overflowUnits := by
  unfold ofRatio Finite64.ofRatio? at h
  split at h
  next heq =>
    split at heq
    next hlt => exact hlt
    next => cases heq
  next => cases h

theorem Finite64.natAbs_units (x : Finite64) : x.units.natAbs = x.magnitude := by
  unfold units
  split <;> simp

/-! ### What a number is compared as -/

namespace Number

/-- The exact value of a number, in units. -/
def value : Number → Int
  | int n => n * unitsPerOne
  | float x => x.units

/-- What a number is compared as is its exact value, rounded. -/
theorem units_eq_roundUnits (n : Number) : n.units = roundUnits n.value := by
  cases n with
  | int n =>
    have hpos : (0 : Int) < unitsPerOne := Int.natCast_pos.mpr unitsPerOne_pos
    have hsign : n * (unitsPerOne : Int) < 0 ↔ n < 0 := by
      rw [← Int.not_le, ← Int.not_le, Int.mul_nonneg_iff_of_pos_right hpos]
    simp only [units, value, roundUnits, hsign, Int.natAbs_mul, Int.natAbs_natCast]
  | float x =>
    have hshort : IsShort x.units.natAbs := by
      rw [Finite64.natAbs_units]
      exact x.representable.2
    exact (roundUnits_eq_self hshort).symm

theorem units_mono {m n : Number} (h : m.value ≤ n.value) : m.units ≤ n.units := by
  rw [units_eq_roundUnits, units_eq_roundUnits]
  exact roundUnits_mono h

/-- A number with 53 bits at most is compared as what it is. -/
theorem units_eq_value {n : Number} (h : IsShort n.value.natAbs) : n.units = n.value := by
  rw [units_eq_roundUnits, roundUnits_eq_self h]

/-- Numbers that are compared as one value are near each other. -/
theorem twoPow_mul_distance_le {m n : Number} (h : m.units = n.units) :
    twoPow 53 * (m.value - n.value).natAbs ≤ m.value.natAbs + n.value.natAbs := by
  have hm := SpatialCatalog.twoPow_mul_distance_le m.value.natAbs
  have hn := SpatialCatalog.twoPow_mul_distance_le n.value.natAbs
  rw [← natAbs_roundUnits_sub, ← units_eq_roundUnits] at hm hn
  have htriangle : (m.value - n.value).natAbs ≤
      (m.units - m.value).natAbs + (n.units - n.value).natAbs := by omega
  calc twoPow 53 * (m.value - n.value).natAbs
      ≤ twoPow 53 * ((m.units - m.value).natAbs + (n.units - n.value).natAbs) :=
        Nat.mul_le_mul_left _ htriangle
    _ = twoPow 53 * (m.units - m.value).natAbs + twoPow 53 * (n.units - n.value).natAbs :=
        Nat.mul_add _ _ _
    _ ≤ m.value.natAbs + n.value.natAbs := Nat.add_le_add hm hn

theorem InRange.nearestTo {n : Number} (h : n.InRange) : NearestTo n.value n.units := by
  rw [units_eq_roundUnits]
  apply nearestTo_roundUnits
  cases n with
  | int n =>
    have hfinite := h.isFinite_toDouble
    rw [toDouble, Double.ofInt] at hfinite
    rw [value, Int.natAbs_mul, Int.natAbs_natCast]
    exact Double.roundRatio_lt_of_isFinite hfinite
  | float x =>
    rw [value, Finite64.natAbs_units, roundRatio_one_eq_self x.representable.2]
    exact x.representable.1

/-- The numbers of a document are compared as the binary64 values nearest to them. -/
theorem InRange.nearestTo_iff {n : Number} (h : n.InRange) {u : Int} :
    NearestTo n.value u ↔ u = n.units :=
  ⟨fun hu => hu.unique h.nearestTo, fun hu => hu ▸ h.nearestTo⟩

/-! ### Comparisons -/

/-- The outcome of a comparison of numbers: it is that of the values nearest to them, and that of
their own values unless it takes two values for one. -/
structure Compared (m n : Number) (outcome : Ordering) : Prop where
  nearest_left : ∀ u, NearestTo m.value u ↔ u = m.units
  nearest_right : ∀ u, NearestTo n.value u ↔ u = n.units
  outcome_eq : outcome = compare m.units n.units
  exact_iff : outcome = compare m.value n.value ↔ (m.units = n.units → m.value = n.value)
  lt : outcome = .lt → m.value < n.value
  gt : outcome = .gt → n.value < m.value
  /-- Values that are taken for one differ by one part in `2 ^ 53` of their sum at most. -/
  near : outcome = .eq →
    twoPow 53 * (m.value - n.value).natAbs ≤ m.value.natAbs + n.value.natAbs
  /-- Values of 53 bits are not rounded. -/
  exact_of_isShort : IsShort m.value.natAbs → IsShort n.value.natAbs →
    outcome = compare m.value n.value

variable {m n : Number}

/-- Numbers that are rounded to different values are in the order of these. -/
theorem value_lt_of_units_lt (h : m.units < n.units) : m.value < n.value := by
  by_contra hle
  have := units_mono (Int.not_lt.mp hle)
  omega

/-- Two numbers compare as their values do unless these differ and are rounded to one value. -/
theorem compare_units_eq_iff :
    compare m.units n.units = compare m.value n.value ↔
      (m.units = n.units → m.value = n.value) := by
  constructor
  · intro h hunits
    rw [compare_eq_iff_eq.mpr hunits] at h
    exact compare_eq_iff_eq.mp h.symm
  · intro h
    rcases Int.lt_trichotomy m.units n.units with hlt | heq | hgt
    · rw [compare_lt_iff_lt.mpr hlt, compare_lt_iff_lt.mpr (value_lt_of_units_lt hlt)]
    · rw [compare_eq_iff_eq.mpr heq, compare_eq_iff_eq.mpr (h heq)]
    · rw [compare_gt_iff_gt.mpr hgt, compare_gt_iff_gt.mpr (value_lt_of_units_lt hgt)]

/-- What a comparison of two numbers of documents says. -/
theorem compared (hm : m.InRange) (hn : n.InRange) :
    Compared m n ((Json.num m).compare (.num n)) where
  nearest_left u := hm.nearestTo_iff
  nearest_right u := hn.nearestTo_iff
  outcome_eq := rfl
  exact_iff := compare_units_eq_iff
  lt h := value_lt_of_units_lt (compare_lt_iff_lt.mp h)
  gt h := value_lt_of_units_lt (compare_gt_iff_gt.mp h)
  near h := twoPow_mul_distance_le (compare_eq_iff_eq.mp h)
  exact_of_isShort hm hn := compare_units_eq_iff.mpr fun h => by
    rwa [units_eq_value hm, units_eq_value hn] at h

end Number

end SpatialCatalog
