import SpatialCatalog.Number.Shortest
import SpatialCatalog.Proofs.Number.Digits
import SpatialCatalog.Proofs.Number.Rounding

/-!
# What the search for a shortest decimal finds

A decimal that is found has at most seventeen digits and lies between the rounding limits of the
value. That it is the shortest one, and that one is always found, is not needed for what is proved
from here: `shortestDecimal_cases` leaves open that nothing is found.
-/

namespace SpatialCatalog

/-! ### The first digit -/

theorem leadingZeros_spec (fuel m : Nat) (h : 0 < leadingZeros fuel m) :
    m * tenPow (leadingZeros fuel m - 1) < unitsPerOne := by
  induction fuel generalizing m with
  | zero => simp [leadingZeros] at h
  | succ fuel ih =>
    rw [leadingZeros] at h ⊢
    split at h
    · omega
    next hm =>
      rw [if_neg hm, Nat.add_sub_cancel]
      by_cases h0 : leadingZeros fuel (10 * m) = 0
      · rw [h0, tenPow_zero, Nat.mul_one]
        omega
      · have := ih (10 * m) (Nat.pos_of_ne_zero h0)
        have hz : leadingZeros fuel (10 * m) = leadingZeros fuel (10 * m) - 1 + 1 := by omega
        rw [hz, tenPow_succ]
        calc m * (tenPow (leadingZeros fuel (10 * m) - 1) * 10)
            = 10 * m * tenPow (leadingZeros fuel (10 * m) - 1) := by ring
          _ < unitsPerOne := this

theorem leadingZeros_le (fuel m : Nat) : leadingZeros fuel m ≤ fuel := by
  induction fuel generalizing m with
  | zero => exact Nat.le_refl 0
  | succ fuel ih =>
    rw [leadingZeros]
    split
    · exact Nat.zero_le _
    · exact Nat.succ_le_succ (ih _)

/-- A magnitude is below the power of ten after that of its first digit. -/
theorem lt_leadingExponent_succ (m : Nat) :
    m * tenPow (-(leadingExponent m + 1)).toNat <
      unitsPerOne * tenPow (leadingExponent m + 1).toNat := by
  unfold leadingExponent
  split
  next h =>
    have hpos : 0 < unitsPerOne := twoPow_pos 1074
    have hlt := lt_tenPow_decimalDigits (m / unitsPerOne)
    generalize (decimalDigits (m / unitsPerOne)).length = n at hlt
    rw [show (-((n : Int) - 1 + 1)).toNat = 0 by omega, show ((n : Int) - 1 + 1).toNat = n by omega,
      tenPow_zero, Nat.mul_one, Nat.mul_comm]
    exact (Nat.div_lt_iff_lt_mul hpos).mp hlt
  next h =>
    have hpos : 0 < leadingZeros 324 m := by
      rw [leadingZeros, if_neg h]
      exact Nat.succ_pos _
    have hlt := leadingZeros_spec 324 m hpos
    generalize leadingZeros 324 m = z at hpos hlt
    rw [show (-(-(z : Int) + 1)).toNat = z - 1 by omega, show (-(z : Int) + 1).toNat = 0 by omega,
      tenPow_zero, Nat.mul_one]
    exact hlt

theorem leadingExponent_bounds {m : Nat} (hm : m < overflowUnits) :
    -324 ≤ leadingExponent m ∧ leadingExponent m ≤ 1024 := by
  unfold leadingExponent
  split
  next h =>
    have hq : m / unitsPerOne ≠ 0 := (Nat.div_pos h (twoPow_pos 1074)).ne'
    have hlt : m / unitsPerOne < twoPow 1024 := by
      refine Nat.div_lt_of_lt_mul ?_
      rw [unitsPerOne, ← twoPow_add]
      exact hm
    have hle := Nat.le_trans (twoPow_le_tenPow _) (tenPow_decimalDigits_le hq)
    have hlen : (decimalDigits (m / unitsPerOne)).length - 1 < 1024 := by
      by_contra hge
      exact absurd (Nat.lt_of_le_of_lt hle hlt)
        (Nat.not_lt.mpr (twoPow_le_twoPow (Nat.not_lt.mp hge)))
    omega
  next => have := leadingZeros_le 324 m; omega

/-! ### The limits -/

theorem RoundingInterval.contains_bounds {i : RoundingInterval} {a s : Nat}
    (h : i.contains a s = true) : i.low * s ≤ a ∧ a ≤ i.high * s := by
  unfold contains at h
  split at h
  · simpa using h
  · simp only [Bool.and_eq_true, decide_eq_true_eq] at h
    omega

theorem RoundingInterval.low_pos {m : Nat} (hm : m ≠ 0) : 0 < (RoundingInterval.of m).low := by
  have hgap := twoPow_spacing_le m
  -- Two gaps are less than four magnitudes.
  unfold RoundingInterval.of
  dsimp only
  split <;> omega

theorem roundHalfEven_eq_or (n d : Nat) :
    roundHalfEven n d = n / d ∨ roundHalfEven n d = n / d + 1 := by
  have hlow := div_le_roundHalfEven n d
  have hhigh := roundHalfEven_le n d
  omega

/-- A multiple that is found is one of the two neighbours, and lies between the limits. -/
theorem nearestMultiple?_eq_some {m d : Nat} {p : Int} (h : nearestMultiple? m p = some d) :
    (RoundingInterval.of m).contains (d * (4 * unitsPerOne * tenPow p.toNat)) (tenPow (-p).toNat) ∧
      d ≤ 4 * m * tenPow (-p).toNat / (4 * unitsPerOne * tenPow p.toNat) + 1 := by
  unfold nearestMultiple? at h
  dsimp only at h
  split at h
  next hlow hhigh =>
    obtain rfl := Option.some.inj h
    obtain heq | heq := roundHalfEven_eq_or (4 * m * tenPow (-p).toNat)
        (4 * unitsPerOne * tenPow p.toNat)
    · rw [heq]
      exact ⟨hlow, Nat.le_succ _⟩
    · rw [heq]
      exact ⟨hhigh, Nat.le_refl _⟩
  next hlow _ =>
    obtain rfl := Option.some.inj h
    exact ⟨hlow, Nat.le_succ _⟩
  next _ hhigh =>
    obtain rfl := Option.some.inj h
    exact ⟨hhigh, Nat.le_refl _⟩
  next => simp at h

/-- Scaling both sides of a bound by powers of ten. -/
theorem mul_tenPow_lt {m u : Nat} {p : Int} {j : Nat}
    (h : m * tenPow (-(p + j)).toNat < u * tenPow (p + j).toNat) :
    m * tenPow (-p).toNat < u * tenPow p.toNat * tenPow j := by
  by_cases hp : 0 ≤ p
  · rw [show (-(p + (j : Int))).toNat = 0 by omega,
      show (p + (j : Int)).toNat = p.toNat + j by omega, tenPow_add, ← Nat.mul_assoc] at h
    rwa [show (-p).toNat = 0 by omega]
  · -- A negative power of ten stands on the left, where `p + j` may leave it or not.
    by_cases hpj : 0 ≤ p + j
    · rw [show (-(p + (j : Int))).toNat = 0 by omega, tenPow_zero, Nat.mul_one] at h
      have := Nat.mul_lt_mul_of_pos_right h (tenPow_pos (-p).toNat)
      rw [Nat.mul_assoc, ← tenPow_add] at this
      rwa [show p.toNat = 0 by omega, tenPow_zero, Nat.mul_one,
        show j = (p + (j : Int)).toNat + (-p).toNat by omega]
    · rw [show (p + (j : Int)).toNat = 0 by omega, tenPow_zero, Nat.mul_one] at h
      have := Nat.mul_lt_mul_of_pos_right h (tenPow_pos j)
      rw [Nat.mul_assoc, ← tenPow_add] at this
      rwa [show p.toNat = 0 by omega, tenPow_zero, Nat.mul_one,
        show (-p).toNat = (-(p + (j : Int))).toNat + j by omega]

/-! ### The search -/

/-- A decimal `d * 10 ^ p` between the rounding limits of a magnitude, of moderate size. -/
structure FoundDecimal (m d : Nat) (p : Int) : Prop where
  ne_zero : d ≠ 0
  le : d ≤ tenPow 17
  least : -400 ≤ p
  greatest : p ≤ 1024
  within : d * (4 * unitsPerOne * tenPow p.toNat) ≤
    (RoundingInterval.of m).high * tenPow (-p).toNat

theorem found_of_nearestMultiple? {m d k : Nat} (hm : m ≠ 0) (hfinite : m < overflowUnits)
    (hk : k < 17) (h : nearestMultiple? m (leadingExponent m - k) = some d) :
    FoundDecimal m d (leadingExponent m - k) := by
  obtain ⟨hin, hd⟩ := nearestMultiple?_eq_some h
  obtain ⟨hlow, hhigh⟩ := RoundingInterval.contains_bounds hin
  obtain ⟨hleast, hgreatest⟩ := leadingExponent_bounds hfinite
  refine ⟨?_, ?_, by omega, by omega, hhigh⟩
  · rintro rfl
    have := Nat.mul_pos (RoundingInterval.low_pos hm) (tenPow_pos (-(leadingExponent m - k)).toNat)
    omega
  · -- The neighbours have at most `k + 1` digits, or are the power of ten above.
    have hlt := lt_leadingExponent_succ m
    generalize hp : leadingExponent m - k = p at hd
    have he : leadingExponent m + 1 = p + ((k + 1 : Nat) : Int) := by omega
    rw [he] at hlt
    have hlt := mul_tenPow_lt hlt
    have hq : 4 * m * tenPow (-p).toNat / (4 * unitsPerOne * tenPow p.toNat) < tenPow (k + 1) := by
      refine Nat.div_lt_of_lt_mul ?_
      calc 4 * m * tenPow (-p).toNat = 4 * (m * tenPow (-p).toNat) := by ring
        _ < 4 * (unitsPerOne * tenPow p.toNat * tenPow (k + 1)) :=
          Nat.mul_lt_mul_of_pos_left hlt (by decide)
        _ = 4 * unitsPerOne * tenPow p.toNat * tenPow (k + 1) := by ring
    exact Nat.le_trans hd (Nat.le_trans hq (tenPow_le_tenPow (by omega)))

/-- A shortest decimal is one that is found, or the empty one. -/
theorem shortestDecimal_cases {m : Nat} (hm : m ≠ 0) (hfinite : m < overflowUnits) :
    shortestDecimal m = ⟨[], 0⟩ ∨
      ∃ d p, FoundDecimal m d p ∧ shortestDecimal m = Decimal.ofScaled d p := by
  unfold shortestDecimal
  dsimp only
  cases hf : (List.range 17).findSome? fun (k : Nat) =>
      (nearestMultiple? m (leadingExponent m - k)).map fun d =>
        Decimal.ofScaled d (leadingExponent m - k) with
  | none => exact .inl rfl
  | some decimal =>
    obtain ⟨k, hk, hmap⟩ := List.exists_of_findSome?_eq_some hf
    obtain ⟨d, hd, rfl⟩ := Option.map_eq_some_iff.mp hmap
    exact .inr ⟨d, _, found_of_nearestMultiple? hm hfinite (List.mem_range.mp hk) hd, rfl⟩

end SpatialCatalog
