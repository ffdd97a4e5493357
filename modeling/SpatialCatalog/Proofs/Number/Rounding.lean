import SpatialCatalog.Number.Binary64
import Mathlib.Tactic.Ring

/-!
# How far rounding goes

Bounds on `roundRatio`, in natural numbers: a rough one that holds of every quotient, the error in
spacings, and the quotients that do not overflow.
-/

namespace SpatialCatalog

theorem le_log2_iff {n k : Nat} (h : n ≠ 0) : k ≤ n.log2 ↔ twoPow k ≤ n := Nat.le_log2 h

theorem div_le_roundHalfEven (n d : Nat) : n / d ≤ roundHalfEven n d := by
  unfold roundHalfEven
  dsimp only
  split
  · exact Nat.le_refl _
  · split
    · omega
    · split <;> omega

/-- A rounded quotient is at most a half too large. -/
theorem roundHalfEven_mul_le (n d : Nat) : 2 * (d * roundHalfEven n d) ≤ 2 * n + d := by
  have h := Nat.div_add_mod n d
  have hq : d * (n / d + 1) = d * (n / d) + d := by ring
  unfold roundHalfEven
  dsimp only
  split
  · omega
  · split
    · rw [hq]
      omega
    · split
      · omega
      · rw [hq]
        omega

theorem spacing_le_log2 (q : Nat) : spacing q ≤ q.log2 := Nat.sub_le _ _

/-- The spacing is at most the number itself, or one. -/
theorem twoPow_spacing_le (q : Nat) : twoPow (spacing q) ≤ max 1 q := by
  by_cases hq : q = 0
  · subst hq
    simp [spacing]
  · have h : twoPow (spacing q) ≤ twoPow q.log2 := twoPow_le_twoPow (spacing_le_log2 q)
    have hself : twoPow q.log2 ≤ q := Nat.log2_self_le hq
    omega

/-- A rounded quotient is at most twice the quotient, or one. -/
theorem roundRatio_le (n d : Nat) : roundRatio n d ≤ n / d + max 1 (n / d) := by
  unfold roundRatio
  dsimp only
  have hle := roundHalfEven_le n (d * twoPow (spacing (n / d)))
  have hdiv : n / (d * twoPow (spacing (n / d))) * twoPow (spacing (n / d)) ≤ n / d := by
    rw [← Nat.div_div_eq_div_mul]
    exact Nat.div_mul_le_self _ _
  have hk := twoPow_spacing_le (n / d)
  calc roundHalfEven n (d * twoPow (spacing (n / d))) * twoPow (spacing (n / d))
      ≤ (n / (d * twoPow (spacing (n / d))) + 1) * twoPow (spacing (n / d)) :=
        Nat.mul_le_mul_right _ hle
    _ = n / (d * twoPow (spacing (n / d))) * twoPow (spacing (n / d)) +
          twoPow (spacing (n / d)) := by ring
    _ ≤ n / d + max 1 (n / d) := Nat.add_le_add hdiv hk

/-- Rounding does not go below the power of two that is below the quotient. -/
theorem twoPow_log2_le_roundRatio (n d : Nat) (h : n / d ≠ 0) :
    twoPow (n / d).log2 ≤ roundRatio n d := by
  unfold roundRatio
  dsimp only
  have hself : twoPow (n / d).log2 ≤ n / d := Nat.log2_self_le h
  have hsplit : twoPow (n / d).log2 =
      twoPow ((n / d).log2 - spacing (n / d)) * twoPow (spacing (n / d)) := by
    rw [← twoPow_add, Nat.sub_add_cancel (spacing_le_log2 _)]
  rw [hsplit] at hself ⊢
  refine Nat.mul_le_mul_right _ (Nat.le_trans ?_ (div_le_roundHalfEven _ _))
  rw [← Nat.div_div_eq_div_mul]
  exact (Nat.le_div_iff_mul_le (twoPow_pos _)).mpr hself

/-- A rounded quotient is too large by half a spacing at most. -/
theorem mul_roundRatio_le (n d : Nat) :
    2 * (d * roundRatio n d) ≤ 2 * n + d * twoPow (spacing (n / d)) := by
  unfold roundRatio
  have h := roundHalfEven_mul_le n (d * twoPow (spacing (n / d)))
  calc 2 * (d * (roundHalfEven n (d * twoPow (spacing (n / d))) * twoPow (spacing (n / d))))
      = 2 * (d * twoPow (spacing (n / d)) * roundHalfEven n (d * twoPow (spacing (n / d)))) := by
        ring
    _ ≤ 2 * n + d * twoPow (spacing (n / d)) := h

/-- The quotients that do not overflow: those below the middle between the greatest finite value
and the limit. -/
theorem roundRatio_lt_overflowUnits {n d : Nat} (h : n + d * twoPow 2044 < d * overflowUnits) :
    roundRatio n d < overflowUnits := by
  have hd : 0 < d := Nat.pos_of_ne_zero (by rintro rfl; simp at h)
  have hq : n / d < overflowUnits := Nat.div_lt_of_lt_mul (by omega)
  have hk : spacing (n / d) ≤ 2045 := by
    unfold spacing
    by_cases h0 : n / d = 0
    · simp [h0]
    · have := (log2_lt_iff h0).mpr hq
      omega
  -- Half a spacing is at most the distance that is left to the limit.
  have hspacing : d * twoPow (spacing (n / d)) ≤ d * (2 * twoPow 2044) := by
    refine Nat.mul_le_mul_left _ (Nat.le_trans (twoPow_le_twoPow hk) ?_)
    rw [show 2045 = 2044 + 1 from rfl, twoPow_succ, Nat.mul_comm]
  have hround := mul_roundRatio_le n d
  refine Nat.lt_of_mul_lt_mul_left (a := d) ?_
  have hdist : d * (2 * twoPow 2044) = 2 * (d * twoPow 2044) := by ring
  omega

end SpatialCatalog
