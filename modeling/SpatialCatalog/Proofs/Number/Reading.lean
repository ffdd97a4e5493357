import SpatialCatalog.Proofs.Number.Layout
import SpatialCatalog.Proofs.Number.Nearest

/-!
# Written values can be read

Reading a value that was written may change its last digit, but it never fails: the numeral of a
finite value is read as a finite value again. Only the three greatest magnitudes need more than the
bound on the rounding errors, and they are computed.
-/

namespace SpatialCatalog

/-! ### The significand -/

theorem readWhole_of_lt (sig : Nat) (ds : List Digit)
    (h : sig * tenPow ds.length + digitsValue ds < significandLimit) :
    readWhole sig ds = (sig * tenPow ds.length + digitsValue ds, 0) := by
  induction ds generalizing sig with
  | nil => simp [readWhole]
  | cons d ds ih =>
    have hsplit : sig * tenPow (d :: ds).length + digitsValue (d :: ds) =
        (10 * sig + d.val) * tenPow ds.length + digitsValue ds := by
      rw [digitsValue_cons, List.length_cons, tenPow_succ]
      ring
    rw [hsplit] at h ⊢
    have hlt : 10 * sig + d.val < significandLimit := by
      have := Nat.le_mul_of_pos_right (10 * sig + d.val) (tenPow_pos ds.length)
      omega
    rw [readWhole, if_pos hlt, ih _ h]

theorem readFraction_of_lt (sig : Nat) (ds : List Digit)
    (h : sig * tenPow ds.length + digitsValue ds < significandLimit) :
    readFraction sig ds = (sig * tenPow ds.length + digitsValue ds, ds.length) := by
  induction ds generalizing sig with
  | nil => simp [readFraction]
  | cons d ds ih =>
    have hsplit : sig * tenPow (d :: ds).length + digitsValue (d :: ds) =
        (10 * sig + d.val) * tenPow ds.length + digitsValue ds := by
      rw [digitsValue_cons, List.length_cons, tenPow_succ]
      ring
    rw [hsplit] at h ⊢
    have hlt : 10 * sig + d.val < significandLimit := by
      have := Nat.le_mul_of_pos_right (10 * sig + d.val) (tenPow_pos ds.length)
      omega
    rw [readFraction, if_pos hlt, ih _ h, List.length_cons]

namespace Numeral

/-- A significand of 64 bits loses no digit. -/
theorem scaled?_eq (m : Numeral) (hsig : m.significand < significandLimit)
    (hexponent : ∀ e ∈ m.exponent, digitsValue e.digits < exponentLimit) :
    m.scaled? = scale? m.negative m.significand m.power := by
  have hsplit : m.significand = digitsValue m.whole * tenPow m.fraction.length +
      digitsValue m.fraction := digitsValue_append _ _
  rw [hsplit] at hsig ⊢
  have hwhole : readWhole 0 m.whole = (digitsValue m.whole, 0) := by
    have := Nat.le_mul_of_pos_right (digitsValue m.whole) (tenPow_pos m.fraction.length)
    rw [readWhole_of_lt] <;> simp only [Nat.zero_mul, Nat.zero_add]
    omega
  unfold scaled? power writtenExponent
  simp only [hwhole, readFraction_of_lt _ _ hsig]
  cases he : m.exponent with
  | none => simp
  | some e =>
    simp only [if_pos (hexponent e he)]
    congr 1
    split <;> omega

end Numeral

/-! ### Scaling -/

theorem isSome_ofRatio? {negative : Bool} {n d : Nat} (h : roundRatio n d < overflowUnits) :
    (Finite64.ofRatio? negative n d).isSome := by
  rw [Finite64.ofRatio?, dif_pos h]
  rfl

theorem unitsPerOne_pos : 0 < unitsPerOne := twoPow_pos 1074

theorem unitsPerOne_le_powerOfTen (k : Nat) : unitsPerOne ≤ powerOfTen k := by
  have hle : unitsPerOne ≤ tenPow k * unitsPerOne := Nat.le_mul_of_pos_left _ (tenPow_pos k)
  have hne : tenPow k * unitsPerOne ≠ 0 :=
    (Nat.mul_pos (tenPow_pos k) unitsPerOne_pos).ne'
  have h := twoPow_log2_le_roundRatio (tenPow k * unitsPerOne) 1 (by rwa [Nat.div_one])
  rw [Nat.div_one] at h
  refine Nat.le_trans (twoPow_le_twoPow ?_) h
  exact (le_log2_iff hne).mpr hle

theorem four_unitsPerOne_le_powerOfTen : 4 * unitsPerOne ≤ powerOfTen greatestPower := by
  decide +kernel

theorem divideByPowers_le (n m : Nat) : divideByPowers n m ≤ m := by
  induction n generalizing m with
  | zero => exact Nat.le_refl m
  | succ n ih =>
    rw [divideByPowers]
    split
    · exact Nat.zero_le _
    next hm =>
      refine Nat.le_trans (ih _) (Nat.le_trans (roundRatio_le _ _) ?_)
      -- A quarter leaves room for rounding, which doubles at most.
      have hq : m * unitsPerOne / powerOfTen greatestPower ≤ m / 4 := by
        refine Nat.le_trans (Nat.div_le_div_left four_unitsPerOne_le_powerOfTen ?_) ?_
        · exact Nat.mul_pos (by decide) unitsPerOne_pos
        · rw [Nat.mul_comm 4, Nat.mul_comm m, Nat.mul_div_mul_left _ _ unitsPerOne_pos]
      omega

/-- Dividing a significand of seventeen digits cannot overflow. -/
theorem isSome_scale?_of_neg {negative : Bool} {sig : Nat} {p : Int} (hp : p < 0)
    (hsig : sig ≤ tenPow 17) : (scale? negative sig p).isSome := by
  unfold scale?
  rw [if_neg (by omega)]
  refine isSome_ofRatio? (Nat.lt_of_le_of_lt (roundRatio_le _ _) ?_)
  generalize (-p).toNat - ((-p).toNat - 1) / greatestPower * greatestPower = last
  have hpos := unitsPerOne_pos
  have hsmall : 4 * (tenPow 17 * unitsPerOne) < overflowUnits := by decide +kernel
  -- The significand is far below the limit, and every division makes it smaller.
  have hm : roundRatio (sig * unitsPerOne) 1 ≤ 2 * (tenPow 17 * unitsPerOne) := by
    have hle := roundRatio_le (sig * unitsPerOne) 1
    have hmul := Nat.mul_le_mul_right unitsPerOne hsig
    have : 1 ≤ tenPow 17 * unitsPerOne := Nat.mul_pos (tenPow_pos 17) hpos
    rw [Nat.div_one] at hle
    omega
  have hblocks := divideByPowers_le (((-p).toNat - 1) / greatestPower)
    (roundRatio (sig * unitsPerOne) 1)
  generalize divideByPowers (((-p).toNat - 1) / greatestPower)
    (roundRatio (sig * unitsPerOne) 1) = rest at hblocks
  have hq : rest * unitsPerOne / powerOfTen last ≤ rest := by
    refine Nat.le_trans (Nat.div_le_div_left (unitsPerOne_le_powerOfTen last) hpos) ?_
    rw [Nat.mul_div_cancel _ hpos]
  have : 1 < overflowUnits := by decide +kernel
  omega

/-- Two rounded factors whose product keeps away from the limit. -/
theorem isSome_scale?_of_nonneg {negative : Bool} {sig : Nat} {p : Int} (hp : 0 ≤ p)
    (hpow : p ≤ greatestPower)
    (h : sig * tenPow p.toNat * unitsPerOne + twoPow 2046 + twoPow 2045 ≤ overflowUnits) :
    (scale? negative sig p).isSome := by
  unfold scale?
  rw [if_pos hp, if_pos hpow]
  refine isSome_ofRatio? (roundRatio_lt_overflowUnits ?_)
  -- Rounding makes each factor greater by one part in `2 ^ 53` at most.
  have hsig := roundRatio_one_le (sig * unitsPerOne)
  have hten : twoPow 53 * powerOfTen p.toNat ≤ (twoPow 53 + 1) * (tenPow p.toNat * unitsPerOne) :=
    roundRatio_one_le _
  have hprod := Nat.mul_le_mul hsig hten
  have hpos := unitsPerOne_pos
  refine Nat.lt_of_mul_lt_mul_left (a := twoPow 53 * twoPow 53) ?_
  calc twoPow 53 * twoPow 53 * (roundRatio (sig * unitsPerOne) 1 * powerOfTen p.toNat +
          unitsPerOne * twoPow 2044)
      = twoPow 53 * roundRatio (sig * unitsPerOne) 1 * (twoPow 53 * powerOfTen p.toNat) +
          twoPow 53 * twoPow 53 * (unitsPerOne * twoPow 2044) := by ring
    _ ≤ (twoPow 53 + 1) * (sig * unitsPerOne) * ((twoPow 53 + 1) * (tenPow p.toNat * unitsPerOne)) +
          twoPow 53 * twoPow 53 * (unitsPerOne * twoPow 2044) := Nat.add_le_add_right hprod _
    _ = unitsPerOne * ((twoPow 53 + 1) * (twoPow 53 + 1) * (sig * tenPow p.toNat * unitsPerOne) +
          twoPow 53 * twoPow 53 * twoPow 2044) := by ring
    _ < unitsPerOne * (twoPow 53 * twoPow 53 * overflowUnits) := by
      refine Nat.mul_lt_mul_of_pos_left ?_ hpos
      generalize sig * tenPow p.toNat * unitsPerOne = v at h
      calc (twoPow 53 + 1) * (twoPow 53 + 1) * v + twoPow 53 * twoPow 53 * twoPow 2044
          ≤ (twoPow 53 + 1) * (twoPow 53 + 1) * (overflowUnits - (twoPow 2046 + twoPow 2045)) +
              twoPow 53 * twoPow 53 * twoPow 2044 := by
            refine Nat.add_le_add_right (Nat.mul_le_mul_left _ ?_) _
            omega
        _ < twoPow 53 * twoPow 53 * overflowUnits := by decide +kernel
    _ = twoPow 53 * twoPow 53 * (unitsPerOne * overflowUnits) := by ring

/-! ### Values -/

/-- What a numeral denotes is at most the upper limit of the value. -/
theorem FoundDecimal.significand_le {m d : Nat} {p : Int} (hfound : FoundDecimal m d p)
    {N : Numeral}
    (hdenotes : N.Denotes d p) (hp : 0 ≤ N.power) :
    N.significand * tenPow N.power.toNat * (4 * unitsPerOne) ≤ (RoundingInterval.of m).high := by
  obtain ⟨a, b, heq, hpow⟩ := hdenotes
  refine Nat.le_of_mul_le_mul_right ?_ (Nat.mul_pos (tenPow_pos a) (tenPow_pos (-p).toNat))
  have hexp : b + N.power.toNat + (-p).toNat = p.toNat + a := by omega
  calc N.significand * tenPow N.power.toNat * (4 * unitsPerOne) * (tenPow a * tenPow (-p).toNat)
      = N.significand * tenPow a * (tenPow N.power.toNat * (4 * unitsPerOne) *
          tenPow (-p).toNat) := by ring
    _ = d * (4 * unitsPerOne) * (tenPow b * tenPow N.power.toNat * tenPow (-p).toNat) := by
        rw [heq]
        ring
    _ = d * (4 * unitsPerOne * tenPow p.toNat) * tenPow a := by
        rw [← tenPow_add, ← tenPow_add, hexp, tenPow_add]
        ring
    _ ≤ (RoundingInterval.of m).high * tenPow (-p).toNat * tenPow a :=
        Nat.mul_le_mul_right _ hfound.within
    _ = (RoundingInterval.of m).high * (tenPow a * tenPow (-p).toNat) := by ring

theorem spacing_le_of_lt_overflowUnits {m : Nat} (h : m < overflowUnits) : spacing m ≤ 2045 := by
  unfold spacing
  by_cases h0 : m = 0
  · simp [h0]
  · have := (log2_lt_iff h0).mpr h
    omega

/-- A placed decimal of all but the greatest magnitudes is read. -/
theorem isSome_scaled?_of_placed {N : Numeral} {m d : Nat} {p : Int} (hfound : FoundDecimal m d p)
    (hplaced : Placed N d p) (hm : m + twoPow 2047 ≤ overflowUnits) : N.scaled?.isSome := by
  have hlimit : tenPow 17 < significandLimit := by decide +kernel
  have hexp : 1100 < exponentLimit := by decide +kernel
  rw [N.scaled?_eq (Nat.lt_of_le_of_lt hplaced.small hlimit)
    fun e he => Nat.lt_of_le_of_lt (hplaced.short e he) hexp]
  by_cases hp : 0 ≤ N.power
  · have hpos : 0 < twoPow 2047 := twoPow_pos 2047
    have hgap := twoPow_le_twoPow (spacing_le_of_lt_overflowUnits (m := m) (by omega))
    have hhigh : (RoundingInterval.of m).high = 4 * m + 2 * twoPow (spacing m) := rfl
    -- What is denoted is at most half a spacing above the magnitude.
    have hle := hfound.significand_le hplaced.denotes hp
    have hsplit : N.significand * tenPow N.power.toNat * (4 * unitsPerOne) =
        4 * (N.significand * tenPow N.power.toNat * unitsPerOne) := by ring
    rw [hhigh, hsplit] at hle
    have h2046 : twoPow 2047 = 2 * twoPow 2046 := by decide +kernel
    have h2045 : twoPow 2046 = 2 * twoPow 2045 := by decide +kernel
    refine isSome_scale?_of_nonneg hp ?_ (by omega)
    by_contra hgreat
    -- A power of ten that the reader has no table for is above every finite value.
    have h309 : 309 ≤ N.power.toNat := by
      have : (greatestPower : Int) = 308 := rfl
      omega
    have hsig : 1 ≤ N.significand := by
      obtain ⟨a, b, heq, -⟩ := hplaced.denotes
      refine Nat.pos_of_ne_zero fun h0 => ?_
      rw [h0, Nat.zero_mul] at heq
      exact (Nat.mul_pos (Nat.pos_of_ne_zero hfound.ne_zero) (tenPow_pos b)).ne heq
    have hbig : tenPow 309 * unitsPerOne ≤ N.significand * tenPow N.power.toNat * unitsPerOne :=
      Nat.mul_le_mul_right _ (Nat.le_trans (tenPow_le_tenPow h309)
        (Nat.le_mul_of_pos_left _ hsig))
    have hover : overflowUnits < tenPow 309 * unitsPerOne := by decide +kernel
    omega
  · exact isSome_scale?_of_neg (by omega) hplaced.small

/-- The three greatest magnitudes are multiples of their spacing. -/
theorem eq_of_great {m : Nat} (hm : Representable m) (h : overflowUnits < m + twoPow 2047) :
    m = overflowUnits - 1 * twoPow 2045 ∨ m = overflowUnits - 2 * twoPow 2045 ∨
      m = overflowUnits - 3 * twoPow 2045 := by
  have hne : m ≠ 0 := by
    rintro rfl
    exact absurd h (by decide +kernel)
  have hlog : 2097 ≤ m.log2 := by
    refine (le_log2_iff hne).mpr ?_
    have : twoPow 2097 + twoPow 2047 ≤ overflowUnits := by decide +kernel
    omega
  have hspacing : 2045 ≤ spacing m := by
    unfold spacing
    omega
  obtain ⟨k, hk⟩ := Nat.dvd_trans (twoPow_dvd_twoPow hspacing) hm.2
  have hlt := hm.1
  have hpos := twoPow_pos 2045
  have hover : overflowUnits = twoPow 53 * twoPow 2045 := (twoPow_add 53 2045)
  have h2047 : twoPow 2047 = 4 * twoPow 2045 := by decide +kernel
  have h53 : 4 ≤ twoPow 53 := by decide
  rw [hk, hover] at hlt
  rw [hk, hover, h2047] at h
  rw [hk, hover]
  generalize twoPow 2045 = g at *
  generalize twoPow 53 = t at *
  have hkt : k < t := by
    rw [Nat.mul_comm] at hlt
    exact Nat.lt_of_mul_lt_mul_right hlt
  have htk : t < k + 4 := by
    refine Nat.lt_of_mul_lt_mul_right (a := g) ?_
    rw [Nat.add_mul, Nat.mul_comm k]
    exact h
  have hcases : k = t - 1 ∨ k = t - 2 ∨ k = t - 3 := by omega
  simp only [← Nat.sub_mul, Nat.mul_comm g]
  obtain rfl | rfl | rfl := hcases <;> simp

theorem isSome_scaled?_of_great (negative : Bool) (j : Nat) (hj : j = 1 ∨ j = 2 ∨ j = 3) :
    (Source.layout.place negative
      (shortestDecimal (overflowUnits - j * twoPow 2045))).scaled?.isSome := by
  obtain rfl | rfl | rfl := hj <;> cases negative <;> decide +kernel

namespace Finite64

/-- What the numeral of a value is like: that of zero, or a placed decimal of the value. -/
theorem numeral_cases (x : Finite64) :
    x.numeral Source.layout = ⟨x.negative, [0], [0], none⟩ ∨
      ∃ d p, FoundDecimal x.magnitude d p ∧ Placed (x.numeral Source.layout) d p := by
  unfold numeral
  split
  · exact .inl rfl
  next hm =>
    obtain h | ⟨d, p, hfound, h⟩ := shortestDecimal_cases hm x.representable.1
    · rw [h]
      exact .inl rfl
    · rw [h]
      exact .inr ⟨d, p, hfound, placed_ofScaled hfound x.negative⟩

theorem wellFormed_numeral (x : Finite64) : (x.numeral Source.layout).WellFormed := by
  obtain h | ⟨d, p, -, h⟩ := x.numeral_cases
  · rw [h]
    exact ⟨.zero, by simp⟩
  · exact h.wellFormed

theorem isPointed_numeral (x : Finite64) : (x.numeral Source.layout).IsPointed := by
  obtain h | ⟨d, p, -, h⟩ := x.numeral_cases
  · rw [h]
    exact .inl (by simp)
  · exact h.pointed

theorem isSome_scaled?_numeral (x : Finite64) : (x.numeral Source.layout).scaled?.isSome := by
  obtain h | ⟨d, p, hfound, hplaced⟩ := x.numeral_cases
  · rw [h]
    cases x.negative <;> decide +kernel
  · by_cases hm : x.magnitude + twoPow 2047 ≤ overflowUnits
    · exact isSome_scaled?_of_placed hfound hplaced hm
    · -- For the three greatest magnitudes the bound is too coarse, and they are computed.
      have hne : x.magnitude ≠ 0 := by
        intro h0
        rw [h0, Nat.zero_add] at hm
        exact hm (by decide +kernel)
      rw [numeral, if_neg hne]
      obtain h | h | h := eq_of_great x.representable (by omega)
      · rw [h]
        exact isSome_scaled?_of_great _ 1 (by decide)
      · rw [h]
        exact isSome_scaled?_of_great _ 2 (by decide)
      · rw [h]
        exact isSome_scaled?_of_great _ 3 (by decide)

/-- The value that is read where a value is written. -/
def reread (x : Finite64) : Finite64 :=
  ((x.numeral Source.layout).scaled?).get x.isSome_scaled?_numeral

/-- **A finite value that is written in a document is read as a finite value.** -/
theorem number?_numeral (x : Finite64) :
    (x.numeral Source.layout).number? = some (.float x.reread) := by
  unfold Numeral.number? reread
  have hfalse : ¬((x.numeral Source.layout).fraction.isEmpty ∧
      (x.numeral Source.layout).exponent = none) := by
    rintro ⟨hf, he⟩
    obtain h | h := x.isPointed_numeral
    · exact h (List.isEmpty_iff.mp hf)
    · exact h he
  rw [if_neg (fun h => hfalse ⟨h.1, h.2.1⟩), if_neg (fun h => hfalse ⟨h.1, h.2.1⟩)]
  simp

end Finite64

end SpatialCatalog
