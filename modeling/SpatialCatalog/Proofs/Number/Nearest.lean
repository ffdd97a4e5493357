import SpatialCatalog.Proofs.Number.Rounding

/-!
# Rounding goes to the nearest value

`NearestTo v u` says that `u` is the binary64 value nearest to `v`, both in units, and the one with
the even significand if there are two, so that there is one at most (`NearestTo.unique`).
`roundUnits` rounds a value so. Rounding keeps the order of values, leaves binary64 values as they
are, and moves no value by more than one part in `2 ^ 53`.
-/

namespace SpatialCatalog

/-! ### The nearest multiple -/

/-- Another multiple is on one side of a multiple or on the other, by one spacing at least. -/
theorem mul_le_or_add_le (c q d : Nat) : c * d ≤ q * d ∨ q * d + d ≤ c * d := by
  rcases Nat.lt_or_ge q c with h | h
  · right
    rw [← Nat.add_one_mul]
    exact Nat.mul_le_mul_right d h
  · exact .inl (Nat.mul_le_mul_right d h)

/-- A rounded quotient is the quotient or the next number, whichever is not farther away, and even
if they are equally far. -/
theorem roundHalfEven_cases (n d : Nat) :
    (roundHalfEven n d = n / d ∧ 2 * (n % d) < d) ∨
      (roundHalfEven n d = n / d + 1 ∧ d < 2 * (n % d)) ∨
      (roundHalfEven n d % 2 = 0 ∧ 2 * (n % d) = d ∧
        (roundHalfEven n d = n / d ∨ roundHalfEven n d = n / d + 1)) := by
  unfold roundHalfEven
  dsimp only
  split
  next h => exact .inl ⟨rfl, h⟩
  next h =>
    split
    next h' => exact .inr (.inl ⟨rfl, h'⟩)
    next h' =>
      right
      right
      split <;> omega

section

variable {n d : Nat}

theorem roundHalfEven_nearest (hd : 0 < d) (c : Nat) :
    (((roundHalfEven n d * d : Nat) : Int) - n).natAbs ≤ (((c * d : Nat) : Int) - n).natAbs := by
  have hn := Nat.div_add_mod' n d
  have hr := Nat.mod_lt n hd
  have hside := mul_le_or_add_le c (n / d) d
  have hsucc := Nat.add_one_mul (n / d) d
  rcases roundHalfEven_cases n d with ⟨h, _⟩ | ⟨h, _⟩ | ⟨-, _, h | h⟩ <;> rw [h] <;> omega

/-- A rounded quotient is off by half at most. -/
theorem two_mul_distance_le (hd : 0 < d) :
    2 * (((roundHalfEven n d * d : Nat) : Int) - n).natAbs ≤ d := by
  have hn := Nat.div_add_mod' n d
  have hr := Nat.mod_lt n hd
  have hbelow := roundHalfEven_nearest (n := n) hd (n / d)
  have habove := roundHalfEven_nearest (n := n) hd (n / d + 1)
  have hsucc := Nat.add_one_mul (n / d) d
  omega

/-- Two multiples that are equally near are the two around the number. -/
theorem roundHalfEven_even (hd : 0 < d) {c : Nat} (hne : c ≠ roundHalfEven n d)
    (htie : (((c * d : Nat) : Int) - n).natAbs =
      (((roundHalfEven n d * d : Nat) : Int) - n).natAbs) :
    roundHalfEven n d % 2 = 0 := by
  have hn := Nat.div_add_mod' n d
  have hr := Nat.mod_lt n hd
  have hside := mul_le_or_add_le c (n / d) d
  have hsucc := Nat.add_one_mul (n / d) d
  rcases roundHalfEven_cases n d with ⟨h, _⟩ | ⟨h, _⟩ | ⟨h, -⟩
  · rw [h] at hne htie
    have hne' : c * d ≠ n / d * d := fun heq => hne (Nat.eq_of_mul_eq_mul_right hd heq)
    omega
  · rw [h] at hne htie
    have hne' : c * d ≠ (n / d + 1) * d := fun heq => hne (Nat.eq_of_mul_eq_mul_right hd heq)
    have hside' := mul_le_or_add_le c (n / d + 1) d
    omega
  · exact h

end

/-! ### Magnitudes -/

/-- A magnitude has 53 significant bits at most, however large it is. -/
def IsShort (m : Nat) : Prop := twoPow (spacing m) ∣ m

variable {n m : Nat}

/-- The quotient of a number by its spacing has 53 bits at most. -/
theorem div_twoPow_spacing_lt (n : Nat) : n / twoPow (spacing n) < twoPow 53 := by
  rw [Nat.div_lt_iff_lt_mul (twoPow_pos _), ← twoPow_add]
  refine Nat.lt_of_lt_of_le (lt_twoPow_log2_succ n) (twoPow_le_twoPow ?_)
  unfold spacing
  omega

theorem spacing_le_spacing (h : m ≤ n) : spacing m ≤ spacing n := by
  refine Nat.sub_le_sub_right ?_ 52
  by_cases hm : m = 0
  · rw [hm]
    exact Nat.zero_le _
  · rw [le_log2_iff (by omega)]
    exact Nat.le_trans (Nat.log2_self_le hm) h

/-- The power of two below a number is a multiple of its spacing. -/
theorem twoPow_mul_spacing_le (h : 52 ≤ n.log2) : twoPow 52 * twoPow (spacing n) ≤ n := by
  rw [← twoPow_add, spacing, Nat.add_sub_of_le h]
  exact Nat.log2_self_le (by rintro rfl; simp at h)

theorem twoPow_mul_spacing_le_of_not_isShort (h : ¬IsShort n) :
    twoPow 52 * twoPow (spacing n) ≤ n := by
  apply twoPow_mul_spacing_le
  by_contra hlog
  have hzero : spacing n = 0 := by
    unfold spacing
    omega
  exact h (by rw [IsShort, hzero]; exact Nat.one_dvd n)

/-- The magnitudes that are no multiples of the spacing of a number are below the power of two below
it. -/
theorem IsShort.dvd_or_lt (h : IsShort m) (n : Nat) :
    twoPow (spacing n) ∣ m ∨
      (m < twoPow 52 * twoPow (spacing n) ∧ twoPow 52 * twoPow (spacing n) ≤ n) := by
  by_cases hle : spacing n ≤ spacing m
  · exact .inl (Nat.dvd_trans (twoPow_dvd_twoPow hle) h)
  · have hlog : 52 ≤ n.log2 := by
      unfold spacing at hle
      omega
    refine .inr ⟨?_, twoPow_mul_spacing_le hlog⟩
    rw [← twoPow_add]
    by_cases hm : m = 0
    · rw [hm]
      exact twoPow_pos _
    · rw [← log2_lt_iff hm]
      unfold spacing at hle ⊢
      omega

/-! ### Rounded magnitudes -/

theorem roundRatio_one (n : Nat) :
    roundRatio n 1 = roundHalfEven n (twoPow (spacing n)) * twoPow (spacing n) := by
  rw [roundRatio, Nat.div_one, Nat.one_mul]

/-- The quotient by the spacing is rounded to 53 bits, or to the power of two after them. -/
theorem roundHalfEven_spacing_le (n : Nat) :
    roundHalfEven n (twoPow (spacing n)) ≤ twoPow 53 := by
  have hlt := div_twoPow_spacing_lt n
  have hle := roundHalfEven_le n (twoPow (spacing n))
  omega

theorem isShort_roundRatio_one (n : Nat) : IsShort (roundRatio n 1) := by
  rw [roundRatio_one]
  exact twoPow_spacing_dvd (roundHalfEven_spacing_le n)

theorem roundRatio_one_nearest (n : Nat) (hm : IsShort m) :
    ((roundRatio n 1 : Int) - n).natAbs ≤ ((m : Int) - n).natAbs := by
  rw [roundRatio_one]
  have hpos := twoPow_pos (spacing n)
  obtain ⟨c, rfl⟩ | ⟨hlt, hle⟩ := hm.dvd_or_lt n
  · rw [Nat.mul_comm _ c]
    exact roundHalfEven_nearest hpos c
  · have hnear := roundHalfEven_nearest (n := n) hpos (twoPow 52)
    omega

theorem roundRatio_one_eq_self (h : IsShort n) : roundRatio n 1 = n := by
  have hnear := roundRatio_one_nearest n h
  omega

/-- Rounding moves a number by one part in `2 ^ 53` at most. -/
theorem twoPow_mul_distance_le (n : Nat) :
    twoPow 53 * ((roundRatio n 1 : Int) - n).natAbs ≤ n := by
  by_cases hn : IsShort n
  · rw [roundRatio_one_eq_self hn, Int.sub_self]
    exact Nat.zero_le n
  · have hhalf := two_mul_distance_le (n := n) (twoPow_pos (spacing n))
    rw [← roundRatio_one] at hhalf
    calc twoPow 53 * ((roundRatio n 1 : Int) - n).natAbs
        = twoPow 52 * (2 * ((roundRatio n 1 : Int) - n).natAbs) := by
          rw [twoPow_succ, Nat.mul_assoc]
      _ ≤ twoPow 52 * twoPow (spacing n) := Nat.mul_le_mul_left _ hhalf
      _ ≤ n := twoPow_mul_spacing_le_of_not_isShort hn

/-- Rounding adds at most one part in `2 ^ 53` to a number. -/
theorem roundRatio_one_le (n : Nat) : twoPow 53 * roundRatio n 1 ≤ (twoPow 53 + 1) * n := by
  have hdistance := twoPow_mul_distance_le n
  have hle : roundRatio n 1 ≤ n + ((roundRatio n 1 : Int) - n).natAbs := by omega
  calc twoPow 53 * roundRatio n 1
      ≤ twoPow 53 * (n + ((roundRatio n 1 : Int) - n).natAbs) := Nat.mul_le_mul_left _ hle
    _ = twoPow 53 * n + twoPow 53 * ((roundRatio n 1 : Int) - n).natAbs := Nat.mul_add _ _ _
    _ ≤ twoPow 53 * n + n := Nat.add_le_add_left hdistance _
    _ = (twoPow 53 + 1) * n := (Nat.add_one_mul _ _).symm

/-! ### Even significands -/

/-- The significand of a magnitude of 53 bits, or of the power of two after them. -/
theorem two_dvd_significand {q k : Nat} (hlow : twoPow 52 ≤ q) (hhigh : q ≤ twoPow 53)
    (heven : 2 ∣ q) : 2 ∣ q * twoPow k / twoPow (spacing (q * twoPow k)) := by
  have hk := twoPow_pos k
  by_cases hlt : q < twoPow 53
  · have hne : q * twoPow k ≠ 0 :=
      (Nat.mul_pos (Nat.lt_of_lt_of_le (twoPow_pos 52) hlow) hk).ne'
    have hle : 52 + k ≤ (q * twoPow k).log2 := by
      rw [le_log2_iff hne, twoPow_add]
      exact Nat.mul_le_mul_right _ hlow
    have hlog : (q * twoPow k).log2 < 53 + k := by
      rw [log2_lt_iff hne, twoPow_add]
      exact Nat.mul_lt_mul_of_pos_right hlt hk
    have hspacing : spacing (q * twoPow k) = k := by
      unfold spacing
      omega
    rw [hspacing, Nat.mul_div_cancel _ hk]
    exact heven
  · obtain rfl : q = twoPow 53 := by omega
    have hspacing : spacing (twoPow 53 * twoPow k) = k + 1 := by
      rw [← twoPow_add, spacing, log2_twoPow]
      omega
    have hsplit : twoPow 53 * twoPow k = twoPow 52 * twoPow (k + 1) := by
      rw [← twoPow_add, ← twoPow_add]
      congr 1
      omega
    rw [hspacing, hsplit, Nat.mul_div_cancel _ (twoPow_pos _)]
    decide

/-- Of two magnitudes that are equally near, the one with the even significand is taken. -/
theorem roundRatio_one_even (hm : IsShort m) (hne : m ≠ roundRatio n 1)
    (htie : ((m : Int) - n).natAbs = ((roundRatio n 1 : Int) - n).natAbs) :
    2 ∣ roundRatio n 1 / twoPow (spacing (roundRatio n 1)) := by
  have hn : ¬IsShort n := by
    -- A number of 53 bits is not rounded, and nothing else is at no distance from it.
    intro hn
    rw [roundRatio_one_eq_self hn] at hne htie
    omega
  have hpos := twoPow_pos (spacing n)
  rw [roundRatio_one] at hne htie ⊢
  obtain ⟨c, rfl⟩ | ⟨hlt, hle⟩ := hm.dvd_or_lt n
  · rw [Nat.mul_comm _ c] at hne htie
    have heven := roundHalfEven_even hpos (fun h => hne (h ▸ rfl)) htie
    have hlow : twoPow 52 ≤ n / twoPow (spacing n) :=
      (Nat.le_div_iff_mul_le hpos).mpr (twoPow_mul_spacing_le_of_not_isShort hn)
    exact two_dvd_significand (Nat.le_trans hlow (div_le_roundHalfEven _ _))
      (roundHalfEven_spacing_le n) (Nat.dvd_of_mod_eq_zero heven)
  · -- The power of two below the number is nearer than what is below it.
    have hnear := roundHalfEven_nearest (n := n) hpos (twoPow 52)
    omega

/-- Of two magnitudes next to each other, one has an odd significand. -/
theorem not_two_dvd_of_adjacent {a b : Nat} (ha : IsShort a) (hb : IsShort b) (hlt : a < b)
    (hnone : ∀ c, IsShort c → a < c → b ≤ c) :
    ¬(2 ∣ a / twoPow (spacing a) ∧ 2 ∣ b / twoPow (spacing b)) := by
  rintro ⟨haeven, hbeven⟩
  have hpos := twoPow_pos (spacing a)
  obtain ⟨q, hq⟩ := ha
  have hdiv : a / twoPow (spacing a) = q := Nat.div_eq_of_eq_mul_right hpos hq
  have hq53 := div_twoPow_spacing_lt a
  rw [hdiv] at haeven hq53
  have hspacing := spacing_le_spacing hlt.le
  -- The next magnitude is one spacing farther.
  have hnext : b = (q + 1) * twoPow (spacing a) := by
    have hsucc : (q + 1) * twoPow (spacing a) = a + twoPow (spacing a) := by
      rw [Nat.add_one_mul, Nat.mul_comm q, ← hq]
    have hshort : IsShort ((q + 1) * twoPow (spacing a)) := twoPow_spacing_dvd hq53
    have hle := hnone _ hshort (by omega)
    obtain ⟨c, hc⟩ := Nat.dvd_trans (twoPow_dvd_twoPow hspacing) hb
    have hside := mul_le_or_add_le c q (twoPow (spacing a))
    rw [Nat.mul_comm c, ← hc, Nat.mul_comm q, ← hq] at hside
    omega
  have hodd : 2 ∣ q + 1 := by
    by_cases heq : spacing b = spacing a
    · rwa [heq, hnext, Nat.mul_div_cancel _ hpos] at hbeven
    · have hsucc := Nat.dvd_trans (twoPow_dvd_twoPow (show spacing a + 1 ≤ spacing b by omega)) hb
      rw [hnext, twoPow_succ, Nat.mul_comm] at hsucc
      exact Nat.dvd_of_mul_dvd_mul_right hpos hsucc
  omega

/-! ### The nearest value -/

/-- The binary64 value nearest to a value, and of two the one with the even significand; both are
in units. -/
structure NearestTo (v u : Int) : Prop where
  representable : Representable u.natAbs
  nearest : ∀ w : Int, Representable w.natAbs → (u - v).natAbs ≤ (w - v).natAbs
  even : ∀ w : Int, Representable w.natAbs → w ≠ u → (w - v).natAbs = (u - v).natAbs →
    2 ∣ u.natAbs / twoPow (spacing u.natAbs)

namespace NearestTo

variable {v u w : Int}

/-- Two values that are nearest are equally near, so nothing is between them. -/
theorem not_between (hu : NearestTo v u) (hw : NearestTo v w) {x : Int}
    (hx : Representable x.natAbs) : ¬(u < x ∧ x < w) := by
  have hle := hu.nearest w hw.representable
  have hle' := hw.nearest u hu.representable
  have hnear := hu.nearest x hx
  omega

theorem not_across_zero (hu : NearestTo v u) (hw : NearestTo v w) : ¬(u < 0 ∧ 0 < w) :=
  hu.not_between hw ⟨overflowUnits_pos, Nat.dvd_zero _⟩

/-- Both significands would be even, which they are not of values next to each other. -/
theorem natAbs_le (hu : NearestTo v u) (hw : NearestTo v w) : w.natAbs ≤ u.natAbs := by
  by_contra hlt
  have hle := hu.nearest w hw.representable
  have hle' := hw.nearest u hu.representable
  have hside := hu.not_across_zero hw
  have hside' := hw.not_across_zero hu
  have hne : w ≠ u := by
    rintro rfl
    exact hlt (Nat.le_refl _)
  refine not_two_dvd_of_adjacent hu.representable.2 hw.representable.2 (Nat.lt_of_not_le hlt) ?_
    ⟨hu.even w hw.representable hne (by omega), hw.even u hu.representable hne.symm (by omega)⟩
  intro c hc huc
  by_contra hcw
  have hfinite : Representable c := ⟨Nat.lt_trans (Nat.lt_of_not_le hcw) hw.representable.1, hc⟩
  rcases Int.le_total 0 w with hsign | hsign
  · exact hu.not_between hw (x := (c : Int)) (by rwa [Int.natAbs_natCast]) (by omega)
  · exact hw.not_between hu (x := -(c : Int)) (by rwa [Int.natAbs_neg, Int.natAbs_natCast])
      (by omega)

/-- **One value at most is nearest.** -/
theorem unique (hu : NearestTo v u) (hw : NearestTo v w) : u = w := by
  have hle := hu.natAbs_le hw
  have hle' := hw.natAbs_le hu
  have hside := hu.not_across_zero hw
  have hside' := hw.not_across_zero hu
  omega

end NearestTo

/-! ### Rounding values -/

/-- A value rounded to 53 bits. -/
def roundUnits (v : Int) : Int := if v < 0 then -roundRatio v.natAbs 1 else roundRatio v.natAbs 1

theorem natAbs_roundUnits (v : Int) : (roundUnits v).natAbs = roundRatio v.natAbs 1 := by
  unfold roundUnits
  split <;> simp

/-- The distance is that of the magnitudes. -/
theorem natAbs_roundUnits_sub (v : Int) :
    (roundUnits v - v).natAbs = ((roundRatio v.natAbs 1 : Int) - v.natAbs).natAbs := by
  unfold roundUnits
  split <;> omega

theorem roundUnits_nearest (v : Int) {w : Int} (hw : IsShort w.natAbs) :
    (roundUnits v - v).natAbs ≤ (w - v).natAbs := by
  have hnear := roundRatio_one_nearest v.natAbs hw
  rw [natAbs_roundUnits_sub]
  omega

/-- A value that is rounded to a finite one is rounded to the nearest finite one. -/
theorem nearestTo_roundUnits {v : Int} (h : roundRatio v.natAbs 1 < overflowUnits) :
    NearestTo v (roundUnits v) where
  representable := by
    rw [natAbs_roundUnits]
    exact representable_roundRatio h
  nearest w hw := roundUnits_nearest v hw.2
  even w hw hne htie := by
    have hnear := roundRatio_one_nearest v.natAbs hw.2
    have hdistance := natAbs_roundUnits_sub v
    have hmagnitude := natAbs_roundUnits v
    have hzero : roundRatio 0 1 = 0 := roundRatio_one_eq_self (Nat.dvd_zero _)
    rw [hmagnitude]
    refine roundRatio_one_even hw.2 (fun heq => ?_) (by omega)
    -- Of two opposite values, the one with the other sign is farther away.
    by_cases hv : v = 0
    · subst hv
      rw [Int.natAbs_zero, hzero] at heq hmagnitude
      omega
    · unfold roundUnits at hne htie
      split at hne <;> omega

theorem roundUnits_eq_self {v : Int} (h : IsShort v.natAbs) : roundUnits v = v := by
  have hnear := roundUnits_nearest v h
  omega

/-- Rounding keeps the order: of two rounded values, the lesser one is nearest to the lesser
value. -/
theorem roundUnits_mono {v w : Int} (h : v ≤ w) : roundUnits v ≤ roundUnits w := by
  have hshort : ∀ v, IsShort (roundUnits v).natAbs := by
    intro v
    rw [natAbs_roundUnits]
    exact isShort_roundRatio_one v.natAbs
  have hv := roundUnits_nearest v (hshort w)
  have hw := roundUnits_nearest w (hshort v)
  by_contra hlt
  obtain rfl : v = w := by omega
  exact hlt (Int.le_refl _)

end SpatialCatalog
