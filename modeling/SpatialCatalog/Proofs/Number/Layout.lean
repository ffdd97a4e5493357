import SpatialCatalog.Json.Source
import SpatialCatalog.Proofs.Number.Shortest

/-!
# What a written number denotes

A numeral denotes its significand times a power of ten. `Layout.place` writes a decimal as a numeral
that is well formed and denotes the same number; it has a point or an exponent, so that a document
never reads it as a whole number.
-/

namespace SpatialCatalog

namespace Numeral

/-- All written digits as one number. -/
def significand (m : Numeral) : Nat := digitsValue (m.whole ++ m.fraction)

/-- The power of ten of the last written digit. -/
def power (m : Numeral) : Int := m.writtenExponent - m.fraction.length

/-- Numerals of a document: the whole part has no leading zero, and an exponent has digits. -/
structure WellFormed (m : Numeral) : Prop where
  whole : LeadingDigits m.whole
  exponent : ∀ e ∈ m.exponent, e.digits ≠ []

/-- A numeral with a point or an exponent. -/
def IsPointed (m : Numeral) : Prop := m.fraction ≠ [] ∨ m.exponent ≠ none

/-- Equal to `d * 10 ^ p`, said without fractions. -/
def Denotes (m : Numeral) (d : Nat) (p : Int) : Prop :=
  ∃ a b : Nat, m.significand * tenPow a = d * tenPow b ∧ m.power + b = p + a

theorem wellFormed_ofInt (n : Int) : (ofInt n).WellFormed :=
  ⟨leadingDigits_decimalDigits _, by simp [ofInt]⟩

end Numeral

theorem LeadingDigits.append {ds : List Digit} (h : ∃ d es, ds = d :: es ∧ d ≠ 0)
    (zs : List Digit) : LeadingDigits (ds ++ zs) := by
  obtain ⟨d, es, rfl, hd⟩ := h
  exact .leading hd (es ++ zs)

theorem LeadingDigits.take {d : Digit} (hd : d ≠ 0) (es : List Digit) (n : Nat) :
    LeadingDigits ((d :: es).take (n + 1)) :=
  .leading hd (es.take n)

/-- What `Layout.place` writes: a well-formed numeral with a point or an exponent, of at most
seventeen digits or so, that denotes the decimal. -/
structure Placed (N : Numeral) (d : Nat) (p : Int) : Prop where
  wellFormed : N.WellFormed
  pointed : N.IsPointed
  denotes : N.Denotes d p
  small : N.significand ≤ tenPow 17
  /-- The exponent is short. -/
  short : ∀ e ∈ N.exponent, digitsValue e.digits ≤ 1100

theorem writtenExponent_some (negative : Bool) (whole fraction : List Digit) (e : Int) :
    Numeral.writtenExponent ⟨negative, whole, fraction,
      some ⟨decide (e < 0), decimalDigits e.natAbs⟩⟩ = e := by
  unfold Numeral.writtenExponent
  simp only [digitsValue_decimalDigits]
  split
  next h => have := of_decide_eq_true h; omega
  next h => have := of_decide_eq_false (Bool.eq_false_iff.mpr h); omega

theorem ofScaled_eq (d : Nat) (p : Int) :
    Decimal.ofScaled d p =
      ⟨(decimalDigits d).rdropWhile (· == 0), p + (decimalDigits d).length - 1⟩ := rfl

/-- The digits of a found multiple: `ds`, and then `t` zeros that are not written. -/
structure Stripped (d : Nat) (ds : List Digit) (t : Nat) : Prop where
  leading : ∃ x es, ds = x :: es ∧ x ≠ 0
  digits : decimalDigits d = ds ++ List.replicate t 0
  value : d = digitsValue ds * tenPow t
  le : digitsValue ds ≤ tenPow 17
  short : ds.length + t ≤ 18

theorem FoundDecimal.stripped {m d : Nat} {p : Int} (h : FoundDecimal m d p) :
    ∃ ds t, (decimalDigits d).rdropWhile (· == 0) = ds ∧ Stripped d ds t := by
  obtain ⟨x, es, t, hstrip, hx, hds⟩ := rdropWhile_decimalDigits h.ne_zero
  have hvalue : d = digitsValue (x :: es) * tenPow t := by
    have := digitsValue_append (x :: es) (List.replicate t 0)
    rwa [← hds, digitsValue_decimalDigits, digitsValue_zeros, List.length_replicate,
      Nat.add_zero] at this
  refine ⟨_, t, hstrip, ⟨x, es, rfl, hx⟩, hds, hvalue, ?_, ?_⟩
  · refine Nat.le_trans ?_ h.le
    rw [hvalue]
    exact Nat.le_mul_of_pos_right _ (tenPow_pos t)
  · have hpow := Nat.le_trans (tenPow_decimalDigits_le h.ne_zero) h.le
    rw [hds, List.length_append, List.length_replicate] at hpow
    by_contra hge
    exact absurd (Nat.le_trans (tenPow_le_tenPow (by omega)) hpow)
      (show ¬tenPow 18 ≤ tenPow 17 by decide)

namespace Stripped

variable {d t : Nat} {p : Int} {ds : List Digit}

/-- A numeral with the digits, and `k` zeros more, denotes the decimal if it is of the right
power. -/
theorem placed (h : Stripped d ds t) {N : Numeral} (wellFormed : N.WellFormed)
    (pointed : N.IsPointed) (k : Nat) (hsignificand : N.significand = digitsValue ds * tenPow k)
    (hpower : N.power + k = p + t) (small : N.significand ≤ tenPow 17)
    (short : ∀ e ∈ N.exponent, digitsValue e.digits ≤ 1100) : Placed N d p := by
  refine ⟨wellFormed, pointed, ⟨t, k, ?_, hpower⟩, small, short⟩
  rw [hsignificand, h.value]
  ring

/-- All digits stand before the point, which a zero follows. -/
theorem placed_whole (h : Stripped d ds t) (negative : Bool) {n : Nat} (hn : ds.length ≤ n)
    (hp : (n : Int) = p + t + ds.length) (hsmall : n ≤ 16) :
    Placed ⟨negative, ds ++ List.replicate (n - ds.length) 0, [0], none⟩ d p := by
  obtain ⟨x, es, hds, hx⟩ := h.leading
  have hsignificand : digitsValue (ds ++ List.replicate (n - ds.length) 0 ++ [0]) =
      digitsValue ds * tenPow (n - ds.length + 1) := by
    rw [List.append_assoc, digitsValue_append, List.length_append, List.length_replicate,
      show [(0 : Digit)] = List.replicate 1 0 from rfl, List.replicate_append_replicate,
      digitsValue_zeros, List.length_replicate, Nat.add_zero]
  refine h.placed ⟨.append ⟨x, es, hds, hx⟩ _, by simp⟩ (.inl (by simp)) (n - ds.length + 1)
    hsignificand ?_ ?_ (by simp)
  · simp only [Numeral.power, Numeral.writtenExponent, List.length_singleton]
    omega
  · rw [Numeral.significand, hsignificand]
    calc digitsValue ds * tenPow (n - ds.length + 1)
        ≤ tenPow ds.length * tenPow (n - ds.length + 1) :=
          Nat.mul_le_mul_right _ (digitsValue_lt ds).le
      _ = tenPow (ds.length + (n - ds.length + 1)) := (tenPow_add _ _).symm
      _ ≤ tenPow 17 := tenPow_le_tenPow (by omega)

/-- The point stands between two digits. -/
theorem placed_between (h : Stripped d ds t) (negative : Bool) {n : Nat} (hn : n < ds.length)
    (hpos : 0 < n) (hp : (n : Int) = p + t + ds.length) :
    Placed ⟨negative, ds.take n, ds.drop n, none⟩ d p := by
  obtain ⟨x, es, rfl, hx⟩ := h.leading
  have hsignificand : digitsValue ((x :: es).take n ++ (x :: es).drop n) =
      digitsValue (x :: es) * tenPow 0 := by
    rw [List.take_append_drop, tenPow_zero, Nat.mul_one]
  obtain ⟨k, rfl⟩ : ∃ k, n = k + 1 := ⟨n - 1, by omega⟩
  refine h.placed ⟨.take hx es k, by simp⟩ (.inl ?_) 0 hsignificand ?_ ?_ (by simp)
  · rw [← List.length_pos_iff, List.length_drop]
    omega
  · simp only [Numeral.power, Numeral.writtenExponent, List.length_drop]
    omega
  · rw [Numeral.significand, hsignificand, tenPow_zero, Nat.mul_one]
    exact h.le

/-- Zeros stand between the point and the digits. -/
theorem placed_fraction (h : Stripped d ds t) (negative : Bool) {n : Nat}
    (hp : -(n : Int) = p + t + ds.length) :
    Placed ⟨negative, [0], List.replicate n 0 ++ ds, none⟩ d p := by
  obtain ⟨x, es, rfl, hx⟩ := h.leading
  have hsignificand : digitsValue ([0] ++ (List.replicate n 0 ++ (x :: es))) =
      digitsValue (x :: es) * tenPow 0 := by
    rw [← List.append_assoc, show [(0 : Digit)] = List.replicate 1 0 from rfl,
      List.replicate_append_replicate, digitsValue_append, digitsValue_zeros, Nat.zero_mul,
      Nat.zero_add, tenPow_zero, Nat.mul_one]
  refine h.placed ⟨.zero, by simp⟩ (.inl (by simp)) 0 hsignificand ?_ ?_ (by simp)
  · simp only [Numeral.power, Numeral.writtenExponent, List.length_append, List.length_replicate]
    omega
  · rw [Numeral.significand, hsignificand, tenPow_zero, Nat.mul_one]
    exact h.le

/-- One digit stands before the point, and there is an exponent. -/
theorem placed_exponent (h : Stripped d ds t) (negative : Bool) {e : Int}
    (hp : e + 1 = p + t + ds.length) (hshort : e.natAbs ≤ 1100) :
    Placed ⟨negative, ds.take 1, ds.drop 1,
      some ⟨decide (e < 0), decimalDigits e.natAbs⟩⟩ d p := by
  obtain ⟨x, es, rfl, hx⟩ := h.leading
  have hsignificand : digitsValue ((x :: es).take 1 ++ (x :: es).drop 1) =
      digitsValue (x :: es) * tenPow 0 := by
    rw [List.take_append_drop, tenPow_zero, Nat.mul_one]
  refine h.placed ⟨.take hx es 0, ?_⟩ (.inr (by simp)) 0 hsignificand ?_ ?_ ?_
  · simpa using decimalDigits_ne_nil _
  · rw [Numeral.power, writtenExponent_some, List.length_drop, List.length_cons] at *
    omega
  · rw [Numeral.significand, hsignificand, tenPow_zero, Nat.mul_one]
    exact h.le
  · simpa using hshort

end Stripped

/-- The decimal of a found multiple is placed. -/
theorem placed_ofScaled {m d : Nat} {p : Int} (h : FoundDecimal m d p) (negative : Bool) :
    Placed (Source.layout.place negative (Decimal.ofScaled d p)) d p := by
  obtain ⟨ds, t, hstrip, hds⟩ := h.stripped
  have hleast := h.least
  have hgreatest := h.greatest
  have hshort := hds.short
  have hlength : (decimalDigits d).length = ds.length + t := by
    rw [hds.digits, List.length_append, List.length_replicate]
  have hpos : 0 < ds.length := by
    obtain ⟨x, es, rfl, -⟩ := hds.leading
    exact Nat.succ_pos _
  rw [ofScaled_eq, hstrip, hlength]
  generalize he : p + (ds.length + t : Nat) - 1 = e
  unfold Layout.place
  dsimp only
  split
  next hplain =>
    simp only [Source.layout] at hplain
    split
    next hnonneg =>
      split
      next hrest =>
        have hn : ds.length ≤ e.toNat + 1 := by simpa [List.isEmpty_iff] using hrest
        rw [List.take_of_length_le hn]
        exact hds.placed_whole negative hn (by omega) (by omega)
      next hrest =>
        have hn : e.toNat + 1 < ds.length := by simpa [List.isEmpty_iff] using hrest
        rw [show e.toNat + 1 - ds.length = 0 by omega, List.replicate_zero, List.append_nil]
        exact hds.placed_between negative hn (Nat.succ_pos _) (by omega)
    next hneg => exact hds.placed_fraction negative (by omega)
  next => exact hds.placed_exponent negative (by omega) (by omega)

end SpatialCatalog
