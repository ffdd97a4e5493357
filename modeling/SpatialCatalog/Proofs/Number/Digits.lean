import SpatialCatalog.Number.Numeral
import Mathlib.Data.List.DropRight

/-!
# Digits and their values

Digit lists are read as numbers by `digitsValue`. Here are its laws, and those of `decimalDigits`:
no leading zero, and never empty.
-/

namespace SpatialCatalog

/-- Digits of a whole number as they are written: no leading zero, zero itself apart. -/
inductive LeadingDigits : List Digit → Prop where
  | zero : LeadingDigits [0]
  | leading {d : Digit} (hd : d ≠ 0) (es : List Digit) : LeadingDigits (d :: es)

theorem LeadingDigits.ne_nil {ds : List Digit} (h : LeadingDigits ds) : ds ≠ [] := by
  cases h <;> simp

/-! ### Values -/

@[simp] theorem digitsValue_nil : digitsValue [] = 0 := rfl

theorem tenPow_add (j k : Nat) : tenPow (j + k) = tenPow j * tenPow k := Nat.pow_add 10 j k

theorem tenPow_le_tenPow {j k : Nat} (h : j ≤ k) : tenPow j ≤ tenPow k :=
  Nat.pow_le_pow_right (by decide) h

theorem digitsValue_append (ds es : List Digit) :
    digitsValue (ds ++ es) = digitsValue ds * tenPow es.length + digitsValue es := by
  rw [digitsValue, List.foldl_append]
  exact digitsValue_cons_aux es (digitsValue ds)

theorem digitsValue_lt (ds : List Digit) : digitsValue ds < tenPow ds.length := by
  induction ds with
  | nil => exact Nat.one_pos
  | cons d ds ih =>
    rw [digitsValue_cons, List.length_cons, tenPow_succ]
    have hd : d.val * tenPow ds.length ≤ 9 * tenPow ds.length :=
      Nat.mul_le_mul_right _ (Nat.le_of_lt_succ d.isLt)
    omega

@[simp] theorem digitsValue_zeros (k : Nat) : digitsValue (List.replicate k 0) = 0 := by
  induction k with
  | zero => rfl
  | succ k ih => simp [List.replicate_succ, digitsValue_cons, ih]

/-! ### The digits of a number -/

theorem digitsOnto_head (fuel n : Nat) (ds : List Digit) (hn : n ≠ 0) (h : n < tenPow fuel) :
    ∃ d es, digitsOnto fuel n ds = d :: es ∧ d ≠ 0 := by
  induction fuel generalizing n ds with
  | zero =>
    rw [tenPow_zero] at h
    omega
  | succ fuel ih =>
    rw [digitsOnto]
    split
    next hlt =>
      refine ⟨_, _, rfl, fun h0 => hn ?_⟩
      have := congrArg Fin.val h0
      rw [Digit.val_last, Nat.mod_eq_of_lt hlt] at this
      exact this
    next hge => exact ih _ _ (by omega) (by rw [tenPow_succ] at h; omega)

theorem decimalDigits_head {n : Nat} (h : n ≠ 0) : ∃ d es, decimalDigits n = d :: es ∧ d ≠ 0 :=
  digitsOnto_head _ _ _ h (lt_tenPow_log2_succ n)

/-- The digits of a number have no leading zero. -/
theorem leadingDigits_decimalDigits (n : Nat) : LeadingDigits (decimalDigits n) := by
  by_cases h : n = 0
  · subst h
    exact .zero
  · obtain ⟨d, es, hds, hd⟩ := decimalDigits_head h
    exact hds ▸ .leading hd es

theorem decimalDigits_ne_nil (n : Nat) : decimalDigits n ≠ [] :=
  (leadingDigits_decimalDigits n).ne_nil

theorem lt_tenPow_decimalDigits (n : Nat) : n < tenPow (decimalDigits n).length := by
  simpa using digitsValue_lt (decimalDigits n)

theorem tenPow_decimalDigits_le {n : Nat} (h : n ≠ 0) :
    tenPow ((decimalDigits n).length - 1) ≤ n := by
  obtain ⟨d, es, hds, hd⟩ := decimalDigits_head h
  have hn := digitsValue_decimalDigits n
  rw [hds, digitsValue_cons] at hn
  rw [hds, List.length_cons, Nat.add_sub_cancel, ← hn]
  have : d.val ≠ 0 := fun h0 => hd (Fin.ext h0)
  exact Nat.le_trans (Nat.le_mul_of_pos_left _ (by omega)) (Nat.le_add_right _ _)

/-! ### Zeros at the end -/

theorem exists_eq_rdropWhile (ds : List Digit) :
    ∃ k, ds = ds.rdropWhile (· == 0) ++ List.replicate k 0 := by
  have hzeros : ds.rtakeWhile (· == 0) = List.replicate (ds.rtakeWhile (· == 0)).length 0 :=
    List.eq_replicate_iff.mpr ⟨rfl, fun d hd => by simpa using List.mem_rtakeWhile_imp hd⟩
  refine ⟨(ds.rtakeWhile (· == 0)).length, ?_⟩
  rw [← hzeros, List.rdropWhile_append_rtakeWhile]

/-- What is left of a number other than zero begins as before. -/
theorem rdropWhile_decimalDigits {n : Nat} (h : n ≠ 0) :
    ∃ d es k, (decimalDigits n).rdropWhile (· == 0) = d :: es ∧ d ≠ 0 ∧
      decimalDigits n = (d :: es) ++ List.replicate k 0 := by
  obtain ⟨k, hk⟩ := exists_eq_rdropWhile (decimalDigits n)
  obtain ⟨d, es, hds, hd⟩ := decimalDigits_head h
  cases hs : (decimalDigits n).rdropWhile (· == 0) with
  | nil =>
    -- Nothing left means that all digits are zero.
    rw [hs, List.nil_append] at hk
    have := digitsValue_decimalDigits n
    rw [hk, digitsValue_zeros] at this
    exact absurd this.symm h
  | cons d' es' =>
    rw [hs] at hk
    rw [hds, List.cons_append, List.cons.injEq] at hk
    exact ⟨d', es', k, rfl, hk.1 ▸ hd, by rw [hds, hk.1, List.cons_append, ← hk.2]⟩

end SpatialCatalog
