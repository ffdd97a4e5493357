import SpatialCatalog.Number.Decimal
import SpatialCatalog.Proofs.Number.Digits
import SpatialCatalog.Proofs.Success
import SpatialCatalog.Proofs.Text.Parts
import Mathlib.Data.Nat.Digits.Defs

/-!
# Numbers in lists and paths

What is read as a number has no comma and no blank in it, so a list can hold it. An integer of 64
bits is read back from its decimal text. Natural numbers, which are indices in paths, are read where
`WritesNat` says that they are written.
-/

namespace SpatialCatalog

/-! ### Digits -/

theorem Digit.ofChar?_eq_some_iff {c : Char} {d : Digit} : ofChar? c = some d ↔ c = d.toChar := by
  constructor
  · intro h
    unfold ofChar? at h
    split at h
    next hc =>
      have hlower : 48 ≤ c.toNat := UInt32.le_iff_toNat_le.mp (Char.le_def.mp hc.1)
      have hupper : c.toNat ≤ 57 := UInt32.le_iff_toNat_le.mp (Char.le_def.mp hc.2)
      have hd : d.val = c.toNat - 48 := congrArg Fin.val (Option.some.inj h).symm
      rw [toChar, hd, ← Char.toNat_inj, Nat.toNat_digitChar_of_lt_ten (by omega)]
      omega
    next => cases h
  · rintro rfl
    exact ofChar?_toChar d

theorem digits?_eq_some_iff {s : List Char} {ds : List Digit} :
    digits? s = some ds ↔ s = ds.map Digit.toChar := by
  rw [digits?, mapM_eq_some_iff]
  simp only [Digit.ofChar?_eq_some_iff]
  rw [← List.forall₂_map_right_iff, List.forall₂_eq_eq_eq]

/-! ### Characters of numbers -/

/-- From the digits up to the capitals there is no comma and no blank. -/
theorem isSolid_of_toNat {c : Char} (hlower : 48 ≤ c.toNat) (hupper : c.toNat ≤ 90) :
    IsSolid c := by
  refine ⟨?_, ?_⟩
  · rintro rfl
    revert hlower
    decide
  · simp only [isBlank, blankRanges, List.any_cons, List.any_nil, Bool.or_eq_true,
      Bool.and_eq_true, decide_eq_true_eq, Bool.false_eq_true, or_false]
    omega

theorem isSolid_toChar (d : Digit) : IsSolid d.toChar := by
  revert d
  decide

theorem isSolid_of_digits? {s : List Char} {ds : List Digit} (h : digits? s = some ds) :
    ∀ c ∈ s, IsSolid c := by
  rw [digits?_eq_some_iff.mp h]
  exact List.forall_mem_map.mpr fun d _ => isSolid_toChar d

theorem takeSign_cases (s : List Char) :
    s = '-' :: (takeSign s).2 ∨ s = '+' :: (takeSign s).2 ∨ s = (takeSign s).2 := by
  unfold takeSign
  split <;> simp

/-- A text that is solid after its sign is solid. -/
theorem isSolid_of_takeSign {s : List Char} (h : ∀ c ∈ (takeSign s).2, IsSolid c) :
    ∀ c ∈ s, IsSolid c := by
  have hminus : IsSolid '-' := by decide
  have hplus : IsSolid '+' := by decide
  rcases takeSign_cases s with hs | hs | hs
  · rw [hs]
    exact List.forall_mem_cons.mpr ⟨hminus, h⟩
  · rw [hs]
    exact List.forall_mem_cons.mpr ⟨hplus, h⟩
  · rwa [← hs] at h

theorem isSolid_of_toLower {c : Char} (h : IsSolid c.toLower) : IsSolid c := by
  unfold Char.toLower at h
  split at h
  next hc =>
    have hlower : 65 ≤ c.toNat := UInt32.le_iff_toNat_le.mp hc.1
    have hupper : c.toNat ≤ 90 := UInt32.le_iff_toNat_le.mp hc.2
    exact isSolid_of_toNat (by omega) hupper
  next => exact h

theorem isSolid_of_namedDouble? {negative : Bool} {s : List Char} {x : Double}
    (h : namedDouble? negative s = some x) : s ≠ [] ∧ ∀ c ∈ s, IsSolid c := by
  have hname : ∀ name : String, name ∈ ["inf", "infinity", "nan"] →
      String.ofList (s.map Char.toLower) = name → s ≠ [] ∧ ∀ c ∈ s, IsSolid c := by
    intro name hname hs
    have hlower : s.map Char.toLower = name.toList := by rw [← hs, String.toList_ofList]
    have hletters : ∀ name ∈ ["inf", "infinity", "nan"],
        name.toList ≠ [] ∧ ∀ c ∈ name.toList, IsSolid c := by decide
    obtain ⟨hne, hletters⟩ := hletters name hname
    refine ⟨?_, fun c hc => ?_⟩
    · rintro rfl
      exact hne hlower.symm
    · apply isSolid_of_toLower
      apply hletters
      rw [← hlower]
      exact List.mem_map_of_mem hc
  unfold namedDouble? at h
  dsimp only at h
  split at h
  next hs => rcases hs with hs | hs <;> exact hname _ (by decide) hs
  next =>
    split at h
    next hs => exact hname _ (by decide) hs
    next => cases h

theorem isSolid_of_readExponent? {s : List Char} {e : Option Exponent}
    (h : readExponent? s = some e) : ∀ c ∈ s, IsSolid c := by
  unfold readExponent? at h
  split at h
  next => simp
  next c s =>
    split at h
    next hmark =>
      have hc : IsSolid c := by
        rcases hmark with rfl | rfl
        · decide
        · decide
      refine List.forall_mem_cons.mpr ⟨hc, isSolid_of_takeSign ?_⟩
      dsimp only at h
      split at h
      next => cases h
      next =>
        obtain ⟨ds, hds, -⟩ := Option.map_eq_some_iff.mp h
        exact isSolid_of_digits? hds
    next => cases h

theorem isSolid_of_readUnsigned? {negative : Bool} {s : List Char} {m : Numeral}
    (h : readUnsigned? negative s = some m) : s ≠ [] ∧ ∀ c ∈ s, IsSolid c := by
  refine ⟨?_, ?_⟩
  · rintro rfl
    simp [readUnsigned?] at h
  unfold readUnsigned? at h
  dsimp only at h
  obtain ⟨-, h⟩ := Option.ite_none_left_eq_some.mp h
  obtain ⟨whole, hwhole, h⟩ := Option.bind_eq_some_iff.mp h
  obtain ⟨fraction, hfraction, h⟩ := Option.bind_eq_some_iff.mp h
  obtain ⟨exponent, hexponent, -⟩ := Option.map_eq_some_iff.mp h
  have hbehind : ∀ c ∈ s.dropWhile fun c => (Digit.ofChar? c).isSome, IsSolid c := by
    by_cases hpoint : (s.dropWhile fun c => (Digit.ofChar? c).isSome).head? = some '.'
    · -- A point, digits and the exponent.
      rw [if_pos hpoint] at hfraction hexponent
      rw [← List.cons_head?_tail hpoint, List.forall_mem_cons,
        ← List.takeWhile_append_dropWhile (p := fun c => (Digit.ofChar? c).isSome)
          (l := List.tail _), List.forall_mem_append]
      rw [if_pos hpoint] at hexponent
      exact ⟨by decide, isSolid_of_digits? hfraction,
        isSolid_of_readExponent? hexponent⟩
    · rw [if_neg hpoint] at hexponent
      exact isSolid_of_readExponent? hexponent
  rw [← List.takeWhile_append_dropWhile (p := fun c => (Digit.ofChar? c).isSome) (l := s),
    List.forall_mem_append]
  exact ⟨isSolid_of_digits? hwhole, hbehind⟩

/-- **What is read as a number can be held by a list.** -/
theorem isPart_of_readDouble? {t : List Char} {x : Double} (h : readDouble? t = some x) :
    IsPart t := by
  unfold readDouble? at h
  dsimp only at h
  have hrest : (takeSign t).2 ≠ [] ∧ ∀ c ∈ (takeSign t).2, IsSolid c := by
    rcases Option.or_eq_some_iff.mp h with hnamed | ⟨-, hnumeral⟩
    · exact isSolid_of_namedDouble? hnamed
    · obtain ⟨m, hm, -⟩ := Option.map_eq_some_iff.mp hnumeral
      exact isSolid_of_readUnsigned? hm
  refine isPart_of_isSolid ?_ (isSolid_of_takeSign hrest.2)
  rintro rfl
  exact hrest.1 rfl

/-! ### Integers -/

theorem isPart_of_readInt? {t : List Char} {n : Int} (h : readInt? t = some n) : IsPart t := by
  unfold readInt? at h
  dsimp only at h
  split at h
  next => cases h
  next hne =>
    obtain ⟨ds, hds, -⟩ := Option.map_eq_some_iff.mp h
    refine isPart_of_isSolid ?_ (isSolid_of_takeSign (isSolid_of_digits? hds))
    rintro rfl
    exact hne rfl

theorem takeSign_map_toChar (ds : List Digit) :
    takeSign (ds.map Digit.toChar) = (false, ds.map Digit.toChar) := by
  cases ds with
  | nil => rfl
  | cons d ds =>
    have hd : d.toChar ≠ '-' ∧ d.toChar ≠ '+' := by
      revert d
      decide
    rw [List.map_cons, takeSign]
    · rintro s hs
      exact hd.1 (List.cons.inj hs).1
    · rintro s hs
      exact hd.2 (List.cons.inj hs).1

theorem readInt?_ofInt (n : Int) : readInt? (Numeral.ofInt n).text = some n := by
  have hdigits : ((decimalDigits n.natAbs).map Digit.toChar).isEmpty = false := by
    simpa using decimalDigits_ne_nil n.natAbs
  have hread : digits? ((decimalDigits n.natAbs).map Digit.toChar) =
      some (decimalDigits n.natAbs) := digits?_eq_some_iff.mpr rfl
  by_cases hn : n < 0
  · have htext : (Numeral.ofInt n).text = '-' :: (decimalDigits n.natAbs).map Digit.toChar := by
      simp [Numeral.text, Numeral.ofInt, hn]
    rw [htext, readInt?]
    simp only [takeSign, hdigits, hread, Bool.false_eq_true, if_false, Option.map_some, if_true,
      digitsValue_decimalDigits, Option.some.injEq]
    omega
  · have htext : (Numeral.ofInt n).text = (decimalDigits n.natAbs).map Digit.toChar := by
      simp [Numeral.text, Numeral.ofInt, hn]
    rw [htext, readInt?, takeSign_map_toChar]
    simp only [hdigits, hread, Bool.false_eq_true, if_false, Option.map_some,
      digitsValue_decimalDigits, Option.some.injEq]
    omega

/-- **An integer of 64 bits is read back from its decimal text.** -/
theorem readInt64?_ofInt {n : Int} (h : -(twoPow 63 : Int) ≤ n ∧ n < twoPow 63) :
    readInt64? (Numeral.ofInt n).text = some n := by
  rw [readInt64?, readInt?_ofInt, Option.filter_some, if_pos (by simpa using h)]

/-! ### Natural numbers -/

/-- Digits, after a plus sign or none, write a natural number. -/
def WritesNat (s : List Char) (n : Nat) : Prop :=
  ∃ ds : List Digit, ds ≠ [] ∧ (s = ds.map Digit.toChar ∨ s = '+' :: ds.map Digit.toChar) ∧
    Nat.ofDigits 10 (ds.reverse.map Fin.val) = n

theorem digitsValue_eq_ofDigits (ds : List Digit) :
    digitsValue ds = Nat.ofDigits 10 (ds.reverse.map Fin.val) := by
  rw [Nat.ofDigits_eq_foldr, List.foldr_map, List.foldr_reverse]
  simp only [digitsValue, Nat.add_comm, Nat.cast_id]

theorem readDigits_eq_some_iff {s : List Char} {n : Nat} :
    (if s.isEmpty then none else (digits? s).map digitsValue) = some n ↔
      ∃ ds : List Digit, ds ≠ [] ∧ s = ds.map Digit.toChar ∧
        Nat.ofDigits 10 (ds.reverse.map Fin.val) = n := by
  cases s with
  | nil => simp
  | cons c s =>
    simp only [List.isEmpty_cons, Bool.false_eq_true, if_false, Option.map_eq_some_iff,
      digits?_eq_some_iff, digitsValue_eq_ofDigits]
    refine exists_congr fun ds => ?_
    cases ds <;> simp

/-- The natural numbers that are read are those that are written. -/
theorem readNat?_eq_some_iff {s : List Char} {n : Nat} :
    readNat? s = some n ↔ WritesNat s n := by
  have hplus : ∀ (ds : List Digit) (t : List Char), ds.map Digit.toChar ≠ '+' :: t := by
    intro ds t h
    have hdigit : ∀ d : Digit, d.toChar ≠ '+' := by decide
    obtain ⟨d, -, -, hd, -⟩ := List.map_eq_cons_iff.mp h
    exact hdigit d hd
  unfold readNat? WritesNat
  cases s with
  | nil => simp
  | cons c t =>
    by_cases hc : c = '+'
    · subst hc
      simp only [List.head?_cons, if_true, List.tail_cons, readDigits_eq_some_iff,
        List.cons.injEq, true_and, (hplus _ t).symm, false_or]
    · have hne : ∀ ds : List Digit, c :: t ≠ '+' :: ds.map Digit.toChar := by simp [hc]
      simp only [List.head?_cons, Option.some.injEq, hc, if_false, readDigits_eq_some_iff, hne,
        or_false]

end SpatialCatalog
