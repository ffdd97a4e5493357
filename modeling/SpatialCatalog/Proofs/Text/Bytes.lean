import Mathlib.Data.List.Basic

/-!
# Texts compare by their bytes

Texts are compared by code point. The bytes of their UTF-8 form compare alike, which is how a
database with byte-wise collation compares them.
-/

namespace SpatialCatalog

/-- The bytes of a text in UTF-8. -/
def utf8Bytes (s : String) : List UInt8 := s.toByteArray.data.toList

/-- The order of the bytes of two texts. -/
def compareBytes (a b : String) : Ordering := compareOfLessAndEq (utf8Bytes a) (utf8Bytes b)

theorem utf8Bytes_eq (s : String) : utf8Bytes s = s.toList.flatMap String.utf8EncodeChar := by
  rw [utf8Bytes, ← String.utf8Encode_toList, List.utf8Encode, List.toList_data_toByteArray]

/-- A lesser character has lesser bytes, whatever follows. -/
theorem utf8EncodeChar_append_lt {c d : Char} (h : c < d) (xs ys : List UInt8) :
    String.utf8EncodeChar c ++ xs < String.utf8EncodeChar d ++ ys := by
  have hlt : c.val.toNat < d.val.toNat := UInt32.lt_iff_toNat_lt.mp (Char.lt_def.mp h)
  have hd : d.val.toNat < 0x110000 := by
    obtain hd | hd := d.valid <;> omega
  unfold String.utf8EncodeChar
  generalize c.val.toNat = v at hlt
  generalize d.val.toNat = w at hlt hd
  have h12 : ∀ n : Nat, n / 4096 = n / 64 / 64 := fun n => (Nat.div_div_eq_div_mul n 64 64).symm
  have h18 : ∀ n : Nat, n / 262144 = n / 64 / 64 / 64 := fun n => by
    rw [Nat.div_div_eq_div_mul, Nat.div_div_eq_div_mul]
  simp only [h12, h18]
  -- The lengths are in order, and of equal lengths the first difference of two digits decides.
  split_ifs <;> simp [List.cons_lt_cons_iff, UInt8.lt_iff_toNat_lt, ← UInt8.toNat_inj] <;> omega

theorem utf8Bytes_lt_of_lt {a b : String} (h : a < b) : utf8Bytes a < utf8Bytes b := by
  rw [utf8Bytes_eq, utf8Bytes_eq]
  replace h : a.toList < b.toList := h
  generalize a.toList = cs at h
  generalize b.toList = ds at h
  induction ds generalizing cs with
  | nil => simp at h
  | cons d ds ih =>
    cases cs with
    | nil =>
      obtain ⟨x, xs, hx⟩ := List.exists_cons_of_ne_nil (String.utf8EncodeChar_ne_nil (c := d))
      rw [List.flatMap_cons, hx]
      exact List.nil_lt_cons _ _
    | cons c cs =>
      rw [List.flatMap_cons, List.flatMap_cons]
      obtain hlt | ⟨rfl, hlt⟩ := List.cons_lt_cons_iff.mp h
      · exact utf8EncodeChar_append_lt hlt _ _
      · exact List.append_left_lt (ih cs hlt)

/-- Comparing texts is comparing their bytes. -/
theorem compare_eq_compareBytes (a b : String) : compare a b = compareBytes a b := by
  have hcompare : compare a b = compareOfLessAndEq a b := rfl
  rw [hcompare, compareBytes, compareOfLessAndEq, compareOfLessAndEq]
  by_cases hlt : a < b
  · rw [if_pos hlt, if_pos (utf8Bytes_lt_of_lt hlt)]
  · by_cases hgt : b < a
    · have hbytes := utf8Bytes_lt_of_lt hgt
      have hne : a ≠ b := by
        rintro rfl
        exact hlt hgt
      have hne' : utf8Bytes a ≠ utf8Bytes b := by
        intro heq
        rw [heq] at hbytes
        exact List.lt_irrefl _ hbytes
      rw [if_neg hlt, if_neg hne, if_neg (List.lt_asymm hbytes), if_neg hne']
    · obtain rfl : a = b := String.le_antisymm hgt hlt
      simp

end SpatialCatalog
