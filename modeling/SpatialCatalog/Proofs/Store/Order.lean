import SpatialCatalog.Proofs.Json.Order
import SpatialCatalog.Proofs.Json.Path
import SpatialCatalog.Proofs.Text.Bytes
import SpatialCatalog.Store.Query

/-!
# The order of a page

`Precedes` says which of two items comes first: the first key that tells them apart decides, in its
own direction, and where no key does, the bytes of their collections and ids. `compareRecords` is
the order of the keys; together with the order of the table it is `Precedes`.
-/

namespace SpatialCatalog.Store

/-! ### Keys -/

/-- The values of two items are on one level. -/
def FieldLevel (a b : ItemRecord) : SortField → Prop
  | .column .id => compareBytes a.id b.id = .eq
  | .column .collection => compareBytes a.collection b.collection = .eq
  | .path keys =>
    (∃ x y, a.data.Leads keys x ∧ b.data.Leads keys y ∧ x.compareTop y = .eq) ∨
      (a.data.Lacks keys ∧ b.data.Lacks keys)

/-- The value of the first item is before that of the second. What is missing is after all. -/
def FieldBefore (a b : ItemRecord) : SortField → Prop
  | .column .id => compareBytes a.id b.id = .lt
  | .column .collection => compareBytes a.collection b.collection = .lt
  | .path keys =>
    (∃ x y, a.data.Leads keys x ∧ b.data.Leads keys y ∧ x.compareTop y = .lt) ∨
      ((∃ x, a.data.Leads keys x) ∧ b.data.Lacks keys)

/-- A key puts the first item before the second. Descending it puts first what is missing. -/
def KeyBefore (a b : ItemRecord) (key : SortKey) : Prop :=
  match key.direction with
  | .ascending => FieldBefore a b key.field
  | .descending => FieldBefore b a key.field

/-- The first item comes before the second: the first key that tells them apart says so, or no key
does and the bytes of the collections and ids say so. -/
def Precedes (keys : List SortKey) (a b : ItemRecord) : Prop :=
  (∃ earlier key later, keys = earlier ++ key :: later ∧
    (∀ k ∈ earlier, FieldLevel a b k.field) ∧ KeyBefore a b key) ∨
  ((∀ k ∈ keys, FieldLevel a b k.field) ∧
    (compareBytes a.collection b.collection).then (compareBytes a.id b.id) = .lt)

/-! ### The comparisons of keys -/

theorem compareMissing_swap (a b : Option Json) :
    compareMissing b a = (compareMissing a b).swap := by
  cases a with
  | none => cases b <;> rfl
  | some a =>
    cases b with
    | none => rfl
    | some b => exact Json.compareTop_swap a b

theorem chains_compareMissing (a b c : Option Json) :
    Chains (compareMissing a b) (compareMissing b c) (compareMissing a c) := by
  cases a with
  | none => cases b <;> cases c <;> simp [compareMissing, Chains]
  | some a =>
    cases b with
    | none => cases c <;> simp [compareMissing, Chains]
    | some b =>
      cases c with
      | none =>
        intro hab _
        cases h : a.compareTop b <;> simp_all [compareMissing]
      | some c => exact Json.chains_compareTop a b c

theorem compareField_swap (a b : ItemRecord) (field : SortField) :
    compareField b a field = (compareField a b field).swap := by
  unfold compareField
  split
  · exact compareOrd_swap a.id b.id
  · exact compareOrd_swap a.collection b.collection
  · exact compareMissing_swap _ _

theorem chains_compareField (a b c : ItemRecord) (field : SortField) :
    Chains (compareField a b field) (compareField b c field) (compareField a c field) := by
  unfold compareField
  split
  · exact chains_compareOrd a.id b.id c.id
  · exact chains_compareOrd a.collection b.collection c.collection
  · exact chains_compareMissing _ _ _

theorem compareKey_swap (a b : ItemRecord) (key : SortKey) :
    compareKey b a key = (compareKey a b key).swap := by
  unfold compareKey
  split <;> rw [compareField_swap a b]

theorem chains_compareKey (a b c : ItemRecord) (key : SortKey) :
    Chains (compareKey a b key) (compareKey b c key) (compareKey a c key) := by
  unfold compareKey
  split
  · exact chains_compareField a b c key.field
  · rw [← compareField_swap, ← compareField_swap, ← compareField_swap]
    exact (chains_compareField c b a key.field).symm

theorem compareRecords_cons (key : SortKey) (keys : List SortKey) (a b : ItemRecord) :
    compareRecords (key :: keys) a b = (compareKey a b key).then (compareRecords keys a b) := rfl

theorem compareRecords_swap (keys : List SortKey) (a b : ItemRecord) :
    compareRecords keys b a = (compareRecords keys a b).swap := by
  induction keys with
  | nil => rfl
  | cons key keys ih => exact swap_then (compareKey_swap a b key) ih

theorem chains_compareRecords (keys : List SortKey) (a b c : ItemRecord) :
    Chains (compareRecords keys a b) (compareRecords keys b c) (compareRecords keys a c) := by
  induction keys with
  | nil => exact chains_eq
  | cons key keys ih => exact (chains_compareKey a b c key).then fun _ _ => ih

instance (keys : List SortKey) : Std.TransCmp (compareRecords keys) :=
  transCmp_of_chains (compareRecords_swap keys) (chains_compareRecords keys)

/-- **Items are sorted by total preorders**, whatever the keys and the documents, and so are the
values that paths lead to: a comparison with itself is level, the other way round it is reversed,
and two steps that do not go down make one that does not. -/
theorem transCmp_compare :
    (∀ keys : List SortKey, Std.TransCmp (compareRecords keys)) ∧ Std.TransCmp Json.compare ∧
      Std.TransCmp Json.compareTop :=
  ⟨inferInstance, inferInstance, inferInstance⟩

/-- Whether the keys put a record before another or leave them on one level. -/
def recordsLE (keys : List SortKey) (a b : Entry) : Bool :=
  (compareRecords keys a.record b.record).isLE

theorem recordsLE_trans (keys : List SortKey) (a b c : Entry) (hab : recordsLE keys a b)
    (hbc : recordsLE keys b c) : recordsLE keys a c :=
  (chains_compareRecords keys a.record b.record c.record).isLE hab hbc

theorem recordsLE_total (keys : List SortKey) (a b : Entry) :
    recordsLE keys a b || recordsLE keys b a := isLE_total a.record b.record

/-! ### What the comparisons say -/

theorem compareField_eq_eq_iff {a b : ItemRecord} {field : SortField} :
    compareField a b field = .eq ↔ FieldLevel a b field := by
  unfold compareField FieldLevel
  split
  · rw [compare_eq_compareBytes]
  · rw [compare_eq_compareBytes]
  next keys =>
    simp only [← Json.at?_eq_some_iff, ← Json.at?_eq_none_iff]
    cases a.data.at? keys <;> cases b.data.at? keys <;> simp [compareMissing]

theorem compareField_eq_lt_iff {a b : ItemRecord} {field : SortField} :
    compareField a b field = .lt ↔ FieldBefore a b field := by
  unfold compareField FieldBefore
  split
  · rw [compare_eq_compareBytes]
  · rw [compare_eq_compareBytes]
  next keys =>
    simp only [← Json.at?_eq_some_iff, ← Json.at?_eq_none_iff]
    cases a.data.at? keys <;> cases b.data.at? keys <;> simp [compareMissing]

theorem compareKey_eq_eq_iff {a b : ItemRecord} {key : SortKey} :
    compareKey a b key = .eq ↔ FieldLevel a b key.field := by
  rw [← compareField_eq_eq_iff]
  unfold compareKey
  split
  · rfl
  · exact Ordering.swap_eq_eq

theorem compareKey_eq_lt_iff {a b : ItemRecord} {key : SortKey} :
    compareKey a b key = .lt ↔ KeyBefore a b key := by
  obtain ⟨field, _ | _⟩ := key
  · exact compareField_eq_lt_iff
  · have hswap : compareKey a b ⟨field, .descending⟩ = compareField b a field :=
      (compareField_swap a b field).symm
    rw [hswap, compareField_eq_lt_iff]
    rfl

theorem compareRecords_eq_eq_iff {keys : List SortKey} {a b : ItemRecord} :
    compareRecords keys a b = .eq ↔ ∀ k ∈ keys, FieldLevel a b k.field := by
  induction keys with
  | nil => simp [compareRecords]
  | cons key keys ih =>
    rw [compareRecords_cons, Ordering.then_eq_eq, ih, compareKey_eq_eq_iff, List.forall_mem_cons]

theorem compareRecords_eq_lt_iff {keys : List SortKey} {a b : ItemRecord} :
    compareRecords keys a b = .lt ↔
      ∃ earlier key later, keys = earlier ++ key :: later ∧
        (∀ k ∈ earlier, FieldLevel a b k.field) ∧ KeyBefore a b key := by
  induction keys with
  | nil => simp [compareRecords]
  | cons key keys ih =>
    rw [compareRecords_cons, Ordering.then_eq_lt, ih, compareKey_eq_lt_iff, compareKey_eq_eq_iff]
    constructor
    · rintro (h | ⟨hlevel, earlier, k, later, rfl, hearlier, hk⟩)
      · exact ⟨[], key, keys, rfl, by simp, h⟩
      · exact ⟨key :: earlier, k, later, rfl, List.forall_mem_cons.mpr ⟨hlevel, hearlier⟩, hk⟩
    · rintro ⟨earlier, k, later, heq, hearlier, hk⟩
      cases earlier with
      | nil =>
        obtain ⟨rfl, rfl⟩ := List.cons.inj heq
        exact .inl hk
      | cons first earlier =>
        obtain ⟨rfl, rfl⟩ := List.cons.inj heq
        obtain ⟨hlevel, hrest⟩ := List.forall_mem_cons.mp hearlier
        exact .inr ⟨hlevel, earlier, k, later, rfl, hrest, hk⟩

/-- The order of keys of the table. -/
theorem compare_key_eq (a b : ItemRecord) : compare a.key b.key =
    (compareBytes a.collection b.collection).then (compareBytes a.id b.id) := by
  rw [← compare_eq_compareBytes, ← compare_eq_compareBytes]
  rfl

/-- The order of the keys, and of the table where the keys leave two items on one level. -/
theorem precedes_iff {keys : List SortKey} {a b : ItemRecord} :
    Precedes keys a b ↔ compareRecords keys a b = .lt ∨
      (compareRecords keys a b = .eq ∧ compare a.key b.key = .lt) := by
  rw [compareRecords_eq_lt_iff, compareRecords_eq_eq_iff, compare_key_eq]
  rfl

end SpatialCatalog.Store
