import SpatialCatalog.Json.Path
import SpatialCatalog.Proofs.Number.Decimal

/-!
# Where paths lead

`Json.Leads` says where a path leads, key by key: in an object to the value of the first member that
has the key, in an array to the item at the index that the key writes, with any zeros in front and a
plus sign or none. Where there is no such member or item, or no container, the path leads nowhere.

`Json.at?` finds what a path leads to (`Json.at?_eq_some_iff`), so this is one value at most.
-/

namespace SpatialCatalog.Json

/-- A value holds another under a key: as the first member that has the key, or as the item at the
index that the key writes. -/
inductive Holds (key : String) : Json → Json → Prop
  | member {earlier : Members} {v : Json} (first : ∀ m ∈ earlier, m.1 ≠ key) (later : Members) :
      Holds key (.obj (earlier ++ (key, v) :: later)) v
  | item {earlier : List Json} {v : Json} (index : WritesNat key.toList earlier.length)
      (later : List Json) : Holds key (.arr (earlier ++ v :: later)) v

/-- A path leads from a value to the value at its end. -/
inductive Leads : Json → List String → Json → Prop
  | here (j : Json) : Leads j [] j
  | step {j k v : Json} {key : String} {path : List String} (first : Holds key j k)
      (rest : Leads k path v) : Leads j (key :: path) v

/-- A path leads from a value to nothing. -/
def Lacks (j : Json) (path : List String) : Prop := ∀ v, ¬j.Leads path v

theorem getElem?_eq_some_iff_append {items : List Json} {n : Nat} {v : Json} :
    items[n]? = some v ↔ ∃ earlier later, items = earlier ++ v :: later ∧ earlier.length = n := by
  constructor
  · intro h
    obtain ⟨hlt, rfl⟩ := List.getElem?_eq_some_iff.mp h
    refine ⟨items.take n, items.drop (n + 1), ?_, List.length_take_of_le hlt.le⟩
    rw [← List.drop_eq_getElem_cons, List.take_append_drop]
  · rintro ⟨earlier, later, rfl, rfl⟩
    rw [List.getElem?_append_right le_rfl, Nat.sub_self, List.getElem?_cons_zero]

/-- One step of a path. -/
theorem child?_eq_some_iff {key : String} {j v : Json} : j.child? key = some v ↔ Holds key j v := by
  constructor
  · intro h
    unfold child? at h
    split at h
    next items =>
      obtain ⟨n, hn, hv⟩ := Option.bind_eq_some_iff.mp h
      obtain ⟨earlier, later, rfl, rfl⟩ := getElem?_eq_some_iff_append.mp hv
      exact .item (readNat?_eq_some_iff.mp hn) later
    next =>
      unfold get? at h
      split at h
      next ms =>
        obtain ⟨earlier, later, rfl, hfirst⟩ := List.lookup_eq_some_iff.mp h
        exact .member (fun m hm heq => by simpa [heq] using hfirst m hm) later
      next => cases h
  · rintro (⟨hfirst, later⟩ | ⟨hindex, later⟩)
    · refine List.lookup_eq_some_iff.mpr ⟨_, later, rfl, fun m hm => ?_⟩
      simpa using (hfirst m hm).symm
    · refine Option.bind_eq_some_iff.mpr ⟨_, readNat?_eq_some_iff.mpr hindex, ?_⟩
      exact getElem?_eq_some_iff_append.mpr ⟨_, later, rfl, rfl⟩

/-- What is at the end of a path is what the path leads to. -/
theorem at?_eq_some_iff {j v : Json} {path : List String} :
    j.at? path = some v ↔ j.Leads path v := by
  unfold at?
  induction path generalizing j with
  | nil =>
    rw [List.foldlM_nil]
    constructor
    · intro h
      obtain rfl := Option.some.inj h
      exact .here j
    · rintro ⟨⟩
      rfl
  | cons key path ih =>
    rw [List.foldlM_cons]
    constructor
    · intro h
      obtain ⟨k, hk, hv⟩ := Option.bind_eq_some_iff.mp h
      exact .step (child?_eq_some_iff.mp hk) (ih.mp hv)
    · rintro (_ | ⟨hfirst, hrest⟩)
      exact Option.bind_eq_some_iff.mpr ⟨_, child?_eq_some_iff.mpr hfirst, ih.mpr hrest⟩

/-- Zeros in front and a plus sign do not count. -/
example : (arr [.null, .bool true]).Leads ["+01"] (.bool true) := at?_eq_some_iff.mp rfl

theorem at?_eq_none_iff {j : Json} {path : List String} : j.at? path = none ↔ j.Lacks path := by
  simp only [Option.eq_none_iff_forall_ne_some, ne_eq, at?_eq_some_iff, Lacks]

/-- A path leads to one value at most. -/
theorem Leads.unique {j v w : Json} {path : List String} (hv : j.Leads path v)
    (hw : j.Leads path w) : v = w :=
  Option.some.inj ((at?_eq_some_iff.mpr hv).symm.trans (at?_eq_some_iff.mpr hw))

end SpatialCatalog.Json
