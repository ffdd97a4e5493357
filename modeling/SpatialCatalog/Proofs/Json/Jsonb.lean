import SpatialCatalog.Proofs.Json.Order
import SpatialCatalog.Proofs.Json.Range
import SpatialCatalog.Proofs.Text.Bytes
import Mathlib.Data.List.Sort

/-!
# The order of a database

A database that stores documents in binary form has an order of its own on them.
`Jsonb.Compares keys a b o` says how it compares two values inside a document, `Jsonb.ComparesTop`
how it compares two documents; `keys` compares the keys that stand in the same place. The database
compares keys as it compares texts, by their bytes, but it stores shorter keys first. No key is in
an object twice, as `Json.nodupKeys_parse?` says of documents.

* `Jsonb.Compares.unique`: two values are compared in one way at most.
* `Jsonb.compareTop_iff`: items are sorted by the order of a database that compares keys as it
  stores them. This is the order of the database as long as keys that meet do not differ in length.
* `Jsonb.compareTop_shorterKey`: where they do, the two orders differ.
-/

namespace SpatialCatalog

namespace Json

/-! ### Documents -/

/-- What holds of a value if it holds of the values inside it, holds of all values. -/
theorem induction {P : Json → Prop} (null : P null) (bool : ∀ b, P (bool b)) (num : ∀ n, P (num n))
    (str : ∀ s, P (str s)) (arr : ∀ xs, (∀ x ∈ xs, P x) → P (arr xs))
    (obj : ∀ ms, (∀ m ∈ ms, P m.2) → P (obj ms)) (j : Json) : P j :=
  @Json.rec P (fun xs => ∀ x ∈ xs, P x) (fun ms => ∀ m ∈ ms, P m.2) (fun m => P m.2)
    null bool num str arr obj
    (fun _ hx => nomatch hx) (fun _ _ hx hxs => List.forall_mem_cons.mpr ⟨hx, hxs⟩)
    (fun _ hm => nomatch hm) (fun _ _ hm hms => List.forall_mem_cons.mpr ⟨hm, hms⟩)
    (fun _ _ h => h) j

theorem storageItems_eq_map (xs : List Json) : storageItems xs = xs.map storageForm := by
  induction xs with
  | nil => rfl
  | cons x xs ih => rw [storageItems, ih, List.map_cons]

theorem storageMembers_eq_map (ms : Members) :
    storageMembers ms = ms.map fun m => (m.1, m.2.storageForm) := by
  induction ms with
  | nil => rfl
  | cons m ms ih => rw [storageMembers, ih, List.map_cons]

/-- The members of an object in storage order. -/
def storedMembers (ms : Members) : Members := ms.mergeSort fun a b => (compareKeys a.1 b.1).isLE

theorem storedMembers_perm (ms : Members) : (storedMembers ms).Perm ms := List.mergeSort_perm ms _

/-- Members are sorted by key alone, so it does not matter when their values are. -/
theorem storageForm_obj (ms : Members) :
    (obj ms).storageForm = obj (storageMembers (storedMembers ms)) := by
  have hmap : (storedMembers ms).map (fun m => (m.1, m.2.storageForm)) =
      (ms.map fun m => (m.1, m.2.storageForm)).mergeSort fun a b => (compareKeys a.1 b.1).isLE :=
    List.map_mergeSort fun _ _ _ _ => rfl
  rw [storageForm, storageMembers_eq_map, storageMembers_eq_map, hmap]

theorem compare_arr (xs ys : List Json) : (arr xs).compare (arr ys) =
    (Ord.compare xs.length ys.length).then
      (compareItems (xs.map storageForm) (ys.map storageForm)) := by
  rw [compare, storageForm, storageForm, compareStored, storageItems_eq_map, storageItems_eq_map,
    List.length_map, List.length_map]

theorem compare_obj (ms ns : Members) : (obj ms).compare (obj ns) =
    (Ord.compare ms.length ns.length).then
      (compareMembers (storageMembers (storedMembers ms))
        (storageMembers (storedMembers ns))) := by
  have hlength (ms : Members) : (storageMembers (storedMembers ms)).length = ms.length := by
    rw [storageMembers_eq_map, List.length_map, (storedMembers_perm ms).length_eq]
  rw [compare, storageForm_obj, storageForm_obj, compareStored, hlength, hlength]

/-- Objects with one member. -/
theorem compare_singleton (m n : String × Json) :
    (obj [m]).compare (obj [n]) = (compareKeys m.1 n.1).then (m.2.compare n.2) := by
  rw [compare_obj, storedMembers, storedMembers, List.mergeSort_singleton,
    List.mergeSort_singleton]
  exact Ordering.then_eq

theorem isEmptyArray_iff {j : Json} : j.isEmptyArray ↔ j = arr [] := by
  cases j with
  | arr xs => cases xs <;> simp [isEmptyArray]
  | _ => simp [isEmptyArray]

end Json

namespace Jsonb

/-! ### Storage -/

/-- A key is stored before another: it is shorter, or as long and less by its bytes. -/
def KeyBefore (k l : String) : Prop :=
  k.utf8ByteSize < l.utf8ByteSize ∨ (k.utf8ByteSize = l.utf8ByteSize ∧ compareBytes k l = .lt)

theorem compareKeys_eq_lt_iff {k l : String} : compareKeys k l = .lt ↔ KeyBefore k l := by
  rw [compareKeys, Ordering.then_eq_lt, Nat.compare_eq_lt, Nat.compare_eq_eq,
    compare_eq_compareBytes]
  rfl

theorem compareKeys_eq_eq_iff {k l : String} : compareKeys k l = .eq ↔ k = l := by
  rw [compareKeys, Ordering.then_eq_eq, Nat.compare_eq_eq, Std.LawfulEqCmp.compare_eq_iff_eq]
  constructor
  · exact fun h => h.2
  · rintro rfl
    exact ⟨rfl, rfl⟩

theorem KeyBefore.asymm {k l : String} (h : KeyBefore k l) : ¬KeyBefore l k := by
  rw [← compareKeys_eq_lt_iff] at h ⊢
  rw [compareKeys_swap, h]
  decide

/-- The members of an object as they are stored. -/
structure StoredAs (ms stored : Members) : Prop where
  perm : stored.Perm ms
  sorted : stored.Pairwise fun m n => KeyBefore m.1 n.1

theorem StoredAs.unique {ms stored stored' : Members} (h : StoredAs ms stored)
    (h' : StoredAs ms stored') : stored = stored' :=
  List.Perm.eq_of_pairwise (fun _ _ _ _ hab hba => absurd hba hab.asymm) h.sorted h'.sorted
    (h.perm.trans h'.perm.symm)

/-- Members with different keys are stored in storage order. -/
theorem storedAs_storedMembers {ms : Members} (h : (ms.map Prod.fst).Nodup) :
    StoredAs ms (Json.storedMembers ms) := by
  have hperm := Json.storedMembers_perm ms
  refine ⟨hperm, ?_⟩
  have hsorted : (Json.storedMembers ms).Pairwise fun m n => (compareKeys m.1 n.1).isLE := by
    apply List.pairwise_mergeSort
    · exact fun a b c hab hbc => Std.TransCmp.isLE_trans hab hbc
    · exact fun a b => isLE_total a.1 b.1
  have hnodup : (Json.storedMembers ms).Pairwise fun m n => m.1 ≠ n.1 :=
    List.pairwise_map.mp ((hperm.map Prod.fst).nodup_iff.mpr h)
  refine (hsorted.and hnodup).imp ?_
  rintro m n ⟨hle, hne⟩
  rw [← compareKeys_eq_lt_iff]
  cases hcompare : compareKeys m.1 n.1 with
  | lt => rfl
  | eq => exact absurd (compareKeys_eq_eq_iff.mp hcompare) hne
  | gt => simp [hcompare] at hle

/-! ### The order -/

/-- The kinds of values, in their order. -/
inductive Kind where
  | null
  | string
  | number
  | boolean
  | array
  | object
deriving DecidableEq, Ord

/-- The kind of a value. -/
def kind : Json → Kind
  | .null => .null
  | .str _ => .string
  | .num _ => .number
  | .bool _ => .boolean
  | .arr _ => .array
  | .obj _ => .object

variable {keys : String → String → Ordering}

mutual

/-- How two values inside a document compare. Keys that stand in the same place are compared by
`keys`, and numbers as they are elsewhere. -/
inductive Compares (keys : String → String → Ordering) : Json → Json → Ordering → Prop
  | kind {a b : Json} (differ : kind a ≠ kind b) : Compares keys a b (compare (kind a) (kind b))
  | null : Compares keys .null .null .eq
  | str (s t : String) : Compares keys (.str s) (.str t) (compareBytes s t)
  | num (m n : Number) : Compares keys (.num m) (.num n) (Json.compare (.num m) (.num n))
  | bool (b c : Bool) : Compares keys (.bool b) (.bool c) (compare b c)
  | length {xs ys : List Json} (differ : xs.length ≠ ys.length) :
      Compares keys (.arr xs) (.arr ys) (compare xs.length ys.length)
  | items {xs ys : List Json} {o : Ordering} (same : xs.length = ys.length)
      (items : ComparesItems keys xs ys o) : Compares keys (.arr xs) (.arr ys) o
  | size {ms ns : Members} (differ : ms.length ≠ ns.length) :
      Compares keys (.obj ms) (.obj ns) (compare ms.length ns.length)
  | members {ms ns stored stored' : Members} {o : Ordering} (same : ms.length = ns.length)
      (left : StoredAs ms stored) (right : StoredAs ns stored')
      (members : ComparesMembers keys stored stored' o) : Compares keys (.obj ms) (.obj ns) o

/-- How two arrays of one length compare: by the first items that differ. -/
inductive ComparesItems (keys : String → String → Ordering) :
    List Json → List Json → Ordering → Prop
  | nil : ComparesItems keys [] [] .eq
  | here {x y : Json} {xs ys : List Json} {o : Ordering} (first : Compares keys x y o)
      (differ : o ≠ .eq) : ComparesItems keys (x :: xs) (y :: ys) o
  | later {x y : Json} {xs ys : List Json} {o : Ordering} (first : Compares keys x y .eq)
      (rest : ComparesItems keys xs ys o) : ComparesItems keys (x :: xs) (y :: ys) o

/-- How two objects of one size compare: by the first members that differ, and these by their keys
before their values. -/
inductive ComparesMembers (keys : String → String → Ordering) :
    Members → Members → Ordering → Prop
  | nil : ComparesMembers keys [] [] .eq
  | key {k l : String} {x y : Json} {ms ns : Members} (differ : keys k l ≠ .eq) :
      ComparesMembers keys ((k, x) :: ms) ((l, y) :: ns) (keys k l)
  | here {k l : String} {x y : Json} {ms ns : Members} {o : Ordering} (same : keys k l = .eq)
      (first : Compares keys x y o) (differ : o ≠ .eq) :
      ComparesMembers keys ((k, x) :: ms) ((l, y) :: ns) o
  | later {k l : String} {x y : Json} {ms ns : Members} {o : Ordering} (same : keys k l = .eq)
      (first : Compares keys x y .eq) (rest : ComparesMembers keys ms ns o) :
      ComparesMembers keys ((k, x) :: ms) ((l, y) :: ns) o

end

/-- How two documents compare: an empty array is before everything else. -/
inductive ComparesTop (keys : String → String → Ordering) : Json → Json → Ordering → Prop
  | both : ComparesTop keys (.arr []) (.arr []) .eq
  | left {b : Json} (other : b ≠ .arr []) : ComparesTop keys (.arr []) b .lt
  | right {a : Json} (other : a ≠ .arr []) : ComparesTop keys a (.arr []) .gt
  | inside {a b : Json} {o : Ordering} (left : a ≠ .arr []) (right : b ≠ .arr [])
      (inside : Compares keys a b o) : ComparesTop keys a b o

mutual

/-- Two values are compared in one way at most. -/
theorem Compares.unique : ∀ {a b : Json} {o o' : Ordering}, Compares keys a b o →
    Compares keys a b o' → o = o'
  | _, _, _, _, .kind differ, h => by
    cases h with
    | kind => rfl
    | _ => exact absurd rfl differ
  | _, _, _, _, .null, h => by
    cases h with
    | kind differ => exact absurd rfl differ
    | null => rfl
  | _, _, _, _, .str s t, h => by
    cases h with
    | kind differ => exact absurd rfl differ
    | str => rfl
  | _, _, _, _, .num m n, h => by
    cases h with
    | kind differ => exact absurd rfl differ
    | num => rfl
  | _, _, _, _, .bool b c, h => by
    cases h with
    | kind differ => exact absurd rfl differ
    | bool => rfl
  | _, _, _, _, .length differ, h => by
    cases h with
    | kind differ => exact absurd rfl differ
    | length => rfl
    | items same => exact absurd same differ
  | _, _, _, _, .items same hitems, h => by
    cases h with
    | kind differ => exact absurd rfl differ
    | length differ => exact absurd same differ
    | items _ hitems' => exact hitems.unique hitems'
  | _, _, _, _, .size differ, h => by
    cases h with
    | kind differ => exact absurd rfl differ
    | size => rfl
    | members same => exact absurd same differ
  | _, _, _, _, .members same left right hmembers, h => by
    cases h with
    | kind differ => exact absurd rfl differ
    | size differ => exact absurd same differ
    | members _ left' right' hmembers' =>
      rw [← left.unique left', ← right.unique right'] at hmembers'
      exact hmembers.unique hmembers'

theorem ComparesItems.unique : ∀ {xs ys : List Json} {o o' : Ordering},
    ComparesItems keys xs ys o → ComparesItems keys xs ys o' → o = o'
  | _, _, _, _, .nil, h => by
    cases h
    rfl
  | _, _, _, _, .here first differ, h => by
    cases h with
    | here first' => exact first.unique first'
    | later first' => exact absurd (first.unique first') differ
  | _, _, _, _, .later first rest, h => by
    cases h with
    | here first' differ => exact absurd (first.unique first').symm differ
    | later _ rest' => exact rest.unique rest'

theorem ComparesMembers.unique : ∀ {ms ns : Members} {o o' : Ordering},
    ComparesMembers keys ms ns o → ComparesMembers keys ms ns o' → o = o'
  | _, _, _, _, .nil, h => by
    cases h
    rfl
  | _, _, _, _, .key differ, h => by
    cases h with
    | key => rfl
    | here same => exact absurd same differ
    | later same => exact absurd same differ
  | _, _, _, _, .here same first differ, h => by
    cases h with
    | key differ => exact absurd same differ
    | here _ first' => exact first.unique first'
    | later _ first' => exact absurd (first.unique first') differ
  | _, _, _, _, .later same first rest, h => by
    cases h with
    | key differ => exact absurd same differ
    | here _ first' differ => exact absurd (first.unique first').symm differ
    | later _ _ rest' => exact rest.unique rest'

end

/-- Two documents are compared in one way at most. -/
theorem ComparesTop.unique {a b : Json} {o o' : Ordering} (h : ComparesTop keys a b o)
    (h' : ComparesTop keys a b o') : o = o' := by
  cases h with
  | both =>
    cases h' with
    | both => rfl
    | left other | right other | inside other => exact absurd rfl other
  | left other =>
    cases h' with
    | both => exact absurd rfl other
    | left => rfl
    | right other' => exact absurd rfl other'
    | inside other' => exact absurd rfl other'
  | right other =>
    cases h' with
    | both => exact absurd rfl other
    | left other' => exact absurd rfl other'
    | right => rfl
    | inside _ other' => exact absurd rfl other'
  | inside left right hinside =>
    cases h' with
    | both => exact absurd rfl left
    | left => exact absurd rfl left
    | right => exact absurd rfl right
    | inside _ _ hinside' => exact hinside.unique hinside'

/-! ### The order that items are sorted by -/

/-- Two keys meet: they stand in the same place of two values. -/
inductive Meet : Json → Json → String → String → Prop
  | item {xs ys : List Json} {x y : Json} {k l : String} (place : (x, y) ∈ xs.zip ys)
      (inside : Meet x y k l) : Meet (.arr xs) (.arr ys) k l
  | key {ms ns stored stored' : Members} {m n : String × Json} (left : StoredAs ms stored)
      (right : StoredAs ns stored') (place : (m, n) ∈ stored.zip stored') :
      Meet (.obj ms) (.obj ns) m.1 n.1
  | value {ms ns stored stored' : Members} {m n : String × Json} {k l : String}
      (left : StoredAs ms stored) (right : StoredAs ns stored')
      (place : (m, n) ∈ stored.zip stored') (inside : Meet m.2 n.2 k l) :
      Meet (.obj ms) (.obj ns) k l

/-- Where two keys meet, comparing them comes to the same as asking which is stored first. -/
def ComparesAsStored (keys : String → String → Ordering) (a b : Json) : Prop :=
  ∀ k l, Meet a b k l → keys k l = compareKeys k l

/-- Keys that are as long as each other are stored in the order of their bytes. -/
theorem comparesAsStored_of_size {a b : Json}
    (h : ∀ k l, Meet a b k l → k.utf8ByteSize = l.utf8ByteSize) :
    ComparesAsStored compareBytes a b := by
  intro k l hmeet
  rw [compareKeys, Nat.compare_eq_eq.mpr (h k l hmeet), Ordering.eq_then, compare_eq_compareBytes]

/-- Where keys of objects with one member meet. -/
theorem Meet.of_singleton {m n : String × Json} {k l : String}
    (h : Meet (.obj [m]) (.obj [n]) k l) : (k = m.1 ∧ l = n.1) ∨ Meet m.2 n.2 k l := by
  cases h with
  | key left right place =>
    rw [List.perm_singleton.mp left.perm, List.perm_singleton.mp right.perm] at place
    cases List.mem_singleton.mp place
    exact .inl ⟨rfl, rfl⟩
  | value left right place inside =>
    rw [List.perm_singleton.mp left.perm, List.perm_singleton.mp right.perm] at place
    cases List.mem_singleton.mp place
    exact .inr inside

theorem compares_of_kind_ne {a b : Json} (h : kind a ≠ kind b) :
    Compares keys a b (a.compare b) := by
  have hcompare : a.compare b = compare (kind a) (kind b) := by
    cases a <;> cases b <;> first | rfl | exact absurd rfl h
  rw [hcompare]
  exact .kind h

/-- What comes first decides, unless it is level. -/
theorem then_of_ne {o : Ordering} (h : o ≠ .eq) (p : Ordering) : o.then p = o := by
  cases o with
  | eq => exact absurd rfl h
  | lt | gt => rfl

theorem comparesItems {xs ys : List Json} (hlength : xs.length = ys.length)
    (h : ∀ p ∈ xs.zip ys, Compares keys p.1 p.2 (p.1.compare p.2)) :
    ComparesItems keys xs ys
      (Json.compareItems (xs.map Json.storageForm) (ys.map Json.storageForm)) := by
  induction xs generalizing ys with
  | nil =>
    obtain rfl := List.length_eq_zero_iff.mp hlength.symm
    exact .nil
  | cons x xs ih =>
    cases ys with
    | nil => cases hlength
    | cons y ys =>
      obtain ⟨hfirst, hrest⟩ := List.forall_mem_cons.mp h
      have hthen : Json.compareItems ((x :: xs).map Json.storageForm)
          ((y :: ys).map Json.storageForm) = (x.compare y).then
            (Json.compareItems (xs.map Json.storageForm) (ys.map Json.storageForm)) := rfl
      rw [hthen]
      by_cases hlevel : x.compare y = .eq
      · simp only [hlevel] at hfirst ⊢
        exact .later hfirst (ih (Nat.succ.inj hlength) hrest)
      · rw [then_of_ne hlevel]
        exact .here hfirst hlevel

theorem comparesMembers {ms ns : Members} (hlength : ms.length = ns.length)
    (h : ∀ p ∈ ms.zip ns, keys p.1.1 p.2.1 = compareKeys p.1.1 p.2.1 ∧
      Compares keys p.1.2 p.2.2 (p.1.2.compare p.2.2)) :
    ComparesMembers keys ms ns
      (Json.compareMembers (Json.storageMembers ms) (Json.storageMembers ns)) := by
  induction ms generalizing ns with
  | nil =>
    obtain rfl := List.length_eq_zero_iff.mp hlength.symm
    exact .nil
  | cons m ms ih =>
    cases ns with
    | nil => cases hlength
    | cons n ns =>
      obtain ⟨k, x⟩ := m
      obtain ⟨l, y⟩ := n
      obtain ⟨⟨hkeys, hfirst⟩, hrest⟩ := List.forall_mem_cons.mp h
      have hthen : Json.compareMembers (Json.storageMembers ((k, x) :: ms))
          (Json.storageMembers ((l, y) :: ns)) = ((compareKeys k l).then (x.compare y)).then
            (Json.compareMembers (Json.storageMembers ms) (Json.storageMembers ns)) := rfl
      rw [hthen, ← hkeys]
      by_cases hsame : keys k l = .eq
      · rw [hsame, Ordering.eq_then]
        by_cases hlevel : x.compare y = .eq
        · simp only [hlevel] at hfirst ⊢
          exact .later hsame hfirst (ih (Nat.succ.inj hlength) hrest)
        · rw [then_of_ne hlevel]
          exact .here hsame hfirst hlevel
      · rw [then_of_ne hsame, then_of_ne hsame]
        exact .key hsame

/-- Values are compared as a database does that compares the keys that meet as it stores them. -/
theorem compares_compare (a : Json) : ∀ b : Json, a.NodupKeys → b.NodupKeys →
    ComparesAsStored keys a b → Compares keys a b (a.compare b) := by
  induction a using Json.induction with
  | null =>
    intro b _ _ _
    cases b with
    | null => exact .null
    | _ => exact compares_of_kind_ne (by simp [kind])
  | bool v =>
    intro b _ _ _
    cases b with
    | bool w => exact .bool v w
    | _ => exact compares_of_kind_ne (by simp [kind])
  | num m =>
    intro b _ _ _
    cases b with
    | num n => exact .num m n
    | _ => exact compares_of_kind_ne (by simp [kind])
  | str s =>
    intro b _ _ _
    cases b with
    | str t =>
      have hcompare : (Json.str s).compare (.str t) = compareBytes s t :=
        compare_eq_compareBytes s t
      rw [hcompare]
      exact .str s t
    | _ => exact compares_of_kind_ne (by simp [kind])
  | arr xs ih =>
    intro b ha hb hkeys
    cases b with
    | arr ys =>
      cases ha with | arr hxs =>
      cases hb with | arr hys =>
      rw [Json.compare_arr]
      by_cases hlength : xs.length = ys.length
      · rw [Nat.compare_eq_eq.mpr hlength, Ordering.eq_then]
        apply Compares.items hlength
        apply comparesItems hlength
        rintro ⟨x, y⟩ hplace
        obtain ⟨hx, hy⟩ := List.of_mem_zip hplace
        exact ih x hx y (hxs x hx) (hys y hy) fun k l hmeet => hkeys k l (.item hplace hmeet)
      · rw [then_of_ne fun h => hlength (Nat.compare_eq_eq.mp h)]
        exact .length hlength
    | _ => exact compares_of_kind_ne (by simp [kind])
  | obj ms ih =>
    intro b ha hb hkeys
    cases b with
    | obj ns =>
      cases ha with | obj hms hxs =>
      cases hb with | obj hns hys =>
      rw [Json.compare_obj]
      by_cases hlength : ms.length = ns.length
      · rw [Nat.compare_eq_eq.mpr hlength, Ordering.eq_then]
        have hleft := storedAs_storedMembers hms
        have hright := storedAs_storedMembers hns
        apply Compares.members hlength hleft hright
        apply comparesMembers
        · rw [hleft.perm.length_eq, hright.perm.length_eq, hlength]
        · rintro ⟨m, n⟩ hplace
          obtain ⟨hm, hn⟩ := List.of_mem_zip hplace
          rw [hleft.perm.mem_iff] at hm
          rw [hright.perm.mem_iff] at hn
          constructor
          · exact hkeys _ _ (.key hleft hright hplace)
          · exact ih m hm n.2 (hxs m hm) (hys n hn) fun k l hmeet =>
              hkeys k l (.value hleft hright hplace hmeet)
      · rw [then_of_ne fun h => hlength (Nat.compare_eq_eq.mp h)]
        exact .size hlength
    | _ => exact compares_of_kind_ne (by simp [kind])

theorem comparesTop_compareTop {a b : Json} (ha : a.NodupKeys) (hb : b.NodupKeys)
    (hkeys : ComparesAsStored keys a b) : ComparesTop keys a b (a.compareTop b) := by
  unfold Json.compareTop
  cases hleft : a.isEmptyArray with
  | true =>
    obtain rfl := Json.isEmptyArray_iff.mp hleft
    cases hright : b.isEmptyArray with
    | true =>
      obtain rfl := Json.isEmptyArray_iff.mp hright
      exact .both
    | false => exact .left fun h => by simp [Json.isEmptyArray_iff.mpr h] at hright
  | false =>
    have ha' : a ≠ .arr [] := fun h => by simp [Json.isEmptyArray_iff.mpr h] at hleft
    cases hright : b.isEmptyArray with
    | true =>
      obtain rfl := Json.isEmptyArray_iff.mp hright
      exact .right ha'
    | false =>
      have hb' : b ≠ .arr [] := fun h => by simp [Json.isEmptyArray_iff.mpr h] at hright
      exact .inside ha' hb' (compares_compare a b ha hb hkeys)

/-- **Items are sorted by the order of a database that compares keys as it stores them.** This is
the order of the database as long as the keys that meet compare by their bytes as they are stored,
which they do if they are as long as each other. -/
theorem compareTop_iff {a b : Json} (ha : a.NodupKeys) (hb : b.NodupKeys) :
    (∀ o, ComparesTop compareKeys a b o ↔ a.compareTop b = o) ∧
    (ComparesAsStored compareBytes a b →
      ∀ o, ComparesTop compareBytes a b o ↔ a.compareTop b = o) := by
  have hiff : ∀ keys, ComparesAsStored keys a b →
      ∀ o, ComparesTop keys a b o ↔ a.compareTop b = o := by
    intro keys hkeys o
    have hcompares := comparesTop_compareTop ha hb hkeys
    constructor
    · exact fun h => hcompares.unique h
    · rintro rfl
      exact hcompares
  constructor
  · exact hiff compareKeys fun _ _ _ => rfl
  · exact hiff compareBytes

/-- Two documents with objects in objects, whose keys are as long as each other. -/
theorem compareTop_iff_nested :
    (Json.obj [("a", .obj [("one", .null)])]).NodupKeys ∧
    (Json.obj [("a", .obj [("two", .null)])]).NodupKeys ∧
    ComparesAsStored compareBytes (.obj [("a", .obj [("one", .null)])])
      (.obj [("a", .obj [("two", .null)])]) ∧
    ComparesTop compareBytes (.obj [("a", .obj [("one", .null)])])
      (.obj [("a", .obj [("two", .null)])]) .lt := by
  have hnodup : ∀ key, (Json.obj [("a", .obj [(key, .null)])]).NodupKeys := by
    intro key
    refine .obj (by simp) (List.forall_mem_singleton.mpr ?_)
    exact .obj (by simp) (List.forall_mem_singleton.mpr .null)
  have hkeys : ComparesAsStored compareBytes (.obj [("a", .obj [("one", .null)])])
      (.obj [("a", .obj [("two", .null)])]) := by
    apply comparesAsStored_of_size
    intro k l hmeet
    rcases hmeet.of_singleton with ⟨rfl, rfl⟩ | hmeet
    · rfl
    · rcases hmeet.of_singleton with ⟨rfl, rfl⟩ | hmeet
      · decide +kernel
      · cases hmeet
  have hcompare : (Json.obj [("a", .obj [("one", .null)])]).compareTop
      (.obj [("a", .obj [("two", .null)])]) = .lt := by
    have hcompare : (Json.obj [("a", .obj [("one", .null)])]).compare
        (.obj [("a", .obj [("two", .null)])]) = .lt := by
      rw [Json.compare_singleton, Json.compare_singleton]
      decide +kernel
    exact hcompare
  exact ⟨hnodup _, hnodup _, hkeys, ((compareTop_iff (hnodup _) (hnodup _)).2 hkeys _).mpr hcompare⟩

/-- **Keys that meet are compared as they are stored**, where a database compares them by their
bytes: `b` is stored before `aa`, but it is not less. -/
theorem compareTop_shorterKey :
    (Json.obj [("b", .null)]).NodupKeys ∧ (Json.obj [("aa", .null)]).NodupKeys ∧
    (Json.obj [("b", .null)]).compareTop (.obj [("aa", .null)]) = .lt ∧
    ComparesTop compareBytes (.obj [("b", .null)]) (.obj [("aa", .null)]) .gt ∧
    ¬ComparesTop compareBytes (.obj [("b", .null)]) (.obj [("aa", .null)])
      ((Json.obj [("b", .null)]).compareTop (.obj [("aa", .null)])) := by
  have hnodup : ∀ key, (Json.obj [(key, .null)]).NodupKeys := fun key =>
    .obj (by simp) (List.forall_mem_singleton.mpr .null)
  have hstored : ∀ key, StoredAs [(key, .null)] [(key, .null)] := fun key =>
    ⟨.refl _, List.pairwise_singleton _ _⟩
  have hcompareTop : (Json.obj [("b", .null)]).compareTop (.obj [("aa", .null)]) = .lt := by
    have hcompare : (Json.obj [("b", .null)]).compare (.obj [("aa", .null)]) = .lt := by
      rw [Json.compare_singleton]
      decide +kernel
    exact hcompare
  have hbytes : compareBytes "b" "aa" = .gt := by decide +kernel
  have hcompares : ComparesTop compareBytes (.obj [("b", .null)]) (.obj [("aa", .null)]) .gt := by
    refine .inside (by simp) (by simp) (.members rfl (hstored _) (hstored _) ?_)
    rw [← hbytes]
    exact .key (by rw [hbytes]; decide)
  refine ⟨hnodup _, hnodup _, hcompareTop, hcompares, fun h => ?_⟩
  rw [hcompareTop] at h
  cases hcompares.unique h

end Jsonb

end SpatialCatalog
