import SpatialCatalog.Proofs.Json.RoundTrip

/-!
# What a document can hold

The whole numbers of a document fit 64 bits, so each of its numbers is a finite value.
`Json.InRange` says so of a value, and `Json.Bounded` bounds its nesting too. Whatever is read from
a text is bounded by the reader's limit, and none of its objects has a key twice, which
`Json.NodupKeys` says of a value.
-/

namespace SpatialCatalog

/-! ### Numbers -/

namespace Double

theorem isFinite_finite (x : Finite64) : (finite x).isFinite = true := by
  simp [isFinite, toFinite?]

theorem ofRatio_eq_finite (negative : Bool) {n d : Nat} (h : roundRatio n d < overflowUnits) :
    ∃ x, ofRatio negative n d = finite x := by
  have hsome : (Finite64.ofRatio? negative n d).isSome := isSome_ofRatio? h
  obtain ⟨x, hx⟩ := Option.isSome_iff_exists.mp hsome
  refine ⟨x, ?_⟩
  unfold ofRatio
  rw [hx]

end Double

namespace Number

/-- A whole number fits 64 bits, with a sign or without. -/
def InRange : Number → Prop
  | int n => -(greatestNegative : Int) ≤ n ∧ n ≤ greatestPositive
  | float _ => True

/-- A number of a document is a finite value. -/
theorem InRange.isFinite_toDouble {n : Number} (h : n.InRange) : n.toDouble.isFinite := by
  cases n with
  | float x => exact Double.isFinite_finite x
  | int n =>
    have habs : n.natAbs ≤ twoPow 64 := by
      have hneg : greatestNegative ≤ twoPow 64 := by decide
      have hpos : greatestPositive ≤ twoPow 64 := by decide
      obtain ⟨hlow, hhigh⟩ := h
      omega
    have hmul := Nat.mul_le_mul_right unitsPerOne habs
    have hround := roundRatio_le (n.natAbs * unitsPerOne) 1
    have hsmall : 2 * (twoPow 64 * unitsPerOne) + 1 < overflowUnits := by decide +kernel
    have hlt : roundRatio (n.natAbs * unitsPerOne) 1 < overflowUnits := by
      rw [Nat.div_one] at hround
      omega
    obtain ⟨x, hx⟩ := Double.ofRatio_eq_finite (decide (n < 0)) hlt
    rw [toDouble, Double.ofInt, hx, Double.isFinite_finite]

end Number

/-- The number of a numeral is in range: what does not fit 64 bits is read as a binary64 value. -/
theorem Numeral.inRange_number? {m : Numeral} {n : Number} (h : m.number? = some n) :
    n.InRange := by
  unfold number? at h
  dsimp only at h
  split at h
  next hpos =>
    obtain rfl := Option.some.inj h
    constructor <;> omega
  next =>
    split at h
    next hneg =>
      obtain rfl := Option.some.inj h
      constructor <;> omega
    next =>
      obtain ⟨x, -, rfl⟩ := Option.map_eq_some_iff.mp h
      trivial

/-! ### Values -/

namespace Json

mutual

/-- Every number of a value is in range. -/
def InRange : Json → Prop
  | num n => n.InRange
  | arr items => ItemsInRange items
  | obj members => MembersInRange members
  | _ => True

def ItemsInRange : List Json → Prop
  | [] => True
  | j :: js => j.InRange ∧ ItemsInRange js

def MembersInRange : List (String × Json) → Prop
  | [] => True
  | (_, j) :: ms => j.InRange ∧ MembersInRange ms

end

/-- In range, and with at most `n` containers inside one another. -/
structure Bounded (n : Nat) (j : Json) : Prop where
  inRange : j.InRange
  nesting_le : j.nesting ≤ n

theorem InRange.bounded {j : Json} (h : j.InRange) : j.Bounded j.nesting := ⟨h, Nat.le_refl _⟩

theorem bounded_arr_iff {items : List Json} {n : Nat} :
    (arr items).Bounded (n + 1) ↔ ∀ j ∈ items, j.Bounded n := by
  have hrange : (arr items).InRange ↔ ∀ j ∈ items, j.InRange := by
    rw [InRange]
    induction items with
    | nil => simp [ItemsInRange]
    | cons j js ih => simp [ItemsInRange, ih]
  have hnesting : (arr items).nesting ≤ n + 1 ↔ ∀ j ∈ items, j.nesting ≤ n := by
    rw [nesting, Nat.succ_le_succ_iff]
    clear hrange
    induction items with
    | nil => simp [itemsNesting]
    | cons j js ih => simp [itemsNesting, ih]
  constructor
  · exact fun h j hj => ⟨hrange.mp h.inRange j hj, hnesting.mp h.nesting_le j hj⟩
  · exact fun h => ⟨hrange.mpr fun j hj => (h j hj).inRange,
      hnesting.mpr fun j hj => (h j hj).nesting_le⟩

theorem bounded_obj_iff {ms : Members} {n : Nat} :
    (obj ms).Bounded (n + 1) ↔ ∀ m ∈ ms, m.2.Bounded n := by
  have hrange : (obj ms).InRange ↔ ∀ m ∈ ms, m.2.InRange := by
    rw [InRange]
    induction ms with
    | nil => simp [MembersInRange]
    | cons m ms ih => simp [MembersInRange, ih]
  have hnesting : (obj ms).nesting ≤ n + 1 ↔ ∀ m ∈ ms, m.2.nesting ≤ n := by
    rw [nesting, Nat.succ_le_succ_iff]
    clear hrange
    induction ms with
    | nil => simp [membersNesting]
    | cons m ms ih => simp [membersNesting, ih]
  constructor
  · exact fun h m hm => ⟨hrange.mp h.inRange m hm, hnesting.mp h.nesting_le m hm⟩
  · exact fun h => ⟨hrange.mpr fun m hm => (h m hm).inRange,
      hnesting.mpr fun m hm => (h m hm).nesting_le⟩

/-- A container takes up a level. -/
theorem Bounded.exists_arr {items : List Json} {n : Nat} (h : (arr items).Bounded n) :
    ∃ m, n = m + 1 ∧ ∀ j ∈ items, j.Bounded m := by
  obtain _ | n := n
  · exact absurd h.nesting_le (Nat.not_succ_le_zero _)
  · exact ⟨n, rfl, bounded_arr_iff.mp h⟩

theorem Bounded.exists_obj {ms : Members} {n : Nat} (h : (obj ms).Bounded n) :
    ∃ m, n = m + 1 ∧ ∀ p ∈ ms, p.2.Bounded m := by
  obtain _ | n := n
  · exact absurd h.nesting_le (Nat.not_succ_le_zero _)
  · exact ⟨n, rfl, bounded_obj_iff.mp h⟩

/-- No object in a value has a key twice. -/
inductive NodupKeys : Json → Prop
  | null : NodupKeys null
  | bool (b : Bool) : NodupKeys (bool b)
  | num (n : Number) : NodupKeys (num n)
  | str (s : String) : NodupKeys (str s)
  | arr {xs : List Json} (items : ∀ x ∈ xs, NodupKeys x) : NodupKeys (arr xs)
  | obj {ms : Members} (keys : (ms.map Prod.fst).Nodup) (values : ∀ m ∈ ms, NodupKeys m.2) :
      NodupKeys (obj ms)

end Json

namespace Members

/-- A value of an object that was built from pairs is the value of a pair. -/
theorem forall_ofPairs {P : Json → Prop} {pairs : List (String × Json)}
    (h : ∀ p ∈ pairs, P p.2) : ∀ m ∈ ofPairs pairs, P m.2 := by
  have hset : ∀ (ms : Members) (key : String) (value : Json), (∀ m ∈ ms, P m.2) → P value →
      ∀ m ∈ ms.set key value, P m.2 := by
    intro ms key value hms hvalue
    induction ms with
    | nil => simpa [set] using hvalue
    | cons m ms ih =>
      rw [List.forall_mem_cons] at hms
      rw [set]
      split
      · exact List.forall_mem_cons.mpr ⟨hvalue, hms.2⟩
      · exact List.forall_mem_cons.mpr ⟨hms.1, ih hms.2⟩
  have hfold : ∀ ms : Members, (∀ m ∈ ms, P m.2) →
      ∀ m ∈ pairs.foldl (fun ms p => ms.set p.1 p.2) ms, P m.2 := by
    induction pairs with
    | nil => exact fun _ hms => hms
    | cons p pairs ih =>
      rw [List.forall_mem_cons] at h
      exact fun ms hms => ih h.2 _ (hset ms p.1 p.2 hms h.1)
  exact hfold [] (by simp)

/-- A key that is there keeps its place, and a new one comes last. -/
theorem keys_set (ms : Members) (key : String) (value : Json) :
    (ms.set key value).map Prod.fst =
      if key ∈ ms.map Prod.fst then ms.map Prod.fst else ms.map Prod.fst ++ [key] := by
  induction ms with
  | nil => simp [set]
  | cons m ms ih =>
    obtain ⟨k, v⟩ := m
    by_cases hk : k = key
    · simp [set, hk]
    · have hmem : key ∈ ((k, v) :: ms).map Prod.fst ↔ key ∈ ms.map Prod.fst := by
        simp [Ne.symm hk]
      rw [set, if_neg hk, List.map_cons, ih]
      simp only [hmem]
      split <;> rfl

/-- An object that was built from pairs has no key twice. -/
theorem nodup_keys_ofPairs (pairs : List (String × Json)) :
    ((ofPairs pairs).map Prod.fst).Nodup := by
  have hfold : ∀ ms : Members, (ms.map Prod.fst).Nodup →
      ((pairs.foldl (fun ms p => ms.set p.1 p.2) ms).map Prod.fst).Nodup := by
    induction pairs with
    | nil => exact fun _ hms => hms
    | cons p pairs ih =>
      intro ms hms
      apply ih
      rw [keys_set]
      split
      · exact hms
      next hnew =>
        refine List.nodup_append.mpr ⟨hms, by simp, ?_⟩
        rintro k hk _ hlast rfl
        exact hnew (List.mem_singleton.mp hlast ▸ hk)
  exact hfold [] List.nodup_nil

end Members

/-! ### What is read -/

namespace Source

/-- What values inherit when they are read: it holds of values that are no containers, and of a
container one level up if it holds of what is in it. -/
structure Inherited (P : Nat → Json → Prop) : Prop where
  null : ∀ depth, P depth .null
  bool : ∀ depth b, P depth (.bool b)
  num : ∀ depth {m : Numeral} {n : Number}, m.number? = some n → P depth (.num n)
  str : ∀ depth s, P depth (.str s)
  arr : ∀ {depth} {js : List Json}, (∀ j ∈ js, P depth j) → P (depth + 1) (.arr js)
  obj : ∀ {depth} {ps : List (String × Json)}, (∀ p ∈ ps, P depth p.2) →
    P (depth + 1) (.obj (Members.ofPairs ps))

section

variable {P : Nat → Json → Prop}

mutual

/-- What values inherit holds of all that is read. -/
theorem Inherited.value? (hP : Inherited P) : ∀ (s : Source) {depth : Nat} {j : Json},
    s.value? depth = some j → P depth j
  | .null, depth, _, h => by
    obtain rfl := Option.some.inj h
    exact hP.null depth
  | .bool b, depth, _, h => by
    obtain rfl := Option.some.inj h
    exact hP.bool depth b
  | .num m, depth, _, h => by
    obtain ⟨n, hn, rfl⟩ := Option.map_eq_some_iff.mp h
    exact hP.num depth hn
  | .str _, depth, _, h => by
    obtain ⟨s, -, rfl⟩ := Option.map_eq_some_iff.mp h
    exact hP.str depth s
  | .arr _, 0, _, h => by cases h
  | .arr items, depth + 1, _, h => by
    obtain ⟨js, hjs, rfl⟩ := Option.map_eq_some_iff.mp h
    exact hP.arr (hP.values? items hjs)
  | .obj _, 0, _, h => by cases h
  | .obj members, depth + 1, _, h => by
    obtain ⟨ps, hps, rfl⟩ := Option.map_eq_some_iff.mp h
    exact hP.obj (hP.pairs? members hps)

theorem Inherited.values? (hP : Inherited P) : ∀ (xs : List Source) {depth : Nat}
    {js : List Json}, values? depth xs = some js → ∀ j ∈ js, P depth j
  | [], _, _, h => by
    obtain rfl := Option.some.inj h
    simp
  | x :: xs, _, _, h => by
    obtain ⟨j, hj, hmap⟩ := Option.bind_eq_some_iff.mp h
    obtain ⟨js, hjs, rfl⟩ := Option.map_eq_some_iff.mp hmap
    exact List.forall_mem_cons.mpr ⟨hP.value? x hj, hP.values? xs hjs⟩

theorem Inherited.pairs? (hP : Inherited P) : ∀ (ms : List (List Piece × Source)) {depth : Nat}
    {ps : List (String × Json)}, pairs? depth ms = some ps → ∀ p ∈ ps, P depth p.2
  | [], _, _, h => by
    obtain rfl := Option.some.inj h
    simp
  | (k, x) :: ms, _, _, h => by
    obtain ⟨key, -, hbind⟩ := Option.bind_eq_some_iff.mp h
    obtain ⟨j, hj, hmap⟩ := Option.bind_eq_some_iff.mp hbind
    obtain ⟨ps, hps, rfl⟩ := Option.map_eq_some_iff.mp hmap
    exact List.forall_mem_cons.mpr ⟨hP.value? x hj, hP.pairs? ms hps⟩

end

end

theorem inherited_bounded : Inherited fun depth j => j.Bounded depth where
  null _ := ⟨trivial, Nat.zero_le _⟩
  bool _ _ := ⟨trivial, Nat.zero_le _⟩
  num _ _ _ h := ⟨Numeral.inRange_number? h, Nat.zero_le _⟩
  str _ _ := ⟨trivial, Nat.zero_le _⟩
  arr h := Json.bounded_arr_iff.mpr h
  obj h := Json.bounded_obj_iff.mpr (Members.forall_ofPairs h)

theorem inherited_nodupKeys : Inherited fun _ j => j.NodupKeys where
  null _ := .null
  bool _ b := .bool b
  num _ _ n _ := .num n
  str _ s := .str s
  arr h := .arr h
  obj h := .obj (Members.nodup_keys_ofPairs _) (Members.forall_ofPairs h)

/-- What is read from a tree is in range, and nests no deeper than is allowed. -/
theorem bounded_value? (s : Source) {depth : Nat} {j : Json} (h : s.value? depth = some j) :
    j.Bounded depth := inherited_bounded.value? s h

end Source

/-- **What is read from a text is in range, and nests no deeper than the limit.** -/
theorem Json.bounded_parse? {text : String} {j : Json} (h : parse? text = some j) :
    j.Bounded nestingLimit := by
  obtain ⟨s, -, hs⟩ := Option.bind_eq_some_iff.mp h
  exact s.bounded_value? hs

/-- A document has no key twice: of the values that are written for a key, the last counts. -/
theorem Json.nodupKeys_parse? {text : String} {j : Json} (h : parse? text = some j) :
    j.NodupKeys := by
  obtain ⟨s, -, hs⟩ := Option.bind_eq_some_iff.mp h
  exact Source.inherited_nodupKeys.value? s hs

end SpatialCatalog
