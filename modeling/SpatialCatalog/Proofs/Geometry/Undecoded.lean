import SpatialCatalog.Geometry.Raw
import SpatialCatalog.Proofs.Json.Range
import SpatialCatalog.Proofs.Success

/-!
# Undecoded geometries keep the bounds of what they are read from

An undecoded geometry is as large as the value that it has. Reading one from a value gives no more
than the value, and reading one from a text gives no more than the reader allows.
-/

namespace SpatialCatalog.RawGeometry

/-- What bounds an undecoded geometry bounds its parts, one level down. -/
theorem bounded_toJson_iff {type : String} {cs : Option Json}
    {gs : Option (List RawGeometry)} {n : Nat} :
    (toJson ⟨type, cs, gs⟩).Bounded n ↔ ∃ m, n = m + 1 ∧ (∀ c ∈ cs, c.Bounded m) ∧
      ∀ l ∈ gs, (Json.arr (listToJson l)).Bounded m := by
  have htype : ∀ m, (Json.str type).Bounded m := fun m => ⟨trivial, Nat.zero_le m⟩
  rw [toJson]
  constructor
  · intro h
    obtain ⟨m, rfl, hm⟩ := h.exists_obj
    refine ⟨m, rfl, ?_, ?_⟩
    · rintro c rfl
      exact hm ("coordinates", c) (by simp)
    · rintro l rfl
      exact hm ("geometries", .arr (listToJson l)) (by simp [geometriesMember])
  · rintro ⟨m, rfl, hcs, hgs⟩
    refine Json.bounded_obj_iff.mpr (List.forall_mem_cons.mpr ⟨htype m, ?_⟩)
    cases cs <;> cases gs <;> simp_all [geometriesMember]

/-! ### From values -/

/-- The parts found so far are bounded. -/
structure Draft.Bounded (n : Nat) (d : Draft) : Prop where
  coordinates : ∀ c ∈ d.coordinates, c.Bounded n
  geometries : ∀ l ∈ d.geometries, (Json.arr (listToJson l)).Bounded n

theorem Draft.Bounded.finish {n : Nat} {d : Draft} (h : d.Bounded n) {raw : RawGeometry}
    (hraw : d.finish = .ok raw) : raw.toJson.Bounded (n + 1) := by
  obtain ⟨type, -, rfl⟩ := map_eq_ok_iff.mp hraw
  exact bounded_toJson_iff.mpr ⟨n, rfl, h.coordinates, h.geometries⟩

theorem bounded_coordinates? {n : Nat} {j : Json} (h : j.Bounded n) :
    ∀ c ∈ coordinates? j, c.Bounded n := by
  unfold coordinates?
  split
  · simp
  · rintro c ⟨⟩
    exact h

mutual

/-- An undecoded geometry is bounded by what bounds the value that it is read from. -/
theorem bounded_decode : ∀ (j : Json) {n : Nat} {raw : RawGeometry}, j.Bounded n →
    decode j = .ok raw → raw.toJson.Bounded n
  | .obj ms, n, raw, hj, h => by
    obtain ⟨m, rfl, hm⟩ := hj.exists_obj
    obtain ⟨d, hd, hfinish⟩ := bind_eq_ok_iff.mp h
    exact (bounded_decodeMembers ms hm ⟨by simp, by simp⟩ hd).finish hfinish
  | .arr [], _, _, _, h => by cases h
  | .arr [t], n, raw, hj, h => by
    obtain ⟨m, rfl, -⟩ := hj.exists_arr
    obtain ⟨type, -, rfl⟩ := map_eq_ok_iff.mp h
    exact bounded_toJson_iff.mpr ⟨m, rfl, by simp, by simp⟩
  | .arr [t, c], n, raw, hj, h => by
    obtain ⟨m, rfl, hm⟩ := hj.exists_arr
    obtain ⟨type, -, rfl⟩ := map_eq_ok_iff.mp h
    exact bounded_toJson_iff.mpr ⟨m, rfl, bounded_coordinates? (hm c (by simp)), by simp⟩
  | .arr (t :: c :: gs :: rest), n, raw, hj, h => by
    obtain ⟨m, rfl, hm⟩ := hj.exists_arr
    obtain ⟨type, -, h⟩ := bind_eq_ok_iff.mp h
    obtain ⟨geometries, hgs, h⟩ := bind_eq_ok_iff.mp h
    split at h
    · obtain rfl := Except.ok.inj h
      exact bounded_toJson_iff.mpr ⟨m, rfl, bounded_coordinates? (hm c (by simp)),
        bounded_decodeGeometries gs (hm gs (by simp)) hgs⟩
    · cases h
  | .null, _, _, _, h => by cases h
  | .bool _, _, _, _, h => by cases h
  | .num _, _, _, _, h => by cases h
  | .str _, _, _, _, h => by cases h

theorem bounded_decodeMembers : ∀ (ms : List (String × Json)) {n : Nat} {d d' : Draft},
    (∀ p ∈ ms, p.2.Bounded n) → d.Bounded n → decodeMembers ms d = .ok d' → d'.Bounded n
  | [], _, _, _, _, hd, h => Except.ok.inj h ▸ hd
  | (key, value) :: ms, n, d, d', hms, hd, h => by
    have hvalue : value.Bounded n := hms (key, value) List.mem_cons_self
    have hrest := fun p hp => hms p (List.mem_cons_of_mem _ hp)
    unfold decodeMembers at h
    split at h
    · obtain ⟨type, -, hd'⟩ := bind_eq_ok_iff.mp h
      refine bounded_decodeMembers ms hrest ?_ hd'
      exact ⟨hd.coordinates, hd.geometries⟩
    · refine bounded_decodeMembers ms hrest ?_ h
      exact ⟨bounded_coordinates? hvalue, hd.geometries⟩
    · obtain ⟨gs, hgs, hd'⟩ := bind_eq_ok_iff.mp h
      refine bounded_decodeMembers ms hrest ?_ hd'
      exact ⟨hd.coordinates, bounded_decodeGeometries value hvalue hgs⟩
    · exact bounded_decodeMembers ms hrest hd h

theorem bounded_decodeGeometries : ∀ (j : Json) {n : Nat} {gs : Option (List RawGeometry)},
    j.Bounded n → decodeGeometries j = .ok gs → ∀ l ∈ gs, (Json.arr (listToJson l)).Bounded n
  | .null, _, _, _, h => by
    obtain rfl := Except.ok.inj h
    simp
  | .arr xs, n, gs, hj, h => by
    obtain ⟨m, rfl, hm⟩ := hj.exists_arr
    obtain ⟨l, hl, rfl⟩ := map_eq_ok_iff.mp h
    rintro l' ⟨⟩
    exact Json.bounded_arr_iff.mpr (bounded_decodeList xs hm hl)
  | .bool _, _, _, _, h => by cases h
  | .num _, _, _, _, h => by cases h
  | .str _, _, _, _, h => by cases h
  | .obj _, _, _, _, h => by cases h

theorem bounded_decodeList : ∀ (xs : List Json) {n : Nat} {l : List RawGeometry},
    (∀ x ∈ xs, x.Bounded n) → decodeList xs = .ok l → ∀ j ∈ listToJson l, j.Bounded n
  | [], _, _, _, h => by
    obtain rfl := Except.ok.inj h
    simp [listToJson]
  | x :: xs, n, l, hxs, h => by
    obtain ⟨hx, hxs⟩ := List.forall_mem_cons.mp hxs
    obtain ⟨raw, hraw, h⟩ := bind_eq_ok_iff.mp h
    obtain ⟨l', hl, rfl⟩ := map_eq_ok_iff.mp h
    rw [listToJson, List.forall_mem_cons]
    exact ⟨bounded_decode x hx hraw, bounded_decodeList xs hxs hl⟩

end

/-! ### From texts -/

/-- The parts found so far are bounded. -/
structure TextDraft.Bounded (n : Nat) (d : TextDraft) : Prop where
  coordinates : ∀ c ∈ d.coordinates.join, c.Bounded n
  geometries : ∀ l ∈ d.geometries.join, (Json.arr (listToJson l)).Bounded n

theorem bounded_sourceCoordinates? {n : Nat} {s : Source} {cs : Option Json}
    (h : sourceCoordinates? n s = some cs) : ∀ c ∈ cs, c.Bounded n := by
  obtain ⟨j, hj, rfl⟩ := Option.map_eq_some_iff.mp h
  exact bounded_coordinates? (s.bounded_value? hj)

mutual

/-- An undecoded geometry is bounded by the limit for the text that it is read from. -/
theorem bounded_ofSource? : ∀ (s : Source) {n : Nat} {raw : RawGeometry},
    ofSource? n s = some raw → raw.toJson.Bounded n
  | .obj ms, n + 1, raw, h => by
    obtain ⟨d, hd, hfinish⟩ := Option.bind_eq_some_iff.mp h
    obtain ⟨type, -, rfl⟩ := Option.map_eq_some_iff.mp hfinish
    have hbounded := bounded_sourceMembers? ms ⟨by simp, by simp⟩ hd
    exact bounded_toJson_iff.mpr ⟨n, rfl, hbounded.coordinates, hbounded.geometries⟩
  | .arr [t], n + 1, raw, h => by
    obtain ⟨type, -, rfl⟩ := Option.map_eq_some_iff.mp h
    exact bounded_toJson_iff.mpr ⟨n, rfl, by simp, by simp⟩
  | .arr [t, c], n + 1, raw, h => by
    obtain ⟨type, -, h⟩ := Option.bind_eq_some_iff.mp h
    obtain ⟨cs, hcs, rfl⟩ := Option.map_eq_some_iff.mp h
    exact bounded_toJson_iff.mpr ⟨n, rfl, bounded_sourceCoordinates? hcs, by simp⟩
  | .arr [t, c, gs], n + 1, raw, h => by
    obtain ⟨type, -, h⟩ := Option.bind_eq_some_iff.mp h
    obtain ⟨cs, hcs, h⟩ := Option.bind_eq_some_iff.mp h
    obtain ⟨geometries, hgs, rfl⟩ := Option.map_eq_some_iff.mp h
    exact bounded_toJson_iff.mpr
      ⟨n, rfl, bounded_sourceCoordinates? hcs, bounded_sourceGeometries? gs hgs⟩
  | .obj _, 0, _, h => by cases h
  | .arr _, 0, _, h => by cases h
  | .arr [], _ + 1, _, h => by cases h
  | .arr (_ :: _ :: _ :: _ :: _), _ + 1, _, h => by cases h
  | .null, n, _, h | .bool _, n, _, h | .num _, n, _, h | .str _, n, _, h => by
    cases n <;> cases h

theorem bounded_sourceMembers? : ∀ (ms : List (List Piece × Source)) {n : Nat}
    {d d' : TextDraft}, d.Bounded n → sourceMembers? n ms d = some d' → d'.Bounded n
  | [], _, _, _, hd, h => Option.some.inj h ▸ hd
  | (key, s) :: ms, n, d, d', hd, h => by
    unfold sourceMembers? at h
    split at h
    · cases h
    · split at h
      · cases h
      · obtain ⟨type, -, hd'⟩ := Option.bind_eq_some_iff.mp h
        refine bounded_sourceMembers? ms ?_ hd'
        exact ⟨hd.coordinates, hd.geometries⟩
    · split at h
      · cases h
      · obtain ⟨cs, hcs, hd'⟩ := Option.bind_eq_some_iff.mp h
        refine bounded_sourceMembers? ms ?_ hd'
        exact ⟨bounded_sourceCoordinates? hcs, hd.geometries⟩
    · split at h
      · cases h
      · obtain ⟨gs, hgs, hd'⟩ := Option.bind_eq_some_iff.mp h
        refine bounded_sourceMembers? ms ?_ hd'
        exact ⟨hd.coordinates, bounded_sourceGeometries? s hgs⟩
    · exact bounded_sourceMembers? ms hd h

theorem bounded_sourceGeometries? : ∀ (s : Source) {n : Nat} {gs : Option (List RawGeometry)},
    sourceGeometries? n s = some gs → ∀ l ∈ gs, (Json.arr (listToJson l)).Bounded n
  | .null, _, _, h => by
    obtain rfl := Option.some.inj h
    simp
  | .arr xs, n + 1, gs, h => by
    obtain ⟨l, hl, rfl⟩ := Option.map_eq_some_iff.mp h
    rintro l' ⟨⟩
    exact Json.bounded_arr_iff.mpr (bounded_sourceList? xs hl)
  | .arr _, 0, _, h => by cases h
  | .bool _, _, _, h => by cases h
  | .num _, _, _, h => by cases h
  | .str _, _, _, h => by cases h
  | .obj _, _, _, h => by cases h

theorem bounded_sourceList? : ∀ (xs : List Source) {n : Nat} {l : List RawGeometry},
    sourceList? n xs = some l → ∀ j ∈ listToJson l, j.Bounded n
  | [], _, _, h => by
    obtain rfl := Option.some.inj h
    simp [listToJson]
  | x :: xs, n, l, h => by
    obtain ⟨raw, hraw, h⟩ := Option.bind_eq_some_iff.mp h
    obtain ⟨l', hl, rfl⟩ := Option.map_eq_some_iff.mp h
    rw [listToJson, List.forall_mem_cons]
    exact ⟨bounded_ofSource? x hraw, bounded_sourceList? xs hl⟩

end

/-- **An undecoded geometry that is read from a text is bounded by the limit.** -/
theorem bounded_parse? {text : String} {raw : RawGeometry} (h : parse? text = some raw) :
    raw.toJson.Bounded nestingLimit := by
  obtain ⟨s, -, hs⟩ := Option.bind_eq_some_iff.mp h
  exact bounded_ofSource? s hs

end SpatialCatalog.RawGeometry
