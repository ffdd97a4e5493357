import SpatialCatalog.Geometry.Decode
import SpatialCatalog.Proofs.Geometry.Text
import SpatialCatalog.Proofs.Geometry.Undecoded

/-!
# What is decoded can be written

The coordinates of every decoded geometry are finite, and its canonical value nests no deeper than
the value that it was decoded from. So whatever a document holds as a geometry has a canonical text,
and a store reads that text.

`Canonical` says of a decoder and a writer how they go together: what is decoded can be written, and
what is written is decoded as it was. It holds of numbers, of positions, and of lists of what it
holds of.
-/

namespace SpatialCatalog

/-! ### Decoders and writers -/

/-- What is decoded can be written, and what is written is decoded as it was. -/
structure Canonical {α : Type} (decode : Json → Decoded α) (write? : α → Option Json) : Prop where
  written : ∀ {n : Nat} {j : Json} {a : α}, j.Bounded n → decode j = .ok a →
    ∃ k, write? a = some k ∧ k.nesting ≤ n
  decoded : ∀ {a : α} {k : Json}, write? a = some k → decode k = .ok a
  /-- Null stands for what is absent, and is nothing that is decoded. -/
  decode_null : ∀ a : α, decode .null ≠ .ok a

theorem Json.list_eq_ok_iff {α : Type} {decode : Json → Decoded α} {j : Json} {as : List α} :
    j.list decode = .ok as ↔
      ∃ js, j = .arr js ∧ List.Forall₂ (fun j a => decode j = .ok a) js as := by
  cases j with
  | arr js =>
    rw [list, items, Except.bind, mapM_eq_ok_iff]
    simp
  | _ => simp [list, items, refuse, Except.bind]

theorem Canonical.list {α : Type} {decode : Json → Decoded α} {write? : α → Option Json}
    (h : Canonical decode write?) :
    Canonical (Json.list decode) fun as => (as.mapM write?).map .arr where
  written := by
    intro n j as hj has
    obtain ⟨js, rfl, hall⟩ := Json.list_eq_ok_iff.mp has
    obtain ⟨m, rfl, hm⟩ := hj.exists_arr
    have hks : ∃ ks, as.mapM write? = some ks ∧ Json.itemsNesting ks ≤ m := by
      clear hj has
      induction hall with
      | nil => exact ⟨[], rfl, Nat.zero_le _⟩
      | cons hja _ ih =>
        rw [List.forall_mem_cons] at hm
        obtain ⟨k, hk, hnesting⟩ := h.written hm.1 hja
        obtain ⟨ks, hks, hnestings⟩ := ih hm.2
        refine ⟨k :: ks, ?_, Nat.max_le.mpr ⟨hnesting, hnestings⟩⟩
        rw [mapM_eq_some_iff] at hks ⊢
        exact .cons hk hks
    obtain ⟨ks, hks, hnesting⟩ := hks
    exact ⟨.arr ks, by rw [hks, Option.map_some], Nat.succ_le_succ hnesting⟩
  decoded := by
    intro as k hk
    obtain ⟨ks, hks, rfl⟩ := map_arr_eq_some hk
    rw [mapM_eq_some_iff] at hks
    exact Json.list_eq_ok_iff.mpr ⟨ks, rfl, (hks.imp fun _ _ => h.decoded).flip⟩
  decode_null := by
    intro as has
    cases has

theorem Double.toJson?_eq_some {x : Double} (h : x.isFinite) :
    ∃ y, x.toJson? = some (.float y) := by
  cases x with
  | finite y => exact ⟨y, rfl⟩
  | _ => cases h

theorem canonical_double : Canonical Json.double Double.toJson? where
  written := by
    intro n j x hj hx
    cases j with
    | num m =>
      obtain rfl := Except.ok.inj hx
      obtain ⟨y, hy⟩ := Double.toJson?_eq_some (Number.InRange.isFinite_toDouble hj.inRange)
      exact ⟨_, hy, Nat.zero_le _⟩
    | _ => cases hx
  decoded := by
    intro x k hk
    cases x with
    | finite y =>
      obtain rfl := Option.some.inj hk
      rfl
    | _ => cases hk
  decode_null := by
    intro x hx
    cases hx

theorem Position.decode_eq_ok_iff {j : Json} {p : Position} :
    Position.decode j = .ok p ↔ ∃ rest, p.z = rest.head? ∧
      j.list Json.double = .ok (p.x :: p.y :: rest) := by
  obtain ⟨x, y, z⟩ := p
  rw [Position.decode, bind_eq_ok_iff]
  constructor
  · rintro ⟨values, hvalues, h⟩
    split at h
    next x' y' rest =>
      obtain ⟨rfl, rfl, rfl⟩ := Position.mk.inj (Except.ok.inj h)
      exact ⟨rest, rfl, hvalues⟩
    next => cases h
  · rintro ⟨rest, rfl, hvalues⟩
    exact ⟨_, hvalues, rfl⟩

theorem canonical_position : Canonical Position.decode Position.toJson? where
  written := by
    intro n j p hj hp
    obtain ⟨rest, hz, hvalues⟩ := Position.decode_eq_ok_iff.mp hp
    obtain ⟨js, rfl, -⟩ := Json.list_eq_ok_iff.mp hvalues
    obtain ⟨m, rfl, -⟩ := hj.exists_arr
    have hsome : p.toJson?.isSome := by
      -- All numbers of the list can be written, and the position has the first of them.
      obtain ⟨i, hi, -⟩ := canonical_double.list.written hj hvalues
      have hall : ((p.x :: p.y :: rest).mapM Double.toJson?).isSome := by
        rw [← Option.isSome_map (f := Json.arr), hi, Option.isSome_some]
      rw [isSome_mapM] at hall
      obtain ⟨x, y, z⟩ := p
      obtain rfl : z = rest.head? := hz
      rw [Position.toJson?, coordinatesToJson?, Option.isSome_map, isSome_mapM]
      cases rest <;> simp_all [Position.coordinates]
    obtain ⟨k, hk⟩ := Option.isSome_iff_exists.mp hsome
    exact ⟨k, hk, Nat.le_trans (Geometry.nesting_position p k hk) (Nat.le_add_left 1 m)⟩
  decoded := by
    intro p k hk
    have hvalues := canonical_double.list.decoded hk
    exact Position.decode_eq_ok_iff.mpr ⟨p.z.toList, by cases p.z <;> rfl, hvalues⟩
  decode_null := by
    intro p hp
    cases hp

theorem canonical_positions : Canonical Geometry.positions Geometry.positionsToJson? :=
  canonical_position.list

theorem canonical_positionLists :
    Canonical Geometry.positionLists Geometry.positionListsToJson? :=
  canonical_positions.list

theorem GeometryType.name_of_ofName? {name : String} {t : GeometryType}
    (h : GeometryType.ofName? name = some t) : name = t.name := by
  unfold GeometryType.ofName? at h
  have hfound := List.find?_some h
  exact (beq_iff_eq.mp hfound).symm

namespace Geometry

/-! ### What decoding checks -/

/-- A line has two positions at least. -/
def IsLine (ps : Positions) : Prop := 2 ≤ ps.length

/-- A ring has four positions at least and is closed. -/
def IsRing (ps : Positions) : Prop := minimumRing ≤ ps.length ∧ isClosed ps

/-- A polygon has an exterior ring, and then its holes. -/
def IsPolygon (rs : List Positions) : Prop := rs ≠ [] ∧ ∀ r ∈ rs, IsRing r

/-- The lengths and the closure that decoding checks, without those of the members. -/
def Checked : Geometry → Prop
  | point _ => True
  | multiPoint ps => ps ≠ []
  | lineString ps => IsLine ps
  | polygon rings => IsPolygon rings
  | multiLineString lines => ∀ l ∈ lines, IsLine l
  | multiPolygon polygons => ∀ p ∈ polygons, IsPolygon p
  | collection _ => True

/-- What the parts of an undecoded geometry are decoded as. -/
def DecodesAs (cs : Option Json) (gs : Option (List RawGeometry)) : Geometry → Prop
  | point p => coordinates .point Position.decode cs = .ok p
  | multiPoint ps => coordinates .multiPoint positions cs = .ok ps
  | lineString ps => coordinates .lineString positions cs = .ok ps
  | polygon rings => coordinates .polygon positionLists cs = .ok rings
  | multiLineString lines => coordinates .multiLineString positionLists cs = .ok lines
  | multiPolygon polygons => coordinates .multiPolygon (Json.list positionLists) cs = .ok polygons
  | collection members => ∃ l, gs = some l ∧ ofRawList l = .ok members

theorem line_eq_ok_iff (ps qs : Positions) : line ps = .ok qs ↔ IsLine ps ∧ qs = ps := by
  unfold line IsLine
  split
  next h => simp [Nat.not_le.mpr h]
  next h => simp [Nat.not_lt.mp h, eq_comm]

theorem ring_eq_ok_iff (ps : Positions) : ring ps = .ok () ↔ IsRing ps := by
  unfold ring IsRing
  split
  next h => simp [Nat.not_le.mpr h]
  next h => cases isClosed ps <;> simp [Nat.not_lt.mp h]

theorem rings_eq_ok_iff (rs qs : List Positions) : rings rs = .ok qs ↔ IsPolygon rs ∧ qs = rs := by
  have hall : rs.forM ring = .ok () ↔ ∀ r ∈ rs, IsRing r := by
    simp only [forM_eq_ok_iff, ring_eq_ok_iff]
  unfold rings IsPolygon
  rw [← hall]
  cases rs with
  | nil => simp
  | cons r rs =>
    rw [List.isEmpty_cons, if_neg Bool.false_ne_true, map_eq_ok_iff]
    constructor
    · rintro ⟨⟨⟩, hrings, rfl⟩
      exact ⟨⟨List.cons_ne_nil r rs, hrings⟩, rfl⟩
    · rintro ⟨⟨-, hrings⟩, rfl⟩
      exact ⟨(), hrings, rfl⟩

/-- Checks of single items pass when every item passes, and give the items. -/
theorem mapM_check_eq_ok_iff {α : Type} {check : α → GeometryResult α} {Passes : α → Prop}
    (h : ∀ a b, check a = .ok b ↔ Passes a ∧ b = a) {as bs : List α} :
    as.mapM check = .ok bs ↔ (∀ a ∈ as, Passes a) ∧ bs = as := by
  rw [mapM_eq_ok_iff]
  simp only [h]
  induction as generalizing bs with
  | nil => simp
  | cons a as ih =>
    cases bs with
    | nil => simp
    | cons b bs =>
      rw [List.forall₂_cons, ih, List.forall_mem_cons, List.cons.injEq]
      tauto

/-- **A geometry that is decoded passes the checks, and is what the parts are decoded as.** -/
theorem checked_of_ofRaw {name : String} {cs : Option Json} {gs : Option (List RawGeometry)}
    {g : Geometry} (h : ofRaw ⟨name, cs, gs⟩ = .ok g) :
    name = g.type.name ∧ g.Checked ∧ g.DecodesAs cs gs := by
  rw [ofRaw] at h
  split at h
  · cases h
  next hname =>
    obtain ⟨p, hp, rfl⟩ := map_eq_ok_iff.mp h
    exact ⟨GeometryType.name_of_ofName? hname, trivial, hp⟩
  next hname =>
    obtain ⟨ps, hps, hpositions⟩ := bind_eq_ok_iff.mp h
    split at hpositions
    · cases hpositions
    next hnil =>
      obtain rfl := Except.ok.inj hpositions
      exact ⟨GeometryType.name_of_ofName? hname, by simpa [Checked] using hnil, hps⟩
  next hname =>
    obtain ⟨ps, hps, rfl⟩ := map_eq_ok_iff.mp h
    obtain ⟨ps', hps', hline⟩ := bind_eq_ok_iff.mp hps
    obtain ⟨hline, rfl⟩ := (line_eq_ok_iff ..).mp hline
    exact ⟨GeometryType.name_of_ofName? hname, hline, hps'⟩
  next hname =>
    obtain ⟨rs, hrs, rfl⟩ := map_eq_ok_iff.mp h
    obtain ⟨rs', hrs', hrings⟩ := bind_eq_ok_iff.mp hrs
    obtain ⟨hrings, rfl⟩ := (rings_eq_ok_iff ..).mp hrings
    exact ⟨GeometryType.name_of_ofName? hname, hrings, hrs'⟩
  next hname =>
    obtain ⟨ls, hls, rfl⟩ := map_eq_ok_iff.mp h
    obtain ⟨ls', hls', hlines⟩ := bind_eq_ok_iff.mp hls
    obtain ⟨hlines, rfl⟩ := (mapM_check_eq_ok_iff line_eq_ok_iff).mp hlines
    exact ⟨GeometryType.name_of_ofName? hname, hlines, hls'⟩
  next hname =>
    obtain ⟨ps, hps, rfl⟩ := map_eq_ok_iff.mp h
    obtain ⟨ps', hps', hpolygons⟩ := bind_eq_ok_iff.mp hps
    obtain ⟨hpolygons, rfl⟩ := (mapM_check_eq_ok_iff rings_eq_ok_iff).mp hpolygons
    exact ⟨GeometryType.name_of_ofName? hname, hpolygons, hps'⟩
  next hname =>
    cases gs with
    | none => cases h
    | some l =>
      obtain ⟨members, hmembers, rfl⟩ := map_eq_ok_iff.mp h
      exact ⟨GeometryType.name_of_ofName? hname, trivial, l, rfl, hmembers⟩

/-- Parts that are decoded and pass the checks make up the geometry. -/
theorem ofRaw_of_checked {cs : Option Json} {gs : Option (List RawGeometry)} {g : Geometry}
    (hchecked : g.Checked) (h : g.DecodesAs cs gs) : ofRaw ⟨g.type.name, cs, gs⟩ = .ok g := by
  rw [ofRaw, GeometryType.ofName?_name]
  cases g with
  | point p => exact map_eq_ok_iff.mpr ⟨p, h, rfl⟩
  | multiPoint ps =>
    exact bind_eq_ok_iff.mpr ⟨ps, h, if_neg (by simpa [Checked] using hchecked)⟩
  | lineString ps =>
    have hline := (line_eq_ok_iff ps ps).mpr ⟨hchecked, rfl⟩
    exact map_eq_ok_iff.mpr ⟨ps, bind_eq_ok_iff.mpr ⟨ps, h, hline⟩, rfl⟩
  | polygon rs =>
    have hrings := (rings_eq_ok_iff rs rs).mpr ⟨hchecked, rfl⟩
    exact map_eq_ok_iff.mpr ⟨rs, bind_eq_ok_iff.mpr ⟨rs, h, hrings⟩, rfl⟩
  | multiLineString ls =>
    have hlines := (mapM_check_eq_ok_iff line_eq_ok_iff).mpr ⟨hchecked, rfl⟩
    exact map_eq_ok_iff.mpr ⟨ls, bind_eq_ok_iff.mpr ⟨ls, h, hlines⟩, rfl⟩
  | multiPolygon ps =>
    have hpolygons := (mapM_check_eq_ok_iff rings_eq_ok_iff).mpr ⟨hchecked, rfl⟩
    exact map_eq_ok_iff.mpr ⟨ps, bind_eq_ok_iff.mpr ⟨ps, h, hpolygons⟩, rfl⟩
  | collection members =>
    obtain ⟨l, rfl, hmembers⟩ := h
    exact map_eq_ok_iff.mpr ⟨members, hmembers, rfl⟩

/-! ### Decoded geometries can be written -/

/-- Coordinates that are decoded are there. -/
theorem coordinates_eq_ok_iff {α : Type} {type : GeometryType} {decode : Json → Decoded α}
    {cs : Option Json} {a : α} :
    coordinates type decode cs = .ok a ↔ ∃ c, cs = some c ∧ decode c = .ok a := by
  cases cs with
  | none => simp [coordinates]
  | some c => simp [coordinates, mapError_eq_ok_iff]

theorem written_typed {α : Type} {type : GeometryType} {decode : Json → Decoded α}
    {write? : α → Option Json} (h : Canonical decode write?) {cs : Option Json} {m : Nat}
    (hcs : ∀ c ∈ cs, c.Bounded m) {a : α} (ha : coordinates type decode cs = .ok a) :
    ∃ k, (write? a).map (typed type "coordinates") = some k ∧ k.nesting ≤ m + 1 := by
  obtain ⟨c, rfl, hc⟩ := coordinates_eq_ok_iff.mp ha
  obtain ⟨k, hk, hnesting⟩ := h.written (hcs c rfl) hc
  exact ⟨_, by rw [hk, Option.map_some], by rw [nesting_typed]; omega⟩

theorem toJson?_multiPolygon (polygons : List (List Positions)) :
    (multiPolygon polygons).toJson? =
      ((polygons.mapM positionListsToJson?).map .arr).map (typed .multiPolygon "coordinates") := by
  rw [toJson?, Option.map_map]
  rfl

mutual

/-- **What is decoded from a value in range can be written, and nests no deeper than the value.** -/
theorem written_ofRaw : ∀ (raw : RawGeometry) {n : Nat} {g : Geometry}, raw.toJson.Bounded n →
    ofRaw raw = .ok g → ∃ k, g.toJson? = some k ∧ k.nesting ≤ n
  | ⟨name, cs, gs⟩, n, g, hraw, h => by
    obtain ⟨m, rfl, hcs, hgs⟩ := RawGeometry.bounded_toJson_iff.mp hraw
    obtain ⟨-, -, hparts⟩ := checked_of_ofRaw h
    cases g with
    | point p =>
      rw [toJson?]
      exact written_typed canonical_position hcs hparts
    | multiPoint ps =>
      rw [toJson?]
      exact written_typed canonical_positions hcs hparts
    | lineString ps =>
      rw [toJson?]
      exact written_typed canonical_positions hcs hparts
    | polygon rs =>
      rw [toJson?]
      exact written_typed canonical_positionLists hcs hparts
    | multiLineString ls =>
      rw [toJson?]
      exact written_typed canonical_positionLists hcs hparts
    | multiPolygon ps =>
      rw [toJson?_multiPolygon]
      exact written_typed canonical_positionLists.list hcs hparts
    | collection members =>
      obtain ⟨l, rfl, hmembers⟩ := hparts
      obtain ⟨m, rfl, hm⟩ := (hgs l rfl).exists_arr
      obtain ⟨ks, hks, hnesting⟩ := written_ofRawList l hm hmembers
      refine ⟨_, by rw [toJson?, hks, Option.map_some], ?_⟩
      rw [nesting_typed, Json.nesting]
      omega

theorem written_ofRawList : ∀ (l : List RawGeometry) {n : Nat} {gs : List Geometry},
    (∀ j ∈ RawGeometry.listToJson l, j.Bounded n) → ofRawList l = .ok gs →
    ∃ ks, listToJson? gs = some ks ∧ Json.itemsNesting ks ≤ n
  | [], n, gs, _, h => by
    obtain rfl := Except.ok.inj h
    exact ⟨[], rfl, Nat.zero_le _⟩
  | raw :: l, n, gs, hl, h => by
    obtain ⟨g, hg, h⟩ := bind_eq_ok_iff.mp h
    obtain ⟨gs', hgs, rfl⟩ := map_eq_ok_iff.mp h
    rw [RawGeometry.listToJson, List.forall_mem_cons] at hl
    obtain ⟨k, hk, hnesting⟩ := written_ofRaw raw hl.1 hg
    obtain ⟨ks, hks, hnestings⟩ := written_ofRawList l hl.2 hgs
    exact ⟨k :: ks, by rw [listToJson?, hk, hks]; rfl, Nat.max_le.mpr ⟨hnesting, hnestings⟩⟩

end

theorem written_ofJson {j : Json} {n : Nat} {g : Geometry} (hj : j.Bounded n)
    (h : ofJson j = .ok g) : ∃ k, g.toJson? = some k ∧ k.nesting ≤ n := by
  obtain ⟨raw, hraw, hg⟩ := bind_eq_ok_iff.mp h
  exact written_ofRaw raw (RawGeometry.bounded_decode j hj (mapError_eq_ok_iff.mp hraw)) hg

end Geometry

end SpatialCatalog
