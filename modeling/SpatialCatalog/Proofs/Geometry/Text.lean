import SpatialCatalog.Geometry.Rendered
import SpatialCatalog.Geometry.Text
import SpatialCatalog.Proofs.Json.RoundTrip
import SpatialCatalog.Proofs.Success

/-!
# Canonical texts can be read

A store reads the canonical text of a geometry, unless collections are nested too deeply. What it
reads is the geometry with every coordinate as it is read back, and it renders just that. A geometry
that is no collection nests five containers at most.
-/

namespace SpatialCatalog

/-! ### Coordinates that are read back -/

def Double.reread : Double → Double
  | finite x => finite x.reread
  | x => x

def Position.reread (p : Position) : Position := ⟨p.x.reread, p.y.reread, p.z.map Double.reread⟩

namespace Geometry

mutual

/-- The geometry whose coordinates are those that are read where they are written. -/
def reread : Geometry → Geometry
  | point p => point p.reread
  | multiPoint ps => multiPoint (ps.map Position.reread)
  | lineString ps => lineString (ps.map Position.reread)
  | polygon rings => polygon (rings.map (·.map Position.reread))
  | multiLineString lines => multiLineString (lines.map (·.map Position.reread))
  | multiPolygon polygons => multiPolygon (polygons.map (·.map (·.map Position.reread)))
  | collection members => collection (rereadList members)

def rereadList : List Geometry → List Geometry
  | [] => []
  | g :: gs => g.reread :: rereadList gs

end

end Geometry

/-- Writing item by item commutes with reading back. -/
theorem mapM_reread {α : Type} {write? : α → Option Json} {back : α → α}
    (h : ∀ a, write? (back a) = (write? a).bind Json.reread?) (xs : List α) :
    (xs.map back).mapM write? = (xs.mapM write?).bind Json.rereadItems? := by
  induction xs with
  | nil => rfl
  | cons x xs ih =>
    rw [List.map_cons, List.mapM_cons, List.mapM_cons, h, ih]
    cases write? x with
    | none => rfl
    | some j =>
      cases xs.mapM write? with
      | none => cases hj : j.reread? <;> simp [hj]
      | some js =>
        cases hj : j.reread? <;> cases hjs : Json.rereadItems? js <;>
          simp [hj, hjs, Json.rereadItems?]

theorem map_arr_reread {α : Type} {write? : α → Option Json} {back : α → α}
    (h : ∀ a, write? (back a) = (write? a).bind Json.reread?) (xs : List α) :
    ((xs.map back).mapM write?).map Json.arr =
      ((xs.mapM write?).map Json.arr).bind Json.reread? := by
  rw [mapM_reread h]
  cases xs.mapM write? with
  | none => rfl
  | some js => rfl

theorem Double.toJson?_reread (x : Double) : x.reread.toJson? = x.toJson?.bind Json.reread? := by
  cases x <;> rfl

theorem Position.toJson?_reread (p : Position) :
    p.reread.toJson? = p.toJson?.bind Json.reread? := by
  have hmap : p.reread.coordinates = p.coordinates.map Double.reread := by
    obtain ⟨x, y, _ | z⟩ := p <;> rfl
  rw [toJson?, hmap]
  exact map_arr_reread Double.toJson?_reread p.coordinates

namespace Geometry

theorem positionsToJson?_reread (ps : Positions) :
    positionsToJson? (ps.map Position.reread) = (positionsToJson? ps).bind Json.reread? :=
  map_arr_reread Position.toJson?_reread ps

theorem positionListsToJson?_reread (pss : List Positions) :
    positionListsToJson? (pss.map (·.map Position.reread)) =
      (positionListsToJson? pss).bind Json.reread? :=
  map_arr_reread positionsToJson?_reread pss

theorem map_typed_reread (type : GeometryType) {key : String} (hkey : key ≠ "type")
    (value : Option Json) :
    (value.bind Json.reread?).map (typed type key) =
      (value.map (typed type key)).bind Json.reread? := by
  cases value with
  | none => rfl
  | some j =>
    cases hj : j.reread? with
    | none => simp [typed, Json.reread?, Json.rereadMembers?, hj]
    | some v =>
      simp [typed, Json.reread?, Json.rereadMembers?, hj, Members.ofPairs, Members.set, hkey.symm]

mutual

/-- The value of the geometry that is read back is the value that is read back. -/
theorem toJson?_reread : ∀ g : Geometry, g.reread.toJson? = g.toJson?.bind Json.reread?
  | point p => by
    rw [reread, toJson?, toJson?, p.toJson?_reread, map_typed_reread _ (by decide)]
  | multiPoint ps => by
    rw [reread, toJson?, toJson?, positionsToJson?_reread, map_typed_reread _ (by decide)]
  | lineString ps => by
    rw [reread, toJson?, toJson?, positionsToJson?_reread, map_typed_reread _ (by decide)]
  | polygon rings => by
    rw [reread, toJson?, toJson?, positionListsToJson?_reread, map_typed_reread _ (by decide)]
  | multiLineString lines => by
    rw [reread, toJson?, toJson?, positionListsToJson?_reread, map_typed_reread _ (by decide)]
  | multiPolygon polygons => by
    have h := map_typed_reread .multiPolygon (show "coordinates" ≠ "type" by decide)
      ((polygons.mapM positionListsToJson?).map Json.arr)
    rw [← map_arr_reread positionListsToJson?_reread polygons, Option.map_map, Option.map_map] at h
    exact h
  | collection members => by
    have h := map_typed_reread .collection (show "geometries" ≠ "type" by decide)
      ((listToJson? members).map Json.arr)
    rw [Option.map_map] at h
    rw [reread, toJson?, toJson?, listToJson?_rereadList members]
    refine Eq.trans ?_ h
    cases listToJson? members with
    | none => rfl
    | some js => cases hjs : Json.rereadItems? js <;> simp [Json.reread?, hjs]

theorem listToJson?_rereadList : ∀ gs : List Geometry,
    listToJson? (rereadList gs) = (listToJson? gs).bind Json.rereadItems?
  | [] => rfl
  | g :: gs => by
    rw [rereadList, listToJson?, listToJson?, toJson?_reread g, listToJson?_rereadList gs]
    cases g.toJson? with
    | none => rfl
    | some j =>
      cases listToJson? gs with
      | none => cases hj : j.reread? <;> simp [hj]
      | some js =>
        cases hj : j.reread? <;> cases hjs : Json.rereadItems? js <;>
          simp [hj, hjs, Json.rereadItems?]

end

end Geometry

/-! ### Rendering -/

/-- Reading item by item what was written item by item. -/
theorem mapM_of_mapM {α β : Type} {write? : α → Option Json} {read? : Json → Option β}
    {write : β → Json} (h : ∀ a j, write? a = some j → ∃ b, read? j = some b ∧ write b = j)
    {xs : List α} {js : List Json} (hjs : xs.mapM write? = some js) :
    ∃ bs, js.mapM read? = some bs ∧ bs.map write = js := by
  rw [mapM_eq_some_iff] at hjs
  induction hjs with
  | nil => exact ⟨[], rfl, rfl⟩
  | @cons a j as js' hj _ ih =>
    obtain ⟨b, hb, hwb⟩ := h a j hj
    obtain ⟨bs, hbs, hwbs⟩ := ih
    refine ⟨b :: bs, ?_, ?_⟩
    · rw [mapM_eq_some_iff] at hbs ⊢
      exact .cons hb hbs
    · rw [List.map_cons, hwb, hwbs]

theorem map_arr_eq_some {α : Type} {write? : α → Option Json} {xs : List α} {j : Json}
    (h : (xs.mapM write?).map Json.arr = some j) :
    ∃ js, xs.mapM write? = some js ∧ j = .arr js := by
  obtain ⟨js, hjs, rfl⟩ := Option.map_eq_some_iff.mp h
  exact ⟨js, hjs, rfl⟩

/-- Reading an array that was written item by item. -/
theorem listOf?_of_map_arr {α β : Type} {write? : α → Option Json} {read? : Json → Option β}
    {write : β → Json} (h : ∀ a j, write? a = some j → ∃ b, read? j = some b ∧ write b = j)
    {xs : List α} {j : Json} (hj : (xs.mapM write?).map Json.arr = some j) :
    ∃ bs, Json.listOf? read? j = some bs ∧ Json.arr (bs.map write) = j := by
  obtain ⟨js, hjs, rfl⟩ := map_arr_eq_some hj
  obtain ⟨bs, hbs, hwrite⟩ := mapM_of_mapM h hjs
  exact ⟨bs, hbs, by rw [hwrite]⟩

theorem Double.finite?_toJson (x : Double) (j : Json) (h : x.toJson? = some j) :
    ∃ y, Json.finite? j = some y ∧ Json.float y = j := by
  cases x with
  | finite x =>
    obtain rfl := Option.some.inj h
    exact ⟨x, rfl, rfl⟩
  | _ => cases h

namespace RenderedGeometry

theorem position_of_toJson (p : Position) (j : Json) (h : p.toJson? = some j) :
    ∃ r, RenderedPosition.ofJson? j = some r ∧ positionToJson r = j := by
  obtain ⟨values, hvalues, hwrite⟩ := listOf?_of_map_arr Double.finite?_toJson h
  -- A position has an easting and a northing.
  have hlength : 2 ≤ values.length := by
    obtain ⟨js, hjs, rfl⟩ := map_arr_eq_some h
    have hlen := (mapM_eq_some_iff.mp hjs).length_eq
    have hjs' : (values.map Json.float).length = js.length := by rw [Json.arr.inj hwrite]
    rw [List.length_map] at hjs'
    rw [hjs', ← hlen]
    simp [Position.coordinates]
  obtain _ | ⟨x, _ | ⟨y, more⟩⟩ := values
  · simp at hlength
  · simp at hlength
  · exact ⟨⟨x, y, more⟩, by rw [RenderedPosition.ofJson?, hvalues]; rfl, hwrite⟩

theorem positions_of_toJson (ps : Positions) (j : Json)
    (h : Geometry.positionsToJson? ps = some j) :
    ∃ rs, positions? j = some rs ∧ positionsToJson rs = j :=
  listOf?_of_map_arr position_of_toJson h

theorem positionLists_of_toJson (pss : List Positions) (j : Json)
    (h : Geometry.positionListsToJson? pss = some j) :
    ∃ rs, positionLists? j = some rs ∧ positionListsToJson rs = j :=
  listOf?_of_map_arr positions_of_toJson h

/-- No box, and no members but the type and the part. -/
def bare : RenderedMembers := ⟨none, []⟩

theorem type?_typed (type : GeometryType) (key : String) (value : Json) :
    type? [("type", .str type.name), (key, value)] = some type := by
  simp [type?, Members.get?]

theorem ofMembers?_typed (type : GeometryType) {key : String} (h : key ≠ "type" ∧ key ≠ "bbox")
    (value : Json) :
    RenderedMembers.ofMembers? [("type", .str type.name), (key, value)] key = some bare := by
  have hbbox : Members.get? [("type", .str type.name), (key, value)] "bbox" = none := by
    simp [Members.get?, List.lookup_cons, beq_eq_false_iff_ne.mpr h.2.symm]
  simp [RenderedMembers.ofMembers?, hbbox, bare]

theorem simple?_typed {α : Type} (type : GeometryType) {read? : Json → Option α} {j : Json} {a : α}
    (h : read? j = some a) (make : α → RenderedMembers → RenderedGeometry) :
    simple? [("type", .str type.name), ("coordinates", j)] read? make = some (make a bare) := by
  have hget : Members.get? [("type", .str type.name), ("coordinates", j)] "coordinates" =
      some j := by
    simp [Members.get?, List.lookup_cons]
  rw [simple?, hget, Option.bind_some, h, Option.bind_some, ofMembers?_typed type (by decide),
    Option.map_some]

theorem object_bare (type : GeometryType) (part : String) (value : Json) :
    object type part value bare = Geometry.typed type part value := rfl

mutual

/-- A value that a geometry has is read as a geometry that renders as that value. -/
theorem of_toJson : ∀ (g : Geometry) (j : Json), g.toJson? = some j →
    ∃ r, ofJson? j = some r ∧ r.toJson = j
  | .point p, j, h => by
    obtain ⟨i, hi, rfl⟩ := Option.map_eq_some_iff.mp h
    obtain ⟨r, hr, rfl⟩ := position_of_toJson p i hi
    exact ⟨point r bare, by simp [ofJson?, Geometry.typed, type?_typed, simple?_typed _ hr], rfl⟩
  | .multiPoint ps, j, h => by
    obtain ⟨i, hi, rfl⟩ := Option.map_eq_some_iff.mp h
    obtain ⟨r, hr, rfl⟩ := positions_of_toJson ps i hi
    exact ⟨multiPoint r bare,
      by simp [ofJson?, Geometry.typed, type?_typed, simple?_typed _ hr], rfl⟩
  | .lineString ps, j, h => by
    obtain ⟨i, hi, rfl⟩ := Option.map_eq_some_iff.mp h
    obtain ⟨r, hr, rfl⟩ := positions_of_toJson ps i hi
    exact ⟨lineString r bare,
      by simp [ofJson?, Geometry.typed, type?_typed, simple?_typed _ hr], rfl⟩
  | .polygon rings, j, h => by
    obtain ⟨i, hi, rfl⟩ := Option.map_eq_some_iff.mp h
    obtain ⟨r, hr, rfl⟩ := positionLists_of_toJson rings i hi
    exact ⟨polygon r bare, by simp [ofJson?, Geometry.typed, type?_typed, simple?_typed _ hr], rfl⟩
  | .multiLineString lines, j, h => by
    obtain ⟨i, hi, rfl⟩ := Option.map_eq_some_iff.mp h
    obtain ⟨r, hr, rfl⟩ := positionLists_of_toJson lines i hi
    exact ⟨multiLineString r bare,
      by simp [ofJson?, Geometry.typed, type?_typed, simple?_typed _ hr], rfl⟩
  | .multiPolygon polygons, j, h => by
    obtain ⟨is, his, rfl⟩ := Option.map_eq_some_iff.mp h
    -- Here the lists are read one level deeper than in the other cases.
    obtain ⟨r, hlists, hwrite⟩ := mapM_of_mapM positionLists_of_toJson his
    have hr : Json.listOf? positionLists? (.arr is) = some r := hlists
    refine ⟨multiPolygon r bare,
      by simp [ofJson?, Geometry.typed, type?_typed, simple?_typed _ hr], ?_⟩
    rw [toJson, hwrite, object_bare]
  | .collection members, j, h => by
    obtain ⟨js, hjs, rfl⟩ := Option.map_eq_some_iff.mp h
    obtain ⟨rs, hrs, hwrite⟩ := list_of_toJson members js hjs
    refine ⟨collection rs bare, ?_, ?_⟩
    · simp [ofJson?, Geometry.typed, type?_typed, geometries?, items?, hrs, ofMembers?_typed]
    · rw [toJson, hwrite, object_bare]

theorem list_of_toJson : ∀ (gs : List Geometry) (js : List Json),
    Geometry.listToJson? gs = some js →
    ∃ rs, list? js = some rs ∧ listToJson rs = js
  | [], js, h => by
    obtain rfl := Option.some.inj h
    exact ⟨[], rfl, rfl⟩
  | g :: gs, js, h => by
    obtain ⟨j, hj, hrest⟩ := Option.bind_eq_some_iff.mp h
    obtain ⟨js', hjs', rfl⟩ := Option.map_eq_some_iff.mp hrest
    obtain ⟨r, hr, hwrite⟩ := of_toJson g j hj
    obtain ⟨rs, hrs, hwrites⟩ := list_of_toJson gs js' hjs'
    exact ⟨r :: rs, by simp [list?, hr, hrs], by rw [listToJson, hwrite, hwrites]⟩

end

end RenderedGeometry

/-! ### Which geometries have a text -/

theorem isSome_mapM {α β : Type} (f : α → Option β) (xs : List α) :
    (xs.mapM f).isSome = xs.all fun x => (f x).isSome := by
  induction xs with
  | nil => rfl
  | cons x xs ih =>
    rw [List.mapM_cons, List.all_cons, ← ih]
    cases f x <;> cases xs.mapM f <;> rfl

theorem Position.isSome_toJson? (p : Position) : p.toJson?.isSome = p.isFinite := by
  have hcoordinate : ∀ x : Double, x.toJson?.isSome = x.isFinite := fun x => by cases x <;> rfl
  rw [toJson?, coordinatesToJson?, Option.isSome_map, isSome_mapM]
  obtain ⟨x, y, _ | z⟩ := p <;> simp [coordinates, isFinite, hcoordinate, Bool.and_assoc]

namespace Geometry

theorem isSome_positionsToJson? (ps : Positions) :
    (positionsToJson? ps).isSome = ps.all Position.isFinite := by
  rw [positionsToJson?, Option.isSome_map, isSome_mapM]
  simp only [Position.isSome_toJson?]

theorem isSome_positionListsToJson? (pss : List Positions) :
    (positionListsToJson? pss).isSome = pss.all (·.all Position.isFinite) := by
  rw [positionListsToJson?, Option.isSome_map, isSome_mapM]
  simp only [isSome_positionsToJson?]

mutual

/-- The geometries that can be written are the finite ones. -/
theorem isSome_toJson? : ∀ g : Geometry, g.toJson?.isSome = g.isFinite
  | point p => by rw [toJson?, Option.isSome_map, p.isSome_toJson?, isFinite]
  | multiPoint ps => by rw [toJson?, Option.isSome_map, isSome_positionsToJson?, isFinite]
  | lineString ps => by rw [toJson?, Option.isSome_map, isSome_positionsToJson?, isFinite]
  | polygon rings => by rw [toJson?, Option.isSome_map, isSome_positionListsToJson?, isFinite]
  | multiLineString lines => by
    rw [toJson?, Option.isSome_map, isSome_positionListsToJson?, isFinite]
  | multiPolygon polygons => by
    rw [toJson?, Option.isSome_map, isSome_mapM, isFinite]
    simp only [isSome_positionListsToJson?]
  | collection members => by rw [toJson?, Option.isSome_map, isSome_listToJson? members, isFinite]

theorem isSome_listToJson? : ∀ gs : List Geometry, (listToJson? gs).isSome = allFinite gs
  | [] => rfl
  | g :: gs => by
    rw [listToJson?, allFinite, ← isSome_toJson? g, ← isSome_listToJson? gs]
    cases g.toJson? <;> simp

end

end Geometry

theorem Position.isFinite_reread (p : Position) : p.reread.isFinite = p.isFinite := by
  have h : ∀ x : Double, x.reread.isFinite = x.isFinite := fun x => by cases x <;> rfl
  obtain ⟨x, y, _ | z⟩ := p <;> simp [reread, isFinite, h]

namespace Geometry

mutual

theorem isFinite_reread : ∀ g : Geometry, g.reread.isFinite = g.isFinite
  | point p => by rw [reread, isFinite, isFinite, p.isFinite_reread]
  | multiPoint ps => by simp [reread, isFinite, Function.comp_def, Position.isFinite_reread]
  | lineString ps => by simp [reread, isFinite, Function.comp_def, Position.isFinite_reread]
  | polygon rings => by simp [reread, isFinite, Function.comp_def, Position.isFinite_reread]
  | multiLineString lines => by
    simp [reread, isFinite, Function.comp_def, Position.isFinite_reread]
  | multiPolygon polygons => by
    simp [reread, isFinite, Function.comp_def, Position.isFinite_reread]
  | collection members => by rw [reread, isFinite, isFinite, allFinite_rereadList members]

theorem allFinite_rereadList : ∀ gs : List Geometry, allFinite (rereadList gs) = allFinite gs
  | [] => rfl
  | g :: gs => by
    rw [rereadList, allFinite, allFinite, isFinite_reread g, allFinite_rereadList gs]

end

end Geometry

/-! ### Nesting -/

theorem nesting_le_of_map_arr {α : Type} {write? : α → Option Json} {n : Nat}
    (h : ∀ a j, write? a = some j → j.nesting ≤ n) {xs : List α} {j : Json}
    (hj : (xs.mapM write?).map Json.arr = some j) : j.nesting ≤ n + 1 := by
  obtain ⟨js, hjs, rfl⟩ := map_arr_eq_some hj
  rw [mapM_eq_some_iff] at hjs
  refine Nat.succ_le_succ ?_
  clear hj
  induction hjs with
  | nil => exact Nat.zero_le n
  | cons ha _ ih => exact Nat.max_le.mpr ⟨h _ _ ha, ih⟩

namespace Geometry

theorem nesting_typed (type : GeometryType) (key : String) (value : Json) :
    (typed type key value).nesting = value.nesting + 1 := by
  simp [typed, Json.nesting, Json.membersNesting]

theorem nesting_position (p : Position) (j : Json) (h : p.toJson? = some j) : j.nesting ≤ 1 :=
  nesting_le_of_map_arr (n := 0)
    (fun x i hi => by cases x <;> cases hi; exact Nat.le_refl 0) h

theorem nesting_positions (ps : Positions) (j : Json) (h : positionsToJson? ps = some j) :
    j.nesting ≤ 2 :=
  nesting_le_of_map_arr nesting_position h

theorem nesting_positionLists (pss : List Positions) (j : Json)
    (h : positionListsToJson? pss = some j) : j.nesting ≤ 3 :=
  nesting_le_of_map_arr nesting_positions h

/-- What is no collection nests five containers at most. -/
theorem nesting_le_five {g : Geometry} (hg : g.type ≠ .collection) {j : Json}
    (h : g.toJson? = some j) : j.nesting ≤ 5 := by
  cases g with
  | point p =>
    obtain ⟨i, hi, rfl⟩ := Option.map_eq_some_iff.mp h
    have := nesting_position p i hi
    rw [nesting_typed]
    omega
  | multiPoint ps | lineString ps =>
    obtain ⟨i, hi, rfl⟩ := Option.map_eq_some_iff.mp h
    have := nesting_positions ps i hi
    rw [nesting_typed]
    omega
  | polygon pss | multiLineString pss =>
    obtain ⟨i, hi, rfl⟩ := Option.map_eq_some_iff.mp h
    have := nesting_positionLists pss i hi
    rw [nesting_typed]
    omega
  | multiPolygon polygons =>
    obtain ⟨is, his, rfl⟩ := Option.map_eq_some_iff.mp h
    have := nesting_le_of_map_arr nesting_positionLists (j := .arr is) (by rw [his]; rfl)
    rw [nesting_typed]
    omega
  | collection members => exact absurd rfl hg

end Geometry

/-! ### Reading a text -/

/-- **A store reads the canonical text of a geometry that is not nested too deeply, and renders the
geometry as it is read back.** -/
theorem RenderedGeometry.parse?_render {g : Geometry} {j : Json} (hj : g.toJson? = some j)
    (hnesting : j.nesting ≤ nestingLimit) :
    ∃ r, parse? j.render = some r ∧ g.reread.toJson? = some r.toJson := by
  have hfinite : g.reread.toJson?.isSome := by
    rw [g.reread.isSome_toJson?, g.isFinite_reread, ← g.isSome_toJson?, hj]
    rfl
  obtain ⟨v, hv⟩ := Option.isSome_iff_exists.mp hfinite
  obtain ⟨r, hr, rfl⟩ := of_toJson _ v hv
  rw [g.toJson?_reread, hj, Option.bind_some] at hv
  exact ⟨r, by rw [parse?, Json.parse?_render hnesting, hv, Option.bind_some, hr],
    by rw [g.toJson?_reread, hj, Option.bind_some, hv]⟩

theorem Geometry.text_eq_ok {g : Geometry} {text : String} (h : g.text = .ok text) :
    ∃ j, g.toJson? = some j ∧ text = j.render := by
  unfold Geometry.text at h
  split at h
  · cases h
  next j hj => exact ⟨j, hj, (Except.ok.inj h).symm⟩

/-- What a store renders of a canonical text is the value that the text is read as. -/
theorem RenderedGeometry.toJson_of_parse?_text {g : Geometry} {text : String}
    {r : RenderedGeometry} (h : g.text = .ok text) (hr : parse? text = some r) :
    Json.parse? text = some r.toJson ∧ g.reread.toJson? = some r.toJson := by
  obtain ⟨j, hj, rfl⟩ := Geometry.text_eq_ok h
  have hnesting : j.nesting ≤ nestingLimit := by
    by_contra hdeep
    rw [parse?, Json.parse?_render_eq_none (Nat.lt_of_not_le hdeep)] at hr
    cases hr
  obtain ⟨r', hr', hreread⟩ := parse?_render hj hnesting
  obtain rfl := Option.some.inj (hr.symm.trans hr')
  have hparse : Json.parse? j.render = g.reread.toJson? := by
    rw [Json.parse?_render hnesting, g.toJson?_reread, hj, Option.bind_some]
  exact ⟨hparse.trans hreread, hreread⟩

/-- A store reads the canonical text of whatever is no collection. -/
theorem RenderedGeometry.isSome_parse?_text {g : Geometry} (hg : g.type ≠ .collection)
    {text : String} (h : g.text = .ok text) : (parse? text).isSome := by
  obtain ⟨j, hj, rfl⟩ := Geometry.text_eq_ok h
  have hnesting : j.nesting ≤ nestingLimit :=
    Nat.le_trans (Geometry.nesting_le_five hg hj) (by decide)
  obtain ⟨r, hr, -⟩ := parse?_render hj hnesting
  rw [hr]
  rfl

end SpatialCatalog
