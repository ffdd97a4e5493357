import SpatialCatalog.Proofs.Geometry.Decoded

/-!
# Reading a canonical text as a geometry

The canonical text of a decoded geometry is decoded again, unless its collections are nested too
deeply: types, lengths and altitudes stay, and every coordinate becomes what is read where it is
written. The reader scales a significand and so may miss the last digit, but it reads equal
coordinates as equal ones; so the checks that a geometry has passed are passed again.
-/

namespace SpatialCatalog

/-! ### Coordinates -/

namespace Finite64

theorem reread_zero (negative : Bool) : (zero negative).reread = zero negative := by
  cases negative <;> decide +kernel

/-- Values of one number of units are one value, or zeros. -/
theorem eq_or_zero_of_units {x y : Finite64} (h : x.units = y.units) :
    x = y ∨ ∃ a b, x = zero a ∧ y = zero b := by
  obtain ⟨a, m, hm⟩ := x
  obtain ⟨b, n, hn⟩ := y
  have hmn : m = n := by
    cases a <;> cases b <;> simp [units] at h <;> omega
  subst hmn
  by_cases h0 : m = 0
  · subst h0
    exact .inr ⟨a, b, rfl, rfl⟩
  · refine .inl ?_
    cases a <;> cases b <;> simp [units] at h <;> first | rfl | omega

end Finite64

namespace Double

theorem same_finite_iff {x y : Finite64} : (finite x).same y ↔ x.units = y.units := by
  rw [same, le, le, Bool.and_eq_true, decide_eq_true_iff, decide_eq_true_iff]
  omega

/-- Equal coordinates are read back as equal ones. -/
theorem same_reread {x y : Double} (h : x.same y) : x.reread.same y.reread := by
  cases x with
  | finite x =>
    cases y with
    | finite y =>
      obtain rfl | ⟨a, b, rfl, rfl⟩ := Finite64.eq_or_zero_of_units (same_finite_iff.mp h)
      · exact same_finite_iff.mpr rfl
      · rw [reread, reread, Finite64.reread_zero, Finite64.reread_zero]
        exact h
    | infinite b => cases b <;> simp [same, le] at h
    | nan b => simp [same, le] at h
  | infinite a => cases y <;> cases a <;> simp_all [same, le, reread]
  | nan a => simp [same, le] at h

end Double

theorem Position.sameXY_reread {p q : Position} (h : p.sameXY q) : p.reread.sameXY q.reread := by
  rw [sameXY, Bool.and_eq_true] at h ⊢
  exact ⟨Double.same_reread h.1, Double.same_reread h.2⟩

namespace Geometry

/-! ### Checks -/

theorem IsLine.reread {ps : Positions} (h : IsLine ps) : IsLine (ps.map Position.reread) := by
  unfold IsLine at h ⊢
  rwa [List.length_map]

theorem isClosed_reread {ps : Positions} (h : isClosed ps) : isClosed (ps.map Position.reread) := by
  unfold isClosed at h ⊢
  rw [List.head?_map, List.getLast?_map]
  cases hhead : ps.head? with
  | none => simp [hhead] at h
  | some p =>
    cases hlast : ps.getLast? with
    | none => simp [hlast] at h
    | some q =>
      simp only [hhead, hlast] at h
      exact Position.sameXY_reread h

theorem IsRing.reread {ps : Positions} (h : IsRing ps) : IsRing (ps.map Position.reread) :=
  ⟨by rw [List.length_map]; exact h.1, isClosed_reread h.2⟩

theorem IsPolygon.reread {rs : List Positions} (h : IsPolygon rs) :
    IsPolygon (rs.map (·.map Position.reread)) :=
  ⟨by simpa using h.1, List.forall_mem_map.mpr fun r hr => (h.2 r hr).reread⟩

theorem Checked.reread {g : Geometry} (h : g.Checked) : g.reread.Checked := by
  cases g with
  | point p => trivial
  | multiPoint ps =>
    rw [Geometry.reread, Checked]
    simpa [Checked] using h
  | lineString ps => exact IsLine.reread h
  | polygon rs => exact IsPolygon.reread h
  | multiLineString ls => exact List.forall_mem_map.mpr fun l hl => (h l hl).reread
  | multiPolygon ps => exact List.forall_mem_map.mpr fun p hp => (h p hp).reread
  | collection members => trivial

mutual

/-- A geometry and all of its members pass the checks. -/
def Valid : Geometry → Prop
  | collection members => AllValid members
  | g => g.Checked

def AllValid : List Geometry → Prop
  | [] => True
  | g :: gs => g.Valid ∧ AllValid gs

end

theorem Valid.checked {g : Geometry} (h : g.Valid) : g.Checked := by
  cases g <;> first | exact h | trivial

mutual

/-- Every geometry that is decoded is valid. -/
theorem valid_ofRaw : ∀ (raw : RawGeometry) {g : Geometry}, ofRaw raw = .ok g → g.Valid
  | ⟨name, cs, gs⟩, g, h => by
    obtain ⟨-, hchecked, hparts⟩ := checked_of_ofRaw h
    cases g with
    | collection members =>
      obtain ⟨l, rfl, hl⟩ := hparts
      exact valid_ofRawList l hl
    | _ => exact hchecked

theorem valid_ofRawList : ∀ (l : List RawGeometry) {gs : List Geometry}, ofRawList l = .ok gs →
    AllValid gs
  | [], gs, h => by
    obtain rfl := Except.ok.inj h
    trivial
  | raw :: l, gs, h => by
    obtain ⟨g, hg, h⟩ := bind_eq_ok_iff.mp h
    obtain ⟨gs', hgs, rfl⟩ := map_eq_ok_iff.mp h
    exact ⟨valid_ofRaw raw hg, valid_ofRawList l hgs⟩

end

/-! ### Reading the text -/

/-- The tree of an object with a type and one more member. -/
theorem ofJson_typed (type : GeometryType) (key : String) (value : Json) :
    Source.ofJson (typed type key value) =
      .obj [(Source.pieces "type", .str (Source.pieces type.name)),
        (Source.pieces key, Source.ofJson value)] := by
  simp [typed, Source.ofJson, Source.ofMembers]

/-- What can be written can be written once it is read back. -/
theorem isSome_toJson?_reread {g : Geometry} {k : Json} (h : g.toJson? = some k) :
    g.reread.toJson?.isSome := by
  rw [isSome_toJson?, isFinite_reread, ← isSome_toJson?, h, Option.isSome_some]

/-- Coordinates that were written are read as they are read back. -/
theorem ofSource?_typed {α : Type} {decode : Json → Decoded α} {write? : α → Option Json}
    (h : Canonical decode write?) {a b : α} (hback : write? b = (write? a).bind Json.reread?)
    {type : GeometryType} (hb : ((write? b).map (typed type "coordinates")).isSome) {k : Json}
    (hk : (write? a).map (typed type "coordinates") = some k) {depth : Nat}
    (hnesting : k.nesting ≤ depth) :
    ∃ c, RawGeometry.ofSource? depth (Source.ofJson k) = some ⟨type.name, some c, none⟩ ∧
      decode c = .ok b := by
  obtain ⟨v, hv, rfl⟩ := Option.map_eq_some_iff.mp hk
  rw [Option.isSome_map] at hb
  obtain ⟨c, hc⟩ := Option.isSome_iff_exists.mp hb
  rw [nesting_typed] at hnesting
  obtain ⟨depth, rfl⟩ : ∃ d, depth = d + 1 := ⟨depth - 1, by omega⟩
  have hdecode := h.decoded hc
  refine ⟨c, ?_, hdecode⟩
  have hreread : (Source.ofJson v).value? depth = some c := by
    rw [Source.value?_ofJson v (by omega), ← hc, hback, hv, Option.bind_some]
  have hnull : RawGeometry.coordinates? c = some c := by
    cases c with
    | null => exact absurd hdecode (h.decode_null b)
    | _ => rfl
  rw [ofJson_typed, RawGeometry.ofSource?]
  simp [RawGeometry.sourceMembers?, RawGeometry.sourceType?, RawGeometry.sourceCoordinates?,
    RawGeometry.TextDraft.finish?, Source.text?_pieces, hreread, hnull]

mutual

/-- The tree of a value that a geometry has is read as the geometry that is read back. -/
theorem ofSource?_ofJson : ∀ (g : Geometry) {k : Json} {depth : Nat}, g.Valid →
    g.toJson? = some k → k.nesting ≤ depth →
    ∃ raw, RawGeometry.ofSource? depth (Source.ofJson k) = some raw ∧ ofRaw raw = .ok g.reread
  | .point p, k, depth, hg, hk, hnesting => by
    have hsome := isSome_toJson?_reread hk
    obtain ⟨c, hc, hdecode⟩ :=
      ofSource?_typed canonical_position p.toJson?_reread hsome hk hnesting
    exact ⟨_, hc, ofRaw_of_checked hg.checked.reread (mapError_eq_ok_iff.mpr hdecode)⟩
  | .multiPoint ps, k, depth, hg, hk, hnesting => by
    have hsome := isSome_toJson?_reread hk
    obtain ⟨c, hc, hdecode⟩ :=
      ofSource?_typed canonical_positions (positionsToJson?_reread ps) hsome hk hnesting
    exact ⟨_, hc, ofRaw_of_checked hg.checked.reread (mapError_eq_ok_iff.mpr hdecode)⟩
  | .lineString ps, k, depth, hg, hk, hnesting => by
    have hsome := isSome_toJson?_reread hk
    obtain ⟨c, hc, hdecode⟩ :=
      ofSource?_typed canonical_positions (positionsToJson?_reread ps) hsome hk hnesting
    exact ⟨_, hc, ofRaw_of_checked hg.checked.reread (mapError_eq_ok_iff.mpr hdecode)⟩
  | .polygon rs, k, depth, hg, hk, hnesting => by
    have hsome := isSome_toJson?_reread hk
    obtain ⟨c, hc, hdecode⟩ :=
      ofSource?_typed canonical_positionLists (positionListsToJson?_reread rs) hsome hk hnesting
    exact ⟨_, hc, ofRaw_of_checked hg.checked.reread (mapError_eq_ok_iff.mpr hdecode)⟩
  | .multiLineString ls, k, depth, hg, hk, hnesting => by
    have hsome := isSome_toJson?_reread hk
    obtain ⟨c, hc, hdecode⟩ :=
      ofSource?_typed canonical_positionLists (positionListsToJson?_reread ls) hsome hk hnesting
    exact ⟨_, hc, ofRaw_of_checked hg.checked.reread (mapError_eq_ok_iff.mpr hdecode)⟩
  | .multiPolygon ps, k, depth, hg, hk, hnesting => by
    have hsome := isSome_toJson?_reread hk
    rw [toJson?_multiPolygon] at hk
    rw [reread, toJson?_multiPolygon] at hsome
    obtain ⟨c, hc, hdecode⟩ := ofSource?_typed canonical_positionLists.list
      (map_arr_reread positionListsToJson?_reread ps) hsome hk hnesting
    exact ⟨_, hc, ofRaw_of_checked hg.checked.reread (mapError_eq_ok_iff.mpr hdecode)⟩
  | .collection members, k, depth, hg, hk, hnesting => by
    obtain ⟨ks, hks, rfl⟩ := Option.map_eq_some_iff.mp hk
    rw [nesting_typed, Json.nesting] at hnesting
    obtain ⟨depth, rfl⟩ : ∃ d, depth = d + 2 := ⟨depth - 2, by omega⟩
    have hitems : Json.itemsNesting ks ≤ depth := by omega
    obtain ⟨raws, hraws, hmembers⟩ := sourceList?_ofItems members hg hks hitems
    refine ⟨⟨GeometryType.collection.name, none, some raws⟩, ?_,
      ofRaw_of_checked hg.checked.reread ⟨raws, rfl, hmembers⟩⟩
    rw [ofJson_typed, Source.ofJson, RawGeometry.ofSource?]
    simp [RawGeometry.sourceMembers?, RawGeometry.sourceType?, RawGeometry.sourceGeometries?,
      RawGeometry.TextDraft.finish?, Source.text?_pieces, hraws]

theorem sourceList?_ofItems : ∀ (gs : List Geometry) {ks : List Json} {depth : Nat}, AllValid gs →
    listToJson? gs = some ks → Json.itemsNesting ks ≤ depth →
    ∃ raws, RawGeometry.sourceList? depth (Source.ofItems ks) = some raws ∧
      ofRawList raws = .ok (rereadList gs)
  | [], ks, depth, _, hks, _ => by
    obtain rfl := Option.some.inj hks
    exact ⟨[], rfl, rfl⟩
  | g :: gs, ks, depth, hgs, hks, hnesting => by
    obtain ⟨k, hk, hmap⟩ := Option.bind_eq_some_iff.mp hks
    obtain ⟨ks', hks', rfl⟩ := Option.map_eq_some_iff.mp hmap
    obtain ⟨hfirst, hrest⟩ := Nat.max_le.mp hnesting
    obtain ⟨raw, hraw, hg⟩ := ofSource?_ofJson g hgs.1 hk hfirst
    obtain ⟨raws, hraws, hlist⟩ := sourceList?_ofItems gs hgs.2 hks' hrest
    refine ⟨raw :: raws, ?_, ?_⟩
    · rw [Source.ofItems, RawGeometry.sourceList?, hraw, Option.bind_some, hraws, Option.map_some]
    · rw [ofRawList, hg, bind_ok rfl, hlist]
      rfl

end

/-- **A decoded geometry has a canonical text. Unless it is nested too deeply, the text is decoded
as the geometry with every coordinate as it is read where it is written; so it is decoded as the
same geometry just when every coordinate is read as itself.** -/
theorem parse_canonical {raw : RawGeometry} {g : Geometry} (hraw : raw.toJson.InRange)
    (h : ofRaw raw = .ok g) :
    ∃ k, g.toJson? = some k ∧ g.text = .ok k.render ∧
      (k.nesting ≤ nestingLimit →
        parse k.render = .ok g.reread ∧ (parse k.render = .ok g ↔ g.reread = g)) := by
  obtain ⟨k, hk, -⟩ := written_ofRaw raw hraw.bounded h
  refine ⟨k, hk, by rw [text, hk], fun hnesting => ?_⟩
  obtain ⟨raw', hraw', hg⟩ := ofSource?_ofJson g (valid_ofRaw raw h) hk hnesting
  have hparse : parse k.render = .ok g.reread := by
    rw [parse, RawGeometry.parse?, Source.parse?_render, Option.bind_some, hraw']
    exact hg
  exact ⟨hparse, by rw [hparse, Except.ok.injEq]⟩

/-- An undecoded point. -/
def rawPoint (x y : Int) : RawGeometry :=
  ⟨GeometryType.point.name, some (.arr [.int x, .int y]), none⟩

/-- The point that it is decoded as. -/
def pointOf (x y : Int) : Geometry := point ⟨.ofInt x, .ofInt y, none⟩

theorem ofRaw_rawPoint (x y : Int) : ofRaw (rawPoint x y) = .ok (pointOf x y) :=
  ofRaw_of_checked (g := pointOf x y) trivial rfl

theorem inRange_rawPoint {x y : Int} (hx : (Number.int x).InRange) (hy : (Number.int y).InRange) :
    (rawPoint x y).toJson.InRange := by
  have hcoordinates : (Json.arr [.int x, .int y]).InRange := ⟨hx, hy, trivial⟩
  exact ⟨trivial, hcoordinates, trivial⟩

/-- An undecoded point with an altitude. -/
def rawSummit : RawGeometry :=
  ⟨GeometryType.point.name, some (.arr [.int 7, .int 46, .int 1600]), none⟩

/-- An undecoded collection. -/
def rawCollection (members : List RawGeometry) : RawGeometry :=
  ⟨GeometryType.collection.name, none, some members⟩

/-- A point beside a collection of another point, and what this is decoded as. -/
def rawNested : RawGeometry := rawCollection [rawPoint (-105) 40, rawCollection [rawSummit]]

def nestedGeometry : Geometry :=
  collection [pointOf (-105) 40, collection [point ⟨.ofInt 7, .ofInt 46, some (.ofInt 1600)⟩]]

theorem inRange_rawNested : rawNested.toJson.InRange := by
  have hpoint : (rawPoint (-105) 40).toJson.InRange :=
    inRange_rawPoint ⟨by decide, by decide⟩ ⟨by decide, by decide⟩
  have hcoordinates : (Json.arr [.int 7, .int 46, .int 1600]).InRange :=
    ⟨⟨by decide, by decide⟩, ⟨by decide, by decide⟩, ⟨by decide, by decide⟩, trivial⟩
  have hsummit : rawSummit.toJson.InRange := ⟨trivial, hcoordinates, trivial⟩
  have hinner : (rawCollection [rawSummit]).toJson.InRange := ⟨trivial, ⟨hsummit, trivial⟩, trivial⟩
  exact ⟨trivial, ⟨hpoint, hinner, trivial⟩, trivial⟩

/-- Small whole coordinates are read as themselves, also an altitude inside two collections. -/
theorem parse_canonical_nested :
    rawNested.toJson.InRange ∧ ofRaw rawNested = .ok nestedGeometry ∧
      ∃ k : Json, nestedGeometry.text = .ok k.render ∧ parse k.render = .ok nestedGeometry := by
  have hdecoded : ofRaw rawNested = .ok nestedGeometry := rfl
  obtain ⟨k, hk, htext, hparse⟩ := parse_canonical inRange_rawNested hdecoded
  have hnesting : k.nesting ≤ nestingLimit := by
    have hall : nestedGeometry.toJson?.all fun k => k.nesting ≤ nestingLimit := by decide +kernel
    rw [hk] at hall
    simpa using hall
  have hreread : ∀ n ∈ [-105, 40, 7, 46, 1600], (Double.ofInt n).reread = .ofInt n := by
    decide +kernel
  have hsame : nestedGeometry.reread = nestedGeometry := by
    simp [nestedGeometry, pointOf, reread, rereadList, Position.reread, hreread]
  exact ⟨inRange_rawNested, hdecoded, k, htext, ((hparse hnesting).2).mpr hsame⟩

/-- **The text of a decoded geometry may be decoded as another geometry.** Here `2 ^ 60 + 768` is
written as `1.1529215046068477e+18`, and the seventeen digits are rounded twice. -/
theorem parse_canonical_lossy :
    ∃ k : Json, (rawPoint 1152921504606847744 0).toJson.InRange ∧
      ofRaw (rawPoint 1152921504606847744 0) = .ok (pointOf 1152921504606847744 0) ∧
      (pointOf 1152921504606847744 0).text = .ok k.render ∧ k.nesting ≤ nestingLimit ∧
      ∃ g, parse k.render = .ok g ∧ g.same (pointOf 1152921504606847744 0) = false := by
  have hrange : (rawPoint 1152921504606847744 0).toJson.InRange :=
    inRange_rawPoint ⟨by decide, by decide⟩ ⟨by decide, by decide⟩
  obtain ⟨k, hk, htext, hparse⟩ := parse_canonical hrange (ofRaw_rawPoint _ _)
  have hnesting : k.nesting ≤ nestingLimit :=
    Nat.le_trans (nesting_le_five (by decide) hk) (by decide)
  exact ⟨k, hrange, ofRaw_rawPoint _ _, htext, hnesting, _, (hparse hnesting).1, by decide +kernel⟩

end Geometry

end SpatialCatalog
