import SpatialCatalog.Proofs.Geometry.Text
import SpatialCatalog.Proofs.Success
import SpatialCatalog.Store.Query

/-!
# What a search asks for

`Search.Matches` says, without filters, which items a search asks for. What does not restrict is
absent: no ids, no collections, no spatial filter. A geometry is met through its leaves, so one that
has no leaves is met by nothing.

A compiled search asks for the same items. Its filter is taken apart into the filters that it is the
conjunction of, and `Filter.Means` says what each of them asks for.
-/

namespace SpatialCatalog

/-! ### Leaves -/

namespace Geometry

mutual

/-- The geometries inside a geometry that are no collections. -/
def leaves : Geometry → List Geometry
  | collection members => leavesOfAll members
  | g => [g]

def leavesOfAll : List Geometry → List Geometry
  | [] => []
  | g :: gs => g.leaves ++ leavesOfAll gs

end

/-- The shape that a store has of the canonical text of a geometry intersects that of an item. -/
def Meets (g : Geometry) (e : Entry) : Prop :=
  ∃ text shape, g.text = .ok text ∧ Planar.Shape.parse text = .ok shape ∧
    e.shape.intersects shape

end Geometry

/-! ### The items that are asked for -/

namespace Search

/-- The four numbers that are left without altitudes are the corners of a box that meets the box of
an item. An item without a box is not met. -/
def EnvelopeMatches (values : List Double) (e : Entry) : Prop :=
  ∃ minX minY maxX maxY,
    (values = [minX, minY, maxX, maxY] ∨
      ∃ low high, values = [minX, minY, low, maxX, maxY, high]) ∧
    ∃ box : Planar.Box, e.shape.box? = some box ∧ (box.minX : Double).le maxX ∧
      minX.le box.maxX ∧ (box.minY : Double).le maxY ∧ minY.le box.maxY

/-- The undecoded geometry has a leaf that meets an item. -/
def GeometryMatches (raw : RawGeometry) (e : Entry) : Prop :=
  ∃ g, Geometry.ofRaw raw = .ok g ∧ ∃ leaf ∈ g.leaves, leaf.Meets e

/-- Each spatial filter that is given is met. -/
structure SpatiallyMatches (s : Search) (e : Entry) : Prop where
  bbox : ∀ values ∈ s.bbox, EnvelopeMatches values e
  geometry : ∀ raw ∈ s.geometry, GeometryMatches raw e
  geometrycollection : ∀ raw ∈ s.geometrycollection, GeometryMatches raw e

/-- A search asks for an item. -/
structure Matches (s : Search) (e : Entry) : Prop where
  ids : s.ids = [] ∨ e.record.id ∈ s.ids
  collections : s.collections = [] ∨ e.record.collection ∈ s.collections
  spatial : s.SpatiallyMatches e

theorem spatiallyMatches_of_none {s : Search} (h : s.hasSpatialFilter = false) (e : Entry) :
    s.SpatiallyMatches e := by
  simp only [hasSpatialFilter, Bool.or_eq_false_iff, Option.isSome_eq_false_iff,
    Option.isNone_iff_eq_none] at h
  obtain ⟨⟨hbbox, hgeometry⟩, hcollection⟩ := h
  constructor <;> simp [hbbox, hgeometry, hcollection]

/-- A geometry without leaves is met by nothing. -/
theorem not_geometryMatches_of_leaves_nil {raw : RawGeometry} {g : Geometry}
    (hraw : Geometry.ofRaw raw = .ok g) (hleaves : g.leaves = []) (e : Entry) :
    ¬GeometryMatches raw e := by
  rintro ⟨g', hg', leaf, hleaf, -⟩
  obtain rfl := Except.ok.inj (hraw.symm.trans hg')
  rw [hleaves] at hleaf
  cases hleaf

end Search

/-! ### Filters -/

namespace Filter

open Store (Condition)

/-- The geometries of a filter can be read, and the filter holds of the entries with a property. -/
def Means (f : Filter) (P : Entry → Prop) : Prop :=
  ∃ c, Condition.ofFilter f = .ok c ∧ ∀ e, c.holds e ↔ P e

/-- All filters of a list hold of the entries with a property. -/
def AllMean (fs : List Filter) (P : Entry → Prop) : Prop :=
  ∃ cs, Condition.ofFilters fs = .ok cs ∧ ∀ e, Condition.holdAll cs e ↔ P e

theorem allMean_nil : AllMean [] fun _ => True :=
  ⟨[], rfl, fun _ => by simp [Condition.holdAll]⟩

theorem AllMean.cons {f : Filter} {fs : List Filter} {P Q : Entry → Prop} (hf : f.Means P)
    (hfs : AllMean fs Q) : AllMean (f :: fs) fun e => P e ∧ Q e := by
  obtain ⟨c, hc, hP⟩ := hf
  obtain ⟨cs, hcs, hQ⟩ := hfs
  refine ⟨c :: cs, by rw [Condition.ofFilters, hc, hcs]; rfl, fun e => ?_⟩
  rw [Condition.holdAll, Bool.and_eq_true, hP, hQ]

theorem AllMean.append {fs gs : List Filter} {P Q : Entry → Prop} (hfs : AllMean fs P)
    (hgs : AllMean gs Q) : AllMean (fs ++ gs) fun e => P e ∧ Q e := by
  induction fs generalizing P with
  | nil =>
    obtain ⟨cs, hcs, hP⟩ := hfs
    obtain ⟨ds, hds, hQ⟩ := hgs
    obtain rfl := Except.ok.inj hcs
    exact ⟨ds, hds, fun e => (hQ e).trans ⟨fun hq => ⟨(hP e).mp rfl, hq⟩, And.right⟩⟩
  | cons f fs ih =>
    obtain ⟨cs, hcs, hP⟩ := hfs
    obtain ⟨c, hc, hmap⟩ := bind_eq_ok_iff.mp hcs
    obtain ⟨cs', hcs', rfl⟩ := map_eq_ok_iff.mp hmap
    obtain ⟨ds, hds, hQ⟩ := ih ⟨cs', hcs', fun _ => Iff.rfl⟩
    refine ⟨c :: ds, by rw [List.cons_append, Condition.ofFilters, hc, hds]; rfl, fun e => ?_⟩
    simp only [Condition.holdAll, Bool.and_eq_true, hQ, ← hP, and_assoc]

/-- The conjunction of a list means what the list means, and no filter means true. -/
theorem AllMean.conjunction? {fs : List Filter} {P : Entry → Prop} (h : AllMean fs P) :
    ∃ condition, (Filter.conjunction? fs).mapM Condition.ofFilter = .ok condition ∧
      ∀ e, condition.all (·.holds e) ↔ P e := by
  obtain ⟨cs, hcs, hP⟩ := h
  match fs with
  | [] =>
    obtain rfl := Except.ok.inj hcs
    exact ⟨none, rfl, hP⟩
  | [f] =>
    obtain ⟨c, hc, hmap⟩ := bind_eq_ok_iff.mp hcs
    obtain rfl := Except.ok.inj hmap
    refine ⟨some c, by rw [Filter.conjunction?, Option.mapM_some, hc]; rfl, fun e => ?_⟩
    rw [← hP, Option.all_some, Condition.holdAll, Condition.holdAll, Bool.and_true]
  | f :: g :: fs =>
    have hall : Filter.conjunction? (f :: g :: fs) = some (.all (f :: g :: fs)) := rfl
    refine ⟨some (.all cs), ?_, hP⟩
    rw [hall, Option.mapM_some, Condition.ofFilter, hcs]
    rfl

/-! ### Filters of geometries -/

/-- A geometry that is no collection. -/
theorem means_leaf {g : Geometry} (hg : g.type ≠ .collection) {f : Filter}
    (h : g.text.map intersects = .ok f) : f.Means g.Meets := by
  obtain ⟨text, htext, rfl⟩ := map_eq_ok_iff.mp h
  -- The text of what is no collection is never nested too deeply to be read.
  obtain ⟨r, hr⟩ := Option.isSome_iff_exists.mp (RenderedGeometry.isSome_parse?_text hg htext)
  have hparse : Planar.Shape.parse text = .ok (.ofRendered r) := by rw [Planar.Shape.parse, hr]
  refine ⟨.intersects (.ofRendered r), by rw [Condition.ofFilter, hparse]; rfl, fun e => ?_⟩
  constructor
  · exact fun hmeets => ⟨text, _, htext, hparse, hmeets⟩
  · rintro ⟨text', shape, htext', hshape, hmeets⟩
    obtain rfl := Except.ok.inj (htext.symm.trans htext')
    obtain rfl := Except.ok.inj (hparse.symm.trans hshape)
    exact hmeets

theorem means_singleton {g : Geometry} {f : Filter} (h : f.Means g.Meets) :
    f.Means fun e => ∃ leaf ∈ [g], leaf.Meets e := by
  simpa using h

mutual

/-- The filter of a geometry means that some leaf is met. -/
theorem means_ofGeometry : ∀ (g : Geometry) {f : Filter}, ofGeometry g = .ok f →
    f.Means fun e => ∃ leaf ∈ g.leaves, leaf.Meets e
  | .point _, _, h => means_singleton (means_leaf (by simp [Geometry.type]) h)
  | .multiPoint _, _, h => means_singleton (means_leaf (by simp [Geometry.type]) h)
  | .lineString _, _, h => means_singleton (means_leaf (by simp [Geometry.type]) h)
  | .polygon _, _, h => means_singleton (means_leaf (by simp [Geometry.type]) h)
  | .multiLineString _, _, h => means_singleton (means_leaf (by simp [Geometry.type]) h)
  | .multiPolygon _, _, h => means_singleton (means_leaf (by simp [Geometry.type]) h)
  | .collection members, f, h => by
    obtain ⟨fs, hfs, rfl⟩ := map_eq_ok_iff.mp h
    obtain ⟨cs, hcs, hmeets⟩ := someMeans_ofGeometries members hfs
    exact ⟨.any cs, by rw [Condition.ofFilter, hcs]; rfl, hmeets⟩

theorem someMeans_ofGeometries : ∀ (gs : List Geometry) {fs : List Filter},
    ofGeometries gs = .ok fs → ∃ cs, Condition.ofFilters fs = .ok cs ∧
      ∀ e, Condition.holdAny cs e ↔ ∃ leaf ∈ Geometry.leavesOfAll gs, leaf.Meets e
  | [], fs, h => by
    obtain rfl := Except.ok.inj h
    exact ⟨[], rfl, fun e => by simp [Condition.holdAny, Geometry.leavesOfAll]⟩
  | g :: gs, fs, h => by
    obtain ⟨f, hf, hmap⟩ := bind_eq_ok_iff.mp h
    obtain ⟨fs', hfs, rfl⟩ := map_eq_ok_iff.mp hmap
    obtain ⟨c, hc, hfirst⟩ := means_ofGeometry g hf
    obtain ⟨cs, hcs, hrest⟩ := someMeans_ofGeometries gs hfs
    refine ⟨c :: cs, by rw [Condition.ofFilters, hc, hcs]; rfl, fun e => ?_⟩
    rw [Condition.holdAny, Bool.or_eq_true, hfirst, hrest, Geometry.leavesOfAll]
    -- A leaf of the list is a leaf of the first or of the rest.
    simp only [List.mem_append, or_and_right, exists_or]

end

end Filter

/-! ### Compiled searches -/

namespace Search

open Store (Condition)

theorem means_geometryFilter {raw : RawGeometry} {f : Filter} (h : geometryFilter raw = .ok f) :
    f.Means (GeometryMatches raw) := by
  obtain ⟨g, hraw, hfilter⟩ := bind_eq_ok_iff.mp h
  rw [mapError_eq_ok_iff] at hraw hfilter
  obtain ⟨c, hc, hmeets⟩ := Filter.means_ofGeometry g hfilter
  refine ⟨c, hc, fun e => (hmeets e).trans ?_⟩
  constructor
  · exact fun hleaf => ⟨g, hraw, hleaf⟩
  · rintro ⟨g', hg', hleaf⟩
    obtain rfl := Except.ok.inj (hraw.symm.trans hg')
    exact hleaf

theorem ofList_eq_ok_iff {values : List Double} {b : Bbox} :
    Bbox.ofList values = .ok b ↔
      values = [b.minX, b.minY, b.maxX, b.maxY] ∨
        ∃ low high, values = [b.minX, b.minY, low, b.maxX, b.maxY, high] := by
  obtain ⟨minX, minY, maxX, maxY⟩ := b
  unfold Bbox.ofList
  split
  · simp
  · simp
  next h4 h6 =>
    simp only [reduceCtorEq, false_iff, not_or]
    exact ⟨h4 _ _ _ _, fun ⟨low, high, h⟩ => h6 _ _ _ _ _ _ h⟩

theorem means_envelope {values : List Double} {b : Bbox} (h : Bbox.ofList values = .ok b) :
    (Filter.envelope b).Means (EnvelopeMatches values) := by
  refine ⟨.envelope b, rfl, fun e => ?_⟩
  simp only [Condition.holds, Option.any_eq_true]
  constructor
  · rintro ⟨box, hbox, hmeets⟩
    simp only [Bbox.meets, Planar.Box.toBbox, Bool.and_eq_true] at hmeets
    obtain ⟨⟨⟨hminX, hmaxX⟩, hminY⟩, hmaxY⟩ := hmeets
    exact ⟨_, _, _, _, ofList_eq_ok_iff.mp h, box, hbox, hminX, hmaxX, hminY, hmaxY⟩
  · rintro ⟨minX, minY, maxX, maxY, hvalues, box, hbox, hminX, hmaxX, hminY, hmaxY⟩
    have hb : Bbox.ofList values = .ok ⟨minX, minY, maxX, maxY⟩ := ofList_eq_ok_iff.mpr hvalues
    obtain rfl := Except.ok.inj (h.symm.trans hb)
    exact ⟨box, hbox, by simp [Bbox.meets, Planar.Box.toBbox, *]⟩

/-- The spatial filter of a search means what the search asks of the place. -/
theorem allMean_spatialFilter {s : Search} {spatial : Option Filter}
    (h : s.spatialFilter = .ok spatial) : Filter.AllMean spatial.toList s.SpatiallyMatches := by
  have single : ∀ {f : Filter} {P : Entry → Prop}, f.Means P →
      (∀ e, P e ↔ s.SpatiallyMatches e) → Filter.AllMean [f] s.SpatiallyMatches := by
    intro f P hf hP
    obtain ⟨cs, hcs, hmeans⟩ := Filter.AllMean.cons hf Filter.allMean_nil
    exact ⟨cs, hcs, fun e => by simp only [hmeans, hP, and_true]⟩
  unfold spatialFilter at h
  split at h
  next hbbox hgeometry hcollection =>
    obtain rfl := Except.ok.inj h
    obtain ⟨cs, hcs, hmeans⟩ := Filter.allMean_nil
    refine ⟨cs, hcs, fun e => ?_⟩
    rw [hmeans, true_iff]
    exact spatiallyMatches_of_none (by simp [hasSpatialFilter, hbbox, hgeometry, hcollection]) e
  next values hbbox hgeometry hcollection =>
    obtain ⟨b, hb, rfl⟩ := map_eq_ok_iff.mp (mapError_eq_ok_iff.mp h)
    refine single (means_envelope hb) fun e => ?_
    exact ⟨fun he => ⟨by simpa [hbbox] using he, by simp [hgeometry], by simp [hcollection]⟩,
      fun hs => hs.bbox values hbbox⟩
  next raw hbbox hgeometry hcollection =>
    obtain ⟨f, hf, rfl⟩ := map_eq_ok_iff.mp h
    refine single (means_geometryFilter hf) fun e => ?_
    exact ⟨fun he => ⟨by simp [hbbox], by simpa [hgeometry] using he, by simp [hcollection]⟩,
      fun hs => hs.geometry raw hgeometry⟩
  next raw hbbox hgeometry hcollection =>
    split at h
    · obtain ⟨f, hf, rfl⟩ := map_eq_ok_iff.mp h
      refine single (means_geometryFilter hf) fun e => ?_
      exact ⟨fun he => ⟨by simp [hbbox], by simp [hgeometry], by simpa [hcollection] using he⟩,
        fun hs => hs.geometrycollection raw hcollection⟩
    · cases h
  · cases h

/-- The filters that a compiled search is the conjunction of. -/
def filters (s : Search) (spatial : Option Filter) : List Filter :=
  (if s.ids.isEmpty then [] else [Filter.ids s.ids]) ++
    (if s.collections.isEmpty then [] else [Filter.collections s.collections]) ++ spatial.toList

/-- What is found out while a search is compiled, and the plan that it gives. -/
theorem compile_eq_ok_iff {s : Search} {plan : QueryPlan} :
    s.compile = .ok plan ↔
      s.effectiveLimit = .ok plan.limit ∧ s.sortby.mapM sortKey = .ok plan.sort ∧
        ∃ spatial, s.spatialFilter = .ok spatial ∧
          plan.filter = Filter.conjunction? (s.filters spatial) := by
  simp only [compile, do_eq_ok_iff, mapError_eq_ok_iff, pure_eq_ok_iff]
  constructor
  · rintro ⟨limit, hlimit, spatial, hspatial, sort, hsort, rfl⟩
    exact ⟨hlimit, hsort, spatial, hspatial, rfl⟩
  · obtain ⟨filter, sort, limit⟩ := plan
    rintro ⟨hlimit, hsort, spatial, hspatial, rfl⟩
    exact ⟨_, hlimit, spatial, hspatial, _, hsort, rfl⟩

theorem allMean_filters {s : Search} {spatial : Option Filter}
    (h : s.spatialFilter = .ok spatial) : Filter.AllMean (s.filters spatial) s.Matches := by
  have hids : Filter.AllMean (if s.ids.isEmpty then [] else [Filter.ids s.ids])
      fun e => s.ids = [] ∨ e.record.id ∈ s.ids := by
    split
    next hnil => exact ⟨[], rfl, fun e => by simp_all [Condition.holdAll]⟩
    next hnil =>
      exact ⟨[.ids s.ids], rfl, fun e => by simp_all [Condition.holdAll, Condition.holds]⟩
  have hcollections : Filter.AllMean
      (if s.collections.isEmpty then [] else [Filter.collections s.collections])
      fun e => s.collections = [] ∨ e.record.collection ∈ s.collections := by
    split
    next hnil => exact ⟨[], rfl, fun e => by simp_all [Condition.holdAll]⟩
    next hnil =>
      exact ⟨[.collections s.collections], rfl,
        fun e => by simp_all [Condition.holdAll, Condition.holds]⟩
  obtain ⟨cs, hcs, hmeans⟩ := (hids.append hcollections).append (allMean_spatialFilter h)
  exact ⟨cs, hcs, fun e => (hmeans e).trans
    ⟨fun ⟨⟨hi, hc⟩, hs⟩ => ⟨hi, hc, hs⟩, fun hm => ⟨⟨hm.ids, hm.collections⟩, hm.spatial⟩⟩⟩

/-- The geometries in the filter of a plan can be read. -/
theorem exists_condition {s : Search} {plan : QueryPlan} (h : s.compile = .ok plan) :
    ∃ condition, plan.filter.mapM Condition.ofFilter = .ok condition := by
  obtain ⟨-, -, spatial, hspatial, hfilter⟩ := compile_eq_ok_iff.mp h
  obtain ⟨condition, hcondition, -⟩ := (allMean_filters hspatial).conjunction?
  exact ⟨condition, hfilter ▸ hcondition⟩

/-- A collection compiles to the same plan wherever it is given. -/
theorem compile_collection (s : Search) {raw : RawGeometry}
    (h : raw.type = GeometryType.collection.name) :
    compile { s with geometry := some raw, geometrycollection := none } =
      compile { s with geometry := none, geometrycollection := some raw } := by
  have hspatial : spatialFilter { s with geometry := some raw, geometrycollection := none } =
      spatialFilter { s with geometry := none, geometrycollection := some raw } := by
    cases s.bbox <;> simp [spatialFilter, h]
  unfold compile
  rw [hspatial]
  rfl

/-- **The filter of a compiled search can be read, and holds of just the items that the search asks
for.** Without a spatial filter the place does not count; a geometry without leaves is met by
nothing; and a collection compiles to the same plan in either of its two places. -/
theorem compile_meaning {s : Search} {plan : QueryPlan} (h : s.compile = .ok plan) :
    (∃ condition, plan.filter.mapM Condition.ofFilter = .ok condition ∧
      ∀ e : Entry, condition.all (·.holds e) ↔ s.Matches e) ∧
    (s.hasSpatialFilter = false → ∀ e, s.SpatiallyMatches e) ∧
    (∀ raw g, s.geometry = some raw ∨ s.geometrycollection = some raw →
      Geometry.ofRaw raw = .ok g → g.leaves = [] → ∀ e, ¬s.Matches e) ∧
    (∀ raw, raw.type = GeometryType.collection.name →
      s.geometry = some raw ∨ s.geometrycollection = some raw →
        compile { s with geometry := some raw, geometrycollection := none } = .ok plan ∧
        compile { s with geometry := none, geometrycollection := some raw } = .ok plan) := by
  obtain ⟨-, -, spatial, hspatial, hfilter⟩ := compile_eq_ok_iff.mp h
  refine ⟨?_, spatiallyMatches_of_none, ?_, ?_⟩
  · rw [hfilter]
    exact (allMean_filters hspatial).conjunction?
  · rintro raw g (hraw | hraw) hg hleaves e hmatches
    · exact not_geometryMatches_of_leaves_nil hg hleaves e (hmatches.spatial.geometry raw hraw)
    · exact not_geometryMatches_of_leaves_nil hg hleaves e
        (hmatches.spatial.geometrycollection raw hraw)
  · intro raw htype hraw
    rw [compile_collection s htype, and_self]
    obtain ⟨ids, collections, limit, bbox, geometry, geometrycollection, sortby⟩ := s
    -- A search that compiles has one of the two only.
    rcases hraw with rfl | rfl
    · cases geometrycollection with
      | none => rw [← h]; exact (compile_collection _ htype).symm
      | some other => cases bbox <;> simp [spatialFilter] at hspatial
    · cases geometry with
      | none => exact h
      | some other => cases bbox <;> simp [spatialFilter] at hspatial

/-- A search for what is called `a` and meets the only leaf of a collection, the origin. -/
def atOrigin : Search where
  ids := ["a"]
  geometrycollection := some ⟨"GeometryCollection", none, some
    [⟨"GeometryCollection", none, some []⟩, ⟨"Point", some (.arr [.int 0, .int 0]), none⟩]⟩

/-- A search for what meets a collection without leaves. -/
def nowhere : Search where
  geometry := some ⟨"GeometryCollection", none, some [⟨"GeometryCollection", none, some []⟩]⟩

/-- An item at the origin. -/
def originEntry : Entry where
  record := ⟨"a", "c", .null, ""⟩
  shape := .point ⟨.zero false, .zero true⟩

/-- Whether a search compiles to a filter that can be read and holds of an entry. -/
def finds (s : Search) (e : Entry) : Bool :=
  match s.compile with
  | .error _ => false
  | .ok plan =>
    match plan.filter.mapM Condition.ofFilter with
    | .error _ => false
    | .ok condition => condition.all (·.holds e)

theorem compile_meaning_atOrigin_nowhere :
    (∃ plan, atOrigin.compile = .ok plan ∧ atOrigin.Matches originEntry) ∧
    (∃ plan condition, nowhere.compile = .ok plan ∧
      plan.filter.mapM Condition.ofFilter = .ok condition ∧
      ∀ e : Entry, condition.all (·.holds e) = false) := by
  have hfinds : atOrigin.finds originEntry = true := by decide +kernel
  have hnowhere : nowhere.compile.isOk = true := by decide +kernel
  constructor
  · unfold finds at hfinds
    split at hfinds
    · cases hfinds
    next plan hplan =>
      obtain ⟨⟨condition, hcondition, hmeaning⟩, -⟩ := compile_meaning hplan
      rw [hcondition] at hfinds
      exact ⟨plan, hplan, (hmeaning _).mp hfinds⟩
  · cases hplan : nowhere.compile with
    | error e => rw [hplan] at hnowhere; cases hnowhere
    | ok plan =>
      obtain ⟨⟨condition, hcondition, hmeaning⟩, -, hnothing, -⟩ := compile_meaning hplan
      refine ⟨plan, condition, rfl, hcondition, fun e => ?_⟩
      rw [← Bool.not_eq_true, hmeaning]
      exact hnothing _ (.collection [.collection []]) (.inl rfl) rfl rfl e

end Search

end SpatialCatalog
