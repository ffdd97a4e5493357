import SpatialCatalog.Proofs.Geometry.Grammar
import SpatialCatalog.Proofs.Search.Directive
import SpatialCatalog.Proofs.Store.Faults

/-!
# Which searches are valid

`Search.Valid` says, without compiling it, what a search has to be like: a positive limit if it has
one, one spatial filter at most, of the right length or form, and directives that stand for keys. An
empty box is a box of the wrong length.

A search that is received compiles just when it is valid. If it is not, the error is the fault of
the request: what is decoded from numbers in range is finite, so that no geometry that is decoded
fails to be written.
-/

namespace SpatialCatalog

/-! ### Validity -/

namespace Search

/-- Where the items are is restricted once at most, by a box of four or six numbers, by what denotes
a geometry, or by what denotes a collection of geometries. -/
@[mk_iff]
structure SpatiallyValid (s : Search) : Prop where
  single : [s.bbox.isSome, s.geometry.isSome, s.geometrycollection.isSome].count true ≤ 1
  bbox : ∀ values ∈ s.bbox, values.length = 4 ∨ values.length = 6
  geometry : ∀ raw ∈ s.geometry, ∃ g, Geometry.Denotes raw g
  geometrycollection : ∀ raw ∈ s.geometrycollection,
    raw.type = "GeometryCollection" ∧ ∃ g, Geometry.Denotes raw g

/-- A search asks for something that there can be. -/
structure Valid (s : Search) : Prop where
  limit : ∀ n ∈ s.limit, 0 < n
  spatial : s.SpatiallyValid
  sortby : ∀ d ∈ s.sortby, ∃ key, d.StandsFor key

theorem exists_effectiveLimit_iff {s : Search} :
    (∃ limit, s.effectiveLimit = .ok limit) ↔ ∀ n ∈ s.limit, 0 < n := by
  unfold effectiveLimit
  cases s.limit with
  | none => simp
  | some n => by_cases h : 0 < n <;> simp [h]

end Search

theorem Bbox.exists_ofList_iff {values : List Double} :
    (∃ b, ofList values = .ok b) ↔ values.length = 4 ∨ values.length = 6 := by
  constructor
  · rintro ⟨b, h⟩
    unfold ofList at h
    split at h
    · exact .inl rfl
    · exact .inr rfl
    · cases h
  · rintro (h | h)
    · obtain ⟨minX, minY, maxX, maxY, rfl⟩ := List.length_eq_four.mp h
      exact ⟨_, rfl⟩
    · rcases values with _ | ⟨minX, _ | ⟨minY, _ | ⟨low, corner⟩⟩⟩ <;> simp at h
      obtain ⟨maxX, maxY, high, rfl⟩ := List.length_eq_three.mp h
      exact ⟨_, rfl⟩

namespace Search

variable {s : Search}

/-- What is decoded is asked for. -/
theorem exists_geometryFilter_iff {raw : RawGeometry} (h : raw.toJson.InRange) :
    (∃ f, geometryFilter raw = .ok f) ↔ ∃ g, Geometry.Denotes raw g := by
  simp only [geometryFilter, bind_eq_ok_iff, mapError_eq_ok_iff]
  constructor
  · rintro ⟨f, g, hg, -⟩
    exact ⟨g, Geometry.denotes_of_ofRaw raw hg⟩
  · rintro ⟨g, hg⟩
    have hdecoded := Geometry.ofRaw_of_denotes hg
    obtain ⟨k, hk, -⟩ := Geometry.written_ofRaw raw h.bounded hdecoded
    obtain ⟨f, hf⟩ := Filter.exists_ofGeometry g (by simp [hk])
    exact ⟨f, g, hdecoded, hf⟩

theorem InRange.exists_spatialFilter_iff (h : s.InRange) :
    (∃ f, s.spatialFilter = .ok f) ↔ s.SpatiallyValid := by
  have hgeometry := fun raw hraw => exists_geometryFilter_iff (h.geometry raw hraw)
  have hcollection := fun raw hraw => exists_geometryFilter_iff (h.geometrycollection raw hraw)
  rw [spatiallyValid_iff]
  unfold spatialFilter
  split
  next hb hg hc => simp [hb, hg, hc]
  next values hb hg hc =>
    simp [hb, hg, hc, mapError_eq_ok_iff, map_eq_ok_iff, ← Bbox.exists_ofList_iff]
  next raw hb hg hc =>
    simp [hb, hg, hc, map_eq_ok_iff, ← hgeometry raw hg]
  next raw hb hg hc =>
    have hname : GeometryType.collection.name = "GeometryCollection" := rfl
    split
    next htype =>
      simp [hb, hg, hc, map_eq_ok_iff, ← hcollection raw hc, htype, hname]
    next htype =>
      rw [hname] at htype
      simp [hb, hg, hc, htype]
  next hnone hbox hone hmany =>
    -- Two of the three are given.
    have htwo :
        ¬[s.bbox.isSome, s.geometry.isSome, s.geometrycollection.isSome].count true ≤ 1 := by
      cases hb : s.bbox <;> cases hg : s.geometry <;> cases hc : s.geometrycollection <;>
        simp_all
    exact iff_of_false (fun ⟨_, h⟩ => nomatch h) fun hvalid => htwo hvalid.1

theorem InRange.exists_compile_iff (h : s.InRange) : (∃ plan, s.compile = .ok plan) ↔ s.Valid := by
  constructor
  · rintro ⟨plan, hplan⟩
    obtain ⟨hlimit, hsort, spatial, hspatial, -⟩ := compile_eq_ok_iff.mp hplan
    exact {
      limit := exists_effectiveLimit_iff.mp ⟨_, hlimit⟩
      spatial := h.exists_spatialFilter_iff.mp ⟨_, hspatial⟩
      sortby := fun d hd =>
        have ⟨key, hkey⟩ := exists_mapM_eq_ok_iff.mp ⟨_, hsort⟩ d hd
        ⟨key, sortKey_eq_ok_iff.mp hkey⟩ }
  · rintro ⟨hlimit, hspatial, hsortby⟩
    obtain ⟨limit, hlimit⟩ := exists_effectiveLimit_iff.mpr hlimit
    obtain ⟨spatial, hspatial⟩ := h.exists_spatialFilter_iff.mpr hspatial
    have hkeys : ∀ d ∈ s.sortby, ∃ key, sortKey d = .ok key := fun d hd =>
      (hsortby d hd).imp fun _ => sortKey_eq_ok_iff.mpr
    obtain ⟨sort, hsort⟩ := exists_mapM_eq_ok_iff.mpr hkeys
    exact ⟨⟨_, sort, limit⟩, compile_eq_ok_iff.mpr ⟨hlimit, hsort, spatial, hspatial, rfl⟩⟩

/-! ### Whose fault it is -/

/-- An error of a request that is not valid: its geometry cannot be decoded, or something else in it
is out of place. -/
inductive Rejected : Error → Prop
  | geometry (cause : GeometryFault) : Rejected (.geometry cause)
  | request (cause : RequestFault) : Rejected (.request cause)

theorem Rejected.isClientError {e : Error} (h : Rejected e) : e.isClientError := by
  cases h <;> rfl

theorem rejected_geometryFilter {raw : RawGeometry} (h : raw.toJson.InRange) {e : Error}
    (he : geometryFilter raw = .error e) : Rejected e := by
  obtain hraw | ⟨g, hg, hfilter⟩ := bind_eq_error_iff.mp he
  · obtain ⟨cause, -, rfl⟩ := mapError_eq_error_iff.mp hraw
    exact .geometry cause
  -- What is decoded is asked for.
  · have hdecoded := mapError_eq_ok_iff.mp hg
    obtain ⟨f, hf⟩ := (exists_geometryFilter_iff h).mpr ⟨g, Geometry.denotes_of_ofRaw raw hdecoded⟩
    rw [he] at hf
    cases hf

theorem InRange.rejected_spatialFilter (h : s.InRange) {e : Error}
    (he : s.spatialFilter = .error e) : Rejected e := by
  unfold spatialFilter at he
  split at he
  next => cases he
  next =>
    obtain ⟨cause, -, rfl⟩ := mapError_eq_error_iff.mp he
    exact .request cause
  next raw _ hraw _ => exact rejected_geometryFilter (h.geometry raw hraw) (map_eq_error_iff.mp he)
  next raw _ _ hraw =>
    split at he
    · exact rejected_geometryFilter (h.geometrycollection raw hraw) (map_eq_error_iff.mp he)
    · cases he
      exact .geometry _
  next =>
    cases he
    exact .request _

theorem InRange.rejected_compile (h : s.InRange) {e : Error} (he : s.compile = .error e) :
    Rejected e := by
  obtain hlimit | ⟨limit, -, he⟩ := bind_eq_error_iff.mp he
  · obtain ⟨cause, -, rfl⟩ := mapError_eq_error_iff.mp hlimit
    exact .request cause
  obtain hspatial | ⟨spatial, -, he⟩ := bind_eq_error_iff.mp he
  · exact h.rejected_spatialFilter hspatial
  obtain hsort | ⟨sort, -, he⟩ := bind_eq_error_iff.mp he
  · obtain ⟨cause, -, rfl⟩ := mapError_eq_error_iff.mp hsort
    exact .request cause
  · cases he

/-- **A search that is received compiles just when it is valid.** If it is not, its geometry or its
request is rejected, and the status is that of a client's error; if it is, the plan has a positive
limit and the keys that the directives stand for, one by one. -/
theorem compile_valid (h : s.Received) :
    ((∃ plan, s.compile = .ok plan) ↔ s.Valid) ∧
      (∀ e, s.compile = .error e → Rejected e ∧ e.isClientError) ∧
      ∀ plan, s.compile = .ok plan →
        0 < plan.limit ∧ List.Forall₂ SortBy.StandsFor s.sortby plan.sort := by
  refine ⟨h.inRange.exists_compile_iff, fun e he => ?_, fun plan hplan => ?_⟩
  · have hrejected := h.inRange.rejected_compile he
    exact ⟨hrejected, hrejected.isClientError⟩
  · obtain ⟨hlimit, hsort, -⟩ := compile_eq_ok_iff.mp hplan
    exact ⟨Store.effectiveLimit_pos hlimit,
      (mapM_eq_ok_iff.mp hsort).imp fun _ _ => sortKey_eq_ok_iff.mp⟩

/-- A search for the first five items on a point, by a path. -/
def sortedSearch : Search where
  limit := some 5
  geometry := some ⟨"Point", some (.arr [.int 0, .int 0]), none⟩
  sortby := [⟨"properties.datetime", "DESC"⟩]

/-- A search with a box that has no elements. -/
def boxlessSearch : Search := { bbox := some [] }

theorem compile_valid_sorted_boxless :
    (∃ plan, sortedSearch.compile = .ok plan ∧ 0 < plan.limit ∧
      List.Forall₂ SortBy.StandsFor sortedSearch.sortby plan.sort) ∧
    ∃ e, boxlessSearch.compile = .error e ∧ e.isClientError := by
  have hzero : (Number.int 0).InRange := ⟨by decide, by decide⟩
  have hsorted : sortedSearch.Received := by
    have hrange : sortedSearch.toJson.InRange :=
      ⟨⟨by decide, by decide⟩, ⟨trivial, ⟨hzero, hzero, trivial⟩, trivial⟩,
        ⟨⟨trivial, trivial, trivial⟩, trivial⟩, trivial⟩
    exact .decoded hrange rfl
  have hboxless : boxlessSearch.Received :=
    .decoded (j := .obj [("bbox", .arr [])]) ⟨trivial, trivial⟩ rfl
  obtain ⟨hiff, -, hplans⟩ := compile_valid hsorted
  have hvalid : sortedSearch.Valid := by
    refine ⟨?_, ⟨by decide, by simp [sortedSearch], ?_, by simp [sortedSearch]⟩, ?_⟩
    · rintro n ⟨⟩
      decide
    · rintro raw ⟨⟩
      exact ⟨_, .point (.flat (.int 0) (.int 0))⟩
    · refine List.forall_mem_singleton.mpr
        ⟨⟨.path ["properties", "datetime"], .descending⟩, ?_, rfl⟩
      exact .path (by decide) (by decide)
  obtain ⟨plan, hplan⟩ := hiff.mpr hvalid
  refine ⟨⟨plan, hplan, hplans plan hplan⟩, ?_⟩
  obtain ⟨hiff, hrejected, -⟩ := compile_valid hboxless
  cases h : boxlessSearch.compile with
  | error e => exact ⟨e, rfl, (hrejected e h).2⟩
  | ok plan => exact absurd ((hiff.mp ⟨plan, h⟩).spatial.bbox [] rfl) (by decide)

end Search

end SpatialCatalog
