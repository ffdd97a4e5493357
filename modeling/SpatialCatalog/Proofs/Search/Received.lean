import SpatialCatalog.Proofs.Geometry.Undecoded
import SpatialCatalog.Proofs.Search.Grammar
import SpatialCatalog.Search.Parameters

/-!
# Searches that are received

A search is received as a value of a document, or as request parameters. Either way the numbers in
its geometries are in range: those of a document are, and the geometry of a parameter is read from a
text.
-/

namespace SpatialCatalog

namespace Search

/-- The geometries of a search are as documents can hold them. They may nest as deeply as they
like. -/
structure InRange (s : Search) : Prop where
  geometry : ∀ raw ∈ s.geometry, raw.toJson.InRange
  geometrycollection : ∀ raw ∈ s.geometrycollection, raw.toJson.InRange

/-- A search that is decoded from a value, or converted from parameters. -/
inductive Received (s : Search) : Prop
  | decoded {j : Json} (inRange : j.InRange) (h : decode j = .ok s)
  | converted {p : SearchParameters} (h : p.toSearch = .ok s)

theorem inRange_default : InRange {} := ⟨by simp, by simp⟩

theorem inRange_geometry {value : Json} {o : Option RawGeometry} (hvalue : value.InRange)
    (h : value.optional RawGeometry.decode = .ok o) : ∀ raw ∈ o, raw.toJson.InRange := by
  unfold Json.optional at h
  split at h
  · obtain rfl := Except.ok.inj h
    simp
  · obtain ⟨raw, hraw, rfl⟩ := map_eq_ok_iff.mp h
    rintro raw' ⟨⟩
    exact (RawGeometry.bounded_decode value hvalue.bounded hraw).inRange

/-- Reading a member keeps a search in range. -/
theorem InRange.read {s s' : Search} (hs : s.InRange) {key : String} {value : Json}
    (hvalue : value.InRange) (h : s.read key value = .ok s') : s'.InRange := by
  obtain ⟨hgeometry, hcollection⟩ := hs
  unfold Search.read at h
  split at h
  case h_5 =>
    obtain ⟨o, ho, rfl⟩ := map_eq_ok_iff.mp h
    exact ⟨inRange_geometry hvalue ho, hcollection⟩
  case h_6 =>
    obtain ⟨o, ho, rfl⟩ := map_eq_ok_iff.mp h
    exact ⟨hgeometry, inRange_geometry hvalue ho⟩
  case h_8 =>
    obtain rfl := Except.ok.inj h
    exact ⟨hgeometry, hcollection⟩
  -- The other fields hold no geometry.
  all_goals
    obtain ⟨field, -, rfl⟩ := map_eq_ok_iff.mp h
    exact ⟨hgeometry, hcollection⟩

theorem InRange.foldlM_read {pairs : List (String × Json)} (hpairs : ∀ p ∈ pairs, p.2.InRange)
    {s s' : Search} (hs : s.InRange)
    (h : pairs.foldlM (fun s (key, value) => s.read key value) s = .ok s') : s'.InRange :=
  foldlM_invariant (fun _ _ p hp hs hread => hs.read (hpairs p hp) hread) hs h

theorem inRange_decode {j : Json} (hj : j.InRange) {s : Search} (h : decode j = .ok s) :
    s.InRange := by
  obtain ⟨ms, hms, hfold⟩ := exists_members_of_decode h
  exact inRange_default.foldlM_read (hms.inRange hj) hfold

theorem inRange_toSearch {p : SearchParameters} {s : Search} (h : p.toSearch = .ok s) :
    s.InRange := by
  simp only [SearchParameters.toSearch, do_eq_ok_iff, mapError_eq_ok_iff, pure_eq_ok_iff] at h
  obtain ⟨limit, -, bbox, -, geometry, hgeometry, rfl⟩ := h
  refine ⟨?_, by simp⟩
  cases hp : p.geometry with
  | none =>
    rw [hp] at hgeometry
    obtain rfl := Except.ok.inj hgeometry
    simp
  | some text =>
    rw [hp] at hgeometry
    obtain ⟨raw, hraw, rfl⟩ := map_eq_ok_iff.mp hgeometry
    rintro raw' ⟨⟩
    unfold SearchParameters.readGeometry at hraw
    split at hraw
    next hparse =>
      obtain rfl := Except.ok.inj hraw
      exact (RawGeometry.bounded_parse? hparse).inRange
    next => cases hraw

/-- **The geometries of a search that is received are as documents can hold them.** -/
theorem Received.inRange {s : Search} (h : s.Received) : s.InRange := by
  cases h with
  | decoded inRange h => exact inRange_decode inRange h
  | converted h => exact inRange_toSearch h

end Search

end SpatialCatalog
