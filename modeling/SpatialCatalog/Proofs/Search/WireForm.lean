import SpatialCatalog.Plan
import SpatialCatalog.Proofs.Search.Grammar

/-!
# A search survives its wire form

`Search.toJson` writes a search as an object without what is absent or empty. Decoding that gives
the search back if it is `Writable`: its limit fits 64 bits, its box has no infinity, and no
geometry of it has null for its coordinates. Whatever is decoded is writable, so a posted value and
the wire form of what it is decoded as give one and the same search.
-/

namespace SpatialCatalog

/-! ### Geometries -/

namespace RawGeometry

mutual

/-- Nowhere in a geometry are the coordinates null, which would stand for none. -/
def Writable : RawGeometry → Prop
  | ⟨_, cs, gs⟩ => cs ≠ some .null ∧ GeometriesWritable gs

def GeometriesWritable : Option (List RawGeometry) → Prop
  | none => True
  | some gs => ListWritable gs

def ListWritable : List RawGeometry → Prop
  | [] => True
  | g :: gs => g.Writable ∧ ListWritable gs

end

mutual

/-- What a value gives can be written. -/
theorem Gives.writable : ∀ {j : Json} {g : RawGeometry}, Gives j g → g.Writable
  | _, _, .record _ _ hcs hgs => by
    refine ⟨?_, hgs.writable⟩
    rintro rfl
    obtain ⟨j, -, hne, hnull⟩ := hcs.exists_of_some
    exact hne hnull.symm

theorem GivesGeometries.writable : ∀ {o : Option Json} {gs : Option (List RawGeometry)},
    GivesGeometries o gs → GeometriesWritable gs
  | _, _, .absent => trivial
  | _, _, .null => trivial
  | _, _, .given h => h.writable

theorem GivesList.writable : ∀ {xs : List Json} {gs : List RawGeometry},
    GivesList xs gs → ListWritable gs
  | _, _, .nil => trivial
  | _, _, .cons h hs => ⟨h.writable, hs.writable⟩

end

theorem decodeMembers_coordinates {cs : Option Json} (hcs : cs ≠ some .null) (ms : Members)
    (type : Option String) :
    decodeMembers ((cs.toList.map fun c => ("coordinates", c)) ++ ms) ⟨type, none, none⟩ =
      decodeMembers ms ⟨type, cs, none⟩ := by
  cases cs with
  | none => rfl
  | some c =>
    have hc : coordinates? c = some c := by
      cases c with
      | null => exact absurd rfl hcs
      | _ => rfl
    show decodeMembers ms ⟨type, coordinates? c, none⟩ = _
    rw [hc]

theorem toJson_ne_null (g : RawGeometry) : g.toJson ≠ .null := by
  cases g
  nofun

mutual

/-- A geometry is decoded from its value, as deep as it is. -/
theorem decode_toJson : ∀ g : RawGeometry, g.Writable → decode g.toJson = .ok g
  | ⟨type, cs, gs⟩, ⟨hcs, hgs⟩ => by
    have hmembers := decodeMembers_geometriesMember gs hgs (some type) cs
    rw [← decodeMembers_coordinates hcs] at hmembers
    rw [toJson, decode]
    exact bind_ok hmembers

theorem decodeMembers_geometriesMember : ∀ gs : Option (List RawGeometry),
    GeometriesWritable gs → ∀ (type : Option String) (cs : Option Json),
      decodeMembers (geometriesMember gs) ⟨type, cs, none⟩ = .ok ⟨type, cs, gs⟩
  | none, _, _, _ => rfl
  | some gs, hgs, type, cs => by
    have hlist : decodeGeometries (.arr (listToJson gs)) = .ok (some gs) := by
      rw [decodeGeometries, decodeList_listToJson gs hgs]
      rfl
    exact bind_ok hlist

theorem decodeList_listToJson : ∀ gs : List RawGeometry, ListWritable gs →
    decodeList (listToJson gs) = .ok gs
  | [], _ => rfl
  | g :: gs, ⟨hg, hgs⟩ => by
    rw [listToJson, decodeList, decode_toJson g hg, decodeList_listToJson gs hgs]
    rfl

end

end RawGeometry

/-! ### Fields -/

theorem foldlM_append_eq_ok {α β ε : Type} {f : β → α → Except ε β} {xs ys : List α} {b c d : β}
    (hxs : xs.foldlM f b = .ok c) (hys : ys.foldlM f c = .ok d) :
    (xs ++ ys).foldlM f b = .ok d := by
  rw [List.foldlM_append]
  exact do_eq_ok_iff.mpr ⟨c, hxs, hys⟩

theorem SortBy.decode_toJson (s : SortBy) : decode s.toJson = .ok s := rfl

theorem Json.int64_int {n : Int} (hleast : -twoPow 63 ≤ n) (hmost : n < twoPow 63) :
    (int n).int64 = .ok n := if_pos ⟨hleast, Int.le_sub_one_of_lt hmost⟩

theorem Json.optional_eq_ok {α : Type} {decode : Json → Decoded α} {j : Json} {a : α}
    (hne : j ≠ .null) (h : decode j = .ok a) : j.optional decode = .ok (some a) := by
  cases j with
  | null => exact absurd rfl hne
  | _ => exact map_eq_ok_iff.mpr ⟨a, h, rfl⟩

theorem Json.list_map {α : Type} {decode : Json → Decoded α} {toJson : α → Json} {xs : List α}
    (h : ∀ x ∈ xs, decode (toJson x) = .ok x) : (arr (xs.map toJson)).list decode = .ok xs := by
  refine list_eq_ok_iff.mpr ⟨_, rfl, ?_⟩
  rw [List.forall₂_map_left_iff]
  exact List.forall₂_same.mpr h

namespace Search

theorem double_numberToJson {x : Double} (h : x.isFinite) : (numberToJson x).double = .ok x := by
  cases x with
  | finite x => rfl
  | _ => cases h

section

variable {α : Type} {decode : Json → Decoded α}

/-- A list is read from what is written for it: nothing where it is empty. The search `set xs` has
the list `xs` in the field. -/
theorem foldlM_listMember (key : String) (toJson : α → Json) (set : List α → Search)
    (hread : ∀ value, read (set []) key value = (value.list decode).map set) {xs : List α}
    (h : ∀ x ∈ xs, decode (toJson x) = .ok x) :
    (listMember key toJson xs).foldlM (fun s (key, value) => read s key value) (set []) =
      .ok (set xs) := by
  cases xs with
  | nil => rfl
  | cons x xs =>
    have hset : read (set []) key (.arr ((x :: xs).map toJson)) = .ok (set (x :: xs)) := by
      rw [hread, Json.list_map h]
      rfl
    exact do_eq_ok_iff.mpr ⟨_, hset, rfl⟩

/-- An option is read from what is written for it: nothing where it is absent. -/
theorem foldlM_member (key : String) (toJson : α → Json) (set : Option α → Search)
    (hread : ∀ value, read (set none) key value = (value.optional decode).map set) {o : Option α}
    (hne : ∀ a, toJson a ≠ .null) (h : ∀ a ∈ o, decode (toJson a) = .ok a) :
    (member key toJson o).foldlM (fun s (key, value) => read s key value) (set none) =
      .ok (set o) := by
  cases o with
  | none => rfl
  | some a =>
    have hset : read (set none) key (toJson a) = .ok (set (some a)) := by
      rw [hread, Json.optional_eq_ok (hne a) (h a rfl)]
      rfl
    exact do_eq_ok_iff.mpr ⟨_, hset, rfl⟩

end

/-! ### Searches -/

/-- A search can be written without a loss. -/
structure Writable (s : Search) : Prop where
  limit : ∀ n ∈ s.limit, -twoPow 63 ≤ n ∧ n < twoPow 63
  bbox : ∀ xs ∈ s.bbox, ∀ x ∈ xs, x.isFinite
  geometry : ∀ g ∈ s.geometry, g.Writable
  geometrycollection : ∀ g ∈ s.geometrycollection, g.Writable

/-- A search that is writable is decoded from its value. -/
theorem decode_toJson {s : Search} (h : s.Writable) : decode s.toJson = .ok s := by
  obtain ⟨ids, collections, limit, bbox, geometry, geometrycollection, sortby⟩ := s
  have hbox : ∀ xs ∈ bbox, (Json.arr (xs.map numberToJson)).list Json.double = .ok xs :=
    fun xs hxs => Json.list_map fun x hx => double_numberToJson (h.bbox xs hxs x hx)
  -- Each field is read into the search that has the fields before it.
  have hids := foldlM_listMember "ids" .str (fun ids => { ids }) (fun _ => rfl)
    fun x (_ : x ∈ ids) => (rfl : (Json.str x).string = .ok x)
  have hcollections := foldlM_listMember "collections" .str
    (fun collections => { ids, collections }) (fun _ => rfl)
    fun x (_ : x ∈ collections) => (rfl : (Json.str x).string = .ok x)
  have hlimit := foldlM_member "limit" .int (fun limit => { ids, collections, limit })
    (fun _ => rfl) (fun _ => nofun) fun n hn => Json.int64_int (h.limit n hn).1 (h.limit n hn).2
  have hbbox := foldlM_member "bbox" (fun xs => .arr (xs.map numberToJson))
    (fun bbox => { ids, collections, limit, bbox }) (fun _ => rfl) (fun _ => nofun) hbox
  have hgeometry := foldlM_member "geometry" RawGeometry.toJson
    (fun geometry => { ids, collections, limit, bbox, geometry }) (fun _ => rfl)
    RawGeometry.toJson_ne_null fun g hg => g.decode_toJson (h.geometry g hg)
  have hgeometrycollection := foldlM_member "geometrycollection" RawGeometry.toJson
    (fun geometrycollection =>
      { ids, collections, limit, bbox, geometry, geometrycollection }) (fun _ => rfl)
    RawGeometry.toJson_ne_null fun g hg => g.decode_toJson (h.geometrycollection g hg)
  have hsortby := foldlM_listMember "sortby" SortBy.toJson
    (fun sortby =>
      { ids, collections, limit, bbox, geometry, geometrycollection, sortby }) (fun _ => rfl)
    fun d (_ : d ∈ sortby) => d.decode_toJson
  refine bind_eq_ok_iff.mpr ⟨_, ?_, rfl⟩
  exact foldlM_append_eq_ok (foldlM_append_eq_ok (foldlM_append_eq_ok (foldlM_append_eq_ok
    (foldlM_append_eq_ok (foldlM_append_eq_ok hids hcollections) hlimit) hbbox) hgeometry)
    hgeometrycollection) hsortby

/-- The numbers of a document are finite. -/
theorem isFinite_of_denotesList {j : Json} {xs : List Double} (hj : j.InRange)
    (h : DenotesList GivesDouble j xs) : ∀ x ∈ xs, x.isFinite := by
  obtain ⟨items, rfl, hall⟩ := h
  obtain ⟨ns, rfl, rfl⟩ := exists_numbers (hall.imp fun _ _ => Json.double_eq_ok_iff.mpr)
  obtain ⟨_, -, hitems⟩ := hj.bounded.exists_arr
  intro x hx
  obtain ⟨n, hn, rfl⟩ := List.mem_map.mp hx
  exact Number.InRange.isFinite_toDouble (hitems _ (List.mem_map_of_mem hn)).inRange

/-- What a document gives can be written. -/
theorem Gives.writable {j : Json} (hj : j.InRange) {s : Search} (h : Gives j s) : s.Writable := by
  obtain ⟨hms, hs⟩ := h
  constructor
  · intro n hn
    obtain ⟨_, -, -, hbounds⟩ := (hn ▸ hs.limit).exists_of_some
    exact hbounds
  · intro xs hxs
    obtain ⟨value, hvalue, hlist⟩ := (hxs ▸ hs.bbox).exists_of_some
    exact isFinite_of_denotesList (hms.inRange hj _ (Members.mem_of_given? hvalue)) hlist
  · intro g hg
    obtain ⟨_, -, hgives⟩ := (hg ▸ hs.geometry).exists_of_some
    exact hgives.writable
  · intro g hg
    obtain ⟨_, -, hgives⟩ := (hg ▸ hs.geometrycollection).exists_of_some
    exact hgives.writable

/-! ### Boxes that are empty or absent -/

theorem lookup_listMember_of_ne {α : Type} {key k : String} {toJson : α → Json} (h : key ≠ k)
    (xs : List α) : (listMember key toJson xs).lookup k = none := by
  cases xs with
  | nil => rfl
  | cons x xs => exact lookup_cons_of_ne h

theorem lookup_member_of_ne {α : Type} {key k : String} {toJson : α → Json} (h : key ≠ k)
    (o : Option α) : (member key toJson o).lookup k = none := by
  cases o with
  | none => rfl
  | some a => exact lookup_cons_of_ne h

theorem lookup_member_self {α : Type} (key : String) (toJson : α → Json) (o : Option α) :
    (member key toJson o).lookup key = o.map toJson := by
  cases o with
  | none => rfl
  | some a => exact List.lookup_cons_self

/-- An empty box is written, and an absent one is not. -/
theorem get?_bbox_toJson (s : Search) :
    s.toJson.get? "bbox" = s.bbox.map fun xs => .arr (xs.map numberToJson) := by
  simp [toJson, Json.get?, Members.get?, List.lookup_append, lookup_listMember_of_ne,
    lookup_member_of_ne, lookup_member_self]

/-- **A search survives its wire form.** A value of a document, in whichever form it is, is decoded
as the search that it gives. What is written for this search gives the same one, and it is decoded
as the same one; so it is written again in the same way, and has the same plan or the same fault.
An empty box stays an empty box, and one that is absent or null is not written. -/
theorem survives_toJson {j : Json} (hj : j.InRange) {s : Search} (h : decode j = .ok s) :
    (∀ t, Gives j t ↔ t = s) ∧ (∀ t, Gives s.toJson t ↔ t = s) ∧ decode s.toJson = .ok s ∧
    (∀ t, decode s.toJson = .ok t → t.toJson = s.toJson ∧ t.compile = s.compile) ∧
    ∀ ms, RecordMembers fieldNames 6 j ms →
      (ms.given? "bbox" = some (.arr []) → s.bbox = some [] ∧
        s.toJson.get? "bbox" = some (.arr [])) ∧
      (ms.given? "bbox" = none ∨ ms.given? "bbox" = some .null → s.bbox = none ∧
        s.toJson.get? "bbox" = none) := by
  have hgives := gives_of_decode h
  have hdecode := decode_toJson (hgives.writable hj)
  have honly : ∀ k, Gives k s → ∀ t, Gives k t ↔ t = s := fun k hk t =>
    ⟨fun ht => rightUnique_gives ht hk, fun heq => heq ▸ hk⟩
  refine ⟨honly j hgives, honly _ (gives_of_decode hdecode), hdecode, fun t ht => ?_,
    fun ms hms => ?_⟩
  · obtain rfl := Except.ok.inj (hdecode.symm.trans ht)
    exact ⟨rfl, rfl⟩
  · obtain ⟨hms', hs⟩ := hgives
    obtain rfl := hms.unique hms'
    have hbbox : ∀ {o b}, ms.given? "bbox" = o → Optionally (DenotesList GivesDouble) o b →
        s.bbox = b := fun ho hb => rightUnique_box (ho ▸ hs.bbox) hb
    rw [get?_bbox_toJson]
    constructor
    · intro hempty
      rw [hbbox hempty (.given ⟨[], rfl, .nil⟩)]
      exact ⟨rfl, rfl⟩
    · rintro (habsent | hnull)
      · rw [hbbox habsent .absent]
        exact ⟨rfl, rfl⟩
      · rw [hbbox hnull .null]
        exact ⟨rfl, rfl⟩

/-- A posted value with an empty box, a limit that is null, a key that is none of the fields, and
collections inside one another, one of them an array. -/
def nestedValue : Json :=
  .obj [("bbox", .arr []), ("limit", .null), ("token", .int 1),
    ("geometrycollection", .obj [("geometries", .arr
      [.arr [.str "GeometryCollection", .null, .arr []],
        .obj [("coordinates", .arr [.int 1, .int 2]), ("type", .str "Point")]]),
      ("type", .str "GeometryCollection")])]

/-- The search that it is decoded as. -/
def nestedSearch : Search where
  bbox := some []
  geometrycollection := some ⟨"GeometryCollection", none, some
    [⟨"GeometryCollection", none, some []⟩, ⟨"Point", some (.arr [.int 1, .int 2]), none⟩]⟩

theorem survives_toJson_nestedValue :
    decode nestedValue = .ok nestedSearch ∧ decode nestedSearch.toJson = .ok nestedSearch ∧
      nestedSearch.toJson.get? "bbox" = some (.arr []) := by
  have hrange : nestedValue.InRange := by
    simp only [nestedValue, Json.InRange, Json.MembersInRange, Json.ItemsInRange, Json.int,
      Number.InRange]
    decide
  have hdecode : decode nestedValue = .ok nestedSearch := rfl
  obtain ⟨-, -, hagain, -, hbbox⟩ := survives_toJson hrange hdecode
  exact ⟨hdecode, hagain, ((hbbox _ (.obj _)).1 rfl).2⟩

end Search

end SpatialCatalog
