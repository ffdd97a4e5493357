import SpatialCatalog.Proofs.Geometry.Grammar
import SpatialCatalog.Search

/-!
# What a posted value gives

`Search.Gives j s` relates a posted value to the search that it gives in the words of a grammar:
which values the fields have, and what stands for a field that is absent. It does not mention the
decoder.

* A record is an object, where the last value of a key counts, or an array of its fields in order
  (`RecordMembers`).
* An option is absent or null (`Optionally`), and an absent list is empty (`ListedOrEmpty`).
* `RawGeometry.Gives` goes through the members of a geometry in order, as deep as they are.

A value that is decoded gives what it is decoded as (`Search.gives_of_decode`), and nothing else
(`Search.rightUnique_gives`).
-/

namespace SpatialCatalog

/-! ### Fields -/

/-- The value that members give for a key. Of several the last one counts. -/
def Members.given? (ms : Members) (key : String) : Option Json := ms.reverse.lookup key

/-- A value has these members as a record: those of an object, or those that an array stands for,
which has the values of the fields in order. It may end early, after as many as a record needs. -/
inductive RecordMembers (fields : List String) (least : Nat) : Json → Members → Prop
  | obj (ms : Members) : RecordMembers fields least (.obj ms) ms
  | arr {xs : List Json} (least_le : least ≤ xs.length) (le_most : xs.length ≤ fields.length) :
      RecordMembers fields least (.arr xs) (fields.zip xs)

/-- A field that may be absent or null gives an option. -/
inductive Optionally {α : Type} (gives : Json → α → Prop) : Option Json → Option α → Prop
  | absent : Optionally gives none none
  | null : Optionally gives (some .null) none
  | given {j : Json} {a : α} (h : gives j a) : Optionally gives (some j) (some a)

/-- A field gives a list, which is empty where the field is absent. -/
inductive ListedOrEmpty {α : Type} (gives : Json → α → Prop) : Option Json → List α → Prop
  | absent : ListedOrEmpty gives none []
  | given {j : Json} {as : List α} (h : DenotesList gives j as) : ListedOrEmpty gives (some j) as

/-- A text. -/
def GivesText (j : Json) (s : String) : Prop := j = .str s

/-- A whole number of 64 bits with a sign. -/
def GivesInt64 (j : Json) (n : Int) : Prop := j = .int n ∧ -twoPow 63 ≤ n ∧ n < twoPow 63

/-- A number, as the binary64 value nearest to it. -/
def GivesDouble (j : Json) (x : Double) : Prop := ∃ n, j = .num n ∧ x = n.toDouble

/-- Any value but null. -/
def GivesItself (j k : Json) : Prop := j ≠ .null ∧ k = j

/-- A directive needs both of its fields. -/
inductive SortBy.Gives (j : Json) (s : SortBy) : Prop
  | record {ms : Members} (members : RecordMembers ["field", "direction"] 2 j ms)
      (field : ms.given? "field" = some (.str s.field))
      (direction : ms.given? "direction" = some (.str s.direction))

namespace RawGeometry

mutual

/-- A geometry needs its type; its coordinates are any value. -/
inductive Gives : Json → RawGeometry → Prop
  | record {j : Json} {ms : Members} {type : String} {cs : Option Json}
      {gs : Option (List RawGeometry)}
      (members : RecordMembers ["type", "coordinates", "geometries"] 1 j ms)
      (named : ms.given? "type" = some (.str type))
      (coordinates : Optionally GivesItself (ms.given? "coordinates") cs)
      (geometries : GivesGeometries (ms.given? "geometries") gs) : Gives j ⟨type, cs, gs⟩

/-- The members of a collection, which may be absent or null. -/
inductive GivesGeometries : Option Json → Option (List RawGeometry) → Prop
  | absent : GivesGeometries none none
  | null : GivesGeometries (some .null) none
  | given {xs : List Json} {gs : List RawGeometry} (h : GivesList xs gs) :
      GivesGeometries (some (.arr xs)) (some gs)

/-- Geometry by geometry. -/
inductive GivesList : List Json → List RawGeometry → Prop
  | nil : GivesList [] []
  | cons {x : Json} {xs : List Json} {g : RawGeometry} {gs : List RawGeometry} (head : Gives x g)
      (tail : GivesList xs gs) : GivesList (x :: xs) (g :: gs)

end

end RawGeometry

namespace Search

/-- The values of the keys give the fields of a search. -/
structure GivenBy (given : String → Option Json) (s : Search) : Prop where
  ids : ListedOrEmpty GivesText (given "ids") s.ids
  collections : ListedOrEmpty GivesText (given "collections") s.collections
  limit : Optionally GivesInt64 (given "limit") s.limit
  bbox : Optionally (DenotesList GivesDouble) (given "bbox") s.bbox
  geometry : Optionally RawGeometry.Gives (given "geometry") s.geometry
  geometrycollection :
    Optionally RawGeometry.Gives (given "geometrycollection") s.geometrycollection
  sortby : ListedOrEmpty SortBy.Gives (given "sortby") s.sortby

/-- A value gives a search. An array needs all of the fields but the last. -/
inductive Gives (j : Json) (s : Search) : Prop
  | record {ms : Members} (members : RecordMembers fieldNames 6 j ms) (fields : s.GivenBy ms.given?)

end Search

/-- The members of a record are values in it. -/
theorem RecordMembers.inRange {fields : List String} {least : Nat} {j : Json} {ms : Members}
    (h : RecordMembers fields least j ms) (hj : j.InRange) : ∀ m ∈ ms, m.2.InRange := by
  cases h with
  | obj ms =>
    obtain ⟨_, -, hms⟩ := hj.bounded.exists_obj
    exact fun m hm => (hms m hm).inRange
  | arr _ _ =>
    obtain ⟨_, -, hxs⟩ := hj.bounded.exists_arr
    exact fun m hm => (hxs m.2 (List.of_mem_zip hm).2).inRange

/-- What members give is the value of one of them. -/
theorem Members.mem_of_given? {ms : Members} {key : String} {value : Json}
    (h : ms.given? key = some value) : (key, value) ∈ ms := by
  obtain ⟨earlier, later, heq, -⟩ := List.lookup_eq_some_iff.mp h
  rw [← List.mem_reverse, heq]
  exact List.mem_append_right _ List.mem_cons_self

/-- An option that is there is given by a value. -/
theorem Optionally.exists_of_some {α : Type} {gives : Json → α → Prop} {o : Option Json} {a : α}
    (h : Optionally gives o (some a)) : ∃ j, o = some j ∧ gives j a := by
  cases h with
  | given h => exact ⟨_, rfl, h⟩

/-! ### Decoding fields -/

/-- A fold that goes well keeps what is known of the steps that are behind it, the last one
first. -/
theorem foldlM_seen {α β ε : Type} {f : β → α → Except ε β} {P : List α → β → Prop}
    (step : ∀ {seen b b' x}, P seen b → f b x = .ok b' → P (x :: seen) b') {xs : List α} {b b' : β}
    (start : P [] b) (h : xs.foldlM f b = .ok b') : P xs.reverse b' := by
  suffices hseen : ∀ seen b, P seen b → xs.foldlM f b = .ok b' → P (xs.reverse ++ seen) b' by
    rw [← List.append_nil xs.reverse]
    exact hseen [] b start h
  clear start h
  induction xs with
  | nil =>
    intro seen b hb h
    exact pure_eq_ok_iff.mp h ▸ hb
  | cons x xs ih =>
    intro seen b hb h
    rw [List.foldlM_cons] at h
    obtain ⟨c, hc, hrest⟩ := do_eq_ok_iff.mp h
    rw [List.reverse_cons, List.append_assoc]
    exact ih (x :: seen) c (step hb hc) hrest

section

variable {α : Type} {decode : Json → Decoded α} {gives : Json → α → Prop}

theorem Json.gives_of_list (h : ∀ {j a}, decode j = .ok a → gives j a) {j : Json} {as : List α}
    (hj : j.list decode = .ok as) : DenotesList gives j as := by
  obtain ⟨items, rfl, hall⟩ := Json.list_eq_ok_iff.mp hj
  exact ⟨items, rfl, hall.imp fun _ _ => h⟩

theorem Json.gives_of_optional (h : ∀ {j a}, decode j = .ok a → gives j a) {j : Json} {o : Option α}
    (hj : j.optional decode = .ok o) : Optionally gives (some j) o := by
  unfold optional at hj
  split at hj
  · obtain rfl := Except.ok.inj hj
    exact .null
  · obtain ⟨a, ha, rfl⟩ := map_eq_ok_iff.mp hj
    exact .given (h ha)

end

theorem Json.gives_of_string {j : Json} {s : String} (h : j.string = .ok s) : GivesText j s := by
  cases j with
  | str t => exact congrArg str (Except.ok.inj h)
  | _ => cases h

theorem Json.gives_of_int64 {j : Json} {n : Int} (h : j.int64 = .ok n) : GivesInt64 j n := by
  unfold int64 boundedInt at h
  split at h
  next m =>
    split at h
    next hbounds =>
      obtain rfl := Except.ok.inj h
      exact ⟨rfl, hbounds.1, Int.lt_of_le_sub_one hbounds.2⟩
    next => cases h
  next => cases h

theorem Json.gives_of_double {j : Json} {x : Double} (h : j.double = .ok x) : GivesDouble j x :=
  Json.double_eq_ok_iff.mp h

/-- A member with another key gives a key no value. -/
theorem lookup_cons_of_ne {key k : String} {value : Json} {ms : Members} (h : key ≠ k) :
    List.lookup k ((key, value) :: ms) = ms.lookup k := by
  rw [List.lookup_cons, beq_false_of_ne h.symm]

/-- The value of a field that a record needs. -/
theorem required_eq_ok_iff {α : Type} {field : Option α} {name : String} {a : α} :
    required field name = .ok a ↔ field = some a := by
  cases field <;> simp [required]

/-! ### Decoding directives -/

namespace SortBy

/-- The fields found so far are those of the members behind. -/
structure Draft.FoundIn (seen : Members) (d : Draft) : Prop where
  field : seen.lookup "field" = d.field.map .str
  direction : seen.lookup "direction" = d.direction.map .str

theorem Draft.FoundIn.read {seen : Members} {d d' : Draft} {key : String} {value : Json}
    (hd : d.FoundIn seen) (h : d.read key value = .ok d') : d'.FoundIn ((key, value) :: seen) := by
  unfold Draft.read at h
  split at h
  next =>
    obtain ⟨s, hs, rfl⟩ := map_eq_ok_iff.mp h
    obtain rfl := Json.gives_of_string hs
    exact ⟨rfl, hd.direction⟩
  next =>
    obtain ⟨s, hs, rfl⟩ := map_eq_ok_iff.mp h
    obtain rfl := Json.gives_of_string hs
    exact ⟨hd.field, rfl⟩
  next hfield hdirection =>
    obtain rfl := Except.ok.inj h
    constructor
    · rw [lookup_cons_of_ne hfield, hd.field]
    · rw [lookup_cons_of_ne hdirection, hd.direction]

/-- A directive is decoded from what gives it. -/
theorem gives_of_decode {j : Json} {s : SortBy} (h : decode j = .ok s) : Gives j s := by
  cases j with
  | obj ms =>
    obtain ⟨d, hd, hfinish⟩ := bind_eq_ok_iff.mp h
    have hfound : d.FoundIn ms.reverse :=
      foldlM_seen (fun hd hread => hd.read hread) ⟨rfl, rfl⟩ hd
    simp only [Draft.finish, bind_eq_ok_iff, map_eq_ok_iff, required_eq_ok_iff] at hfinish
    obtain ⟨field, hfield, direction, hdirection, rfl⟩ := hfinish
    exact .record (.obj ms) (hfound.field.trans (by rw [hfield]; rfl))
      (hfound.direction.trans (by rw [hdirection]; rfl))
  | arr xs =>
    obtain ⟨s', hs', hlength⟩ := bind_eq_ok_iff.mp h
    split at hlength
    next => cases hlength
    next hmost =>
      obtain rfl := Except.ok.inj hlength
      unfold ofArray at hs'
      split at hs'
      next => cases hs'
      next =>
        obtain ⟨_, -, hfew⟩ := bind_eq_ok_iff.mp hs'
        cases hfew
      next f d rest =>
        obtain ⟨field, hfield, hd⟩ := bind_eq_ok_iff.mp hs'
        obtain ⟨direction, hdirection, rfl⟩ := map_eq_ok_iff.mp hd
        obtain rfl := Json.gives_of_string hfield
        obtain rfl := Json.gives_of_string hdirection
        exact .record (.arr (by simp) (Nat.not_lt.mp hmost)) rfl rfl
  | null | bool _ | num _ | str _ => cases h

end SortBy

/-! ### Decoding geometries -/

namespace RawGeometry

/-- The fields found so far are given by the members behind. -/
structure Draft.FoundIn (seen : Members) (d : Draft) : Prop where
  type : seen.lookup "type" = d.type.map .str
  coordinates : Optionally GivesItself (seen.lookup "coordinates") d.coordinates
  geometries : GivesGeometries (seen.lookup "geometries") d.geometries

/-- A member that does not count. -/
theorem Draft.FoundIn.cons_of_ne {seen : Members} {d : Draft} {key : String} {value : Json}
    (hd : d.FoundIn seen) (htype : key ≠ "type") (hcoordinates : key ≠ "coordinates")
    (hgeometries : key ≠ "geometries") : d.FoundIn ((key, value) :: seen) where
  type := by rw [lookup_cons_of_ne htype, hd.type]
  coordinates := by rw [lookup_cons_of_ne hcoordinates]; exact hd.coordinates
  geometries := by rw [lookup_cons_of_ne hgeometries]; exact hd.geometries

theorem Draft.foundIn_nil : Draft.FoundIn [] {} := ⟨rfl, .absent, .absent⟩

theorem gives_coordinates? (j : Json) : Optionally GivesItself (some j) (coordinates? j) := by
  unfold coordinates?
  split
  next => exact .null
  next hne => exact .given ⟨hne, rfl⟩

mutual

/-- An undecoded geometry is decoded from what gives it. -/
theorem gives_of_decode : ∀ (j : Json) {raw : RawGeometry}, decode j = .ok raw → Gives j raw
  | .obj ms, raw, h => by
    obtain ⟨d, hd, hfinish⟩ := bind_eq_ok_iff.mp h
    have hfound := foundIn_decodeMembers ms Draft.foundIn_nil hd
    rw [List.append_nil] at hfound
    obtain ⟨type, htype, rfl⟩ := map_eq_ok_iff.mp hfinish
    rw [required_eq_ok_iff] at htype
    exact .record (.obj ms) (hfound.type.trans (by rw [htype]; rfl)) hfound.coordinates
      hfound.geometries
  | .arr [], _, h => by cases h
  | .arr [t], raw, h => by
    obtain ⟨type, ht, rfl⟩ := map_eq_ok_iff.mp h
    obtain rfl := Json.gives_of_string ht
    exact .record (.arr (by simp) (by simp)) rfl .absent .absent
  | .arr [t, c], raw, h => by
    obtain ⟨type, ht, rfl⟩ := map_eq_ok_iff.mp h
    obtain rfl := Json.gives_of_string ht
    exact .record (.arr (by simp) (by simp)) rfl (gives_coordinates? c) .absent
  | .arr (t :: c :: gs :: rest), raw, h => by
    obtain ⟨type, ht, h'⟩ := bind_eq_ok_iff.mp h
    obtain ⟨geometries, hgs, hraw⟩ := bind_eq_ok_iff.mp h'
    obtain rfl := Json.gives_of_string ht
    split at hraw
    next hrest =>
      obtain rfl := Except.ok.inj hraw
      obtain rfl := List.isEmpty_iff.mp hrest
      exact .record (.arr (by simp) (by simp)) rfl (gives_coordinates? c)
        (gives_of_decodeGeometries gs hgs)
    next => cases hraw
  | .null, _, h => by cases h
  | .bool _, _, h => by cases h
  | .num _, _, h => by cases h
  | .str _, _, h => by cases h

theorem foundIn_decodeMembers : ∀ (ms : Members) {seen : Members} {d d' : Draft},
    d.FoundIn seen → decodeMembers ms d = .ok d' → d'.FoundIn (ms.reverse ++ seen)
  | [], _, _, _, hd, h => Except.ok.inj h ▸ hd
  | (key, value) :: ms, seen, d, d', hd, h => by
    rw [List.reverse_cons, List.append_assoc]
    unfold decodeMembers at h
    split at h
    next =>
      obtain ⟨type, ht, hd'⟩ := bind_eq_ok_iff.mp h
      obtain rfl := Json.gives_of_string ht
      refine foundIn_decodeMembers ms ?_ hd'
      exact ⟨rfl, hd.coordinates, hd.geometries⟩
    next =>
      refine foundIn_decodeMembers ms ?_ h
      exact ⟨hd.type, gives_coordinates? value, hd.geometries⟩
    next =>
      obtain ⟨gs, hgs, hd'⟩ := bind_eq_ok_iff.mp h
      refine foundIn_decodeMembers ms ?_ hd'
      exact ⟨hd.type, hd.coordinates, gives_of_decodeGeometries value hgs⟩
    next htype hcoordinates hgeometries =>
      exact foundIn_decodeMembers ms (hd.cons_of_ne htype hcoordinates hgeometries) h

theorem gives_of_decodeGeometries : ∀ (j : Json) {gs : Option (List RawGeometry)},
    decodeGeometries j = .ok gs → GivesGeometries (some j) gs
  | .null, _, h => Except.ok.inj h ▸ .null
  | .arr xs, _, h => by
    obtain ⟨gs, hgs, rfl⟩ := map_eq_ok_iff.mp h
    exact .given (gives_of_decodeList xs hgs)
  | .bool _, _, h => by cases h
  | .num _, _, h => by cases h
  | .str _, _, h => by cases h
  | .obj _, _, h => by cases h

theorem gives_of_decodeList : ∀ (xs : List Json) {gs : List RawGeometry},
    decodeList xs = .ok gs → GivesList xs gs
  | [], _, h => Except.ok.inj h ▸ .nil
  | x :: xs, _, h => by
    obtain ⟨g, hg, h⟩ := bind_eq_ok_iff.mp h
    obtain ⟨gs, hgs, rfl⟩ := map_eq_ok_iff.mp h
    exact .cons (gives_of_decode x hg) (gives_of_decodeList xs hgs)

end

end RawGeometry

/-! ### Decoding searches -/

namespace Search

theorem gives_of_strings {j : Json} {as : List String} (h : strings j = .ok as) :
    ListedOrEmpty GivesText (some j) as := .given (Json.gives_of_list Json.gives_of_string h)

/-- What is read behind a member is what the member gives, and the other fields are as they were. -/
theorem GivenBy.read {seen : Members} {s s' : Search} {key : String} {value : Json}
    (hs : s.GivenBy fun k => seen.lookup k) (h : s.read key value = .ok s') :
    s'.GivenBy fun k => List.lookup k ((key, value) :: seen) := by
  unfold Search.read at h
  split at h
  next =>
    obtain ⟨ids, hids, rfl⟩ := map_eq_ok_iff.mp h
    exact { hs with ids := gives_of_strings hids }
  next =>
    obtain ⟨collections, hcollections, rfl⟩ := map_eq_ok_iff.mp h
    exact { hs with collections := gives_of_strings hcollections }
  next =>
    obtain ⟨limit, hlimit, rfl⟩ := map_eq_ok_iff.mp h
    exact { hs with limit := Json.gives_of_optional Json.gives_of_int64 hlimit }
  next =>
    obtain ⟨bbox, hbbox, rfl⟩ := map_eq_ok_iff.mp h
    exact { hs with
      bbox := Json.gives_of_optional (Json.gives_of_list Json.gives_of_double) hbbox }
  next =>
    obtain ⟨raw, hraw, rfl⟩ := map_eq_ok_iff.mp h
    exact { hs with
      geometry := Json.gives_of_optional (RawGeometry.gives_of_decode _) hraw }
  next =>
    obtain ⟨raw, hraw, rfl⟩ := map_eq_ok_iff.mp h
    exact { hs with
      geometrycollection := Json.gives_of_optional (RawGeometry.gives_of_decode _) hraw }
  next =>
    obtain ⟨sortby, hsortby, rfl⟩ := map_eq_ok_iff.mp h
    exact { hs with sortby := .given (Json.gives_of_list SortBy.gives_of_decode hsortby) }
  next hids hcollections hlimit hbbox hgeometry hgeometrycollection hsortby =>
    obtain rfl := Except.ok.inj h
    constructor
    · rw [lookup_cons_of_ne hids]; exact hs.ids
    · rw [lookup_cons_of_ne hcollections]; exact hs.collections
    · rw [lookup_cons_of_ne hlimit]; exact hs.limit
    · rw [lookup_cons_of_ne hbbox]; exact hs.bbox
    · rw [lookup_cons_of_ne hgeometry]; exact hs.geometry
    · rw [lookup_cons_of_ne hgeometrycollection]; exact hs.geometrycollection
    · rw [lookup_cons_of_ne hsortby]; exact hs.sortby

/-- A search without fields is given by no members. -/
theorem givenBy_nil : GivenBy (fun k => List.lookup k []) {} :=
  ⟨.absent, .absent, .absent, .absent, .absent, .absent, .absent⟩

theorem givenBy_foldlM {ms : Members} {s : Search}
    (h : ms.foldlM (fun s (key, value) => read s key value) {} = .ok s) : s.GivenBy ms.given? :=
  foldlM_seen (P := fun seen s => GivenBy (fun k => seen.lookup k) s)
    (fun hs hread => hs.read hread) givenBy_nil h

/-- A value is decoded by reading its members as those of a record, one by one. -/
theorem exists_members_of_decode {j : Json} {s : Search} (h : decode j = .ok s) :
    ∃ ms, RecordMembers fieldNames 6 j ms ∧
      ms.foldlM (fun s (key, value) => read s key value) {} = .ok s := by
  cases j with
  | obj ms =>
    obtain ⟨s', hs', hfinish⟩ := bind_eq_ok_iff.mp h
    obtain rfl := Except.ok.inj hfinish
    exact ⟨ms, .obj ms, hs'⟩
  | arr xs =>
    obtain ⟨s', hs', hlength⟩ := bind_eq_ok_iff.mp h
    split at hlength
    next => cases hlength
    next hmost =>
      obtain rfl := Except.ok.inj hlength
      obtain ⟨s'', hs'', hmissing⟩ := bind_eq_ok_iff.mp hs'
      split at hmissing
      next => cases hmissing
      next hleast =>
        obtain rfl := Except.ok.inj hmissing
        have hle : 6 ≤ xs.length := by
          unfold firstMissing? at hleast
          split at hleast
          next => cases hleast
          next =>
            split at hleast
            next => cases hleast
            next hlt => exact Nat.not_lt.mp hlt
        exact ⟨_, .arr hle (Nat.not_lt.mp hmost), hs''⟩
  | null | bool _ | num _ | str _ => cases h

/-- **A search is decoded from what gives it.** -/
theorem gives_of_decode {j : Json} {s : Search} (h : decode j = .ok s) : Gives j s := by
  obtain ⟨ms, hms, hfold⟩ := exists_members_of_decode h
  exact .record hms (givenBy_foldlM hfold)

end Search

/-! ### Nothing else is given -/

open Relator (RightUnique)

theorem RecordMembers.unique {fields : List String} {least : Nat} {j : Json} {ms ms' : Members}
    (h : RecordMembers fields least j ms) (h' : RecordMembers fields least j ms') : ms = ms' := by
  cases h <;> cases h' <;> rfl

section

variable {α : Type} {gives : Json → α → Prop}

theorem rightUnique_denotesList (h : RightUnique gives) : RightUnique (DenotesList gives) := by
  rintro j as bs ⟨js, rfl, has⟩ ⟨_, ⟨⟩, hbs⟩
  exact h.forall₂ has hbs

theorem rightUnique_listedOrEmpty (h : RightUnique gives) : RightUnique (ListedOrEmpty gives) := by
  intro o as bs has hbs
  cases has with
  | absent => cases hbs; rfl
  | given has =>
    cases hbs with
    | given hbs => exact rightUnique_denotesList h has hbs

/-- Null stands for an absent option only if it gives nothing itself. -/
theorem rightUnique_optionally (h : RightUnique gives) (hnull : ∀ a, ¬gives .null a) :
    RightUnique (Optionally gives) := by
  intro o a b ha hb
  cases ha with
  | absent => cases hb; rfl
  | null =>
    cases hb with
    | null => rfl
    | given hb => exact absurd hb (hnull _)
  | given ha =>
    cases hb with
    | null => exact absurd ha (hnull _)
    | given hb => rw [h ha hb]

end

theorem rightUnique_givesText : RightUnique GivesText :=
  fun _ _ _ hs ht => Json.str.inj (hs.symm.trans ht)

theorem rightUnique_givesInt64 : RightUnique GivesInt64 := by
  rintro j m n ⟨rfl, -⟩ ⟨⟨⟩, -⟩
  rfl

theorem rightUnique_givesDouble : RightUnique GivesDouble := by
  rintro j x y ⟨m, rfl, rfl⟩ ⟨n, ⟨⟩, rfl⟩
  rfl

theorem rightUnique_givesItself : RightUnique GivesItself :=
  fun _ _ _ hk hl => hk.2.trans hl.2.symm

theorem SortBy.rightUnique_gives : RightUnique SortBy.Gives := by
  rintro j s t ⟨hms, hfield, hdirection⟩ ⟨hms', hfield', hdirection'⟩
  obtain rfl := hms.unique hms'
  rw [hfield] at hfield'
  rw [hdirection] at hdirection'
  cases s
  cases t
  cases hfield'
  cases hdirection'
  rfl

namespace RawGeometry

mutual

theorem Gives.unique : ∀ {j : Json} {g h : RawGeometry}, Gives j g → Gives j h → g = h
  | _, _, _, .record hms htype hcs hgs, .record hms' htype' hcs' hgs' => by
    obtain rfl := hms.unique hms'
    rw [htype] at htype'
    cases htype'
    have hitself := rightUnique_optionally rightUnique_givesItself fun _ h => h.1 rfl
    rw [hitself hcs hcs', hgs.unique hgs']

theorem GivesGeometries.unique : ∀ {o : Option Json} {gs hs : Option (List RawGeometry)},
    GivesGeometries o gs → GivesGeometries o hs → gs = hs
  | _, _, _, .absent, .absent => rfl
  | _, _, _, .null, .null => rfl
  | _, _, _, .given hgs, .given hhs => congrArg some (hgs.unique hhs)

theorem GivesList.unique : ∀ {xs : List Json} {gs hs : List RawGeometry},
    GivesList xs gs → GivesList xs hs → gs = hs
  | _, _, _, .nil, .nil => rfl
  | _, _, _, .cons hg hgs, .cons hh hhs => by rw [hg.unique hh, hgs.unique hhs]

end

theorem rightUnique_optionally_gives : RightUnique (Optionally Gives) :=
  rightUnique_optionally (fun _ _ _ => Gives.unique) (by rintro g ⟨⟨⟩⟩)

end RawGeometry

namespace Search

theorem rightUnique_box : RightUnique (Optionally (DenotesList GivesDouble)) :=
  rightUnique_optionally (rightUnique_denotesList rightUnique_givesDouble)
    fun _ ⟨_, h, _⟩ => by cases h

theorem GivenBy.unique {given : String → Option Json} {s t : Search} (hs : s.GivenBy given)
    (ht : t.GivenBy given) : s = t := by
  have htexts := rightUnique_listedOrEmpty rightUnique_givesText
  have hlimit := rightUnique_optionally rightUnique_givesInt64 fun _ h => by cases h.1
  have hsortby := rightUnique_listedOrEmpty SortBy.rightUnique_gives
  have hgeometry := RawGeometry.rightUnique_optionally_gives
  cases s
  cases t
  rw [mk.injEq]
  exact ⟨htexts hs.ids ht.ids, htexts hs.collections ht.collections, hlimit hs.limit ht.limit,
    rightUnique_box hs.bbox ht.bbox, hgeometry hs.geometry ht.geometry,
    hgeometry hs.geometrycollection ht.geometrycollection, hsortby hs.sortby ht.sortby⟩

/-- **A value gives one search at most.** -/
theorem rightUnique_gives : RightUnique Gives := by
  rintro j s t ⟨hms, hs⟩ ⟨hms', ht⟩
  obtain rfl := hms.unique hms'
  exact hs.unique ht

end Search

end SpatialCatalog
