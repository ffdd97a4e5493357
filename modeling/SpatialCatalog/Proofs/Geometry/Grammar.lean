import SpatialCatalog.Proofs.Geometry.Decoded

/-!
# The grammar of geometries

`Geometry.Denotes raw g` says in the words of a grammar which undecoded geometries stand for which
geometries: the names of the seven types, how deep the coordinates of each are, how many positions,
lines and rings it has, and which rings are closed. It does not mention the decoder.

* `DenotesPosition` and `DenotesList` say what coordinates are, level by level.
* `Geometry.ofRaw_of_denotes` decodes all that the grammar allows, `Geometry.denotes_of_ofRaw` says
  that nothing else is decoded.
* `Geometry.ofRaw_exact` puts both together with what happens to all other values.
-/

namespace SpatialCatalog

/-! ### Coordinates -/

/-- A value denotes a position: an array of two numbers at least and of nothing but numbers. The
numbers past the third are dropped. -/
inductive DenotesPosition : Json → Position → Prop
  | flat (x y : Number) :
      DenotesPosition (.arr [.num x, .num y]) ⟨x.toDouble, y.toDouble, none⟩
  | raised (x y z : Number) (dropped : List Number) :
      DenotesPosition (.arr (.num x :: .num y :: .num z :: dropped.map .num))
        ⟨x.toDouble, y.toDouble, some z.toDouble⟩

/-- A value denotes a list: an array whose items denote those of the list, one by one. -/
def DenotesList {α : Type} (denotes : Json → α → Prop) (j : Json) (as : List α) : Prop :=
  ∃ items, j = .arr items ∧ List.Forall₂ denotes items as

theorem Json.double_eq_ok_iff {j : Json} {x : Double} :
    j.double = .ok x ↔ ∃ n, j = .num n ∧ x = n.toDouble := by
  cases j with
  | num n => simp [double, eq_comm]
  | _ => simp [double, refuse]

/-- Values that are decoded as numbers are numbers. -/
theorem exists_numbers {js : List Json} {xs : List Double}
    (h : List.Forall₂ (fun j x => j.double = .ok x) js xs) :
    ∃ ns : List Number, js = ns.map .num ∧ xs = ns.map Number.toDouble := by
  induction h with
  | nil => exact ⟨[], rfl, rfl⟩
  | cons hj _ ih =>
    obtain ⟨n, rfl, rfl⟩ := Json.double_eq_ok_iff.mp hj
    obtain ⟨ns, rfl, rfl⟩ := ih
    exact ⟨n :: ns, rfl, rfl⟩

/-- A list of numbers is decoded as its values. -/
theorem list_double_numbers (ns : List Number) :
    (Json.arr (ns.map .num)).list Json.double = .ok (ns.map Number.toDouble) := by
  refine Json.list_eq_ok_iff.mpr ⟨_, rfl, ?_⟩
  induction ns with
  | nil => exact .nil
  | cons n ns ih => exact .cons rfl ih

theorem Position.decode_eq_ok_iff_denotes {j : Json} {p : Position} :
    Position.decode j = .ok p ↔ DenotesPosition j p := by
  constructor
  · intro h
    obtain ⟨rest, hz, hvalues⟩ := Position.decode_eq_ok_iff.mp h
    obtain ⟨js, rfl, hall⟩ := Json.list_eq_ok_iff.mp hvalues
    obtain ⟨ns, rfl, hns⟩ := exists_numbers hall
    obtain ⟨x, y, z⟩ := p
    -- Two numbers are there, and a third one decides on the altitude.
    rcases ns with _ | ⟨a, _ | ⟨b, _ | ⟨c, ns⟩⟩⟩
    · cases hns
    · cases hns
    · cases hns
      obtain rfl := hz
      exact .flat a b
    · cases hns
      obtain rfl := hz
      exact .raised a b c ns
  · intro h
    cases h with
    | flat x y => exact Position.decode_eq_ok_iff.mpr ⟨[], rfl, list_double_numbers [x, y]⟩
    | raised x y z dropped =>
      exact Position.decode_eq_ok_iff.mpr
        ⟨_, rfl, list_double_numbers (x :: y :: z :: dropped)⟩

theorem Json.list_eq_ok_iff_denotes {α : Type} {decode : Json → Decoded α}
    {denotes : Json → α → Prop} (h : ∀ {j : Json} {a : α}, decode j = .ok a ↔ denotes j a)
    {j : Json} {as : List α} : j.list decode = .ok as ↔ DenotesList denotes j as := by
  rw [Json.list_eq_ok_iff, DenotesList]
  simp only [h]

namespace Geometry

theorem positions_eq_ok_iff {j : Json} {ps : Positions} :
    positions j = .ok ps ↔ DenotesList DenotesPosition j ps :=
  Json.list_eq_ok_iff_denotes Position.decode_eq_ok_iff_denotes

theorem positionLists_eq_ok_iff {j : Json} {ls : List Positions} :
    positionLists j = .ok ls ↔ DenotesList (DenotesList DenotesPosition) j ls :=
  Json.list_eq_ok_iff_denotes positions_eq_ok_iff

theorem list_positionLists_eq_ok_iff {j : Json} {ps : List (List Positions)} :
    j.list positionLists = .ok ps ↔
      DenotesList (DenotesList (DenotesList DenotesPosition)) j ps :=
  Json.list_eq_ok_iff_denotes positionLists_eq_ok_iff

/-! ### Rings -/

/-- A ring: four positions at least, of which the first and the last are numerically equal in `x`
and in `y`, whatever their altitudes. -/
structure ClosedRing (ps : Positions) : Prop where
  length : 4 ≤ ps.length
  closed : ∃ first last, ps.head? = some first ∧ ps.getLast? = some last ∧
    first.x.same last.x ∧ first.y.same last.y

theorem isRing_iff {ps : Positions} : IsRing ps ↔ ClosedRing ps := by
  have hclosed : isClosed ps ↔ ∃ first last, ps.head? = some first ∧ ps.getLast? = some last ∧
      first.x.same last.x ∧ first.y.same last.y := by
    unfold isClosed
    cases ps.head? with
    | none => simp
    | some first => cases ps.getLast? <;> simp [Position.sameXY]
  constructor
  · rintro ⟨hlength, h⟩
    exact ⟨hlength, hclosed.mp h⟩
  · rintro ⟨hlength, h⟩
    exact ⟨hlength, hclosed.mpr h⟩

theorem isPolygon_iff {rs : List Positions} :
    IsPolygon rs ↔ rs ≠ [] ∧ ∀ r ∈ rs, ClosedRing r := by
  simp only [IsPolygon, isRing_iff]

/-! ### Geometries -/

mutual

/-- An undecoded geometry denotes a geometry. Of `coordinates` and `geometries` the one that its
type does not ask for may be anything. -/
inductive Denotes : RawGeometry → Geometry → Prop
  | point {c : Json} {gs : Option (List RawGeometry)} {p : Position}
      (coordinates : DenotesPosition c p) : Denotes ⟨"Point", some c, gs⟩ (point p)
  | multiPoint {c : Json} {gs : Option (List RawGeometry)} {ps : Positions}
      (coordinates : DenotesList DenotesPosition c ps) (length : 1 ≤ ps.length) :
      Denotes ⟨"MultiPoint", some c, gs⟩ (multiPoint ps)
  | lineString {c : Json} {gs : Option (List RawGeometry)} {ps : Positions}
      (coordinates : DenotesList DenotesPosition c ps) (length : 2 ≤ ps.length) :
      Denotes ⟨"LineString", some c, gs⟩ (lineString ps)
  | polygon {c : Json} {gs : Option (List RawGeometry)} {rings : List Positions}
      (coordinates : DenotesList (DenotesList DenotesPosition) c rings)
      (exterior : 1 ≤ rings.length) (closed : ∀ r ∈ rings, ClosedRing r) :
      Denotes ⟨"Polygon", some c, gs⟩ (polygon rings)
  | multiLineString {c : Json} {gs : Option (List RawGeometry)} {lines : List Positions}
      (coordinates : DenotesList (DenotesList DenotesPosition) c lines)
      (lengths : ∀ l ∈ lines, 2 ≤ l.length) :
      Denotes ⟨"MultiLineString", some c, gs⟩ (multiLineString lines)
  | multiPolygon {c : Json} {gs : Option (List RawGeometry)} {polygons : List (List Positions)}
      (coordinates : DenotesList (DenotesList (DenotesList DenotesPosition)) c polygons)
      (exteriors : ∀ p ∈ polygons, 1 ≤ p.length) (closed : ∀ p ∈ polygons, ∀ r ∈ p, ClosedRing r) :
      Denotes ⟨"MultiPolygon", some c, gs⟩ (multiPolygon polygons)
  | collection {cs : Option Json} {gs : List RawGeometry} {members : List Geometry}
      (geometries : DenotesAll gs members) :
      Denotes ⟨"GeometryCollection", cs, some gs⟩ (collection members)

/-- Geometry by geometry. -/
inductive DenotesAll : List RawGeometry → List Geometry → Prop
  | nil : DenotesAll [] []
  | cons {raw : RawGeometry} {gs : List RawGeometry} {g : Geometry} {members : List Geometry}
      (first : Denotes raw g) (rest : DenotesAll gs members) :
      DenotesAll (raw :: gs) (g :: members)

end

/-- Coordinates that are decoded are there and denote what they are decoded as. -/
theorem coordinates_eq_ok_iff_denotes {α : Type} {type : GeometryType}
    {decode : Json → Decoded α} {denotes : Json → α → Prop}
    (h : ∀ {j : Json} {a : α}, decode j = .ok a ↔ denotes j a) {cs : Option Json} {a : α} :
    coordinates type decode cs = .ok a ↔ ∃ c, cs = some c ∧ denotes c a := by
  rw [coordinates_eq_ok_iff]
  simp only [h]

mutual

/-- Nothing is decoded but what the grammar allows. -/
theorem denotes_of_ofRaw : ∀ (raw : RawGeometry) {g : Geometry}, ofRaw raw = .ok g → Denotes raw g
  | ⟨name, cs, gs⟩, g, h => by
    obtain ⟨rfl, hchecked, hparts⟩ := checked_of_ofRaw h
    cases g with
    | point p =>
      obtain ⟨c, rfl, hc⟩ :=
        (coordinates_eq_ok_iff_denotes Position.decode_eq_ok_iff_denotes).mp hparts
      exact .point hc
    | multiPoint ps =>
      obtain ⟨c, rfl, hc⟩ := (coordinates_eq_ok_iff_denotes positions_eq_ok_iff).mp hparts
      exact .multiPoint hc (List.length_pos_iff.mpr hchecked)
    | lineString ps =>
      obtain ⟨c, rfl, hc⟩ := (coordinates_eq_ok_iff_denotes positions_eq_ok_iff).mp hparts
      exact .lineString hc hchecked
    | polygon rs =>
      obtain ⟨c, rfl, hc⟩ := (coordinates_eq_ok_iff_denotes positionLists_eq_ok_iff).mp hparts
      obtain ⟨hne, hclosed⟩ := isPolygon_iff.mp hchecked
      exact .polygon hc (List.length_pos_iff.mpr hne) hclosed
    | multiLineString ls =>
      obtain ⟨c, rfl, hc⟩ := (coordinates_eq_ok_iff_denotes positionLists_eq_ok_iff).mp hparts
      exact .multiLineString hc hchecked
    | multiPolygon ps =>
      obtain ⟨c, rfl, hc⟩ :=
        (coordinates_eq_ok_iff_denotes list_positionLists_eq_ok_iff).mp hparts
      have hpolygons := fun p hp => isPolygon_iff.mp (hchecked p hp)
      exact .multiPolygon hc (fun p hp => List.length_pos_iff.mpr (hpolygons p hp).1)
        fun p hp => (hpolygons p hp).2
    | collection members =>
      obtain ⟨l, rfl, hmembers⟩ := hparts
      exact .collection (denotesAll_of_ofRawList l hmembers)

theorem denotesAll_of_ofRawList : ∀ (l : List RawGeometry) {members : List Geometry},
    ofRawList l = .ok members → DenotesAll l members
  | [], members, h => by
    obtain rfl := Except.ok.inj h
    exact .nil
  | raw :: l, members, h => by
    obtain ⟨g, hg, h⟩ := bind_eq_ok_iff.mp h
    obtain ⟨gs, hgs, rfl⟩ := map_eq_ok_iff.mp h
    exact .cons (denotes_of_ofRaw raw hg) (denotesAll_of_ofRawList l hgs)

end

mutual

/-- All that the grammar allows is decoded. -/
theorem ofRaw_of_denotes : ∀ {raw : RawGeometry} {g : Geometry}, Denotes raw g → ofRaw raw = .ok g
  | _, _, .point hc =>
    ofRaw_of_checked (g := point _) trivial
      ((coordinates_eq_ok_iff_denotes Position.decode_eq_ok_iff_denotes).mpr ⟨_, rfl, hc⟩)
  | _, _, .multiPoint hc hlength =>
    ofRaw_of_checked (g := multiPoint _) (List.length_pos_iff.mp hlength)
      ((coordinates_eq_ok_iff_denotes positions_eq_ok_iff).mpr ⟨_, rfl, hc⟩)
  | _, _, .lineString hc hlength =>
    ofRaw_of_checked (g := lineString _) hlength
      ((coordinates_eq_ok_iff_denotes positions_eq_ok_iff).mpr ⟨_, rfl, hc⟩)
  | _, _, .polygon hc hexterior hclosed =>
    ofRaw_of_checked (g := polygon _)
      (isPolygon_iff.mpr ⟨List.length_pos_iff.mp hexterior, hclosed⟩)
      ((coordinates_eq_ok_iff_denotes positionLists_eq_ok_iff).mpr ⟨_, rfl, hc⟩)
  | _, _, .multiLineString hc hlengths =>
    ofRaw_of_checked (g := multiLineString _) hlengths
      ((coordinates_eq_ok_iff_denotes positionLists_eq_ok_iff).mpr ⟨_, rfl, hc⟩)
  | _, _, .multiPolygon hc hexteriors hclosed =>
    ofRaw_of_checked (g := multiPolygon _)
      (fun p hp => isPolygon_iff.mpr ⟨List.length_pos_iff.mp (hexteriors p hp), hclosed p hp⟩)
      ((coordinates_eq_ok_iff_denotes list_positionLists_eq_ok_iff).mpr ⟨_, rfl, hc⟩)
  | _, _, .collection hmembers =>
    ofRaw_of_checked (g := collection _) trivial ⟨_, rfl, ofRawList_of_denotesAll hmembers⟩

theorem ofRawList_of_denotesAll : ∀ {l : List RawGeometry} {members : List Geometry},
    DenotesAll l members → ofRawList l = .ok members
  | _, _, .nil => rfl
  | _, _, .cons hfirst hrest => by
    rw [ofRawList, ofRaw_of_denotes hfirst, bind_ok rfl, ofRawList_of_denotesAll hrest]
    rfl

end

/-! ### The parts that do not count -/

theorem ofRaw_collection (cs : Option Json) (gs : Option (List RawGeometry)) :
    ofRaw ⟨"GeometryCollection", cs, gs⟩ = ofRawMembers gs := by
  have hname : GeometryType.ofName? "GeometryCollection" = some .collection :=
    GeometryType.ofName?_name .collection
  rw [ofRaw, hname]

theorem ofRaw_eq_of_ne {name : String} (h : name ≠ "GeometryCollection") (cs : Option Json)
    (gs gs' : Option (List RawGeometry)) : ofRaw ⟨name, cs, gs⟩ = ofRaw ⟨name, cs, gs'⟩ := by
  rw [ofRaw, ofRaw]
  cases hname : GeometryType.ofName? name with
  | none => rfl
  | some type =>
    cases type with
    | collection => exact absurd (GeometryType.name_of_ofName? hname) h
    | _ => rfl

/-- **The decoder accepts just its grammar.** What denotes a geometry is decoded as this geometry,
and anything else is refused with the error of geometries that cannot be decoded. The part that a
type does not ask for never counts, for the error neither. -/
theorem ofRaw_exact (raw : RawGeometry) :
    (∀ g, ofRaw raw = .ok g ↔ Denotes raw g) ∧
      ((∃ g, Denotes raw g) ∨
        ∃ cause, (ofRaw raw).mapError Error.geometry = .error (.geometry cause)) ∧
      if raw.type = "GeometryCollection" then
        ∀ cs, ofRaw { raw with coordinates := cs } = ofRaw raw
      else ∀ gs, ofRaw { raw with geometries := gs } = ofRaw raw := by
  refine ⟨fun g => ⟨denotes_of_ofRaw raw, ofRaw_of_denotes⟩, ?_, ?_⟩
  · cases h : ofRaw raw with
    | ok g => exact .inl ⟨g, denotes_of_ofRaw raw h⟩
    | error cause => exact .inr ⟨cause, rfl⟩
  · obtain ⟨name, cs, gs⟩ := raw
    split
    next hname =>
      obtain rfl : name = "GeometryCollection" := hname
      intro cs'
      rw [ofRaw_collection, ofRaw_collection]
    next hname => exact fun gs' => ofRaw_eq_of_ne hname cs gs' gs

end Geometry

end SpatialCatalog
