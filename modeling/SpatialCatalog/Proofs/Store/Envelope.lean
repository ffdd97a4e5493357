import SpatialCatalog.Proofs.Store.Page

/-!
# What a box finds

The ends of a box are kept in the order in which they were given, and each is compared with the
opposite end of an envelope. For a side in order this asks for a number that box and envelope have
in common. For a side that is reversed it asks for more: the envelope must hold the whole gap
between the two ends. So a reversed box is met by what reaches across its gap, and by nothing else.

* `Bbox.Reaches` says so side by side, and `Bbox.meets_iff_reaches` that this is the comparison.
* `Planar.Shape.ordered_box?`: the envelopes of shapes have their own ends in order.
* `Store.search_box_after` says which items a search with a box finds, reversed boxes included.
-/

namespace SpatialCatalog

/-! ### The order of numbers -/

namespace Double

variable {x y z : Double}

theorem le_trans (hxy : x.le y) (hyz : y.le z) : x.le z := by
  rcases x with x | ⟨_ | _⟩ | _ <;> rcases y with y | ⟨_ | _⟩ | _ <;>
    rcases z with z | ⟨_ | _⟩ | _ <;>
      simp only [le, decide_eq_true_eq, reduceCtorEq] at hxy hyz ⊢
  exact Int.le_trans hxy hyz

/-- Two values compare in one way or the other, unless one of them is not a number. -/
theorem le_total (hx : x.le x) (hy : y.le y) : x.le y ∨ y.le x := by
  rcases x with x | ⟨_ | _⟩ | _ <;> rcases y with y | ⟨_ | _⟩ | _ <;> simp [le] at hx hy ⊢
  exact Int.le_total x.units y.units

theorem le_self_of_isFinite (h : x.isFinite) : x.le x := by
  cases x with
  | finite x => simp [le]
  | _ => cases h

theorem le_self_of_le_left (h : x.le y) : x.le x := by
  rcases x with x | ⟨_ | _⟩ | _ <;> simp [le] at h ⊢

/-- Strictly less. What is not a number is neither less nor greater than anything. -/
def Below (x y : Double) : Prop := x.le y ∧ ¬y.le x

instance (x y : Double) : Decidable (x.Below y) := inferInstanceAs (Decidable (_ ∧ _))

/-- Between two ends, which count. -/
def Between (low high x : Double) : Prop := low.le x ∧ x.le high

end Double

/-! ### Sides -/

section

open Double (Between le_trans le_total)

variable {low high least greatest : Double}

/-- The side of an envelope from `least` to `greatest` holds the whole gap of a side of a box, which
is reversed. -/
def HoldsGap (low high least greatest : Double) : Prop :=
  high.Below low ∧ ∀ x, Between high low x → Between least greatest x

/-- A side of a box reaches a side of an envelope: in order, they have a number in common; reversed,
the envelope holds the gap. -/
def SideReaches (low high least greatest : Double) : Prop :=
  (low.le high ∧ ∃ x, Between low high x ∧ Between least greatest x) ∨
    HoldsGap low high least greatest

/-- Two sides in order whose ends are in reach have a number in common: the greater of the two lower
ends. -/
theorem exists_between (horder : low.le high) (hordered : least.le greatest)
    (hleast : least.le high) (hgreatest : low.le greatest) :
    ∃ x, Between low high x ∧ Between least greatest x := by
  have hlow := Double.le_self_of_le_left horder
  have hself := Double.le_self_of_le_left hordered
  obtain h | h := le_total hlow hself
  · exact ⟨least, ⟨h, hleast⟩, hself, hordered⟩
  · exact ⟨low, ⟨hlow, horder⟩, h, hgreatest⟩

theorem sideReaches_iff (hlow : low.isFinite) (hhigh : high.isFinite)
    (hordered : least.le greatest) :
    SideReaches low high least greatest ↔ least.le high ∧ low.le greatest := by
  have hlow := Double.le_self_of_isFinite hlow
  have hhigh := Double.le_self_of_isFinite hhigh
  constructor
  · rintro (⟨-, x, ⟨hlx, hxh⟩, hleast, hgreatest⟩ | ⟨hreversed, hgap⟩)
    · exact ⟨le_trans hleast hxh, le_trans hlx hgreatest⟩
    -- The ends of the gap are in it.
    · exact ⟨(hgap high ⟨hhigh, hreversed.1⟩).1, (hgap low ⟨hreversed.1, hlow⟩).2⟩
  · rintro ⟨hleast, hgreatest⟩
    by_cases horder : low.le high
    · exact .inl ⟨horder, exists_between horder hordered hleast hgreatest⟩
    · have hreversed := (le_total hlow hhigh).resolve_left horder
      refine .inr ⟨⟨hreversed, horder⟩, fun x hx => ?_⟩
      exact ⟨le_trans hleast hx.1, le_trans hx.2 hgreatest⟩

/-- What reaches a reversed side holds its gap. -/
theorem SideReaches.holdsGap (h : SideReaches low high least greatest)
    (hreversed : high.Below low) : HoldsGap low high least greatest :=
  h.resolve_left fun horder => hreversed.2 horder.1

end

/-! ### Boxes -/

namespace Bbox

/-- All four numbers are finite. -/
def IsFinite (b : Bbox) : Prop := ∀ x ∈ b.toList, x.isFinite

/-- The ends of both sides are in order. -/
structure Ordered (b : Bbox) : Prop where
  x : b.minX.le b.maxX
  y : b.minY.le b.maxY

/-- The ends of some side are out of order. -/
def Reversed (b : Bbox) : Prop := b.maxX.Below b.minX ∨ b.maxY.Below b.minY

/-- A box reaches an envelope with both of its sides. -/
structure Reaches (b envelope : Bbox) : Prop where
  x : SideReaches b.minX b.maxX envelope.minX envelope.maxX
  y : SideReaches b.minY b.maxY envelope.minY envelope.maxY

/-- An envelope holds the whole gap of some side of a box that is reversed. -/
def Bridges (b envelope : Bbox) : Prop :=
  HoldsGap b.minX b.maxX envelope.minX envelope.maxX ∨
    HoldsGap b.minY b.maxY envelope.minY envelope.maxY

theorem ofList_toList (b : Bbox) : ofList b.toList = .ok b := rfl

variable {b envelope : Bbox}

theorem meets_iff_reaches (hb : b.IsFinite) (he : envelope.Ordered) :
    b.meets envelope ↔ b.Reaches envelope := by
  obtain ⟨hminX, hminY, hmaxX, hmaxY⟩ :
      b.minX.isFinite ∧ b.minY.isFinite ∧ b.maxX.isFinite ∧ b.maxY.isFinite := by
    simpa [IsFinite, toList] using hb
  have hx := sideReaches_iff hminX hmaxX he.x
  have hy := sideReaches_iff hminY hmaxY he.y
  simp only [meets, Bool.and_eq_true]
  constructor
  · rintro ⟨⟨⟨hleast, hgreatest⟩, hlowest⟩, hhighest⟩
    exact ⟨hx.mpr ⟨hleast, hgreatest⟩, hy.mpr ⟨hlowest, hhighest⟩⟩
  · intro h
    obtain ⟨hleast, hgreatest⟩ := hx.mp h.x
    obtain ⟨hlowest, hhighest⟩ := hy.mp h.y
    exact ⟨⟨⟨hleast, hgreatest⟩, hlowest⟩, hhighest⟩

/-- What a reversed box reaches bridges its gap. -/
theorem Reaches.bridges (h : b.Reaches envelope) (hreversed : b.Reversed) : b.Bridges envelope :=
  hreversed.imp h.x.holdsGap h.y.holdsGap

end Bbox

/-! ### Envelopes of shapes -/

namespace Planar

/-- The ends of both sides of a box are in order. -/
structure Box.Ordered (b : Box) : Prop where
  x : b.minX.units ≤ b.maxX.units
  y : b.minY.units ≤ b.maxY.units

theorem units_lesser_le (a b : Finite64) :
    (lesser a b).units ≤ a.units ∧ (lesser a b).units ≤ b.units := by
  unfold lesser
  split <;> omega

theorem le_units_greater (a b : Finite64) :
    a.units ≤ (greater a b).units ∧ b.units ≤ (greater a b).units := by
  unfold greater
  split <;> omega

namespace Box

theorem Ordered.union {a b : Box} (ha : a.Ordered) : (a.union b).Ordered where
  x := ((units_lesser_le a.minX b.minX).1.trans ha.x).trans (le_units_greater a.maxX b.maxX).1
  y := ((units_lesser_le a.minY b.minY).1.trans ha.y).trans (le_units_greater a.maxY b.maxY).1

theorem ordered_union? {a b : Option Box} (ha : ∀ box ∈ a, box.Ordered)
    (hb : ∀ box ∈ b, box.Ordered) : ∀ box ∈ union? a b, box.Ordered := by
  cases a with
  | none => exact hb
  | some a =>
    cases b with
    | none => exact ha
    | some b =>
      rintro box ⟨⟩
      exact (ha a rfl).union

theorem ordered_ofPoint (p : Point) : (ofPoint p).Ordered := ⟨le_rfl, le_rfl⟩

theorem ordered_ofPoints? (ps : List Point) : ∀ box ∈ ofPoints? ps, box.Ordered := by
  refine List.foldlRecOn ps _ (motive := fun box? : Option Box => ∀ box ∈ box?, box.Ordered)
    (by simp) ?_
  intro box? h p _
  refine ordered_union? h ?_
  rintro box ⟨⟩
  exact ordered_ofPoint p

theorem Ordered.toBbox {b : Box} (h : b.Ordered) : b.toBbox.Ordered where
  x := by simpa [Box.toBbox, Double.le] using h.x
  y := by simpa [Box.toBbox, Double.le] using h.y

end Box

namespace Shape

mutual

/-- The box around a shape has its ends in order. -/
theorem ordered_box? : ∀ s : Shape, ∀ box ∈ s.box?, box.Ordered
  | point p => by
    rintro box ⟨⟩
    exact Box.ordered_ofPoint p
  | multiPoint ps => Box.ordered_ofPoints? ps
  | lineString ps => Box.ordered_ofPoints? ps
  | polygon p => Box.ordered_ofPoints? p.exterior
  | multiLineString lines => Box.ordered_ofPoints? lines.flatten
  | multiPolygon ps => Box.ordered_ofPoints? (ps.flatMap Polygon.exterior)
  | collection members => ordered_boxOfAll? members

theorem ordered_boxOfAll? : ∀ ss : List Shape, ∀ box ∈ boxOfAll? ss, box.Ordered
  | [] => by simp [boxOfAll?]
  | s :: ss => Box.ordered_union? (ordered_box? s) (ordered_boxOfAll? ss)

end

end Shape

end Planar

/-! ### Searches with a box -/

/-- The envelope of an entry is one that a box reaches. -/
def Entry.ReachedBy (e : Entry) (b : Bbox) : Prop :=
  ∃ box, e.shape.box? = some box ∧ b.Reaches box.toBbox

/-- The envelope of an entry bridges a box. -/
def Entry.Spans (e : Entry) (b : Bbox) : Prop :=
  ∃ box, e.shape.box? = some box ∧ b.Bridges box.toBbox

namespace Search

variable {s : Search} {values : List Double} {b : Bbox} {plan : QueryPlan}

/-- A search admits an entry by its id and its collection. -/
structure Admits (s : Search) (e : Entry) : Prop where
  ids : s.ids = [] ∨ e.record.id ∈ s.ids
  collections : s.collections = [] ∨ e.record.collection ∈ s.collections

theorem envelopeMatches_iff (hb : Bbox.ofList values = .ok b) (hfinite : b.IsFinite) (e : Entry) :
    EnvelopeMatches values e ↔ e.ReachedBy b := by
  have hreaches : ∀ box, e.shape.box? = some box →
      (b.meets box.toBbox ↔ b.Reaches box.toBbox) := fun box hbox =>
    Bbox.meets_iff_reaches hfinite (e.shape.ordered_box? box hbox).toBbox
  obtain ⟨c, hc, hmeans⟩ := means_envelope hb
  obtain rfl := Except.ok.inj hc
  rw [← hmeans, Store.Condition.holds, Option.any_eq_true]
  constructor
  · rintro ⟨box, hbox, hmeets⟩
    exact ⟨box, hbox, (hreaches box hbox).mp hmeets⟩
  · rintro ⟨box, hbox, h⟩
    exact ⟨box, hbox, (hreaches box hbox).mpr h⟩

/-- A search with a box that compiles has no other spatial filter. -/
theorem spatiallyMatches_iff (hvalues : s.bbox = some values) (h : s.compile = .ok plan)
    (e : Entry) : s.SpatiallyMatches e ↔ EnvelopeMatches values e := by
  obtain ⟨-, -, spatial, hspatial, -⟩ := compile_eq_ok_iff.mp h
  unfold spatialFilter at hspatial
  rw [hvalues] at hspatial
  split at hspatial
  next heq _ _ => cases heq
  next hgeometry hcollection =>
    constructor
    · exact fun hs => hs.bbox values hvalues
    · exact fun he => ⟨by simpa [hvalues] using he, by simp [hgeometry], by simp [hcollection]⟩
  next heq _ _ => cases heq
  next heq _ _ => cases heq
  next => cases hspatial

theorem matches_iff_reachedBy (hvalues : s.bbox = some values) (hb : Bbox.ofList values = .ok b)
    (hfinite : b.IsFinite) (h : s.compile = .ok plan) (e : Entry) :
    s.Matches e ↔ s.Admits e ∧ e.ReachedBy b := by
  rw [← envelopeMatches_iff hb hfinite, ← spatiallyMatches_iff hvalues h]
  exact ⟨fun hm => ⟨⟨hm.ids, hm.collections⟩, hm.spatial⟩,
    fun ⟨ha, hs⟩ => ⟨ha.ids, ha.collections, hs⟩⟩

end Search

namespace Store

/-- A page with a positive limit is empty just where no item is wanted. -/
theorem PageOf.features_eq_nil_iff {st : Store} {plan : QueryPlan} {wanted found : List Entry}
    {page : Page} (h : PageOf st plan wanted found page) (hlimit : 0 < plan.limit) :
    page.features = [] ↔ wanted = [] := by
  have hcount := h.count
  rw [h.returned] at hcount
  rw [← List.length_eq_zero_iff, ← List.length_eq_zero_iff]
  omega

/-- **A search with a box finds the items whose envelopes the box reaches.** A side in order has to
have a number in common with the envelope, and a reversed one to have its whole gap in it. So there
is nothing that a reversed box finds, unless some item spans its gap. -/
theorem search_box_after (ws : List Write) {s : Search} {values : List Double} {b : Bbox}
    {plan : QueryPlan} (hvalues : s.bbox = some values) (hb : Bbox.ofList values = .ok b)
    (hfinite : b.IsFinite) (h : s.compile = .ok plan) :
    (∀ envelope : Bbox, envelope.Ordered → (b.meets envelope ↔ b.Reaches envelope)) ∧
    ∃ found page, run (Catalog.search s) (empty.after ws) = (.ok page, empty.after ws) ∧
      List.Forall₂ (fun e feature => (Entry.stored e).toFeature = .ok feature) found
        page.features ∧
      (∀ e ∈ found, (empty.after ws).Stores e ∧ s.Admits e ∧ e.ReachedBy b) ∧
      (page.features = [] ↔ ∀ e, (empty.after ws).Stores e → s.Admits e → ¬e.ReachedBy b) ∧
      (b.Reversed → (∀ e, (empty.after ws).Stores e → s.Admits e → ¬e.Spans b) →
        page.features = []) := by
  obtain ⟨wanted, found, page, hpage, hof⟩ := (consistent_empty.after ws).exists_page h
  have hwanted : ∀ e, e ∈ wanted ↔ (empty.after ws).Stores e ∧ s.Admits e ∧ e.ReachedBy b := by
    intro e
    rw [hof.mem_wanted, satisfies_iff_matches h,
      Search.matches_iff_reachedBy hvalues hb hfinite h]
  have hnil : page.features = [] ↔
      ∀ e, (empty.after ws).Stores e → s.Admits e → ¬e.ReachedBy b := by
    rw [hof.features_eq_nil_iff (limit_pos h), List.eq_nil_iff_forall_not_mem]
    simp only [hwanted, not_and]
  refine ⟨fun envelope => Bbox.meets_iff_reaches hfinite, found, page, hpage, hof.features,
    fun e he => (hwanted e).mp (hof.subset he), hnil, fun hreversed hspans => ?_⟩
  rw [hnil]
  rintro e hstored hadmits ⟨box, hbox, hreaches⟩
  exact hspans e hstored hadmits ⟨box, hbox, hreaches.bridges hreversed⟩

/-- A box from one to zero, and from zero to zero. -/
def reversedBox : Bbox := ⟨.ofInt 1, .ofInt 0, .ofInt 0, .ofInt 0⟩

/-- A search with that box. -/
def reversedSearch : Search := { bbox := some reversedBox.toList }

theorem search_box_after_twoItems :
    ∃ (plan : QueryPlan) (found : List Entry) (page : Page), reversedSearch.compile = .ok plan ∧
      run (Catalog.search reversedSearch) (empty.after twoItems) =
        (.ok page, empty.after twoItems) ∧
      (∀ e ∈ found, (empty.after twoItems).Stores e ∧ reversedSearch.Admits e ∧
        e.ReachedBy reversedBox) ∧
      (page.features = [] ↔ ∀ e, (empty.after twoItems).Stores e → reversedSearch.Admits e →
        ¬e.ReachedBy reversedBox) := by
  have hvalues : reversedSearch.bbox = some reversedBox.toList := rfl
  have hcompiles : reversedSearch.compile.isOk = true := by decide +kernel
  have hfinite : reversedBox.IsFinite := by
    unfold Bbox.IsFinite
    decide +kernel
  cases hplan : reversedSearch.compile with
  | error e => rw [hplan] at hcompiles; cases hcompiles
  | ok plan =>
    obtain ⟨-, found, page, hpage, -, hfound, hnil, -⟩ :=
      search_box_after twoItems hvalues reversedBox.ofList_toList hfinite hplan
    exact ⟨plan, found, page, rfl, hpage, hfound, hnil⟩

/-- An item along the line from zero to one. -/
def lineItem : Item where
  id := "a"
  collection := some "c"
  document := .obj [("id", .str "a"), ("collection", .str "c"),
    ("geometry", .obj [("type", .str "LineString"),
      ("coordinates", .arr [.arr [.int 0, .int 0], .arr [.int 1, .int 0]])])]
  id_eq := rfl
  collection_eq := rfl

/-- That item in its collection. -/
def oneLine : List Write := [.addCollection (plainCollection "c"), .addItem lineItem]

theorem satisfies_of_finds {s : Search} {plan : QueryPlan} (h : s.compile = .ok plan) {e : Entry}
    (he : s.finds e = true) : Satisfies plan e := by
  unfold Search.finds at he
  rw [h] at he
  dsimp only at he
  split at he
  · cases he
  next condition hcondition => exact ⟨condition, hcondition, he⟩

/-- A reversed box finds an item that spans its gap, and meets an envelope whose ends are in
order. -/
theorem search_reversed_spanned :
    reversedBox.IsFinite ∧ reversedBox.Reversed ∧
      (∃ envelope : Bbox, envelope.Ordered ∧ reversedBox.meets envelope) ∧
      ∃ page, (run (Catalog.search reversedSearch) (empty.after oneLine)).1 = .ok page ∧
        page.features ≠ [] := by
  have hfinite : reversedBox.IsFinite := by
    unfold Bbox.IsFinite
    decide +kernel
  have hreversed : reversedBox.maxX.Below reversedBox.minX := by decide +kernel
  have hordered : Bbox.Ordered ⟨.ofInt 0, .ofInt 0, .ofInt 1, .ofInt 0⟩ :=
    ⟨by decide +kernel, by decide +kernel⟩
  refine ⟨hfinite, .inl hreversed, ⟨_, hordered, by decide +kernel⟩, ?_⟩
  have hcompiles : reversedSearch.compile.isOk = true := by decide +kernel
  have hfinds : ((empty.after oneLine).items[(⟨"c", "a"⟩ : ItemKey)]?).any reversedSearch.finds =
      true := by
    decide +kernel
  cases hplan : reversedSearch.compile with
  | error e => rw [hplan] at hcompiles; cases hcompiles
  | ok plan =>
    obtain ⟨wanted, found, page, hpage, hof⟩ :=
      (consistent_empty.after oneLine).exists_page hplan
    obtain ⟨e, he, hfound⟩ := (Option.any_eq_true _ _).mp hfinds
    have hwanted : e ∈ wanted :=
      (hof.mem_wanted e).mpr ⟨⟨_, he⟩, satisfies_of_finds hplan hfound⟩
    refine ⟨page, by rw [hpage], fun hnil => ?_⟩
    rw [(hof.features_eq_nil_iff (limit_pos hplan)).mp hnil] at hwanted
    cases hwanted

end Store

end SpatialCatalog
