import SpatialCatalog.Proofs.Geometry.Decoded
import SpatialCatalog.Proofs.Store.Consistency
import Mathlib.Logic.Function.Basic

/-!
# Writes as updates of two maps

A store is a map of collections and a map of items. `Write.Permitted` says when a write succeeds,
`Write.Updates` what it then does to the two maps, and `Write.Fails` which error it reports
otherwise; the constructors of `Fails` name the checks that have passed before. A write that fails
changes nothing.

The geometry of an item is written as text and read again before it is stored, so these hold of
items whose geometry is as a document can hold it.
-/

namespace SpatialCatalog

open Function (update)

/-! ### Items that can be stored -/

namespace Item

/-- The geometry of an item is as a document can hold it. -/
def Bounded (item : Item) : Prop :=
  ∀ j, item.document.get? "geometry" = some j → j.Bounded nestingLimit

/-- An item has a collection, and a geometry that is decoded. -/
structure Acceptable (item : Item) (collection : String) : Prop where
  collection_eq : item.collection = some collection
  geometry : ∃ j g, item.document.get? "geometry" = some j ∧ j ≠ .null ∧ Geometry.ofJson j = .ok g

theorem Acceptable.geometryOf {item : Item} {c : String} (h : item.Acceptable c) :
    ∃ g, ItemRecord.geometryOf item.id item.document = .ok g := by
  obtain ⟨j, g, hj, hnull, hg⟩ := h.geometry
  exact ⟨g, ItemRecord.geometryOf_eq_ok_iff.mpr ⟨j, hj, hnull, hg⟩⟩

theorem Acceptable.unique {item : Item} {c c' : String} (h : item.Acceptable c)
    (h' : item.Acceptable c') : c = c' :=
  Option.some.inj (h.collection_eq.symm.trans h'.collection_eq)

theorem Acceptable.not_error {item : Item} {c : String} (h : item.Acceptable c)
    {cause : GeometryFault} :
    ItemRecord.geometryOf item.id item.document ≠ .error cause := by
  obtain ⟨g, hg⟩ := h.geometryOf
  simp [hg]

/-- What is wrong with an item, if anything: the collection first, and then the geometry. -/
theorem acceptable_cases (item : Item) :
    item.collection = none ∨
      (∃ c cause, item.collection = some c ∧
        ItemRecord.geometryOf item.id item.document = .error cause) ∨
      ∃ c, item.Acceptable c := by
  cases hc : item.collection with
  | none => exact .inl rfl
  | some c =>
    cases hg : ItemRecord.geometryOf item.id item.document with
    | error cause => exact .inr (.inl ⟨c, cause, rfl, rfl⟩)
    | ok g =>
      obtain ⟨j, hj, hnull, hg⟩ := ItemRecord.geometryOf_eq_ok_iff.mp hg
      exact .inr (.inr ⟨c, hc, j, g, hj, hnull, hg⟩)

end Item

/-- A store reads the text of a value that a geometry has, if it is not nested too deeply. -/
theorem Geometry.exists_shape {g : Geometry} {k : Json} (hk : g.toJson? = some k)
    (hnesting : k.nesting ≤ nestingLimit) : ∃ shape, Planar.Shape.parse k.render = .ok shape := by
  obtain ⟨r, hr, -⟩ := RenderedGeometry.parse?_render hk hnesting
  exact ⟨_, by rw [Planar.Shape.parse, hr]⟩

namespace Store

/-- What a store holds of an item. -/
structure EntryOf (item : Item) (e : Entry) : Prop where
  record : ItemRecord.ofItem item = .ok e.record
  read : entry e.record = .ok e

theorem EntryOf.key_eq {item : Item} {e : Entry} (h : EntryOf item e) :
    item.collection = some e.record.collection ∧ e.record.id = item.id := by
  obtain ⟨hc, hid, -⟩ := ItemRecord.ofItem_eq_ok_iff.mp h.record
  exact ⟨hc, hid⟩

/-- **Every acceptable item has an entry**: the text of its geometry is read. -/
theorem exists_entryOf {item : Item} {c : String} (hb : item.Bounded) (h : item.Acceptable c) :
    ∃ e, EntryOf item e ∧ e.record.key = ⟨c, item.id⟩ := by
  obtain ⟨j, g, hj, hnull, hg⟩ := h.geometry
  obtain ⟨k, hk, hnesting⟩ := Geometry.written_ofJson (hb j hj) hg
  obtain ⟨shape, hshape⟩ := Geometry.exists_shape hk hnesting
  have htext : g.text = .ok k.render := by rw [Geometry.text, hk]
  have hgeometry : ItemRecord.geometryOf item.id item.document = .ok g :=
    ItemRecord.geometryOf_eq_ok_iff.mpr ⟨j, hj, hnull, hg⟩
  refine ⟨⟨⟨item.id, c, item.document, k.render⟩, shape⟩, ⟨?_, ?_⟩, rfl⟩
  · exact ItemRecord.ofItem_eq_ok_iff.mpr ⟨h.collection_eq, rfl, rfl, g, hgeometry, htext⟩
  · exact entry_eq_ok_iff.mpr ⟨rfl, hshape⟩

end Store

/-! ### Two maps -/

/-- What a store holds, as two maps. -/
structure Tables where
  collections : String → Option Json
  items : ItemKey → Option Entry

section

variable {κ ν : Type} [Ord κ] [Std.TransOrd κ] [Std.LawfulEqOrd κ] [DecidableEq κ]
  (t : Std.ExtTreeMap κ ν) (key : κ)

theorem getElem?_insert_eq_update (value : ν) :
    (fun k => (t.insert key value)[k]?) = update (fun k => t[k]?) key (some value) := by
  funext k
  rw [Std.ExtTreeMap.getElem?_insert, Function.update_apply]
  simp only [Std.LawfulEqCmp.compare_eq_iff_eq, @eq_comm κ key k]

theorem getElem?_erase_eq_update :
    (fun k => (t.erase key)[k]?) = update (fun k => t[k]?) key none := by
  funext k
  rw [Std.ExtTreeMap.getElem?_erase, Function.update_apply]
  simp only [Std.LawfulEqCmp.compare_eq_iff_eq, @eq_comm κ key k]

end

namespace Store

variable (s : Store)

def tables : Tables := ⟨fun id => s.collections[id]?, fun key => s.items[key]?⟩

theorem hasCollection_iff {id : String} :
    s.hasCollection id ↔ (s.tables.collections id).isSome := by
  rw [hasCollection, Std.ExtTreeMap.contains_iff_mem]
  exact Std.ExtTreeMap.mem_iff_isSome_getElem?

theorem mem_items_iff {key : ItemKey} : key ∈ s.items ↔ (s.tables.items key).isSome :=
  Std.ExtTreeMap.mem_iff_isSome_getElem?

theorem tables_insertCollection (id : String) (data : Json) :
    tables { s with collections := s.collections.insert id data } =
      { s.tables with collections := update s.tables.collections id (some data) } :=
  congrArg (Tables.mk · _) (getElem?_insert_eq_update ..)

theorem tables_removeCollection (id : String) :
    tables { collections := s.collections.erase id
             items := s.items.filter fun key _ => key.collection != id } =
      { collections := update s.tables.collections id none
        items := fun key => if key.collection = id then none else s.tables.items key } := by
  refine congrArg₂ Tables.mk (getElem?_erase_eq_update ..) (funext fun key => ?_)
  rw [Std.ExtTreeMap.getElem?_filter']
  by_cases h : key.collection = id
  · rw [if_pos h]
    simp [h]
  · rw [if_neg h]
    cases hkey : s.items[key]? <;> simp [tables, h, hkey]

theorem tables_insertItem (key : ItemKey) (e : Entry) :
    tables { s with items := s.items.insert key e } =
      { s.tables with items := update s.tables.items key (some e) } :=
  congrArg (Tables.mk _) (getElem?_insert_eq_update ..)

theorem tables_removeItem (key : ItemKey) :
    tables { s with items := s.items.erase key } =
      { s.tables with items := update s.tables.items key none } :=
  congrArg (Tables.mk _) (getElem?_erase_eq_update ..)

end Store

/-! ### What a write does -/

namespace Write

/-- The items of a write are as documents can hold them. -/
def Bounded : Write → Prop
  | addItem item => item.Bounded
  | updateItem item => item.Bounded
  | _ => True

/-- When a write succeeds. -/
def Permitted (t : Tables) : Write → Prop
  | addCollection c => t.collections c.id = none
  | deleteCollection id => (t.collections id).isSome
  | addItem item =>
    ∃ c, item.Acceptable c ∧ (t.collections c).isSome ∧ t.items ⟨c, item.id⟩ = none
  | updateItem item => ∃ c, item.Acceptable c ∧ (t.items ⟨c, item.id⟩).isSome
  | deleteItem id c => (t.items ⟨c, id⟩).isSome

/-- Which error a write reports. -/
inductive Fails (t : Tables) : Write → Error → Prop
  | addedCollection {c : Collection} (taken : (t.collections c.id).isSome) :
      Fails t (.addCollection c) (.request (.collectionExists c.id))
  | deletedCollection {id : String} (absent : t.collections id = none) :
      Fails t (.deleteCollection id) (.notFound (.collection id))
  | addedNowhere {item : Item} (unfiled : item.collection = none) :
      Fails t (.addItem item) (.request (.itemWithoutCollection item.id))
  | addedUndecoded {item : Item} {c : String} {cause : GeometryFault}
      (filed : item.collection = some c)
      (bad : ItemRecord.geometryOf item.id item.document = .error cause) :
      Fails t (.addItem item) (.geometry cause)
  | addedAstray {item : Item} {c : String} (good : item.Acceptable c)
      (absent : t.collections c = none) : Fails t (.addItem item) (.notFound (.collection c))
  | addedTwice {item : Item} {c : String} (good : item.Acceptable c)
      (present : (t.collections c).isSome) (taken : (t.items ⟨c, item.id⟩).isSome) :
      Fails t (.addItem item) (.request (.itemExists item.id c))
  | updatedNowhere {item : Item} (unfiled : item.collection = none) :
      Fails t (.updateItem item) (.request (.itemWithoutCollection item.id))
  | updatedUndecoded {item : Item} {c : String} {cause : GeometryFault}
      (filed : item.collection = some c)
      (bad : ItemRecord.geometryOf item.id item.document = .error cause) :
      Fails t (.updateItem item) (.geometry cause)
  | updatedAstray {item : Item} {c : String} (good : item.Acceptable c)
      (absent : t.items ⟨c, item.id⟩ = none) :
      Fails t (.updateItem item) (.notFound (.item item.id c))
  | deletedItem {id c : String} (absent : t.items ⟨c, id⟩ = none) :
      Fails t (.deleteItem id c) (.notFound (.item id c))

/-- What a write that succeeds does to the two maps. -/
def Updates (t t' : Tables) : Write → Prop
  | addCollection c => t' = { t with collections := update t.collections c.id (some c.document) }
  | deleteCollection id =>
    t' =
      { collections := update t.collections id none
        items := fun key => if key.collection = id then none else t.items key }
  | addItem item =>
    ∃ c e, item.collection = some c ∧ Store.EntryOf item e ∧
      t' = { t with items := update t.items ⟨c, item.id⟩ (some e) }
  | updateItem item =>
    ∃ c e, item.collection = some c ∧ Store.EntryOf item e ∧
      t' = { t with items := update t.items ⟨c, item.id⟩ (some e) } ∧
      ∀ key, (t'.items key).isSome = (t.items key).isSome
  | deleteItem id c => t' = { t with items := update t.items ⟨c, id⟩ none }

end Write

namespace Store

variable {s s' : Store} {w : Write}

/-- An effect on a store is an update of its two maps. -/
theorem Effect.updates (h : Effect s w s') : w.Updates s.tables s'.tables := by
  cases h with
  | collectionAdded absent => exact s.tables_insertCollection _ _
  | collectionDeleted present => exact s.tables_removeCollection _
  | @itemAdded item r e record read present free =>
    obtain ⟨rfl, -⟩ := entry_eq_ok_iff.mp read
    have hentry : EntryOf item e := ⟨record, read⟩
    obtain ⟨hc, hid⟩ := hentry.key_eq
    refine ⟨_, e, hc, hentry, ?_⟩
    rw [← hid]
    exact s.tables_insertItem e.record.key e
  | @itemReplaced item r e record read taken =>
    obtain ⟨rfl, -⟩ := entry_eq_ok_iff.mp read
    have hentry : EntryOf item e := ⟨record, read⟩
    obtain ⟨hc, hid⟩ := hentry.key_eq
    have htables := s.tables_insertItem e.record.key e
    refine ⟨_, e, hc, hentry, ?_, fun key => ?_⟩
    · rw [← hid]
      exact htables
    · rw [htables]
      dsimp only
      rw [Function.update_apply]
      split
      next hkey =>
        rw [hkey, s.mem_items_iff.mp taken]
        rfl
      next => rfl
  | itemDeleted taken => exact s.tables_removeItem _

theorem ofItem_eq_error {item : Item} {c : String} {cause : GeometryFault}
    (hc : item.collection = some c)
    (hg : ItemRecord.geometryOf item.id item.document = .error cause) :
    ItemRecord.ofItem item = .error (.geometry cause) := by
  simp only [ItemRecord.ofItem, hc, ItemRecord.ofDocument, hg]
  rfl

theorem ofItem_eq_error_of_none {item : Item} (hc : item.collection = none) :
    ItemRecord.ofItem item = .error (.request (.itemWithoutCollection item.id)) := by
  rw [ItemRecord.ofItem, hc]

/-- A write is permitted and succeeds, or it fails with an error that it should report. -/
theorem write_outcome (s : Store) {w : Write} (hw : w.Bounded) :
    (w.Permitted s.tables ∧ (s.write w).1 = .ok ()) ∨
      ∃ e, w.Fails s.tables e ∧ (s.write w).1 = .error e := by
  cases w with
  | addCollection c =>
    rw [write_addCollection]
    by_cases h : s.hasCollection c.id
    · exact .inr ⟨_, .addedCollection (s.hasCollection_iff.mp h), by rw [if_pos h]⟩
    · have habsent : s.tables.collections c.id = none := by simpa [hasCollection_iff] using h
      exact .inl ⟨habsent, by rw [if_neg h]⟩
  | deleteCollection id =>
    rw [write_deleteCollection]
    by_cases h : s.hasCollection id
    · exact .inl ⟨s.hasCollection_iff.mp h, by rw [if_pos h]⟩
    · have habsent : s.tables.collections id = none := by simpa [hasCollection_iff] using h
      exact .inr ⟨_, .deletedCollection habsent, by rw [if_neg h]⟩
  | addItem item =>
    rw [write_addItem]
    obtain hc | ⟨c, cause, hc, hg⟩ | ⟨c, hgood⟩ := item.acceptable_cases
    · exact .inr ⟨_, .addedNowhere hc, by rw [ofItem_eq_error_of_none hc]⟩
    · exact .inr ⟨_, .addedUndecoded hc hg, by rw [ofItem_eq_error hc hg]⟩
    · obtain ⟨e, hentry, hkey⟩ := exists_entryOf hw hgood
      obtain ⟨rfl, hid⟩ := ItemKey.mk.inj hkey
      simp only [hentry.record, hentry.read]
      by_cases hpresent : s.hasCollection e.record.collection
      · rw [if_pos hpresent]
        by_cases htaken : e.record.key ∈ s.items
        · rw [if_pos htaken, hid]
          rw [hkey] at htaken
          exact .inr ⟨_, .addedTwice hgood (s.hasCollection_iff.mp hpresent)
            (s.mem_items_iff.mp htaken), rfl⟩
        · rw [if_neg htaken]
          rw [hkey, mem_items_iff] at htaken
          exact .inl ⟨⟨_, hgood, s.hasCollection_iff.mp hpresent, by simpa using htaken⟩, rfl⟩
      · rw [if_neg hpresent]
        rw [hasCollection_iff] at hpresent
        exact .inr ⟨_, .addedAstray hgood (by simpa using hpresent), rfl⟩
  | updateItem item =>
    rw [write_updateItem]
    obtain hc | ⟨c, cause, hc, hg⟩ | ⟨c, hgood⟩ := item.acceptable_cases
    · exact .inr ⟨_, .updatedNowhere hc, by rw [ofItem_eq_error_of_none hc]⟩
    · exact .inr ⟨_, .updatedUndecoded hc hg, by rw [ofItem_eq_error hc hg]⟩
    · obtain ⟨e, hentry, hkey⟩ := exists_entryOf hw hgood
      obtain ⟨rfl, hid⟩ := ItemKey.mk.inj hkey
      simp only [hentry.record, hentry.read]
      by_cases htaken : e.record.key ∈ s.items
      · rw [if_pos htaken]
        rw [hkey] at htaken
        exact .inl ⟨⟨_, hgood, s.mem_items_iff.mp htaken⟩, rfl⟩
      · rw [if_neg htaken, hid]
        rw [hkey, mem_items_iff] at htaken
        exact .inr ⟨_, .updatedAstray hgood (by simpa using htaken), rfl⟩
  | deleteItem id c =>
    rw [write_deleteItem]
    by_cases h : (⟨c, id⟩ : ItemKey) ∈ s.items
    · exact .inl ⟨s.mem_items_iff.mp h, by rw [if_pos h]⟩
    · rw [if_neg h]
      rw [mem_items_iff] at h
      exact .inr ⟨_, .deletedItem (by simpa using h), rfl⟩

end Store

namespace Write

/-- A write that is permitted does not fail. -/
theorem Fails.not_permitted {t : Tables} {w : Write} {e : Error} (h : w.Fails t e) :
    ¬w.Permitted t := by
  cases h with
  | addedCollection taken => exact Option.isSome_iff_ne_none.mp taken
  | deletedCollection absent | deletedItem absent => simp [Permitted, absent]
  | addedNowhere hc | updatedNowhere hc =>
    rintro ⟨c, good, -⟩
    simpa [hc] using good.collection_eq
  | addedUndecoded hc bad | updatedUndecoded hc bad =>
    rintro ⟨c, good, -⟩
    exact good.not_error bad
  | addedAstray good absent =>
    rintro ⟨c, good', present, -⟩
    obtain rfl := good.unique good'
    simp [absent] at present
  | addedTwice good present taken =>
    rintro ⟨c, good', -, free⟩
    obtain rfl := good.unique good'
    simp [free] at taken
  | updatedAstray good absent =>
    rintro ⟨c, good', taken⟩
    obtain rfl := good.unique good'
    simp [absent] at taken

/-- A write has one first fault at most. -/
theorem Fails.unique {t : Tables} {w : Write} {e e' : Error} (h : w.Fails t e)
    (h' : w.Fails t e') : e = e' := by
  cases h <;> cases h' <;> grind [Item.Acceptable.not_error, → Item.Acceptable.collection_eq]

end Write

/-- **A bounded write succeeds just when it is permitted, and otherwise reports the first of its
faults. A write that succeeds updates the two maps, and one that fails changes nothing.** -/
theorem Store.write_updates (s : Store) (w : Write) :
    (w.Bounded → ((s.write w).1 = .ok () ↔ w.Permitted s.tables) ∧
      ∀ e, (s.write w).1 = .error e ↔ w.Fails s.tables e) ∧
    ((s.write w).1 = .ok () → w.Updates s.tables (s.write w).2.tables) ∧
    ∀ e, (s.write w).1 = .error e → (s.write w).2 = s := by
  refine ⟨fun hw => ?_, fun hok => ?_, fun e he => ?_⟩
  · obtain ⟨permitted, hok⟩ | ⟨e, fails, he⟩ := s.write_outcome hw
    · rw [hok]
      exact ⟨iff_of_true rfl permitted,
        fun e => iff_of_false (by simp) fun fails => fails.not_permitted permitted⟩
    · rw [he]
      refine ⟨iff_of_false (by simp) fails.not_permitted, fun e' => ?_⟩
      rw [Except.error.injEq]
      exact ⟨fun h => h ▸ fails, fails.unique⟩
  · obtain ⟨s', h, effect⟩ | ⟨e, h⟩ := s.write_cases w
    · rw [h]
      exact effect.updates
    · rw [h] at hok
      cases hok
  · obtain ⟨s', h, effect⟩ | ⟨e, h⟩ := s.write_cases w
    · rw [h] at he
      cases he
    · rw [h]

theorem Item.bounded_originItem (id collection : String) : (originItem id collection).Bounded := by
  intro j hj
  obtain rfl := Option.some.inj hj
  have hzero : (Number.int 0).InRange := ⟨by decide, by decide⟩
  exact ⟨⟨trivial, ⟨hzero, hzero, trivial⟩, trivial⟩, by decide⟩

/-- A store with one collection and nothing in it. -/
def oneCollection : Store := Store.empty.after [.addCollection (plainCollection "c")]

/-- An item is permitted in a collection that is there, and reported where there is none. -/
theorem Store.write_updates_originItem :
    ((oneCollection.write (.addItem (originItem "a" "c"))).1 = .ok () ∧
      (Write.addItem (originItem "a" "c")).Updates oneCollection.tables
        (oneCollection.write (.addItem (originItem "a" "c"))).2.tables) ∧
    (empty.write (.addItem (originItem "a" "c"))).1 = .error (.notFound (.collection "c")) ∧
    (empty.write (.addItem (originItem "a" "c"))).2 = empty := by
  have hb : (Write.addItem (originItem "a" "c")).Bounded := Item.bounded_originItem "a" "c"
  have hgood : (originItem "a" "c").Acceptable "c" := ⟨rfl, _, _, rfl, by simp, rfl⟩
  obtain ⟨hbounded, hupdates, -⟩ := write_updates oneCollection (.addItem (originItem "a" "c"))
  have hpresent : oneCollection.hasCollection "c" := by decide +kernel
  have hfree : (⟨"c", (originItem "a" "c").id⟩ : ItemKey) ∉ oneCollection.items := by decide +kernel
  rw [mem_items_iff] at hfree
  have hok := (hbounded hb).1.mpr
    ⟨"c", hgood, oneCollection.hasCollection_iff.mp hpresent, by simpa using hfree⟩
  obtain ⟨hbounded', -, hsame⟩ := write_updates empty (.addItem (originItem "a" "c"))
  have habsent : empty.tables.collections "c" = none := by simp [tables, empty]
  have herror := ((hbounded' hb).2 _).mpr (.addedAstray hgood habsent)
  exact ⟨⟨hok, hupdates hok⟩, herror, hsame _ herror⟩

end SpatialCatalog
