import SpatialCatalog.Proofs.Document.Record
import SpatialCatalog.Proofs.Store.History

/-!
# Stores agree with themselves

A store keeps a geometry three times: in the document, as text, and as a shape. `Consistent` says
that the three agree, that every item is filed under its own collection and id, and that its
collection is there. Every write keeps it, whether it succeeds or fails.
-/

namespace SpatialCatalog.Store

/-- An item is filed as it should be. -/
structure Filed (s : Store) (key : ItemKey) (e : Entry) : Prop where
  /-- Its collection is a collection of the store. -/
  present : s.hasCollection e.record.collection
  key_eq : key = e.record.key
  faithful : e.record.Faithful
  /-- Its shape is that of its text. -/
  shape_eq : Planar.Shape.parse e.record.geometry = .ok e.shape

/-- Every item is filed as it should be. -/
def Consistent (s : Store) : Prop :=
  ∀ ⦃key : ItemKey⦄ ⦃e : Entry⦄, s.items[key]? = some e → s.Filed key e

theorem consistent_empty : empty.Consistent := by
  intro key e h
  simp [empty] at h

theorem entry_eq_ok_iff {r : ItemRecord} {e : Entry} :
    entry r = .ok e ↔ e.record = r ∧ Planar.Shape.parse r.geometry = .ok e.shape := by
  obtain ⟨record, shape⟩ := e
  unfold entry
  cases Planar.Shape.parse r.geometry <;> simp [Except.map, eq_comm]

/-- What stays filed when only other collections change. -/
theorem Filed.of_hasCollection {s s' : Store} {key : ItemKey} {e : Entry} (h : s.Filed key e)
    (present : s'.hasCollection e.record.collection) : s'.Filed key e :=
  ⟨present, h.key_eq, h.faithful, h.shape_eq⟩

/-- A record of an item in a collection of the store can be filed. -/
theorem filed_entry {s : Store} {item : Item} {r : ItemRecord} {e : Entry}
    (record : ItemRecord.ofItem item = .ok r) (read : entry r = .ok e)
    (present : s.hasCollection r.collection) : s.Filed r.key e := by
  obtain ⟨rfl, shape_eq⟩ := entry_eq_ok_iff.mp read
  exact ⟨present, rfl, ItemRecord.faithful_ofItem record, shape_eq⟩

/-- Putting a filed item under its key keeps a store consistent. -/
theorem Consistent.insert {s : Store} {key : ItemKey} {e : Entry} (hs : s.Consistent)
    (he : s.Filed key e) : Consistent { s with items := s.items.insert key e } := by
  intro key' e' h
  rw [Std.ExtTreeMap.getElem?_insert] at h
  split at h
  next hkey =>
    obtain rfl := Std.LawfulEqOrd.eq_of_compare hkey
    obtain rfl := Option.some.inj h
    exact he.of_hasCollection he.present
  next => exact (hs h).of_hasCollection (hs h).present

/-- **Every effect keeps a store consistent.** -/
theorem Consistent.effect {s s' : Store} {w : Write} (hs : s.Consistent) (h : Effect s w s') :
    s'.Consistent := by
  cases h with
  | @collectionAdded c absent =>
    intro key e h
    refine (hs h).of_hasCollection ?_
    have hc := (hs h).present
    simp only [hasCollection, Std.ExtTreeMap.contains_insert] at hc ⊢
    simp [hc]
  | @collectionDeleted id present =>
    intro key e h
    rw [Std.ExtTreeMap.getElem?_filter', Option.filter_eq_some_iff] at h
    obtain ⟨h, hne⟩ := h
    -- An item that is left is of another collection, which is left too.
    refine (hs h).of_hasCollection ?_
    have hc := (hs h).present
    have hne : id ≠ e.record.collection := by
      rw [(hs h).key_eq] at hne
      exact fun heq => by simp [ItemRecord.key, heq] at hne
    simp only [hasCollection, Std.ExtTreeMap.contains_erase] at hc ⊢
    simp [hc, hne]
  | itemAdded record read present free => exact hs.insert (filed_entry record read present)
  | @itemReplaced item r e record read taken =>
    -- The item that is replaced is filed, so its collection is there.
    obtain ⟨old, hold⟩ := Option.isSome_iff_exists.mp
      (Std.ExtTreeMap.mem_iff_isSome_getElem?.mp taken)
    have hcollection : r.collection = old.record.collection :=
      congrArg ItemKey.collection (hs hold).key_eq
    exact hs.insert (filed_entry record read (hcollection ▸ (hs hold).present))
  | @itemDeleted id collection taken =>
    intro key e h
    rw [Std.ExtTreeMap.getElem?_erase] at h
    split at h
    · simp at h
    · exact (hs h).of_hasCollection (hs h).present

theorem Consistent.after {s : Store} (hs : s.Consistent) (ws : List Write) :
    (s.after ws).Consistent :=
  after_induction hs Consistent.effect ws

/-- **After every history of writes on the empty store, failing ones included, every item is filed
under its collection and id, its collection is there, and its document, its text and its shape
agree.** -/
theorem consistent_after (ws : List Write) : (empty.after ws).Consistent :=
  consistent_empty.after ws

/-- An item is refused while its collection is missing, and stored once it is there. -/
example : (empty.after [.addItem (originItem "a" "c"), .addCollection (plainCollection "c"),
    .addItem (originItem "a" "c")]).items.size = 1 := by
  decide +kernel

end SpatialCatalog.Store
