import SpatialCatalog.Proofs.Store.Faults
import SpatialCatalog.Proofs.Store.Operations

/-!
# Written items are read back

An item that is added or replaced stays until it is replaced or deleted, or its collection is
deleted, whatever else happens in between: `Answered.Disturbs` says which operations count. Until
then `Catalog.item` finds just this item, because an item is filed under its own collection and id
and its key is the only one that both filters of the search let through.

What is read is the document with another geometry, the decoded one as it is read from its canonical
text (`Item.ShownAs`).
-/

namespace SpatialCatalog

/-! ### What stays -/

/-- A write that takes away or overwrites what is filed under a key, if it succeeds. -/
def Write.Touches (key : ItemKey) : Write → Prop
  | updateItem item => item.collection = some key.collection ∧ item.id = key.id
  | deleteItem id collection => collection = key.collection ∧ id = key.id
  | deleteCollection id => id = key.collection
  | _ => False

/-- An operation that has succeeded in taking away or overwriting what is filed under a key. -/
def Answered.Disturbs (key : ItemKey) : Answered → Prop
  | ⟨.write w, answer⟩ => w.Touches key ∧ answer = .ok ()
  | _ => False

namespace Store

variable {s s' : Store}

/-- What an effect does not touch stays. -/
theorem Effect.getElem?_of_not_touches {w : Write} {key : ItemKey} {e : Entry}
    (effect : Effect s w s') (h : ¬w.Touches key) (he : s.items[key]? = some e) :
    s'.items[key]? = some e := by
  cases effect with
  | collectionAdded absent => exact he
  | @collectionDeleted id present =>
    rw [Std.ExtTreeMap.getElem?_filter', he, Option.filter_eq_some_iff]
    have hne : key.collection ≠ id := fun heq => h heq.symm
    exact ⟨rfl, by simpa using hne⟩
  | @itemAdded item r e' record read present free =>
    -- The key of the item that is added was free, so it is another one.
    have hne : r.key ≠ key := by
      rintro rfl
      exact free (Std.ExtTreeMap.mem_iff_isSome_getElem?.mpr (by rw [he, Option.isSome_some]))
    rwa [Std.ExtTreeMap.getElem?_insert, if_neg (by simpa using hne)]
  | @itemReplaced item r e' record read taken =>
    have hne : r.key ≠ key := by
      rintro rfl
      obtain ⟨hc, hid, -⟩ := ItemRecord.ofItem_eq_ok_iff.mp record
      exact h ⟨hc, hid.symm⟩
    rwa [Std.ExtTreeMap.getElem?_insert, if_neg (by simpa using hne)]
  | @itemDeleted id collection taken =>
    have hne : (⟨collection, id⟩ : ItemKey) ≠ key := by
      rintro rfl
      exact h ⟨rfl, rfl⟩
    rwa [Std.ExtTreeMap.getElem?_erase, if_neg (by simpa using hne)]

/-- What an operation does not disturb stays. -/
theorem getElem?_operate {o : Operation} {key : ItemKey} {e : Entry}
    (h : ¬Answered.Disturbs key ⟨o, (s.operate o).1⟩) (he : s.items[key]? = some e) :
    (s.operate o).2.items[key]? = some e := by
  rcases s.operate_cases o with ⟨w, s', rfl, hwrite, effect⟩ | hsame
  · have hanswer : (s.operate (.write w)).1 = .ok () := congrArg Prod.fst hwrite
    have hstore : (s.operate (.write w)).2 = s' := congrArg Prod.snd hwrite
    rw [hstore]
    exact effect.getElem?_of_not_touches (fun htouches => h ⟨htouches, hanswer⟩) he
  · rwa [hsame]

/-- What no operation of a list disturbs stays. -/
theorem getElem?_afterAll {os : List Operation} {key : ItemKey} {e : Entry}
    (h : ∀ a ∈ s.answers os, ¬a.Disturbs key) (he : s.items[key]? = some e) :
    (s.afterAll os).items[key]? = some e := by
  induction os generalizing s with
  | nil => exact he
  | cons o os ih =>
    rw [answers_cons, List.forall_mem_cons] at h
    exact ih h.2 (getElem?_operate h.1 he)

/-! ### What is read -/

end Store

/-- The feature that an item is given back as: its document, where the geometry is the value of the
decoded geometry with every number as it is read from the canonical text. -/
structure Item.ShownAs (item : Item) (feature : Members) : Prop where
  document : ∃ ms, item.document = .obj ms ∧
    ∀ key, key ≠ "geometry" → feature.get? key = Members.get? ms key
  geometry : ∃ j g text v, item.document.get? "geometry" = some j ∧ Geometry.ofJson j = .ok g ∧
    g.text = .ok text ∧ Json.parse? text = some v ∧ g.reread.toJson? = some v ∧
    feature.get? "geometry" = some v

namespace Store

variable {s : Store}

/-- What a store holds of an item is given back as its feature. -/
theorem EntryOf.exists_feature {item : Item} {e : Entry} (h : EntryOf item e) (hb : item.Bounded) :
    ∃ feature, (Entry.stored e).toFeature = .ok feature ∧ item.ShownAs feature := by
  obtain ⟨hc, hid, hdata, g, hg, htext⟩ := ItemRecord.ofItem_eq_ok_iff.mp h.record
  obtain ⟨j, hj, -, hg⟩ := ItemRecord.geometryOf_eq_ok_iff.mp hg
  obtain ⟨ms, hms⟩ := (ItemRecord.faithful_ofItem h.record).data_eq_obj
  obtain ⟨k, hk, hnesting⟩ := Geometry.written_ofJson (hb j hj) hg
  have hrender : g.text = .ok k.render := by rw [Geometry.text, hk]
  have hgeometry : e.record.geometry = k.render := Except.ok.inj (htext.symm.trans hrender)
  obtain ⟨r, hr, -⟩ := RenderedGeometry.parse?_render hk hnesting
  rw [← hgeometry] at hr
  obtain ⟨hparse, hreread⟩ := RenderedGeometry.toJson_of_parse?_text htext hr
  refine ⟨Members.set ms "geometry" r.toJson, ?_, ⟨ms, ?_, ?_⟩, ?_⟩
  · exact (toFeature_eq_ok_iff hms).mpr ⟨r, hr, rfl⟩
  · rw [← hdata, hms]
  · intro key hne
    exact Members.get?_set_of_ne ms _ hne
  · exact ⟨j, g, e.record.geometry, r.toJson, hj, hg, htext, hparse, hreread,
      Members.get?_set_self ms "geometry" _⟩

/-- A write of an item that succeeds leaves what a store holds of the item under its key. -/
theorem exists_entryOf_write {item : Item} {w : Write}
    (hw : w = .addItem item ∨ w = .updateItem item) (hok : (s.write w).1 = .ok ()) :
    ∃ e, EntryOf item e ∧ (s.write w).2.items[e.record.key]? = some e := by
  rcases s.write_cases w with ⟨s', hwrite, effect⟩ | ⟨error, hwrite⟩
  · rw [hwrite]
    rcases hw with rfl | rfl
    · cases effect with
      | @itemAdded _ r e record read present free =>
        obtain ⟨rfl, -⟩ := entry_eq_ok_iff.mp read
        exact ⟨e, ⟨record, read⟩, Std.ExtTreeMap.getElem?_insert_self⟩
    · cases effect with
      | @itemReplaced _ r e record read taken =>
        obtain ⟨rfl, -⟩ := entry_eq_ok_iff.mp read
        exact ⟨e, ⟨record, read⟩, Std.ExtTreeMap.getElem?_insert_self⟩
  · rw [hwrite] at hok
    cases hok

end Store

end SpatialCatalog
