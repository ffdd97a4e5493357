import SpatialCatalog.Proofs.Store.Writes
import Mathlib.Data.Sum.Basic
import Mathlib.Logic.Relation

/-!
# Independent modifications

A store has places, of collections and of items. A modification has a target, one place, and what
it does is known by two sets of places: those within its target, which are all that it may change,
and those that it looks at, where an item is looked at together with its collection. `About` says
so of primitives, and of programs that ask for such primitives only.

* `Store.at?_run` is the frame of a program: what is not within its target stays.
* `Store.run_congr`: stores that are alike where a program looks are answered alike, and are alike
  there afterwards.
* `Store.modify_comm`: modifications of targets that are apart commute, and so do such neighbours
  within histories.

Tables are known by their look-ups, so nothing of the order of the modifications is left in them:
not even the pages of searches that do not ask for an order show it.
-/

namespace SpatialCatalog

/-! ### Places -/

/-- A place of a store: that of a collection, or that of an item. -/
inductive Place where
  | collection (id : String)
  | item (key : ItemKey)
deriving DecidableEq

namespace Place

/-- The collection that a place belongs to. -/
def owner : Place → String
  | collection id => id
  | item key => key.collection

/-- Two places are different things: collections with different ids, items with different keys, or
an item and a collection that is not its own. -/
def Apart : Place → Place → Prop
  | collection id, collection id' => id ≠ id'
  | collection id, item key => id ≠ key.collection
  | item key, collection id => key.collection ≠ id
  | item key, item key' => key ≠ key'

instance : (a b : Place) → Decidable (a.Apart b)
  | collection id, collection id' => inferInstanceAs (Decidable (id ≠ id'))
  | collection id, item key => inferInstanceAs (Decidable (id ≠ key.collection))
  | item key, collection id => inferInstanceAs (Decidable (key.collection ≠ id))
  | item key, item key' => inferInstanceAs (Decidable (key ≠ key'))

/-- The second place is within the first: a collection has its items within it. -/
def Within : Place → Place → Prop
  | collection id, p => p.owner = id
  | item key, p => p = item key

/-- The second place is looked at for the first: an item is looked for together with its
collection. -/
def LooksAt : Place → Place → Prop
  | collection id, p => p.owner = id
  | item key, p => p = item key ∨ p = collection key.collection

variable {a b p : Place}

theorem Within.looksAt (h : a.Within p) : a.LooksAt p := by
  cases a with
  | collection id => exact h
  | item key => exact .inl h

theorem Within.owner_eq (h : a.Within p) : p.owner = a.owner := by
  cases a with
  | collection id => exact h
  | item key =>
    obtain rfl : p = item key := h
    rfl

theorem LooksAt.owner_eq (h : a.LooksAt p) : p.owner = a.owner := by
  cases a with
  | collection id => exact h
  | item key =>
    rcases h with rfl | rfl
    · rfl
    · rfl

theorem Apart.symm (h : a.Apart b) : b.Apart a := by
  cases a <;> cases b <;> exact Ne.symm h

/-- What is within a place is not looked at for another that is apart. -/
theorem Apart.not_looksAt (h : a.Apart b) (hp : a.Within p) : ¬b.LooksAt p := by
  intro hlooks
  have howner : a.owner = b.owner := hp.owner_eq.symm.trans hlooks.owner_eq
  cases a with
  | collection id =>
    cases b with
    | collection id' => exact h howner
    | item key => exact h howner
  | item key =>
    cases b with
    | collection id => exact h howner
    | item key' =>
      obtain rfl : p = item key := hp
      rcases hlooks with heq | heq
      · exact h (Place.item.inj heq)
      · cases heq

end Place

/-! ### Targets -/

/-- What a modification is about: a place, or nothing. -/
abbrev Target := Option Place

namespace Target

/-- Two targets are different things. Nothing is apart from everything. -/
def Apart (x y : Target) : Prop := ∀ a ∈ x, ∀ b ∈ y, a.Apart b

instance (x y : Target) : Decidable (x.Apart y) :=
  inferInstanceAs (Decidable (∀ a ∈ x, ∀ b ∈ y, a.Apart b))

/-- The places that may change. -/
def Changes (x : Target) (p : Place) : Prop := ∃ a ∈ x, a.Within p

/-- The places that are looked at. -/
def LooksAt (x : Target) (p : Place) : Prop := ∃ a ∈ x, a.LooksAt p

variable {x y : Target} {p : Place}

theorem Changes.looksAt (h : x.Changes p) : x.LooksAt p := by
  obtain ⟨a, ha, hp⟩ := h
  exact ⟨a, ha, hp.looksAt⟩

theorem looksAt_self (a : Place) : LooksAt (some a) a := by
  cases a with
  | collection id => exact ⟨_, rfl, rfl⟩
  | item key => exact ⟨_, rfl, .inl rfl⟩

theorem looksAt_collection (key : ItemKey) :
    LooksAt (some (.item key)) (.collection key.collection) := ⟨_, rfl, .inr rfl⟩

theorem Apart.symm (h : x.Apart y) : y.Apart x :=
  fun b hb a ha => (h a ha b hb).symm

theorem Apart.not_looksAt (h : x.Apart y) (hp : x.Changes p) : ¬y.LooksAt p := by
  obtain ⟨a, ha, hp⟩ := hp
  rintro ⟨b, hb, hlooks⟩
  exact (h a ha b hb).not_looksAt hp hlooks

end Target

/-- A primitive looks at no other places than a target does, and it modifies the target itself if
anything. -/
inductive Primitive.About : Target → Primitive → Prop
  | collectionExists {x : Target} {id : String} (looked : x.LooksAt (.collection id)) :
      About x (.collectionExists id)
  | fetchCollection {x : Target} {id : String} (looked : x.LooksAt (.collection id)) :
      About x (.fetchCollection id)
  | insertCollection (id : String) (data : Json) :
      About (some (.collection id)) (.insertCollection id data)
  | removeCollection (id : String) : About (some (.collection id)) (.removeCollection id)
  | insertItem (r : ItemRecord) : About (some (.item r.key)) (.insertItem r)
  | replaceItem (r : ItemRecord) : About (some (.item r.key)) (.replaceItem r)
  | removeItem (id collection : String) :
      About (some (.item ⟨collection, id⟩)) (.removeItem id collection)

/-- All primitives that a program asks for are about a target. -/
inductive Program.About {α : Type} (x : Target) : Program α → Prop
  | done (result : Result α) : About x (.done result)
  | call {q : Primitive} {next : q.Reply → Program α} (primitive : q.About x)
      (rest : ∀ reply, About x (next reply)) : About x (.call q next)

/-! ### What is in a place -/

namespace Store

variable (s : Store)

/-- What a store has in a place. -/
def at? : Place → Option (Json ⊕ Entry)
  | .collection id => s.collections[id]?.map .inl
  | .item key => s.items[key]?.map .inr

/-- A store is known by what is in its places. -/
theorem eq_of_at? {s t : Store} (h : ∀ p, s.at? p = t.at? p) : s = t := by
  have hcollections : s.collections = t.collections := Std.ExtTreeMap.ext_getElem? fun id =>
    Option.map_injective Sum.inl_injective (h (.collection id))
  have hitems : s.items = t.items := Std.ExtTreeMap.ext_getElem? fun key =>
    Option.map_injective Sum.inr_injective (h (.item key))
  cases s
  cases t
  simp_all

theorem hasCollection_eq_isSome (id : String) :
    s.hasCollection id = (s.at? (.collection id)).isSome := by
  rw [hasCollection, Std.ExtTreeMap.contains_eq_isSome_getElem?, at?, Option.isSome_map]

theorem contains_items_eq_isSome (key : ItemKey) :
    s.items.contains key = (s.at? (.item key)).isSome := by
  rw [Std.ExtTreeMap.contains_eq_isSome_getElem?, at?, Option.isSome_map]

theorem collection?_eq_of_at? {s t : Store} {id : String}
    (h : s.at? (.collection id) = t.at? (.collection id)) : s.collection? id = t.collection? id :=
  Option.map_injective Sum.inl_injective h

theorem at?_insertCollection (id : String) (data : Json) (p : Place) :
    at? { s with collections := s.collections.insert id data } p =
      if p = .collection id then some (.inl data) else s.at? p := by
  cases p with
  | item key => simp [at?]
  | collection id' =>
    by_cases h : id = id'
    · simp [at?, h]
    · simp [at?, Std.ExtTreeMap.getElem?_insert, h, Ne.symm h]

theorem at?_removeCollection (id : String) (p : Place) :
    at? ⟨s.collections.erase id, s.items.filter fun key _ => key.collection != id⟩ p =
      if p.owner = id then none else s.at? p := by
  cases p with
  | collection id' =>
    by_cases h : id = id'
    · simp [at?, Place.owner, h]
    · simp [at?, Place.owner, Std.ExtTreeMap.getElem?_erase, h, Ne.symm h]
  | item key =>
    by_cases h : key.collection = id
    · simp [at?, Place.owner, h]
    · cases hkey : s.items[key]? <;> simp [at?, Place.owner, hkey, h]

theorem at?_insertItem (key : ItemKey) (e : Entry) (p : Place) :
    at? { s with items := s.items.insert key e } p =
      if p = .item key then some (.inr e) else s.at? p := by
  cases p with
  | collection id => simp [at?]
  | item key' =>
    by_cases h : key = key'
    · simp [at?, h]
    · simp [at?, Std.ExtTreeMap.getElem?_insert, h, Ne.symm h]

theorem at?_removeItem (key : ItemKey) (p : Place) :
    at? { s with items := s.items.erase key } p = if p = .item key then none else s.at? p := by
  cases p with
  | collection id => simp [at?]
  | item key' =>
    by_cases h : key = key'
    · simp [at?, h]
    · simp [at?, Std.ExtTreeMap.getElem?_erase, h, Ne.symm h]

/-! ### Frames -/

variable {α : Type} {m : Program α} {q : Primitive} {x y : Target} {p : Place}

/-- What a primitive may not change stays. -/
theorem at?_perform (h : q.About x) (hp : ¬x.Changes p) :
    (perform q s).2.at? p = s.at? p := by
  cases h with
  | collectionExists => rfl
  | fetchCollection => rfl
  | insertCollection id data =>
    show (s.insertCollection id data).2.at? p = s.at? p
    have hne : p ≠ .collection id := by
      rintro rfl
      exact hp ⟨_, rfl, rfl⟩
    rw [insertCollection]
    split
    · rfl
    · rw [at?_insertCollection, if_neg hne]
  | removeCollection id =>
    show (s.removeCollection id).2.at? p = s.at? p
    have hne : p.owner ≠ id := fun howner => hp ⟨_, rfl, howner⟩
    rw [removeCollection]
    split
    · rw [at?_removeCollection, if_neg hne]
    · rfl
  | insertItem r =>
    show (s.insertItem r).2.at? p = s.at? p
    have hne : p ≠ .item r.key := fun heq => hp ⟨_, rfl, heq⟩
    rw [insertItem]
    split
    · rfl
    · split
      · split
        · rfl
        · rw [at?_insertItem, if_neg hne]
      · rfl
  | replaceItem r =>
    show (s.replaceItem r).2.at? p = s.at? p
    have hne : p ≠ .item r.key := fun heq => hp ⟨_, rfl, heq⟩
    rw [replaceItem]
    split
    · rfl
    · split
      · rw [at?_insertItem, if_neg hne]
      · rfl
  | removeItem id c =>
    show (s.removeItem id c).2.at? p = s.at? p
    have hne : p ≠ .item ⟨c, id⟩ := fun heq => hp ⟨_, rfl, heq⟩
    rw [removeItem]
    split
    · rw [at?_removeItem, if_neg hne]
    · rfl

/-- **What a program may not change stays.** -/
theorem at?_run (h : m.About x) (hp : ¬x.Changes p) : (run m s).2.at? p = s.at? p := by
  induction h generalizing s with
  | done => rfl
  | @call q next primitive _ ih =>
    have hstep := s.at?_perform primitive hp
    rcases hperform : perform q s with ⟨e | reply, s'⟩
    · rw [run_call_error q next hperform]
      rwa [hperform] at hstep
    · rw [run_call_ok q next hperform, ih]
      rwa [hperform] at hstep

/-- Two stores have the same in the places that are looked at. -/
def Alike (x : Target) (s t : Store) : Prop := ∀ p, x.LooksAt p → s.at? p = t.at? p

variable {s} {t : Store}

theorem Alike.hasCollection (h : Alike x s t) {id : String} (looked : x.LooksAt (.collection id)) :
    s.hasCollection id = t.hasCollection id := by
  rw [hasCollection_eq_isSome, hasCollection_eq_isSome, h _ looked]

theorem Alike.contains_items (h : Alike x s t) {key : ItemKey} (looked : x.LooksAt (.item key)) :
    s.items.contains key = t.items.contains key := by
  rw [contains_items_eq_isSome, contains_items_eq_isSome, h _ looked]

/-- Stores that are alike where a primitive looks reply alike, and are alike there afterwards. -/
theorem perform_congr (h : q.About x) (hst : Alike x s t) :
    (perform q s).1 = (perform q t).1 ∧ Alike x (perform q s).2 (perform q t).2 := by
  cases h with
  | collectionExists looked =>
    exact ⟨congrArg Except.ok (hst.hasCollection looked), hst⟩
  | fetchCollection looked =>
    exact ⟨congrArg Except.ok (collection?_eq_of_at? (hst _ looked)), hst⟩
  | insertCollection id data =>
    have hhas := hst.hasCollection (Target.looksAt_self _)
    show Except.ok (s.insertCollection id data).1 = Except.ok (t.insertCollection id data).1 ∧
      Alike _ (s.insertCollection id data).2 (t.insertCollection id data).2
    rw [insertCollection, insertCollection, hhas]
    split
    · exact ⟨rfl, hst⟩
    · refine ⟨rfl, fun p hp => ?_⟩
      rw [at?_insertCollection, at?_insertCollection, hst p hp]
  | removeCollection id =>
    have hhas := hst.hasCollection (Target.looksAt_self _)
    show Except.ok (s.removeCollection id).1 = Except.ok (t.removeCollection id).1 ∧
      Alike _ (s.removeCollection id).2 (t.removeCollection id).2
    rw [removeCollection, removeCollection, hhas]
    split
    · refine ⟨rfl, fun p hp => ?_⟩
      rw [at?_removeCollection, at?_removeCollection, hst p hp]
    · exact ⟨rfl, hst⟩
  | insertItem r =>
    have hhas : s.hasCollection r.collection = t.hasCollection r.collection :=
      hst.hasCollection (Target.looksAt_collection r.key)
    have hitem := hst.contains_items (Target.looksAt_self _)
    show (s.insertItem r).1 = (t.insertItem r).1 ∧ Alike _ (s.insertItem r).2 (t.insertItem r).2
    rw [insertItem, insertItem, hhas, hitem]
    split
    · exact ⟨rfl, hst⟩
    · split
      · split
        · exact ⟨rfl, hst⟩
        · refine ⟨rfl, fun p hp => ?_⟩
          rw [at?_insertItem, at?_insertItem, hst p hp]
      · exact ⟨rfl, hst⟩
  | replaceItem r =>
    have hitem := hst.contains_items (Target.looksAt_self _)
    show (s.replaceItem r).1 = (t.replaceItem r).1 ∧
      Alike _ (s.replaceItem r).2 (t.replaceItem r).2
    rw [replaceItem, replaceItem, hitem]
    split
    · exact ⟨rfl, hst⟩
    · split
      · refine ⟨rfl, fun p hp => ?_⟩
        rw [at?_insertItem, at?_insertItem, hst p hp]
      · exact ⟨rfl, hst⟩
  | removeItem id c =>
    have hitem := hst.contains_items (Target.looksAt_self _)
    show Except.ok (s.removeItem id c).1 = Except.ok (t.removeItem id c).1 ∧
      Alike _ (s.removeItem id c).2 (t.removeItem id c).2
    rw [removeItem, removeItem, hitem]
    split
    · refine ⟨rfl, fun p hp => ?_⟩
      rw [at?_removeItem, at?_removeItem, hst p hp]
    · exact ⟨rfl, hst⟩

/-- **Stores that are alike where a program looks are answered alike, and are alike there
afterwards.** -/
theorem run_congr (h : m.About x) (hst : Alike x s t) :
    (run m s).1 = (run m t).1 ∧ Alike x (run m s).2 (run m t).2 := by
  induction h generalizing s t with
  | done => exact ⟨rfl, hst⟩
  | @call q next primitive _ ih =>
    obtain ⟨hreply, hstep⟩ := perform_congr primitive hst
    rcases hs : perform q s with ⟨e | reply, s'⟩
    · rcases ht : perform q t with ⟨e' | reply', t'⟩
      · rw [hs, ht] at hreply hstep
        rw [run_call_error q next hs, run_call_error q next ht]
        exact ⟨by rw [Except.error.inj hreply], hstep⟩
      · rw [hs, ht] at hreply
        cases hreply
    · rcases ht : perform q t with ⟨e' | reply', t'⟩
      · rw [hs, ht] at hreply
        cases hreply
      · rw [hs, ht] at hreply hstep
        obtain rfl := Except.ok.inj hreply
        rw [run_call_ok q next hs, run_call_ok q next ht]
        exact ih reply hstep

/-! ### Programs that commute -/

variable {β : Type} {m' : Program β}

/-- A program does not see what another has done whose target is apart. -/
theorem alike_run (s : Store) (hm : m.About x) (h : x.Apart y) : Alike y (run m s).2 s := by
  intro p hp
  exact s.at?_run hm fun hchanges => h.not_looksAt hchanges hp

theorem answer_of_apart (s : Store) (hm : m.About x) (hm' : m'.About y) (h : x.Apart y) :
    (run m' (run m s).2).1 = (run m' s).1 :=
  (run_congr hm' (s.alike_run hm h)).1

/-- Where a program looks, it leaves the same before and after one whose target is apart. -/
theorem at?_of_looksAt (s : Store) (hm : m.About x) (hm' : m'.About y) (h : x.Apart y)
    (hp : y.LooksAt p) : (run m' (run m s).2).2.at? p = (run m (run m' s).2).2.at? p := by
  have hx : ¬x.Changes p := fun hchanges => h.not_looksAt hchanges hp
  rw [at?_run _ hm hx]
  exact (run_congr hm' (s.alike_run hm h)).2 p hp

theorem store_of_apart (s : Store) (hm : m.About x) (hm' : m'.About y) (h : x.Apart y) :
    (run m' (run m s).2).2 = (run m (run m' s).2).2 := by
  apply eq_of_at?
  intro p
  by_cases hy : y.LooksAt p
  · exact s.at?_of_looksAt hm hm' h hy
  · by_cases hx : x.LooksAt p
    · exact (s.at?_of_looksAt hm' hm h.symm hx).symm
    · -- Neither program changes anything here.
      have hx' : ¬x.Changes p := fun hchanges => hx hchanges.looksAt
      have hy' : ¬y.Changes p := fun hchanges => hy hchanges.looksAt
      rw [at?_run _ hm' hy', at?_run _ hm hx', at?_run _ hm hx', at?_run _ hm' hy']

end Store

/-! ### Modifications -/

/-- What is asked of a store to modify it: a write of the catalog, or a primitive by itself. -/
inductive Modification where
  | write (w : Write)
  | insertCollection (id : String) (data : Json)
  | removeCollection (id : String)
  | insertItem (r : ItemRecord)
  | replaceItem (r : ItemRecord)
  | removeItem (id collection : String)

/-- The place of the item that a write is about, if the item has a collection. -/
def Item.target (item : Item) : Target := item.collection.map fun c => .item ⟨c, item.id⟩

/-- What a write is about. An item without a collection has no place. -/
def Write.target : Write → Target
  | addCollection c => some (.collection c.id)
  | deleteCollection id => some (.collection id)
  | addItem item => item.target
  | updateItem item => item.target
  | deleteItem id c => some (.item ⟨c, id⟩)

namespace Modification

/-- What a modification is answered with. -/
def Answer : Modification → Type
  | write _ => Unit
  | _ => Bool

/-- The program of a modification. -/
def program : (m : Modification) → Program m.Answer
  | write w => w.program
  | insertCollection id data => .call (.insertCollection id data) fun reply => .done (.ok reply)
  | removeCollection id => .call (.removeCollection id) fun reply => .done (.ok reply)
  | insertItem r => .call (.insertItem r) fun reply => .done (.ok reply)
  | replaceItem r => .call (.replaceItem r) fun reply => .done (.ok reply)
  | removeItem id c => .call (.removeItem id c) fun reply => .done (.ok reply)

/-- What a modification is about. -/
def target : Modification → Target
  | write w => w.target
  | insertCollection id _ => some (.collection id)
  | removeCollection id => some (.collection id)
  | insertItem r => some (.item r.key)
  | replaceItem r => some (.item r.key)
  | removeItem id c => some (.item ⟨c, id⟩)

/-- Two modifications touch different things. -/
def Independent (v w : Modification) : Prop := v.target.Apart w.target

instance (v w : Modification) : Decidable (v.Independent w) :=
  inferInstanceAs (Decidable (v.target.Apart w.target))

end Modification

/-- The key of a record is the target of a write of its item. -/
theorem Item.target_eq {item : Item} {r : ItemRecord} (h : ItemRecord.ofItem item = .ok r) :
    item.target = some (.item r.key) := by
  obtain ⟨hc, hid, -⟩ := ItemRecord.ofItem_eq_ok_iff.mp h
  rw [target, hc, ← hid]
  rfl

theorem Write.about_target (w : Write) : w.program.About w.target := by
  cases w with
  | addCollection c => exact .call (.insertCollection _ _) fun _ => .done _
  | deleteCollection id => exact .call (.removeCollection _) fun _ => .done _
  | deleteItem id c => exact .call (.removeItem _ _) fun _ => .done _
  | addItem item =>
    show (Catalog.addItem item).About item.target
    rw [Catalog.addItem]
    cases hr : ItemRecord.ofItem item with
    | error e => exact .done _
    | ok r =>
      rw [Item.target_eq hr]
      refine .call (.collectionExists (Target.looksAt_collection r.key)) fun found => ?_
      cases found with
      | false => exact .done _
      | true => exact .call (.insertItem r) fun _ => .done _
  | updateItem item =>
    show (Catalog.updateItem item).About item.target
    rw [Catalog.updateItem]
    cases hr : ItemRecord.ofItem item with
    | error e => exact .done _
    | ok r =>
      rw [Item.target_eq hr]
      exact .call (.replaceItem r) fun _ => .done _

/-- **Every modification is about its target.** -/
theorem Modification.about_target (v : Modification) : v.program.About v.target := by
  cases v with
  | write w => exact w.about_target
  | insertCollection id data => exact .call (.insertCollection _ _) fun _ => .done _
  | removeCollection id => exact .call (.removeCollection _) fun _ => .done _
  | insertItem r => exact .call (.insertItem _) fun _ => .done _
  | replaceItem r => exact .call (.replaceItem _) fun _ => .done _
  | removeItem id c => exact .call (.removeItem _ _) fun _ => .done _

/-! ### Histories -/

/-- Two independent neighbours in a history change places. -/
inductive Exchange : List Modification → List Modification → Prop
  | swap (earlier : List Modification) {v w : Modification} (later : List Modification)
      (h : v.Independent w) : Exchange (earlier ++ v :: w :: later) (earlier ++ w :: v :: later)

/-- Histories that differ by such exchanges, however many. -/
abbrev Exchanged : List Modification → List Modification → Prop := Relation.ReflTransGen Exchange

namespace Store

/-- Run a modification. -/
def modify (s : Store) (v : Modification) : Result v.Answer × Store := run v.program s

/-- The store after a history of modifications. -/
def modified (s : Store) (vs : List Modification) : Store :=
  vs.foldl (fun s v => (s.modify v).2) s

theorem modified_cons (s : Store) (v : Modification) (vs : List Modification) :
    s.modified (v :: vs) = (s.modify v).2.modified vs := rfl

theorem modified_append (s : Store) (vs ws : List Modification) :
    s.modified (vs ++ ws) = (s.modified vs).modified ws := List.foldl_append

/-- A history of writes, among the histories of modifications. -/
theorem modified_map_write (s : Store) (ws : List Write) :
    s.modified (ws.map .write) = s.after ws := List.foldl_map

theorem modified_eq_of_exchange (s : Store) {vs ws : List Modification} (h : Exchange vs ws) :
    s.modified vs = s.modified ws := by
  cases h with
  | @swap earlier v w later h =>
    have hstore := (s.modified earlier).store_of_apart v.about_target w.about_target h
    rw [modified_append, modified_append, modified_cons, modified_cons, modified_cons,
      modified_cons, modify, modify, modify, modify, hstore]

theorem modified_eq_of_exchanged (s : Store) {vs ws : List Modification} (h : Exchanged vs ws) :
    s.modified vs = s.modified ws := by
  induction h with
  | refl => rfl
  | tail _ hlast ih => rw [ih, s.modified_eq_of_exchange hlast]

/-- **Independent modifications commute**: in either order each is answered the same and the same
store is left. Histories that differ by exchanges of independent neighbours leave the same store, so
that every later search is answered with the same page. -/
theorem modify_comm (s : Store) :
    (∀ v w : Modification, v.Independent w →
      ((s.modify v).2.modify w).1 = (s.modify w).1 ∧
        ((s.modify w).2.modify v).1 = (s.modify v).1 ∧ s.modified [v, w] = s.modified [w, v]) ∧
    ∀ vs ws : List Modification, Exchanged vs ws →
      s.modified vs = s.modified ws ∧ ∀ search : Search,
        (run (Catalog.search search) (s.modified vs)).1 =
          (run (Catalog.search search) (s.modified ws)).1 := by
  constructor
  · intro v w h
    have hv := v.about_target
    have hw := w.about_target
    exact ⟨s.answer_of_apart hv hw h, s.answer_of_apart hw hv h.symm, s.store_of_apart hv hw h⟩
  · intro vs ws h
    have hstore := s.modified_eq_of_exchanged h
    exact ⟨hstore, fun search => by rw [hstore]⟩

/-- Two items are added to a collection in either order, and so are an item and another
collection. -/
theorem modify_comm_oneCollection :
    let a : Modification := .write (.addItem (originItem "a" "c"))
    let b : Modification := .write (.addItem (originItem "b" "c"))
    let d : Modification := .insertCollection "d" .null
    ((oneCollection.modify a).2.modify b).1 = .ok () ∧
      ((oneCollection.modify b).2.modify a).1 = .ok () ∧
      oneCollection.modified [a, b, d] = oneCollection.modified [d, b, a] := by
  intro a b d
  have hitems : a.Independent b := by decide
  have hcollection : a.Independent d := by decide
  have hcollection' : b.Independent d := by decide
  obtain ⟨hcomm, hhistories⟩ := modify_comm oneCollection
  obtain ⟨hb, ha, -⟩ := hcomm a b hitems
  have hexchanged : Exchanged [a, b, d] [d, b, a] :=
    .tail (.tail (.single (.swap [] [d] hitems)) (.swap [b] [] hcollection))
      (.swap [] [a] hcollection')
  refine ⟨hb.trans ?_, ha.trans ?_, (hhistories _ _ hexchanged).1⟩
  · show (oneCollection.write (.addItem (originItem "b" "c"))).1 = .ok ()
    decide +kernel
  · show (oneCollection.write (.addItem (originItem "a" "c"))).1 = .ok ()
    decide +kernel

end Store

end SpatialCatalog
