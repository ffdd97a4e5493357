import SpatialCatalog.Store.Perform

/-!
# Writes and histories

A `Write` is an operation that changes a store; a history is a list of them.

* `Store.write` runs a write and `Store.after` a history, failing writes included.
* `Store.Effect s w s'` says what a write that succeeds has found in the store, and what it does.
* `Store.write_cases`: a write has its effect, or it fails and leaves the store as it was.
* `Store.after_induction`: what every effect keeps holds after every history.
-/

namespace SpatialCatalog

/-! ### Running a program on the store -/

theorem Program.run_map {α β σ : Type} (perform : (p : Primitive) → σ → Result p.Reply × σ)
    (f : α → β) (x : Program α) (s : σ) :
    (x.map f).run perform s = ((x.run perform s).1.map f, (x.run perform s).2) := by
  induction x generalizing s with
  | done result => rfl
  | call p next ih =>
    rw [map, run, run]
    rcases perform p s with ⟨e | reply, s'⟩
    · rfl
    · exact ih reply s'

namespace Store

variable {α : Type} (s : Store)

@[simp] theorem run_done (result : Result α) : run (.done result) s = (result, s) := rfl

@[simp] theorem run_collectionExists (id : String) (next : Bool → Program α) :
    run (.call (.collectionExists id) next) s = run (next (s.hasCollection id)) s := rfl

@[simp] theorem run_insertCollection (id : String) (data : Json) (next : Bool → Program α) :
    run (.call (.insertCollection id data) next) s =
      run (next (s.insertCollection id data).1) (s.insertCollection id data).2 := rfl

@[simp] theorem run_removeCollection (id : String) (next : Bool → Program α) :
    run (.call (.removeCollection id) next) s =
      run (next (s.removeCollection id).1) (s.removeCollection id).2 := rfl

@[simp] theorem run_removeItem (id collection : String) (next : Bool → Program α) :
    run (.call (.removeItem id collection) next) s =
      run (next (s.removeItem id collection).1) (s.removeItem id collection).2 := rfl

theorem run_call_ok (p : Primitive) {reply : p.Reply} {s s' : Store} (next : p.Reply → Program α)
    (h : perform p s = (.ok reply, s')) : run (.call p next) s = run (next reply) s' := by
  rw [run, Program.run, h, run]

theorem run_call_error (p : Primitive) {e : Error} {s s' : Store} (next : p.Reply → Program α)
    (h : perform p s = (.error e, s')) : run (.call p next) s = (.error e, s') := by
  rw [run, Program.run, h]

theorem run_insertItem (r : ItemRecord) (next : Bool → Program α) :
    run (.call (.insertItem r) next) s =
      match s.insertItem r with
      | (.ok inserted, s') => run (next inserted) s'
      | (.error e, s') => (.error e, s') := by
  rcases h : s.insertItem r with ⟨e | inserted, s'⟩
  · exact run_call_error (.insertItem r) next h
  · exact run_call_ok (.insertItem r) next h

theorem run_replaceItem (r : ItemRecord) (next : Bool → Program α) :
    run (.call (.replaceItem r) next) s =
      match s.replaceItem r with
      | (.ok replaced, s') => run (next replaced) s'
      | (.error e, s') => (.error e, s') := by
  rcases h : s.replaceItem r with ⟨e | replaced, s'⟩
  · exact run_call_error (.replaceItem r) next h
  · exact run_call_ok (.replaceItem r) next h

theorem run_query (plan : QueryPlan) (next : List StoredItem → Program α) :
    run (.call (.query plan) next) s =
      match s.query plan with
      | .ok found => run (next found) s
      | .error e => (.error (.internal e), s) := by
  have h : perform (.query plan) s = ((s.query plan).mapError .internal, s) := rfl
  cases hq : s.query plan with
  | error e =>
    rw [hq] at h
    exact run_call_error (.query plan) next h
  | ok found =>
    rw [hq] at h
    exact run_call_ok (.query plan) next h

end Store

/-! ### Writes -/

/-- An operation that changes a store. -/
inductive Write where
  | addCollection (c : Collection)
  | deleteCollection (id : String)
  | addItem (item : Item)
  | updateItem (item : Item)
  | deleteItem (id collection : String)

/-- The program of a write. -/
def Write.program : Write → Program Unit
  | addCollection c => Catalog.addCollection c
  | deleteCollection id => Catalog.deleteCollection id
  | addItem item => Catalog.addItem item
  | updateItem item => Catalog.updateItem item
  | deleteItem id collection => Catalog.deleteItem id collection

namespace Store

/-- Run a write. -/
def write (s : Store) (w : Write) : Result Unit × Store := run w.program s

/-- The store after a history. -/
def after (s : Store) (ws : List Write) : Store := ws.foldl (fun s w => (s.write w).2) s

@[simp] theorem after_nil (s : Store) : s.after [] = s := rfl

@[simp] theorem after_cons (s : Store) (w : Write) (ws : List Write) :
    s.after (w :: ws) = (s.write w).2.after ws := rfl

/-- What a write that succeeds has found, and what it does. -/
inductive Effect (s : Store) : Write → Store → Prop
  | collectionAdded {c : Collection} (absent : ¬ s.hasCollection c.id) :
      Effect s (.addCollection c) { s with collections := s.collections.insert c.id c.document }
  | collectionDeleted {id : String} (present : s.hasCollection id) :
      Effect s (.deleteCollection id)
        { collections := s.collections.erase id
          items := s.items.filter fun key _ => key.collection != id }
  | itemAdded {item : Item} {r : ItemRecord} {e : Entry} (record : ItemRecord.ofItem item = .ok r)
      (read : entry r = .ok e) (present : s.hasCollection r.collection) (free : r.key ∉ s.items) :
      Effect s (.addItem item) { s with items := s.items.insert r.key e }
  | itemReplaced {item : Item} {r : ItemRecord} {e : Entry}
      (record : ItemRecord.ofItem item = .ok r) (read : entry r = .ok e) (taken : r.key ∈ s.items) :
      Effect s (.updateItem item) { s with items := s.items.insert r.key e }
  | itemDeleted {id collection : String} (taken : ⟨collection, id⟩ ∈ s.items) :
      Effect s (.deleteItem id collection) { s with items := s.items.erase ⟨collection, id⟩ }

theorem write_addCollection (s : Store) (c : Collection) :
    s.write (.addCollection c) =
      if s.hasCollection c.id then (.error (.request (.collectionExists c.id)), s)
      else (.ok (), { s with collections := s.collections.insert c.id c.document }) := by
  by_cases h : s.hasCollection c.id <;>
    simp [write, Write.program, Catalog.addCollection, insertCollection, h]

theorem write_deleteCollection (s : Store) (id : String) :
    s.write (.deleteCollection id) =
      if s.hasCollection id then
        (.ok (), { collections := s.collections.erase id
                   items := s.items.filter fun key _ => key.collection != id })
      else (.error (.notFound (.collection id)), s) := by
  by_cases h : s.hasCollection id <;>
    simp [write, Write.program, Catalog.deleteCollection, removeCollection, h]

theorem write_addItem (s : Store) (item : Item) :
    s.write (.addItem item) =
      match ItemRecord.ofItem item with
      | .error e => (.error e, s)
      | .ok r =>
        if s.hasCollection r.collection then
          match entry r with
          | .error e => (.error (.internal e), s)
          | .ok e =>
            if r.key ∈ s.items then (.error (.request (.itemExists r.id r.collection)), s)
            else (.ok (), { s with items := s.items.insert r.key e })
        else (.error (.notFound (.collection r.collection)), s) := by
  cases hr : ItemRecord.ofItem item with
  | error e => simp [write, Write.program, Catalog.addItem, hr]
  | ok r =>
    by_cases hc : s.hasCollection r.collection
    · cases he : entry r with
      | error e =>
        simp [write, Write.program, Catalog.addItem, run_insertItem, insertItem, hr, hc, he]
      | ok e =>
        by_cases hk : r.key ∈ s.items <;>
          simp [write, Write.program, Catalog.addItem, run_insertItem, insertItem, hr, hc, he, hk]
    · simp [write, Write.program, Catalog.addItem, hr, hc]

theorem write_updateItem (s : Store) (item : Item) :
    s.write (.updateItem item) =
      match ItemRecord.ofItem item with
      | .error e => (.error e, s)
      | .ok r =>
        match entry r with
        | .error e => (.error (.internal e), s)
        | .ok e =>
          if r.key ∈ s.items then (.ok (), { s with items := s.items.insert r.key e })
          else (.error (.notFound (.item r.id r.collection)), s) := by
  cases hr : ItemRecord.ofItem item with
  | error e => simp [write, Write.program, Catalog.updateItem, hr]
  | ok r =>
    cases he : entry r with
    | error e =>
      simp [write, Write.program, Catalog.updateItem, run_replaceItem, replaceItem, hr, he]
    | ok e =>
      by_cases hk : r.key ∈ s.items <;>
        simp [write, Write.program, Catalog.updateItem, run_replaceItem, replaceItem, hr, he, hk]

theorem write_deleteItem (s : Store) (id collection : String) :
    s.write (.deleteItem id collection) =
      if ⟨collection, id⟩ ∈ s.items then
        (.ok (), { s with items := s.items.erase ⟨collection, id⟩ })
      else (.error (.notFound (.item id collection)), s) := by
  by_cases h : (⟨collection, id⟩ : ItemKey) ∈ s.items <;>
    simp [write, Write.program, Catalog.deleteItem, removeItem, h]

/-- **A write has its effect, or it fails and changes nothing.** -/
theorem write_cases (s : Store) (w : Write) :
    (∃ s', s.write w = (.ok (), s') ∧ Effect s w s') ∨ ∃ e, s.write w = (.error e, s) := by
  cases w with
  | addCollection c =>
    rw [write_addCollection]
    split
    · exact .inr ⟨_, rfl⟩
    next h => exact .inl ⟨_, rfl, .collectionAdded h⟩
  | deleteCollection id =>
    rw [write_deleteCollection]
    split
    next h => exact .inl ⟨_, rfl, .collectionDeleted h⟩
    · exact .inr ⟨_, rfl⟩
  | addItem item =>
    rw [write_addItem]
    cases hr : ItemRecord.ofItem item with
    | error e => exact .inr ⟨e, rfl⟩
    | ok r =>
      dsimp only
      split
      next hc =>
        cases he : entry r with
        | error e => exact .inr ⟨_, rfl⟩
        | ok e =>
          dsimp only
          split
          · exact .inr ⟨_, rfl⟩
          next hk => exact .inl ⟨_, rfl, .itemAdded hr he hc hk⟩
      · exact .inr ⟨_, rfl⟩
  | updateItem item =>
    rw [write_updateItem]
    cases hr : ItemRecord.ofItem item with
    | error e => exact .inr ⟨e, rfl⟩
    | ok r =>
      dsimp only
      cases he : entry r with
      | error e => exact .inr ⟨_, rfl⟩
      | ok e =>
        dsimp only
        split
        next hk => exact .inl ⟨_, rfl, .itemReplaced hr he hk⟩
        · exact .inr ⟨_, rfl⟩
  | deleteItem id collection =>
    rw [write_deleteItem]
    split
    next h => exact .inl ⟨_, rfl, .itemDeleted h⟩
    · exact .inr ⟨_, rfl⟩

/-! ### Histories -/

/-- What every effect keeps holds after every history. -/
theorem after_induction {P : Store → Prop} {s : Store} (start : P s)
    (step : ∀ {s s' : Store} {w : Write}, P s → Effect s w s' → P s') (ws : List Write) :
    P (s.after ws) := by
  induction ws generalizing s with
  | nil => exact start
  | cons w ws ih =>
    rw [after_cons]
    obtain ⟨s', h, effect⟩ | ⟨e, h⟩ := s.write_cases w
    · rw [h]
      exact ih (step start effect)
    · rw [h]
      exact ih start

end Store

/-! ### Samples -/

/-- A collection with an id only. -/
def plainCollection (id : String) : Collection := ⟨id, .obj [("id", .str id)], rfl⟩

/-- An item at the origin. -/
def originItem (id collection : String) : Item where
  id := id
  collection := some collection
  document := .obj [("id", .str id), ("collection", .str collection),
    ("geometry", .obj [("type", .str "Point"), ("coordinates", .arr [.int 0, .int 0])])]
  id_eq := rfl
  collection_eq := rfl

end SpatialCatalog
