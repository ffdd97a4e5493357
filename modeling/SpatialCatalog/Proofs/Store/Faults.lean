import SpatialCatalog.Proofs.Search.Received
import SpatialCatalog.Proofs.Store.Page
import SpatialCatalog.Proofs.Store.Writes

/-!
# Whose fault an error is

An error is the fault of a request, or the store contradicts itself. The second kind of error stands
where a stage checks what an earlier stage has let through: a decoded geometry is written, its text
is read again, a plan's limit is positive, a stored document is an object. `Blameless` says of a
result that it is none of these, and no call that is received makes a store report one.
-/

namespace SpatialCatalog

/-! ### Errors of requests -/

/-- An error that a request is at fault for. -/
inductive Error.FromRequest : Error → Prop
  | geometry (cause : GeometryFault) : FromRequest (.geometry cause)
  | request (cause : RequestFault) : FromRequest (.request cause)
  | notFound (what : Missing) : FromRequest (.notFound what)

/-- The errors of requests are those with the status of a client's error. -/
theorem Error.fromRequest_iff {e : Error} : e.FromRequest ↔ e.isClientError := by
  cases e with
  | geometry cause => exact iff_of_true (.geometry cause) rfl
  | request cause => exact iff_of_true (.request cause) rfl
  | notFound what => exact iff_of_true (.notFound what) rfl
  | internal | document | database =>
    exact iff_of_false (fun h => nomatch h) (by simp [isClientError, status])

/-- A result that is no error, or an error of the request. -/
def Blameless {α : Type} (r : Result α) : Prop := ∀ e, r = .error e → e.FromRequest

section

variable {α β ε : Type}

theorem blameless_ok (a : α) : Blameless (.ok a) := fun _ h => nomatch h

theorem blameless_error {e : Error} (h : e.FromRequest) : Blameless (.error e : Result α) := by
  rintro _ ⟨⟩
  exact h

theorem Blameless.bind {r : Result α} {f : α → Result β} (hr : Blameless r)
    (hf : ∀ a, r = .ok a → Blameless (f a)) : Blameless (r.bind f) := by
  cases r with
  | error e => exact blameless_error (hr e rfl)
  | ok a => exact hf a rfl

theorem Blameless.map {r : Result α} (hr : Blameless r) (f : α → β) : Blameless (r.map f) := by
  cases r with
  | error e => exact blameless_error (hr e rfl)
  | ok a => exact blameless_ok (f a)

theorem blameless_mapError {kind : ε → Error} (hkind : ∀ cause, (kind cause).FromRequest)
    (r : Except ε α) : Blameless (r.mapError kind) := by
  cases r with
  | error cause => exact blameless_error (hkind cause)
  | ok a => exact blameless_ok a

end

/-! ### Compiling -/

namespace Filter

mutual

/-- A geometry that can be written can be asked for. -/
theorem exists_ofGeometry : ∀ g : Geometry, g.toJson?.isSome → ∃ f, ofGeometry g = .ok f
  | .collection members, h => by
    rw [Geometry.toJson?, Option.isSome_map] at h
    obtain ⟨fs, hfs⟩ := exists_ofGeometries members h
    exact ⟨.any fs, by rw [ofGeometry, hfs]; rfl⟩
  | .point _, h | .multiPoint _, h | .lineString _, h | .polygon _, h | .multiLineString _, h
  | .multiPolygon _, h => by
    obtain ⟨k, hk⟩ := Option.isSome_iff_exists.mp h
    exact ⟨.intersects k.render, by simp only [ofGeometry, Geometry.text, hk]; rfl⟩

theorem exists_ofGeometries : ∀ gs : List Geometry, (Geometry.listToJson? gs).isSome →
    ∃ fs, ofGeometries gs = .ok fs
  | [], _ => ⟨[], rfl⟩
  | g :: gs, h => by
    obtain ⟨js, hjs⟩ := Option.isSome_iff_exists.mp h
    obtain ⟨j, hj, hmap⟩ := Option.bind_eq_some_iff.mp hjs
    obtain ⟨js', hjs', -⟩ := Option.map_eq_some_iff.mp hmap
    obtain ⟨f, hf⟩ := exists_ofGeometry g (by simp [hj])
    obtain ⟨fs, hfs⟩ := exists_ofGeometries gs (by simp [hjs'])
    exact ⟨f :: fs, by rw [ofGeometries, hf, hfs]; rfl⟩

end

end Filter

namespace Search

theorem blameless_geometryFilter {raw : RawGeometry} (h : raw.toJson.InRange) :
    Blameless (geometryFilter raw) := by
  refine (blameless_mapError .geometry _).bind fun g hg => ?_
  -- What is decoded from numbers in range is finite, so that it can be written.
  obtain ⟨k, hk, -⟩ := Geometry.written_ofRaw raw h.bounded (mapError_eq_ok_iff.mp hg)
  obtain ⟨f, hf⟩ := Filter.exists_ofGeometry g (by simp [hk])
  rw [hf]
  exact blameless_ok f

theorem InRange.blameless_spatialFilter {s : Search} (h : s.InRange) :
    Blameless s.spatialFilter := by
  unfold spatialFilter
  split
  next => exact blameless_ok none
  next => exact blameless_mapError .request _
  next raw _ hraw _ => exact (blameless_geometryFilter (h.geometry raw hraw)).map some
  next raw _ _ hraw =>
    split
    · exact (blameless_geometryFilter (h.geometrycollection raw hraw)).map some
    · exact blameless_error (.geometry _)
  next => exact blameless_error (.request _)

theorem InRange.blameless_compile {s : Search} (h : s.InRange) : Blameless s.compile :=
  (blameless_mapError .request _).bind fun _ _ =>
    h.blameless_spatialFilter.bind fun _ _ =>
      (blameless_mapError .request _).bind fun _ _ => blameless_ok _

end Search

/-! ### Calls -/

namespace Catalog

/-- A call of the catalog. The geometry of an item is as a document can hold it, and a search is
received. -/
inductive Received : {α : Type} → Program α → Prop
  | addCollection (c : Collection) : Received (addCollection c)
  | deleteCollection (id : String) : Received (deleteCollection id)
  | addItem {item : Item} (bounded : item.Bounded) : Received (addItem item)
  | updateItem {item : Item} (bounded : item.Bounded) : Received (updateItem item)
  | deleteItem (id collection : String) : Received (deleteItem id collection)
  | item (id collection : String) : Received (item id collection)
  | items (collection : String) (limit : Option Int) : Received (items collection limit)
  | search {s : Search} (received : s.Received) : Received (search s)

end Catalog

namespace Store

variable {st : Store}

/-- What a write reports is the fault of the request. -/
theorem blameless_write (st : Store) {w : Write} (hw : w.Bounded) : Blameless (st.write w).1 := by
  obtain ⟨-, hok⟩ | ⟨e, fails, he⟩ := st.write_outcome hw
  · rw [hok]
    exact blameless_ok ()
  · rw [he]
    refine blameless_error ?_
    cases fails with
    | addedCollection | addedNowhere | addedTwice | updatedNowhere => exact .request _
    | addedUndecoded | updatedUndecoded => exact .geometry _
    | deletedCollection | addedAstray | updatedAstray | deletedItem => exact .notFound _

/-- A search reports what its request is at fault for, if the items that it finds do not make it
fail. -/
theorem blameless_searchThen {α : Type} {s : Search} (hs : s.InRange)
    {f : List StoredItem → Int → Result α}
    (hf : ∀ found : List Entry, (∀ e ∈ found, st.Stores e) →
      ∀ limit, Blameless (f (found.map Entry.stored) limit)) :
    Blameless (run (Catalog.searchThen s f) st).1 := by
  unfold Catalog.searchThen
  cases hplan : s.compile with
  | error e => exact blameless_error (hs.blameless_compile e hplan)
  | ok plan =>
    obtain ⟨condition, hcondition⟩ := Search.exists_condition hplan
    dsimp only
    rw [run_query, query_eq_ok hcondition (limit_pos hplan)]
    refine hf _ (fun e he => ?_) plan.limit
    have hselect := (sorted_perm plan.sort _).mem_iff.mp (List.mem_of_mem_take he)
    exact (mem_select_iff.mp hselect).1

theorem Consistent.blameless_search (hst : st.Consistent) {s : Search} (hs : s.InRange) :
    Blameless (run (Catalog.search s) st).1 :=
  blameless_searchThen hs fun found hfound limit => by
    obtain ⟨features, hfeatures, -⟩ := hst.exists_features hfound
    have hmap : (found.map Entry.stored).mapM StoredItem.toFeature = .ok features := by
      rw [List.mapM_map]
      exact hfeatures
    rw [hmap]
    exact blameless_ok _

theorem Consistent.blameless_items (hst : st.Consistent) (collection : String)
    (limit : Option Int) : Blameless (run (Catalog.items collection limit) st).1 := by
  rw [Catalog.items, run, Program.run_map]
  exact (hst.blameless_search ⟨by simp, by simp⟩).map _

theorem Consistent.blameless_item (hst : st.Consistent) (id collection : String) :
    Blameless (run (Catalog.item id collection) st).1 :=
  blameless_searchThen ⟨by simp, by simp⟩ fun found hfound limit => by
    cases found with
    | nil => exact blameless_ok none
    | cons e found =>
      obtain ⟨feature, hfeature⟩ := hst.exists_feature (hfound e List.mem_cons_self)
      rw [List.map_cons, List.head?_cons, Option.mapM_some, hfeature]
      exact blameless_ok _

/-- No call makes a store contradict itself, and no stage refuses what an earlier one lets
through. -/
structure Sound (st : Store) : Prop where
  blameless : ∀ {α : Type} {p : Program α}, Catalog.Received p → Blameless (run p st).1
  /-- The canonical text of a decoded geometry is written, and read where the item is stored. -/
  stored : ∀ {item : Item} {c : String}, item.Bounded → item.Acceptable c → ∃ e, EntryOf item e
  /-- The texts that a search asks for are read. -/
  searched : ∀ {s : Search} {plan : QueryPlan}, s.compile = .ok plan →
    ∃ condition, plan.filter.mapM Condition.ofFilter = .ok condition
  /-- The text of an item is read where its feature is given back. -/
  returned : ∀ {e : Entry}, st.Stores e → ∃ feature, (Entry.stored e).toFeature = .ok feature
  limit_pos : ∀ {s : Search} {plan : QueryPlan}, s.compile = .ok plan → 0 < plan.limit

theorem Consistent.blameless (hst : st.Consistent) {α : Type} {p : Program α}
    (hp : Catalog.Received p) : Blameless (run p st).1 := by
  cases hp with
  | addCollection c => exact st.blameless_write (w := .addCollection c) trivial
  | deleteCollection id => exact st.blameless_write (w := .deleteCollection id) trivial
  | addItem bounded => exact st.blameless_write (w := .addItem _) bounded
  | updateItem bounded => exact st.blameless_write (w := .updateItem _) bounded
  | deleteItem id collection => exact st.blameless_write (w := .deleteItem id collection) trivial
  | item id collection => exact hst.blameless_item id collection
  | items collection limit => exact hst.blameless_items collection limit
  | search received => exact hst.blameless_search received.inRange

/-- **After every history, no call that is received makes the store contradict itself.** -/
theorem sound_after (ws : List Write) : (empty.after ws).Sound where
  blameless := (consistent_empty.after ws).blameless
  stored hb hgood :=
    have ⟨e, hentry, _⟩ := exists_entryOf hb hgood
    ⟨e, hentry⟩
  searched := Search.exists_condition
  returned := (consistent_empty.after ws).exists_feature
  limit_pos := limit_pos

/-- An item that is there is refused, and a search that is posted is answered. -/
theorem sound_after_twoItems :
    Blameless (run (Catalog.addItem (originItem "a" "c")) (empty.after twoItems)).1 ∧
      Search.decode Search.atOrigin.toJson = .ok Search.atOrigin ∧
        Blameless (run (Catalog.search Search.atOrigin) (empty.after twoItems)).1 := by
  have hzero : (Number.int 0).InRange := ⟨by decide, by decide⟩
  have hmembers : (Json.arr [.obj [("type", .str "GeometryCollection"), ("geometries", .arr [])],
      .obj [("type", .str "Point"), ("coordinates", .arr [.int 0, .int 0])]]).InRange :=
    ⟨⟨trivial, trivial, trivial⟩, ⟨trivial, ⟨hzero, hzero, trivial⟩, trivial⟩, trivial⟩
  have hrange : Search.atOrigin.toJson.InRange :=
    ⟨⟨trivial, trivial⟩, ⟨trivial, hmembers, trivial⟩, trivial⟩
  have hdecode : Search.decode Search.atOrigin.toJson = .ok Search.atOrigin := rfl
  have hsound := sound_after twoItems
  exact ⟨hsound.blameless (.addItem (Item.bounded_originItem "a" "c")), hdecode,
    hsound.blameless (.search (.decoded hrange hdecode))⟩

end Store

end SpatialCatalog
