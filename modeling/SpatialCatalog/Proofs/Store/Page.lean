import SpatialCatalog.Proofs.Search.Meaning
import SpatialCatalog.Proofs.Store.Consistency
import SpatialCatalog.Proofs.Store.Order

/-!
# What a search returns

The table of items lists its entries by key, so what the sort leaves on one level comes in that
order, because the sort is stable. `PageOf` is what a page has to do with the plan that it is for,
and every search that compiles returns such a page from every store that a history leads to. Each
feature of a page shows an item of its own (`Entry.ShownAs`).
-/

namespace SpatialCatalog

/-- The feature that an entry is given back as: it names the id and the collection, its geometry is
the value of the text, and the rest is that of the document. -/
structure Entry.ShownAs (e : Entry) (feature : Members) : Prop where
  id_eq : feature.get? "id" = some (.str e.record.id)
  collection_eq : feature.get? "collection" = some (.str e.record.collection)
  geometry : ∃ v, Json.parse? e.record.geometry = some v ∧ feature.get? "geometry" = some v
  document : ∃ ms, e.record.data = .obj ms ∧
    ∀ key, key ≠ "geometry" → feature.get? key = Members.get? ms key

/-- The collection and the id that a feature names. -/
def Members.named (feature : Members) : Option Json × Option Json :=
  (feature.get? "collection", feature.get? "id")

namespace Store

/-! ### The table in order -/

/-- An entry is somewhere in the table. -/
def Stores (s : Store) (e : Entry) : Prop := ∃ key : ItemKey, s.items[key]? = some e

theorem values_eq_toList (t : Std.ExtTreeMap ItemKey Entry) : t.values = t.toList.map Prod.snd := by
  have h : t.values = t.foldr (fun _ e es => e :: es) [] := rfl
  rw [h, Std.ExtTreeMap.foldr_eq_foldr_toList]
  generalize t.toList = entries
  induction entries with
  | nil => rfl
  | cons entry entries ih => rw [List.foldr_cons, ih, List.map_cons]

theorem mem_values_iff {s : Store} {e : Entry} : e ∈ s.items.values ↔ s.Stores e := by
  rw [values_eq_toList, List.mem_map]
  constructor
  · rintro ⟨⟨key, e⟩, hmem, rfl⟩
    exact ⟨key, Std.ExtTreeMap.mem_toList_iff_getElem?_eq_some.mp hmem⟩
  · rintro ⟨key, hkey⟩
    exact ⟨(key, e), Std.ExtTreeMap.mem_toList_iff_getElem?_eq_some.mpr hkey, rfl⟩

/-- The order of the table. -/
def KeyLT (a b : Entry) : Prop := compare a.record.key b.record.key = .lt

theorem Consistent.values_pairwise {s : Store} (hs : s.Consistent) :
    s.items.values.Pairwise KeyLT := by
  rw [values_eq_toList, List.pairwise_map]
  refine s.items.ordered_keys_toList.imp_of_mem fun {a b} ha hb hlt => ?_
  rw [Std.ExtTreeMap.mem_toList_iff_getElem?_eq_some] at ha hb
  rw [(hs ha).key_eq, (hs hb).key_eq] at hlt
  exact hlt

theorem mem_select_iff {s : Store} {condition : Option Condition} {e : Entry} :
    e ∈ s.select condition ↔ s.Stores e ∧ condition.all (·.holds e) := by
  rw [select, List.mem_filter, mem_values_iff]

theorem Consistent.select_pairwise {s : Store} (hs : s.Consistent) (condition : Option Condition) :
    (s.select condition).Pairwise KeyLT :=
  hs.values_pairwise.sublist List.filter_sublist

theorem nodup_keys_of_pairwise {es : List Entry} (h : es.Pairwise KeyLT) :
    (es.map fun e => e.record.key).Nodup := by
  refine List.pairwise_map.mpr (h.imp fun {a b} hlt heq => ?_)
  have hself : compare b.record.key b.record.key = .eq := Std.ReflCmp.compare_self
  rw [KeyLT, heq, hself] at hlt
  cases hlt

/-! ### The sort -/

/-- Entries in the order of some keys. -/
def sorted (keys : List SortKey) (es : List Entry) : List Entry := es.mergeSort (recordsLE keys)

theorem sorted_perm (keys : List SortKey) (es : List Entry) : (sorted keys es).Perm es :=
  List.mergeSort_perm es (recordsLE keys)

/-- The entries that are on one level with some entry stay in the order that they had. -/
theorem filter_sorted (keys : List SortKey) (es : List Entry) (a : Entry) :
    ((sorted keys es).filter fun e => compareRecords keys a.record e.record == .eq) =
      es.filter fun e => compareRecords keys a.record e.record == .eq := by
  have hlevel : (es.filter fun e => compareRecords keys a.record e.record == .eq).Pairwise
      fun x y => recordsLE keys x y := by
    refine List.pairwise_of_forall_mem_list fun x hx y hy => ?_
    have hx : compareRecords keys a.record x.record = .eq := by
      simpa using (List.mem_filter.mp hx).2
    have hy : compareRecords keys a.record y.record = .eq := by
      simpa using (List.mem_filter.mp hy).2
    refine (chains_compareRecords keys x.record a.record y.record).isLE ?_ (by rw [hy]; rfl)
    rw [compareRecords_swap keys a.record x.record, hx]
    rfl
  have hsub := List.sublist_mergeSort (recordsLE_trans keys) (recordsLE_total keys) hlevel
    List.filter_sublist
  have hsub' := hsub.filter fun e => compareRecords keys a.record e.record == .eq
  rw [List.filter_filter] at hsub'
  simp only [Bool.and_self] at hsub'
  exact (hsub'.eq_of_length ((sorted_perm keys es).filter _).length_eq.symm).symm

/-- What is sorted by the keys is in the order of the keys, and of the table where they leave two
entries on one level. -/
theorem sorted_pairwise (keys : List SortKey) {es : List Entry} (h : es.Pairwise KeyLT) :
    (sorted keys es).Pairwise fun a b => Precedes keys a.record b.record := by
  rw [List.pairwise_iff_forall_sublist]
  intro a b hab
  have hle : recordsLE keys a b := List.pairwise_iff_forall_sublist.mp
    (List.pairwise_mergeSort (recordsLE_trans keys) (recordsLE_total keys) es) hab
  rw [precedes_iff]
  cases hcompare : compareRecords keys a.record b.record with
  | lt => exact .inl rfl
  | gt => rw [recordsLE, hcompare] at hle; cases hle
  | eq =>
    have ha : compareRecords keys a.record a.record = .eq := by
      have hswap := compareRecords_swap keys a.record a.record
      cases h : compareRecords keys a.record a.record <;> simp_all
    -- Both are in the part of the list that the sort has not changed.
    have hpart := hab.filter fun e => compareRecords keys a.record e.record == .eq
    rw [filter_sorted, List.filter_cons_of_pos (by simp [ha]),
      List.filter_cons_of_pos (by simp [hcompare]), List.filter_nil] at hpart
    exact .inr ⟨rfl, List.pairwise_iff_forall_sublist.mp h (hpart.trans List.filter_sublist)⟩

theorem precedes_asymm {keys : List SortKey} {a b : ItemRecord} (h : Precedes keys a b) :
    ¬Precedes keys b a := by
  rw [precedes_iff] at h ⊢
  rw [compareRecords_swap keys a b, compareOrd_swap a.key b.key]
  rcases h with h | ⟨h, hkey⟩
  · simp [h]
  · simp [h, hkey]

/-! ### Pages -/

/-- An item is one that a plan asks for. -/
def Satisfies (plan : QueryPlan) (e : Entry) : Prop :=
  ∃ condition, plan.filter.mapM Condition.ofFilter = .ok condition ∧ condition.all (·.holds e)

/-- The plan of a search asks for what the search asks for. -/
theorem satisfies_iff_matches {s : Search} {plan : QueryPlan} (h : s.compile = .ok plan)
    (e : Entry) : Satisfies plan e ↔ s.Matches e := by
  obtain ⟨-, -, spatial, hspatial, hfilter⟩ := Search.compile_eq_ok_iff.mp h
  obtain ⟨condition, hcondition, hmeaning⟩ := (Search.allMean_filters hspatial).conjunction?
  rw [← hfilter] at hcondition
  constructor
  · rintro ⟨condition', hcondition', he⟩
    obtain rfl := Except.ok.inj (hcondition.symm.trans hcondition')
    exact (hmeaning e).mp he
  · exact fun he => ⟨condition, hcondition, (hmeaning e).mpr he⟩

/-- The page of a plan: `wanted` are the items that satisfy its filter, each of them once, and
`found` are those that the page returns. -/
structure PageOf (s : Store) (plan : QueryPlan) (wanted found : List Entry) (page : Page) :
    Prop where
  mem_wanted : ∀ e, e ∈ wanted ↔ s.Stores e ∧ Satisfies plan e
  wanted_distinct : (wanted.map fun e => e.record.key).Nodup
  subset : found ⊆ wanted
  distinct : (found.map fun e => e.record.key).Nodup
  /-- The features are those of the items found. -/
  features : List.Forall₂ (fun e feature => (Entry.stored e).toFeature = .ok feature) found
    page.features
  /-- They show these items one by one. -/
  shown : List.Forall₂ Entry.ShownAs found page.features
  /-- No two features name one collection and one id. -/
  features_distinct : (page.features.map Members.named).Nodup
  returned : page.context.returned = page.features.length
  count : (page.context.returned : Int) = min plan.limit wanted.length
  limit : page.context.limit = plan.limit
  ordered : found.Pairwise fun a b => Precedes plan.sort a.record b.record
  /-- What is left out comes after everything that is returned. -/
  rest : ∀ e ∈ wanted, e ∉ found → ∀ e' ∈ found,
    Precedes plan.sort e'.record e.record ∧ ¬Precedes plan.sort e.record e'.record

/-! ### Features -/

/-- The feature of an item whose document is an object. -/
theorem toFeature_eq_ok_iff {e : Entry} {ms feature : Members} (hdata : e.record.data = .obj ms) :
    (Entry.stored e).toFeature = .ok feature ↔
      ∃ g, RenderedGeometry.parse? e.record.geometry = some g ∧
        Members.set ms "geometry" g.toJson = feature := by
  simp only [StoredItem.toFeature, Entry.stored, hdata]
  cases RenderedGeometry.parse? e.record.geometry <;> simp

/-- An item that is filed as it should be has a feature. -/
theorem Filed.exists_feature {s : Store} {key : ItemKey} {e : Entry} (h : s.Filed key e) :
    ∃ feature, (Entry.stored e).toFeature = .ok feature := by
  obtain ⟨ms, hdata⟩ := h.faithful.data_eq_obj
  have hshape := h.shape_eq
  cases hg : RenderedGeometry.parse? e.record.geometry with
  | none => rw [Planar.Shape.parse, hg] at hshape; cases hshape
  | some g => exact ⟨_, (toFeature_eq_ok_iff hdata).mpr ⟨g, hg, rfl⟩⟩

/-- The feature of an item that is filed as it should be shows the item. -/
theorem Filed.shownAs {s : Store} {key : ItemKey} {e : Entry} (h : s.Filed key e)
    {feature : Members} (hfeature : (Entry.stored e).toFeature = .ok feature) :
    e.ShownAs feature := by
  obtain ⟨ms, hdata⟩ := h.faithful.data_eq_obj
  obtain ⟨-, g, -, -, htext⟩ := h.faithful.geometry_eq
  obtain ⟨r, hr, rfl⟩ := (toFeature_eq_ok_iff hdata).mp hfeature
  obtain ⟨hparse, -⟩ := RenderedGeometry.toJson_of_parse?_text htext hr
  have hid := h.faithful.id_eq
  have hcollection := h.faithful.collection_eq
  rw [hdata] at hid hcollection
  have hdocument : ∀ key, key ≠ "geometry" →
      (Members.set ms "geometry" r.toJson).get? key = Members.get? ms key :=
    fun key hne => Members.get?_set_of_ne ms _ hne
  exact
    { id_eq := (hdocument "id" (by decide)).trans hid
      collection_eq := (hdocument "collection" (by decide)).trans hcollection
      geometry := ⟨r.toJson, hparse, Members.get?_set_self ms "geometry" _⟩
      document := ⟨ms, hdata, hdocument⟩ }

theorem Consistent.exists_feature {st : Store} (hst : st.Consistent) {e : Entry}
    (he : st.Stores e) : ∃ feature, (Entry.stored e).toFeature = .ok feature := by
  obtain ⟨key, hkey⟩ := he
  exact (hst hkey).exists_feature

/-- Stored items have features. -/
theorem Consistent.exists_features {st : Store} (hst : st.Consistent) {found : List Entry}
    (h : ∀ e ∈ found, st.Stores e) :
    ∃ features, found.mapM (fun e => (Entry.stored e).toFeature) = .ok features ∧
      List.Forall₂ (fun e feature => (Entry.stored e).toFeature = .ok feature) found features := by
  obtain ⟨features, hfeatures⟩ := exists_mapM_eq_ok_iff.mpr fun e he => hst.exists_feature (h e he)
  exact ⟨features, hfeatures, mapM_eq_ok_iff.mp hfeatures⟩

/-- The features of stored items show them. -/
theorem Consistent.shownAs {st : Store} (hst : st.Consistent) {found : List Entry}
    {features : List Members} (h : ∀ e ∈ found, st.Stores e)
    (hfeatures : List.Forall₂ (fun e feature => (Entry.stored e).toFeature = .ok feature) found
      features) : List.Forall₂ Entry.ShownAs found features := by
  refine ((List.forall₂_and_left found features).mpr ⟨h, hfeatures⟩).imp ?_
  rintro e feature ⟨⟨key, hkey⟩, hfeature⟩
  exact (hst hkey).shownAs hfeature

/-- Features name what the items that they show are filed under. -/
theorem map_named {found : List Entry} {features : List Members}
    (h : List.Forall₂ Entry.ShownAs found features) : features.map Members.named =
      (found.map fun e => e.record.key).map fun key =>
        (some (.str key.collection), some (.str key.id)) := by
  induction h with
  | nil => rfl
  | cons hshown _ ih =>
    rw [List.map_cons, ih, Members.named, hshown.collection_eq, hshown.id_eq]
    rfl

theorem nodup_named {found : List Entry} {features : List Members}
    (h : List.Forall₂ Entry.ShownAs found features)
    (hdistinct : (found.map fun e => e.record.key).Nodup) :
    (features.map Members.named).Nodup := by
  rw [map_named h]
  refine List.pairwise_map.mpr (hdistinct.imp fun {key key'} hne heq => hne ?_)
  cases key
  cases key'
  simpa using heq

/-! ### Searches -/

theorem effectiveLimit_pos {s : Search} {limit : Int} (h : s.effectiveLimit = .ok limit) :
    0 < limit := by
  unfold Search.effectiveLimit at h
  split at h
  · obtain rfl := Except.ok.inj h
    decide
  · split at h
    next hpos => exact Except.ok.inj h ▸ hpos
    next => cases h

theorem limit_pos {s : Search} {plan : QueryPlan} (h : s.compile = .ok plan) : 0 < plan.limit :=
  effectiveLimit_pos (Search.compile_eq_ok_iff.mp h).1

theorem query_eq_ok {s : Store} {plan : QueryPlan} {condition : Option Condition}
    (hcondition : plan.filter.mapM Condition.ofFilter = .ok condition) (hlimit : 0 < plan.limit) :
    s.query plan =
      .ok (((sorted plan.sort (s.select condition)).take plan.limit.toNat).map Entry.stored) := by
  rw [query, bind_ok hcondition, if_neg (Int.not_lt.mpr hlimit.le)]
  rfl

theorem run_search {s : Search} {plan : QueryPlan} (h : s.compile = .ok plan) (st : Store)
    {found : List StoredItem} (hfound : st.query plan = .ok found) {features : List Members}
    (hfeatures : found.mapM StoredItem.toFeature = .ok features) :
    run (Catalog.search s) st = (.ok (.ofFeatures features plan.limit), st) := by
  unfold Catalog.search Catalog.searchThen
  rw [h]
  dsimp only
  rw [run_query, hfound]
  simp only [run_done, hfeatures]
  rfl

/-- In a sorted list, what is cut off comes after what is left. -/
theorem precedes_of_not_mem_take {sort : List SortKey} {items : List Entry} {n : Nat}
    (h : items.Pairwise fun a b => Precedes sort a.record b.record) {e e' : Entry}
    (he : e ∈ items) (hnot : e ∉ items.take n) (he' : e' ∈ items.take n) :
    Precedes sort e'.record e.record := by
  rw [← List.take_append_drop n items, List.pairwise_append] at h
  rw [← List.take_append_drop n items, List.mem_append] at he
  exact h.2.2 e' he' e (he.resolve_left hnot)

/-- The items that a plan wants. -/
theorem mem_select_iff_satisfies {st : Store} {plan : QueryPlan} {condition : Option Condition}
    (h : plan.filter.mapM Condition.ofFilter = .ok condition) (e : Entry) :
    e ∈ st.select condition ↔ st.Stores e ∧ Satisfies plan e := by
  rw [mem_select_iff]
  refine and_congr_right fun _ => ⟨fun he => ⟨condition, h, he⟩, ?_⟩
  rintro ⟨condition', h', he⟩
  obtain rfl := Except.ok.inj (h.symm.trans h')
  exact he

/-- A search that compiles returns its page from every consistent store. -/
theorem Consistent.exists_page {st : Store} (hst : st.Consistent) {s : Search} {plan : QueryPlan}
    (h : s.compile = .ok plan) :
    ∃ wanted found page, run (Catalog.search s) st = (.ok page, st) ∧
      PageOf st plan wanted found page := by
  have hlimit := limit_pos h
  obtain ⟨condition, hcondition⟩ := Search.exists_condition h
  have hquery := query_eq_ok hcondition hlimit (s := st)
  have hselect := hst.select_pairwise condition
  have hperm := sorted_perm plan.sort (st.select condition)
  have hordered := sorted_pairwise plan.sort hselect
  -- From here on only the order and the members of the sorted list count.
  generalize sorted plan.sort (st.select condition) = items at hquery hperm hordered
  have hsub : items.take plan.limit.toNat ⊆ st.select condition := fun e he =>
    hperm.mem_iff.mp (List.mem_of_mem_take he)
  have hstored : ∀ e ∈ items.take plan.limit.toNat, st.Stores e := fun e he =>
    (mem_select_iff.mp (hsub he)).1
  obtain ⟨features, hfeatures, hall⟩ := hst.exists_features hstored
  have hshown := hst.shownAs hstored hall
  have hlength : features.length = min plan.limit.toNat (st.select condition).length := by
    rw [← hall.length_eq, List.length_take, hperm.length_eq]
  have hdistinct : ((items.take plan.limit.toNat).map fun e => e.record.key).Nodup :=
    ((hperm.map fun e => e.record.key).nodup_iff.mpr (nodup_keys_of_pairwise hselect)).sublist
      ((List.take_sublist _ _).map _)
  refine ⟨st.select condition, items.take plan.limit.toNat, .ofFeatures features plan.limit,
    run_search h st hquery (by rw [List.mapM_map]; exact hfeatures), ?_⟩
  exact
    { mem_wanted := mem_select_iff_satisfies hcondition
      wanted_distinct := nodup_keys_of_pairwise hselect
      subset := hsub
      distinct := hdistinct
      features := hall
      shown := hshown
      features_distinct := nodup_named hshown hdistinct
      returned := rfl
      count := by
        have hreturned : (Page.ofFeatures features plan.limit).context.returned =
            features.length := rfl
        rw [hreturned, hlength]
        omega
      limit := rfl
      ordered := hordered.sublist (List.take_sublist _ _)
      rest := fun e he hnot e' he' =>
        have hprecedes := precedes_of_not_mem_take hordered (hperm.mem_iff.mpr he) hnot he'
        ⟨hprecedes, precedes_asymm hprecedes⟩ }

/-- A page for one item holds the item that no other comes before. -/
theorem PageOf.found_eq_singleton {st : Store} {plan : QueryPlan} {wanted found : List Entry}
    {page : Page} (h : PageOf st plan wanted found page) (hlimit : plan.limit = 1) {e : Entry}
    (he : e ∈ wanted) (hfirst : ∀ e' ∈ wanted, e' ≠ e → ¬Precedes plan.sort e'.record e.record) :
    found = [e] := by
  have hlength : found.length = 1 := by
    have hcount := h.count
    have hpos := List.length_pos_of_mem he
    rw [h.returned, ← h.shown.length_eq, hlimit] at hcount
    omega
  obtain ⟨e', rfl⟩ := List.length_eq_one_iff.mp hlength
  by_contra hne
  have hne' : e' ≠ e := fun heq => hne (heq ▸ rfl)
  have hleft : e ∉ [e'] := fun hmem => hne' (List.mem_singleton.mp hmem).symm
  exact hfirst e' (h.subset List.mem_cons_self) hne' (h.rest e he hleft e' List.mem_cons_self).1

/-- **After every history, a search that compiles returns a page of its plan, which asks for what
the search asks for, and leaves the store as it is.** -/
theorem search_after (ws : List Write) {s : Search} {plan : QueryPlan} (h : s.compile = .ok plan) :
    (∀ e, Satisfies plan e ↔ s.Matches e) ∧
    ∃ wanted found page,
      run (Catalog.search s) (empty.after ws) = (.ok page, empty.after ws) ∧
        PageOf (empty.after ws) plan wanted found page :=
  ⟨satisfies_iff_matches h, (consistent_empty.after ws).exists_page h⟩

/-- Two items in one collection. -/
def twoItems : List Write :=
  [.addCollection (plainCollection "c"), .addItem (originItem "a" "c"),
    .addItem (originItem "b" "c")]

/-- A search for one item, the last by id first, and its plan. -/
def lastFirst : Search := { limit := some 1, sortby := [⟨"id", "desc"⟩] }

def lastPlan : QueryPlan := { filter := none, sort := [⟨.column .id, .descending⟩], limit := 1 }

theorem lastFirst_compile : lastFirst.compile = .ok lastPlan := by
  have hsort : lastFirst.sortby.mapM Search.sortKey = .ok lastPlan.sort := by decide +kernel
  rw [Search.compile, hsort]
  rfl

theorem values_twoItems : ∃ a b, (empty.after twoItems).items.values = [a, b] ∧
    a.record.key = ⟨"c", "a"⟩ ∧ b.record.key = ⟨"c", "b"⟩ := by
  have hkeys : (empty.after twoItems).items.values.map (fun e => e.record.key) =
      [⟨"c", "a"⟩, ⟨"c", "b"⟩] := by
    decide +kernel
  obtain ⟨a, rest, hrest, ha, hmap⟩ := List.map_eq_cons_iff.mp hkeys
  obtain ⟨b, rest, rfl, hb, hnil⟩ := List.map_eq_cons_iff.mp hmap
  obtain rfl := List.map_eq_nil_iff.mp hnil
  exact ⟨a, b, hrest, ha, hb⟩

/-- The first item by id comes last. -/
theorem not_precedes_lastPlan {a b : ItemRecord} (ha : a.id = "a") (hb : b.id = "b") :
    ¬Precedes lastPlan.sort a b := by
  have hkey : compareKey a b ⟨.column .id, .descending⟩ = .gt := by
    rw [compareKey, compareField, ha, hb]
    decide +kernel
  rw [precedes_iff, lastPlan, compareRecords_cons, hkey]
  simp

/-- Of two items, a page for one shows just the one that comes first. -/
theorem search_after_twoItems :
    lastFirst.compile = .ok lastPlan ∧ ∃ wanted found page feature,
      run (Catalog.search lastFirst) (empty.after twoItems) = (.ok page, empty.after twoItems) ∧
        PageOf (empty.after twoItems) lastPlan wanted found page ∧
        page.features = [feature] ∧ feature.get? "collection" = some (.str "c") ∧
        feature.get? "id" = some (.str "b") := by
  obtain ⟨-, wanted, found, page, hpage, hof⟩ := search_after twoItems lastFirst_compile
  obtain ⟨a, b, hvalues, ha, hb⟩ := values_twoItems
  obtain ⟨hcollection, hid⟩ := ItemKey.mk.inj hb
  have hwanted : ∀ e, e ∈ wanted ↔ e = a ∨ e = b := by
    intro e
    have hall : Satisfies lastPlan e := ⟨none, rfl, rfl⟩
    rw [hof.mem_wanted, ← mem_values_iff, hvalues, List.mem_pair, and_iff_left hall]
  have hfirst : ∀ e ∈ wanted, e ≠ b → ¬Precedes lastPlan.sort e.record b.record := by
    intro e he hne
    obtain rfl := ((hwanted e).mp he).resolve_right hne
    exact not_precedes_lastPlan (ItemKey.mk.inj ha).2 hid
  have hfound : found = [b] := hof.found_eq_singleton rfl ((hwanted b).mpr (.inr rfl)) hfirst
  have hshown := hof.shown
  rw [hfound, List.forall₂_cons_left_iff] at hshown
  obtain ⟨feature, features, hfeature, hnil, hfeatures⟩ := hshown
  obtain rfl := List.forall₂_nil_left_iff.mp hnil
  exact ⟨lastFirst_compile, wanted, found, page, feature, hpage, hof, hfeatures,
    hcollection ▸ hfeature.collection_eq, hid ▸ hfeature.id_eq⟩

end Store

end SpatialCatalog
