import SpatialCatalog.Proofs.Sql.Noninterference
import SpatialCatalog.Proofs.Sql.Tables
import SpatialCatalog.Proofs.Store.Writes

/-!
# The database agrees with the store in memory

Writes are run over a connection to the server that keeps the tables, and by the store in memory.
`Database.Holds` relates a database to the two maps of a store: there is one row for each collection
and for each item, with the same document and the same text of the geometry.

* `RowsOf` is a table that holds a map; an insertion, a deletion and an update of one row by its key
  are updates of the map.
* `Performs` says what a primitive does to a database that holds two maps. Each is one command, and
  the conditions of the commands find rows by their keys (`Finds`).
* `runs_of_effect` and `runs_of_fails` put the primitives together: a write that succeeds has its
  effect on the database, and one that fails reports the same error.
-/

namespace SpatialCatalog

open Function (update)

namespace Sql

/-! ### Rows by key -/

/-- Rows are those of a map, one for each key that has a value. -/
structure RowsOf {κ ν : Type} (row : κ → ν → TableRow) (t : κ → Option ν)
    (rows : List TableRow) : Prop where
  nodup : rows.Nodup
  mem_iff : ∀ r, r ∈ rows ↔ ∃ k v, t k = some v ∧ r = row k v

section

variable {κ ν : Type} {row : κ → ν → TableRow} {t : κ → Option ν} {rows : List TableRow}

theorem RowsOf.nil : RowsOf row (fun _ => none) [] := ⟨List.nodup_nil, by simp⟩

/-- The order of rows does not matter. -/
theorem RowsOf.perm (h : RowsOf row t rows) {rows' : List TableRow} (hperm : rows.Perm rows') :
    RowsOf row t rows' :=
  ⟨hperm.nodup_iff.mp h.nodup, fun r => by rw [← hperm.mem_iff, h.mem_iff]⟩

/-- The rows of some keys are kept. -/
theorem RowsOf.filter (h : RowsOf row t rows) {q : TableRow → Bool} {Q : κ → Prop}
    [DecidablePred Q] (hq : ∀ k v, q (row k v) = decide (Q k)) :
    RowsOf row (fun k => if Q k then t k else none) (rows.filter q) := by
  refine ⟨h.nodup.filter q, fun r => ?_⟩
  rw [List.mem_filter, h.mem_iff]
  constructor
  · rintro ⟨⟨k, v, hv, rfl⟩, hr⟩
    rw [hq, decide_eq_true_eq] at hr
    exact ⟨k, v, by rw [if_pos hr, hv], rfl⟩
  · rintro ⟨k, v, hv, rfl⟩
    by_cases hk : Q k
    · rw [if_pos hk] at hv
      exact ⟨⟨k, v, hv, rfl⟩, by rw [hq, decide_eq_true hk]⟩
    · rw [if_neg hk] at hv
      cases hv

variable [DecidableEq κ] {key : κ} {p : TableRow → Bool}

/-- A test on rows that only the row of a key passes. -/
def Finds (row : κ → ν → TableRow) (key : κ) (p : TableRow → Bool) : Prop :=
  ∀ k v, p (row k v) = decide (k = key)

/-- A row tells its key. -/
theorem Finds.key_eq (hp : Finds row key p) {k : κ} {v v' : ν} (h : row k v = row key v') :
    k = key := by
  have hfound := hp key v'
  rw [← h, hp k v] at hfound
  simpa using hfound

namespace RowsOf

theorem mem_filter_iff (h : RowsOf row t rows) (hp : Finds row key p) {r : TableRow} :
    r ∈ rows.filter p ↔ ∃ v, t key = some v ∧ r = row key v := by
  rw [List.mem_filter, h.mem_iff]
  constructor
  · rintro ⟨⟨k, v, hv, rfl⟩, hr⟩
    rw [hp k v, decide_eq_true_eq] at hr
    subst hr
    exact ⟨v, hv, rfl⟩
  · rintro ⟨v, hv, rfl⟩
    exact ⟨⟨key, v, hv, rfl⟩, by rw [hp key v, decide_eq_true rfl]⟩

/-- What the test finds is the row of the key, if there is one. -/
theorem filter_eq (h : RowsOf row t rows) (hp : Finds row key p) :
    rows.filter p = ((t key).map (row key)).toList := by
  have hnodup : (rows.filter p).Nodup := h.nodup.filter p
  cases hkey : t key with
  | none =>
    refine List.eq_nil_iff_forall_not_mem.mpr fun r hr => ?_
    obtain ⟨v, hv, -⟩ := (h.mem_filter_iff hp).mp hr
    rw [hkey] at hv
    cases hv
  | some v =>
    refine List.perm_singleton.mp ((List.perm_ext_iff_of_nodup hnodup (by simp)).mpr fun r => ?_)
    rw [h.mem_filter_iff hp, hkey, List.mem_singleton]
    simp

theorem any_eq (h : RowsOf row t rows) (hp : Finds row key p) :
    rows.any p = (t key).isSome := by
  have hany : rows.any p = (rows.filter p).any fun _ => true := by
    rw [List.any_filter]
    simp
  rw [hany, h.filter_eq hp]
  cases t key <;> rfl

/-- A row is added for a key that had none. -/
theorem insert (h : RowsOf row t rows) (hp : Finds row key p) (v : ν) (hkey : t key = none) :
    RowsOf row (update t key (some v)) (rows ++ [row key v]) := by
  refine ⟨?_, fun r => ?_⟩
  · refine List.nodup_append.mpr ⟨h.nodup, by simp, ?_⟩
    intro r hr r' hr' heq
    obtain rfl := List.mem_singleton.mp hr'
    obtain ⟨k, v', hv', rfl⟩ := (h.mem_iff r).mp hr
    obtain rfl := hp.key_eq heq
    rw [hkey] at hv'
    cases hv'
  · rw [List.mem_append, List.mem_singleton, h.mem_iff]
    constructor
    · rintro (⟨k, v', hv', rfl⟩ | rfl)
      · refine ⟨k, v', ?_, rfl⟩
        rw [Function.update_of_ne ?_, hv']
        rintro rfl
        rw [hkey] at hv'
        cases hv'
      · exact ⟨key, v, Function.update_self .., rfl⟩
    · rintro ⟨k, v', hv', rfl⟩
      by_cases hk : k = key
      · subst hk
        rw [Function.update_self] at hv'
        exact .inr (by rw [Option.some.inj hv'])
      · rw [Function.update_of_ne hk] at hv'
        exact .inl ⟨k, v', hv', rfl⟩

/-- The row of a key is taken away. -/
theorem erase (h : RowsOf row t rows) (hp : Finds row key p) :
    RowsOf row (update t key none) (rows.filter fun r => !p r) := by
  have hq : ∀ k v, (!p (row k v)) = decide (k ≠ key) := by
    intro k v
    rw [hp k v]
    simp
  have hupdate : update t key none = fun k => if k ≠ key then t k else none := by
    funext k
    rw [Function.update_apply]
    by_cases hk : k = key
    · rw [if_pos hk, if_neg (not_not.mpr hk)]
    · rw [if_neg hk, if_pos hk]
  rw [hupdate]
  exact h.filter hq

/-- The row of a key is replaced. -/
theorem replace (h : RowsOf row t rows) (hp : Finds row key p) {old : ν} (hkey : t key = some old)
    (v : ν) :
    RowsOf row (update t key (some v)) (rows.map fun r => if p r then row key v else r) := by
  -- Up to their order, the rows are those without the old one, and the new one.
  have hfound : (rows.filter p).map (fun r => if p r then row key v else r) = [row key v] := by
    rw [h.filter_eq hp, hkey]
    simp [hp key old]
  have hothers : (rows.filter fun r => !p r).map (fun r => if p r then row key v else r) =
      rows.filter fun r => !p r := by
    refine (List.map_congr_left fun r hr => ?_).trans (List.map_id _)
    have hr : p r = false := by simpa using (List.mem_filter.mp hr).2
    rw [if_neg (by simp [hr]), id]
  have hperm := (List.filter_append_perm p rows).map fun r => if p r then row key v else r
  rw [List.map_append, hfound, hothers] at hperm
  have hinsert := (h.erase hp).insert hp v (Function.update_self ..)
  rw [Function.update_idem] at hinsert
  exact hinsert.perm (List.perm_append_comm.trans hperm)

end RowsOf

end

/-! ### The rows of the catalog -/

/-- The row of a collection. -/
def collectionRow (id : String) (data : Json) : TableRow :=
  [("id", .text id), ("data", .document data)]

/-- The row of an item: its document, and the text of its geometry. -/
def itemRow (key : ItemKey) (e : Entry) : TableRow :=
  [("id", .text key.id), ("collection", .text key.collection), ("data", .document e.record.data),
    ("geometry", .geometry e.record.geometry referenceSystem)]

@[simp] theorem lookup_id_collectionRow (id : String) (data : Json) :
    (collectionRow id data).lookup "id" = some (.text id) := rfl

@[simp] theorem lookup_id_itemRow (key : ItemKey) (e : Entry) :
    (itemRow key e).lookup "id" = some (.text key.id) := rfl

@[simp] theorem lookup_collection_itemRow (key : ItemKey) (e : Entry) :
    (itemRow key e).lookup "collection" = some (.text key.collection) := rfl

/-- A database holds what two maps hold. -/
structure Database.Holds (db : Database) (t : Tables) : Prop where
  collections : RowsOf collectionRow t.collections db.collections
  items : RowsOf itemRow t.items db.items

theorem Database.holds_empty : Database.empty.Holds Store.empty.tables :=
  ⟨RowsOf.nil, RowsOf.nil⟩

/-! ### Conditions -/

open Command

variable {id collection : String}

theorem finds_id (arguments : List Argument) (h : arguments[0]? = some (.text id)) :
    Finds collectionRow id ((equals "id" 1).holds · arguments) := by
  intro k v
  simp [Expr.holds, equals, Expr.datum?, h, Datum.ofArgument?, Datum.same]

theorem finds_key (arguments : List Argument) (hid : arguments[0]? = some (.text id))
    (hcollection : arguments[1]? = some (.text collection)) :
    Finds itemRow ⟨collection, id⟩ (keyCondition.holds · arguments) := by
  intro k e
  have hkey : k = ⟨collection, id⟩ ↔ k.id = id ∧ k.collection = collection := by
    cases k
    simp [and_comm]
  simp [Expr.holds, keyCondition, equals, Expr.datum?, hid, hcollection, Datum.ofArgument?,
    Datum.same, Datum.and?, hkey]

theorem finds_sameKey_collections (data : Json) :
    Finds collectionRow id (Table.sameKey .collections (collectionRow id data)) := by
  intro k v
  simp [Table.sameKey, Table.key, sameIn, Datum.same, eq_comm]

theorem finds_sameKey_items (key : ItemKey) (e : Entry) :
    Finds itemRow key (Table.sameKey .items (itemRow key e)) := by
  intro k v
  have hkey : k = key ↔ key.collection = k.collection ∧ key.id = k.id := by
    cases k
    cases key
    simp [eq_comm]
  simp [Table.sameKey, Table.key, sameIn, Datum.same, hkey]

/-- The rows that refer to a collection are those of its items. -/
theorem refersTo_collectionRow (key : ItemKey) (e : Entry) (data : Json) :
    refersTo (itemRow key e) (collectionRow id data) = decide (key.collection = id) := by
  simp [refersTo, sameIn, Datum.same]

/-! ### Primitives -/

/-- An argument is accepted where its type is wanted. -/
theorem Argument.accepts_type (a : Argument) : a.accepts a.type := by
  cases a with
  | text s => rfl
  | document j => rfl
  | search p => cases p <;> rfl

theorem refusedArgument?_types (s : Statement) : refusedArgument? s.types s.arguments = none := by
  unfold refusedArgument? Statement.types
  induction s.arguments with
  | nil => rfl
  | cons a as ih => simp [List.findIdx?_cons, a.accepts_type, ih]

variable {c : Connection Database} {t : Tables}

/-- A primitive succeeds with a reply, and then the database holds two maps. -/
structure Performs (c : Connection Database) (p : Primitive) (reply : p.Reply) (t : Tables) :
    Prop where
  reply_eq : (c.perform .tables p).1 = .ok reply
  holds : (c.perform .tables p).2.state.Holds t

/-- A primitive is performed by executing the command that its statement is read as. -/
theorem performs_of_execute {p : Primitive} {command : Command} {answer : Reply} {db : Database}
    {reply : p.Reply} (s : Statement) (hs : Statement.ofPrimitive p = s)
    (htext : ofText? s.text = some command)
    (hexecute : execute s.arguments command c.state = (answer, db))
    (hrefused : answer.refused = none) (htypes : answer.types = none)
    (hreply : answer.interpret p = .ok reply) (hholds : db.Holds t) : Performs c p reply t := by
  have hrespond : Server.tables.respond c.state (.statement s) = (answer, db) := by
    simp only [Server.tables, htext, hexecute]
  have hcount : s.types.length = s.arguments.length := List.length_map _
  have hperform : c.perform .tables p =
      (.ok reply, ⟨db, c.sent ++ [.executed s s.types]⟩) := by
    rw [Connection.perform, Connection.exchange, hs, hrespond]
    simp [hrefused, htypes, hcount, refusedArgument?_types s, Except.bind, hreply, Except.mapError]
  exact ⟨congrArg Prod.fst hperform, hperform ▸ hholds⟩

theorem performs_collectionExists (h : c.state.Holds t) (id : String) :
    Performs c (.collectionExists id) (t.collections id).isSome t := by
  have hfound := h.collections.filter_eq (finds_id [.text id] rfl)
  have hexecute : execute [.text id] (select .collections (equals "id" 1)) c.state =
      ({ columns := [⟨"?column?", .other "int4"⟩]
         rows := (t.collections id).toList.map fun _ => [.other] }, c.state) := by
    simp only [execute, Database.rows, hfound]
    cases t.collections id <;> rfl
  refine performs_of_execute (.collectionExists id) rfl (ofText?_collectionExists id) hexecute rfl
    rfl ?_ h
  cases t.collections id <;> rfl

/-- The row of a collection is made from the arguments of its insertion. -/
theorem execute_insertCollection (id : String) (data : Json) (db : Database) :
    execute [.text id, .document data]
        (insert .collections ["id", "data"] [.parameter 1, .parameter 2] ["id"]) db =
      if db.collections.any (Table.sameKey .collections (collectionRow id data)) then
        ({ affected := 0 }, db)
      else ({ affected := 1 },
        { db with collections := db.collections ++ [collectionRow id data] }) := rfl

theorem performs_insertCollection (h : c.state.Holds t) {id : String} (data : Json)
    (hfree : t.collections id = none) :
    Performs c (.insertCollection id data) true
      { t with collections := update t.collections id (some data) } := by
  have hexecute := execute_insertCollection id data c.state
  rw [h.collections.any_eq (finds_sameKey_collections data), hfree, Option.isSome_none,
    if_neg Bool.false_ne_true] at hexecute
  exact performs_of_execute (.insertCollection id data) rfl (ofText?_insertCollection id data)
    hexecute rfl rfl rfl
    ⟨h.collections.insert (finds_sameKey_collections data) data hfree, h.items⟩

theorem performs_insertCollection_taken (h : c.state.Holds t) {id : String} (data : Json)
    (htaken : (t.collections id).isSome) :
    Performs c (.insertCollection id data) false t := by
  have hexecute := execute_insertCollection id data c.state
  rw [h.collections.any_eq (finds_sameKey_collections data), if_pos htaken] at hexecute
  exact performs_of_execute (.insertCollection id data) rfl (ofText?_insertCollection id data)
    hexecute rfl rfl rfl h

theorem execute_removeCollection (id : String) (h : c.state.Holds t) :
    execute [.text id] (delete .collections (equals "id" 1)) c.state =
      ({ affected := (t.collections id).toList.length },
        { collections := c.state.collections.filter fun r => !(equals "id" 1).holds r [.text id]
          items := c.state.items.filter fun item =>
            !(t.collections id).any fun data => refersTo item (collectionRow id data) }) := by
  have hfound := h.collections.filter_eq (finds_id [.text id] rfl)
  simp only [execute, Database.rows, List.partition_eq_filter_filter, hfound, Database.setRows,
    Database.cascade]
  cases t.collections id with
  | none => rfl
  | some data => simp [Function.comp_def]

theorem performs_removeCollection (h : c.state.Holds t) {id : String}
    (hpresent : (t.collections id).isSome) :
    Performs c (.removeCollection id) true
      { collections := update t.collections id none
        items := fun key => if key.collection = id then none else t.items key } := by
  obtain ⟨data, hdata⟩ := Option.isSome_iff_exists.mp hpresent
  have hexecute := execute_removeCollection id h
  rw [hdata] at hexecute
  have hitems := h.items.filter (Q := fun key => key.collection ≠ id)
    (q := fun item => !(some data).any fun data => refersTo item (collectionRow id data)) (by
      intro k e
      simp [refersTo_collectionRow])
  simp only [ne_eq, ite_not] at hitems
  exact performs_of_execute (.removeCollection id) rfl (ofText?_removeCollection id) hexecute rfl
    rfl rfl ⟨h.collections.erase (finds_id _ rfl), hitems⟩

theorem performs_removeCollection_absent (h : c.state.Holds t) {id : String}
    (habsent : t.collections id = none) : Performs c (.removeCollection id) false t := by
  have hexecute := execute_removeCollection id h
  rw [habsent] at hexecute
  have hcollections := h.collections.erase (finds_id [.text id] rfl)
  rw [← habsent, Function.update_eq_self] at hcollections
  refine performs_of_execute (.removeCollection id) rfl (ofText?_removeCollection id) hexecute rfl
    rfl rfl ⟨hcollections, ?_⟩
  simpa using h.items

/-- The row of an item is made from the arguments of its insertion. -/
theorem execute_insertItem (e : Entry) (db : Database) :
    execute (Statement.recordArguments e.record)
        (insert .items ["id", "collection", "data", "geometry"]
          [.parameter 1, .parameter 2, .parameter 3, placed 4] ["collection", "id"]) db =
      if db.items.any (Table.sameKey .items (itemRow e.record.key e)) then
        ({ affected := 0 }, db)
      else if db.collections.any (refersTo (itemRow e.record.key e)) then
        ({ affected := 1 }, { db with items := db.items ++ [itemRow e.record.key e] })
      else (.refusal, db) := rfl

theorem performs_insertItem (h : c.state.Holds t) {e : Entry}
    (hpresent : (t.collections e.record.collection).isSome) (hfree : t.items e.record.key = none) :
    Performs c (.insertItem e.record) true
      { t with items := update t.items e.record.key (some e) } := by
  have hrefers : Finds collectionRow e.record.collection (refersTo (itemRow e.record.key e)) := by
    intro k data
    simp [refersTo_collectionRow, ItemRecord.key, eq_comm]
  have hexecute := execute_insertItem e c.state
  rw [h.items.any_eq (finds_sameKey_items _ e), hfree, Option.isSome_none,
    if_neg Bool.false_ne_true, h.collections.any_eq hrefers, if_pos hpresent] at hexecute
  exact performs_of_execute (.insertItem e.record) rfl (ofText?_insertItem e.record)
    hexecute rfl rfl rfl
    ⟨h.collections, h.items.insert (finds_sameKey_items _ e) e hfree⟩

theorem performs_insertItem_taken (h : c.state.Holds t) {e : Entry}
    (htaken : (t.items e.record.key).isSome) : Performs c (.insertItem e.record) false t := by
  have hexecute := execute_insertItem e c.state
  rw [h.items.any_eq (finds_sameKey_items _ e), if_pos htaken] at hexecute
  exact performs_of_execute (.insertItem e.record) rfl (ofText?_insertItem e.record)
    hexecute rfl rfl rfl h

/-- The row of an item gets another document and another geometry. -/
def replaced (e : Entry) (row : TableRow) : TableRow :=
  if keyCondition.holds row (Statement.recordArguments e.record) then itemRow e.record.key e
  else row

theorem finds_record (e : Entry) :
    Finds itemRow e.record.key (keyCondition.holds · (Statement.recordArguments e.record)) :=
  finds_key _ rfl rfl

theorem execute_replaceItem (h : c.state.Holds t) (e : Entry) :
    execute (Statement.recordArguments e.record)
        (update .items [("data", .parameter 3), ("geometry", placed 4)] keyCondition) c.state =
      ({ affected := (t.items e.record.key).toList.length },
        { c.state with items := c.state.items.map (replaced e) }) := by
  have hcount : c.state.items.countP
      (keyCondition.holds · (Statement.recordArguments e.record)) =
        (t.items e.record.key).toList.length := by
    rw [List.countP_eq_length_filter, h.items.filter_eq (finds_record e)]
    cases t.items e.record.key <;> rfl
  have hrows : (c.state.items.mapM fun row =>
      if keyCondition.holds row (Statement.recordArguments e.record) then
        assigned? (Statement.recordArguments e.record) .items
          [("data", .parameter 3), ("geometry", placed 4)] row
      else some row) = some (c.state.items.map (replaced e)) := by
    rw [mapM_eq_some_iff, List.forall₂_map_right_iff, List.forall₂_same]
    intro row hrow
    obtain ⟨k, old, -, rfl⟩ := (h.items.mem_iff row).mp hrow
    have hfinds : keyCondition.holds (itemRow k old) (Statement.recordArguments e.record) =
        decide (k = e.record.key) := finds_record e k old
    rw [replaced, hfinds]
    by_cases hk : k = e.record.key
    · rw [decide_eq_true hk, if_pos rfl, if_pos rfl, hk]
      rfl
    · rw [decide_eq_false hk, if_neg Bool.false_ne_true, if_neg Bool.false_ne_true]
  have hkey : [("data", Expr.parameter 3), ("geometry", placed 4)].any
      (Table.items.key.contains ·.1) = false := by decide
  simp only [execute, hkey, Database.rows, hrows, hcount, Database.setRows]
  rfl

theorem performs_replaceItem (h : c.state.Holds t) {e : Entry}
    (htaken : (t.items e.record.key).isSome) :
    Performs c (.replaceItem e.record) true
      { t with items := update t.items e.record.key (some e) } := by
  obtain ⟨old, hold⟩ := Option.isSome_iff_exists.mp htaken
  have hexecute := execute_replaceItem h e
  rw [hold] at hexecute
  exact performs_of_execute (.replaceItem e.record) rfl (ofText?_replaceItem e.record)
    hexecute rfl rfl rfl
    ⟨h.collections, h.items.replace (finds_record e) hold e⟩

theorem performs_replaceItem_absent (h : c.state.Holds t) {e : Entry}
    (habsent : t.items e.record.key = none) : Performs c (.replaceItem e.record) false t := by
  have hexecute := execute_replaceItem h e
  have hsame : c.state.items.map (replaced e) = c.state.items := by
    refine (List.map_congr_left fun row hrow => ?_).trans (List.map_id _)
    obtain ⟨k, old, hk, rfl⟩ := (h.items.mem_iff row).mp hrow
    have hfinds : keyCondition.holds (itemRow k old) (Statement.recordArguments e.record) =
        decide (k = e.record.key) := finds_record e k old
    have hne : k ≠ e.record.key := by
      rintro rfl
      rw [habsent] at hk
      cases hk
    rw [replaced, hfinds, decide_eq_false hne, if_neg Bool.false_ne_true, id]
  rw [habsent, hsame] at hexecute
  exact performs_of_execute (.replaceItem e.record) rfl (ofText?_replaceItem e.record)
    hexecute rfl rfl rfl h

theorem execute_removeItem (h : c.state.Holds t) (id collection : String) :
    execute [.text id, .text collection] (delete .items keyCondition) c.state =
      ({ affected := (t.items ⟨collection, id⟩).toList.length },
        { c.state with items := c.state.items.filter fun r =>
            !keyCondition.holds r [.text id, .text collection] }) := by
  have hfound : c.state.items.filter (keyCondition.holds · [.text id, .text collection]) =
      ((t.items ⟨collection, id⟩).map (itemRow ⟨collection, id⟩)).toList :=
    h.items.filter_eq (finds_key _ rfl rfl)
  simp only [execute, Database.rows, List.partition_eq_filter_filter, hfound, Database.setRows,
    Database.cascade]
  cases t.items ⟨collection, id⟩ <;> rfl

theorem performs_removeItem (h : c.state.Holds t) {id collection : String}
    (htaken : (t.items ⟨collection, id⟩).isSome) :
    Performs c (.removeItem id collection) true
      { t with items := update t.items ⟨collection, id⟩ none } := by
  obtain ⟨old, hold⟩ := Option.isSome_iff_exists.mp htaken
  have hexecute := execute_removeItem h id collection
  rw [hold] at hexecute
  exact performs_of_execute (.removeItem id collection) rfl (ofText?_removeItem id collection)
    hexecute rfl rfl rfl
    ⟨h.collections, h.items.erase (finds_key _ rfl rfl)⟩

theorem performs_removeItem_absent (h : c.state.Holds t) {id collection : String}
    (habsent : t.items ⟨collection, id⟩ = none) :
    Performs c (.removeItem id collection) false t := by
  have hexecute := execute_removeItem h id collection
  rw [habsent] at hexecute
  have hitems := h.items.erase (finds_key [.text id, .text collection] rfl rfl)
  rw [← habsent, Function.update_eq_self] at hitems
  exact performs_of_execute (.removeItem id collection) rfl (ofText?_removeItem id collection)
    hexecute rfl rfl rfl ⟨h.collections, hitems⟩

/-! ### Writes -/

/-- A program gives an answer, and then the database holds two maps. -/
structure Runs {α : Type} (c : Connection Database) (x : Program α) (answer : Result α)
    (t : Tables) : Prop where
  answer_eq : (c.run .tables x).1 = answer
  holds : (c.run .tables x).2.state.Holds t

theorem Runs.done {α : Type} (h : c.state.Holds t) (answer : Result α) :
    Runs c (.done answer) answer t :=
  ⟨rfl, h⟩

/-- A primitive, and then what follows on its reply. -/
theorem Performs.run {α : Type} {p : Primitive} {reply : p.Reply} {next : p.Reply → Program α}
    {answer : Result α} {t' : Tables} (h : Performs c p reply t)
    (hnext : ∀ c', c'.state.Holds t → Runs c' (next reply) answer t') :
    Runs c (.call p next) answer t' := by
  have hrun := Connection.run_call_ok next h.reply_eq
  obtain ⟨hanswer, hholds⟩ := hnext _ h.holds
  exact ⟨by rw [hrun, hanswer], by rw [hrun]; exact hholds⟩

/-- A primitive and nothing more. -/
theorem Performs.run_done {α : Type} {p : Primitive} {reply : p.Reply}
    {f : p.Reply → Result α} (h : Performs c p reply t) :
    Runs c (.call p fun r => .done (f r)) (f reply) t :=
  h.run fun _ hc => .done hc _

variable {s s' : Store} {w : Write}

/-- **What a write that succeeds does in memory, it does in the database.** -/
theorem runs_of_effect (h : c.state.Holds s.tables) (effect : Store.Effect s w s') :
    Runs c w.program (.ok ()) s'.tables := by
  cases effect with
  | @collectionAdded x absent =>
    rw [Store.hasCollection_iff, Option.not_isSome_iff_eq_none] at absent
    rw [Store.tables_insertCollection]
    exact (performs_insertCollection h x.document absent).run_done
  | @collectionDeleted id present =>
    rw [Store.hasCollection_iff] at present
    rw [Store.tables_removeCollection]
    exact (performs_removeCollection h present).run_done
  | @itemAdded item r e record read present free =>
    obtain ⟨rfl, -⟩ := Store.entry_eq_ok_iff.mp read
    rw [Store.hasCollection_iff] at present
    rw [Store.mem_items_iff, Option.not_isSome_iff_eq_none] at free
    rw [Store.tables_insertItem, Write.program, Catalog.addItem, record]
    refine (performs_collectionExists h e.record.collection).run fun c' hc' => ?_
    rw [present]
    exact (performs_insertItem hc' present free).run_done
  | @itemReplaced item r e record read taken =>
    obtain ⟨rfl, -⟩ := Store.entry_eq_ok_iff.mp read
    rw [Store.mem_items_iff] at taken
    rw [Store.tables_insertItem, Write.program, Catalog.updateItem, record]
    exact (performs_replaceItem h taken).run_done
  | @itemDeleted id collection taken =>
    rw [Store.mem_items_iff] at taken
    rw [Store.tables_removeItem]
    exact (performs_removeItem h taken).run_done

/-- **A write that fails in memory fails in the database with the same error.** -/
theorem runs_of_fails (h : c.state.Holds t) (hw : w.Bounded) {e : Error} (fails : w.Fails t e) :
    Runs c w.program (.error e) t := by
  cases fails with
  | @addedCollection x taken => exact (performs_insertCollection_taken h x.document taken).run_done
  | deletedCollection absent => exact (performs_removeCollection_absent h absent).run_done
  | deletedItem absent => exact (performs_removeItem_absent h absent).run_done
  | addedNowhere unfiled =>
    rw [Write.program, Catalog.addItem, Store.ofItem_eq_error_of_none unfiled]
    exact .done h _
  | updatedNowhere unfiled =>
    rw [Write.program, Catalog.updateItem, Store.ofItem_eq_error_of_none unfiled]
    exact .done h _
  | addedUndecoded filed bad =>
    rw [Write.program, Catalog.addItem, Store.ofItem_eq_error filed bad]
    exact .done h _
  | updatedUndecoded filed bad =>
    rw [Write.program, Catalog.updateItem, Store.ofItem_eq_error filed bad]
    exact .done h _
  | @addedAstray item x good absent =>
    obtain ⟨e, hentry, hkey⟩ := Store.exists_entryOf hw good
    obtain ⟨rfl, -⟩ := ItemKey.mk.inj hkey
    rw [Write.program, Catalog.addItem, hentry.record]
    refine (performs_collectionExists h e.record.collection).run fun c' hc' => ?_
    rw [absent]
    exact .done hc' _
  | @addedTwice item x good present taken =>
    obtain ⟨e, hentry, hkey⟩ := Store.exists_entryOf hw good
    rw [← hkey] at taken
    obtain ⟨rfl, hid⟩ := ItemKey.mk.inj hkey
    rw [Write.program, Catalog.addItem, hentry.record, ← hid]
    refine (performs_collectionExists h e.record.collection).run fun c' hc' => ?_
    rw [present]
    exact (performs_insertItem_taken hc' taken).run_done
  | @updatedAstray item x good absent =>
    obtain ⟨e, hentry, hkey⟩ := Store.exists_entryOf hw good
    rw [← hkey] at absent
    obtain ⟨rfl, hid⟩ := ItemKey.mk.inj hkey
    rw [Write.program, Catalog.updateItem, hentry.record, ← hid]
    exact (performs_replaceItem_absent h absent).run_done

/-- A write has one answer in the database and in memory, and they go on holding the same. -/
theorem runs_write (h : c.state.Holds s.tables) (hw : w.Bounded) :
    Runs c w.program (s.write w).1 (s.write w).2.tables := by
  rcases s.write_cases w with ⟨s', hwrite, effect⟩ | ⟨e, hwrite⟩
  · rw [hwrite]
    exact runs_of_effect h effect
  · rcases s.write_outcome hw with ⟨-, hok⟩ | ⟨e', fails, herror⟩
    · rw [hwrite] at hok
      cases hok
    · rw [hwrite] at herror ⊢
      obtain rfl := Except.error.inj herror
      exact runs_of_fails h hw fails

namespace Connection

/-- A connection after a history of writes. -/
def after (c : Connection Database) (ws : List Write) : Connection Database :=
  ws.foldl (fun c w => (c.run .tables w.program).2) c

theorem holds_after (h : c.state.Holds s.tables) {ws : List Write} (hws : ∀ w ∈ ws, w.Bounded) :
    (c.after ws).state.Holds (s.after ws).tables := by
  induction ws generalizing c s with
  | nil => exact h
  | cons w ws ih =>
    rw [List.forall_mem_cons] at hws
    exact ih (runs_write h hws.1).holds hws.2

/-- **After every history of bounded writes on the empty database, the database holds what the store
in memory holds after the same history, and every further bounded write has the same answer.** -/
theorem agrees_after (sent : List Sent) (ws : List Write) (hws : ∀ w ∈ ws, w.Bounded) :
    let c := Connection.after ⟨.empty, sent⟩ ws
    c.state.Holds (Store.empty.after ws).tables ∧
      ∀ w, w.Bounded → (c.run .tables w.program).1 = ((Store.empty.after ws).write w).1 := by
  intro c
  have h : c.state.Holds (Store.empty.after ws).tables := holds_after Database.holds_empty hws
  exact ⟨h, fun w hw => (runs_write h hw).answer_eq⟩

/-- An item that is added twice. -/
theorem agrees_after_addItem :
    (Connection.after ⟨.empty, []⟩ [.addCollection (plainCollection "c"),
        .addItem (originItem "a" "c")]).state.Holds
      (oneCollection.write (.addItem (originItem "a" "c"))).2.tables ∧
    ((Connection.after ⟨.empty, []⟩ [.addCollection (plainCollection "c"),
        .addItem (originItem "a" "c")]).run .tables (Catalog.addItem (originItem "a" "c"))).1 =
      .error (.request (.itemExists "a" "c")) := by
  have hitem := Item.bounded_originItem "a" "c"
  obtain ⟨hholds, hanswer⟩ := agrees_after [] [.addCollection (plainCollection "c"),
    .addItem (originItem "a" "c")] (by simp [Write.Bounded, hitem])
  refine ⟨hholds, (hanswer (.addItem (originItem "a" "c")) hitem).trans ?_⟩
  decide +kernel

end Connection

end Sql

end SpatialCatalog
