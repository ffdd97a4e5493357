import SpatialCatalog.Proofs.Store.Readback
import SpatialCatalog.Proofs.Store.Writes

/-!
# Clients that share a store

Any number of clients run operations on one store. A primitive is one step, and the steps of the
clients come in any order, which is a list of moves: a client starts an operation, or it performs
the next primitive of the operation that it is in. Operations are over with their last primitive, or
at once where they ask for none, and `Clients.answered` lists them in this order.

An operation asks for one primitive at most, but for one: adding an item first looks for the
collection, and meanwhile the store may change. What keeps the order sequential is that the look
changes nothing and that the second primitive looks again (`Call.Pending`).
-/

namespace SpatialCatalog

open Function (update)

/-! ### Moves -/

/-- Go on with the result of a primitive. An error is the result of the program. -/
def Program.resume {α : Type} {p : Primitive} (next : p.Reply → Program α) :
    Result p.Reply → Program α
  | .ok reply => next reply
  | .error e => .done (.error e)

/-- An operation that is not over: the primitive that comes next, and what follows. -/
structure Call where
  operation : Operation
  primitive : Primitive
  next : primitive.Reply → Program operation.Answer

/-- Perform the next primitive of an operation. -/
def Call.perform (c : Call) (s : Store) : Program c.operation.Answer × Store :=
  let (reply, s') := Store.perform c.primitive s
  (.resume c.next reply, s')

/-- What a client does next. -/
inductive Move (ι : Type) where
  | start (client : ι) (o : Operation)
  | advance (client : ι)

/-- A store, the operations that clients are in, and those that are over with their clients. -/
structure Clients (ι : Type) where
  store : Store
  calls : ι → Option Call
  answered : List (ι × Answered)

namespace Clients

variable {ι : Type}

/-- No client has done anything. -/
def initial : Clients ι := ⟨.empty, fun _ => none, []⟩

/-- The operations that are over. -/
def operations (y : Clients ι) : List Operation := y.answered.map fun a => a.2.operation

/-- Their answers. -/
def answers (y : Clients ι) : List Answered := y.answered.map Prod.snd

variable [DecidableEq ι]

/-- A client is left with a program of its operation. -/
def proceed (y : Clients ι) (i : ι) (o : Operation) : Program o.Answer → Clients ι
  | .done answer =>
    { y with calls := update y.calls i none, answered := y.answered ++ [(i, ⟨o, answer⟩)] }
  | .call p next => { y with calls := update y.calls i (some ⟨o, p, next⟩) }

/-- Make a move. A client that is in an operation starts no other, and one that is in none has
nothing to perform. -/
def move (y : Clients ι) : Move ι → Clients ι
  | .start i o =>
    match y.calls i with
    | some _ => y
    | none => y.proceed i o o.program
  | .advance i =>
    match y.calls i with
    | none => y
    | some c =>
      let (program, store) := c.perform y.store
      { y with store }.proceed i c.operation program

/-- Moves in a row, from the beginning. -/
def after (moves : List (Move ι)) : Clients ι := moves.foldl move initial

end Clients

/-! ### One primitive at most -/

/-- A program that asks for one primitive at most. -/
inductive Program.Single {α : Type} : Program α → Prop
  | done (result : Result α) : Single (.done result)
  | call {p : Primitive} {next : p.Reply → Program α}
      (last : ∀ reply, ∃ result, next reply = .done result) : Single (.call p next)

theorem Program.Single.map {α β : Type} {f : α → β} {x : Program α} (h : x.Single) :
    (x.map f).Single := by
  cases h with
  | done result => exact .done _
  | call last =>
    refine .call fun reply => ?_
    obtain ⟨result, hresult⟩ := last reply
    exact ⟨result.map f, by rw [hresult, Program.map]⟩

theorem Program.single_searchThen {α : Type} (s : Search)
    (f : List StoredItem → Int → Result α) : (Catalog.searchThen s f).Single := by
  unfold Catalog.searchThen
  cases s.compile with
  | error e => exact .done _
  | ok plan => exact .call fun found => ⟨_, rfl⟩

/-- What follows on the insertion of a record. -/
def Catalog.inserted (r : ItemRecord) (inserted : Bool) : Program Unit :=
  .done (if inserted then .ok () else .error (.request (.itemExists r.id r.collection)))

/-- What follows on the look for the collection of a record. -/
def Catalog.looked (r : ItemRecord) (found : Bool) : Program Unit :=
  if found then .call (.insertItem r) (Catalog.inserted r)
  else .done (.error (.notFound (.collection r.collection)))

theorem Catalog.addItem_eq {item : Item} {r : ItemRecord} (hr : ItemRecord.ofItem item = .ok r) :
    Catalog.addItem item = .call (.collectionExists r.collection) (Catalog.looked r) := by
  rw [Catalog.addItem, hr]
  rfl

/-- An operation asks for one primitive at most, or it adds an item and looks for its collection. -/
theorem Operation.single_or_looks (o : Operation) :
    o.program.Single ∨ ∃ item r, o = .write (.addItem item) ∧ ItemRecord.ofItem item = .ok r ∧
      Catalog.addItem item = .call (.collectionExists r.collection) (Catalog.looked r) := by
  cases o with
  | write w =>
    cases w with
    | addCollection c => exact .inl (.call fun _ => ⟨_, rfl⟩)
    | deleteCollection id => exact .inl (.call fun _ => ⟨_, rfl⟩)
    | deleteItem id collection => exact .inl (.call fun _ => ⟨_, rfl⟩)
    | updateItem item =>
      left
      show (Catalog.updateItem item).Single
      unfold Catalog.updateItem
      cases ItemRecord.ofItem item with
      | error e => exact .done _
      | ok r => exact .call fun _ => ⟨_, rfl⟩
    | addItem item =>
      cases hr : ItemRecord.ofItem item with
      | error e =>
        left
        show (Catalog.addItem item).Single
        rw [Catalog.addItem, hr]
        exact .done _
      | ok r =>
        right
        exact ⟨item, r, rfl, hr, Catalog.addItem_eq hr⟩
  | collection id => exact .inl (.call fun _ => ⟨_, rfl⟩)
  | item id collection =>
    left
    show (Catalog.item id collection).Single
    exact Program.single_searchThen _ _
  | items collection limit =>
    left
    show ((Catalog.search { collections := [collection], limit }).map _).Single
    exact (Program.single_searchThen _ _).map
  | search s =>
    left
    show (Catalog.search s).Single
    exact Program.single_searchThen _ _

/-! ### Answers in one order -/

/-- How the answer that a client is given compares with the answer of a sequential run. They are the
same, but for an item that is added to a collection that has been deleted in the meantime: a record
that cannot be read is reported before the collection that is missing. -/
inductive Answered.Explained : Answered → Answered → Prop
  | same (a : Answered) : Explained a a
  | unread {item : Item} {r : ItemRecord} {e : InternalFault}
      (record : ItemRecord.ofItem item = .ok r) (unread : Store.entry r = .error e) :
      Explained ⟨.write (.addItem item), .error (.internal e)⟩
        ⟨.write (.addItem item), .error (.notFound (.collection r.collection))⟩

/-- The items of an operation are as documents can hold them. -/
def Operation.Bounded : Operation → Prop
  | write w => w.Bounded
  | _ => True

/-- The record of an item that a document can hold is read. -/
theorem Item.Bounded.exists_entry {item : Item} {r : ItemRecord} (hb : item.Bounded)
    (hr : ItemRecord.ofItem item = .ok r) : ∃ e, Store.entry r = .ok e := by
  obtain ⟨hc, -, -, g, hg, -⟩ := ItemRecord.ofItem_eq_ok_iff.mp hr
  obtain ⟨j, hj, hnull, hdecoded⟩ := ItemRecord.geometryOf_eq_ok_iff.mp hg
  obtain ⟨e, hentry, -⟩ := Store.exists_entryOf hb ⟨hc, j, g, hj, hnull, hdecoded⟩
  rw [Except.ok.inj (hr.symm.trans hentry.record)]
  exact ⟨e, hentry.read⟩

namespace Answered.Explained

variable {a b : Answered}

theorem eq_of_bounded (h : a.Explained b) (hb : a.operation.Bounded) : a = b := by
  cases h with
  | same => rfl
  | unread record unread =>
    obtain ⟨e, he⟩ := Item.Bounded.exists_entry hb record
    rw [he] at unread
    cases unread

theorem disturbs_iff (h : a.Explained b) {key : ItemKey} : a.Disturbs key ↔ b.Disturbs key := by
  cases h with
  | same => exact Iff.rfl
  | unread record unread => simp [Disturbs]

/-- A write that succeeds does so in the sequential run too. -/
theorem eq_of_ok {w : Write} (h : Explained ⟨.write w, .ok ()⟩ b) : b = ⟨.write w, .ok ()⟩ := by
  cases h
  rfl

end Answered.Explained

theorem Answered.eq_of_explained {as bs : List Answered}
    (h : List.Forall₂ Answered.Explained as bs) (has : ∀ a ∈ as, a.operation.Bounded) :
    as = bs := by
  induction h with
  | nil => rfl
  | cons hab _ ih =>
    rw [List.forall_mem_cons] at has
    rw [hab.eq_of_bounded has.1, ih has.2]

theorem Answered.undisturbed_of_explained {as bs : List Answered} {key : ItemKey}
    (h : List.Forall₂ Answered.Explained as bs) (has : ∀ a ∈ as, ¬a.Disturbs key) :
    ∀ b ∈ bs, ¬b.Disturbs key := by
  induction h with
  | nil => exact has
  | cons hab _ ih =>
    rw [List.forall_mem_cons] at has ⊢
    exact ⟨fun hb => has.1 (hab.disturbs_iff.mpr hb), ih has.2⟩

/-! ### One step of an operation -/

namespace Store

variable (s : Store)

/-- A program performs its primitive and goes on. -/
theorem run_call {α : Type} (p : Primitive) (next : p.Reply → Program α) :
    run (.call p next) s = run (.resume next (perform p s).1) (perform p s).2 := by
  rcases h : perform p s with ⟨e | reply, s'⟩
  · exact run_call_error p next h
  · exact run_call_ok p next h

/-- The one primitive of a program is all that it does. -/
theorem perform_of_single {α : Type} {p : Primitive} {next : p.Reply → Program α}
    (h : (Program.call p next).Single) :
    Program.resume next (perform p s).1 = .done (run (.call p next) s).1 ∧
      (perform p s).2 = (run (.call p next) s).2 := by
  cases h with
  | call last =>
    have hdone : ∃ answer, Program.resume next (perform p s).1 = .done answer := by
      cases (perform p s).1 with
      | error e => exact ⟨_, rfl⟩
      | ok reply => exact last reply
    obtain ⟨answer, hdone⟩ := hdone
    rw [run_call, hdone, run_done]
    exact ⟨rfl, rfl⟩

/-- **Inserting a record adds its item**, although the collection is not looked for before: it is
looked for again. -/
theorem perform_insertItem {item : Item} {r : ItemRecord} (hr : ItemRecord.ofItem item = .ok r) :
    ∃ answer, Program.resume (p := .insertItem r) (Catalog.inserted r) (s.insertItem r).1 =
        .done answer ∧
      (s.insertItem r).2 = (s.write (.addItem item)).2 ∧
      Answered.Explained ⟨.write (.addItem item), answer⟩
        ⟨.write (.addItem item), (s.write (.addItem item)).1⟩ := by
  rw [write_addItem, hr]
  dsimp only
  cases he : entry r with
  | error e =>
    simp only [insertItem, he]
    refine ⟨_, rfl, ?_⟩
    by_cases hc : s.hasCollection r.collection
    · simp only [hc, if_true]
      exact ⟨trivial, .same _⟩
    · rw [if_neg hc]
      exact ⟨rfl, .unread hr he⟩
  | ok e =>
    simp only [insertItem, he, Std.ExtTreeMap.contains_iff_mem]
    by_cases hc : s.hasCollection r.collection
    · by_cases hk : r.key ∈ s.items
      · simp only [hc, hk, if_true]
        exact ⟨_, rfl, trivial, .same _⟩
      · simp only [hc, hk, if_true, if_false]
        exact ⟨_, rfl, trivial, .same _⟩
    · rw [if_neg hc, if_neg hc]
      exact ⟨_, rfl, rfl, .same _⟩

end Store

namespace Call

/-- What a client that is in an operation has left to do: it has asked for nothing yet, or it adds
an item and has found the collection. -/
inductive Pending : Call → Prop
  | asks {o : Operation} {p : Primitive} {next : p.Reply → Program o.Answer}
      (program_eq : o.program = .call p next) : Pending ⟨o, p, next⟩
  | found {item : Item} {r : ItemRecord} (record : ItemRecord.ofItem item = .ok r) :
      Pending ⟨.write (.addItem item), .insertItem r, Catalog.inserted r⟩

/-- **A primitive that is not the last changes nothing, and the last one does what the operation
does.** -/
theorem Pending.perform_cases {c : Call} (h : c.Pending) (s : Store) :
    (∃ p next, c.perform s = (.call p next, s) ∧ Pending ⟨c.operation, p, next⟩) ∨
      ∃ answer, c.perform s = (.done answer, (s.operate c.operation).2) ∧
        Answered.Explained ⟨c.operation, answer⟩ ⟨c.operation, (s.operate c.operation).1⟩ := by
  cases h with
  | @found item r record =>
    obtain ⟨answer, hdone, hstore, hanswer⟩ := s.perform_insertItem record
    exact .inr ⟨answer, Prod.ext hdone hstore, hanswer⟩
  | @asks o p next program_eq =>
    rcases o.single_or_looks with hsingle | ⟨item, r, rfl, record, hlooks⟩
    · rw [program_eq] at hsingle
      obtain ⟨hdone, hstore⟩ := s.perform_of_single hsingle
      rw [Store.operate, program_eq]
      exact .inr ⟨_, Prod.ext hdone hstore, .same _⟩
    · obtain ⟨rfl, hnext⟩ := Program.call.inj (program_eq.symm.trans hlooks)
      obtain rfl := eq_of_heq hnext
      by_cases hc : s.hasCollection r.collection
      · left
        refine ⟨.insertItem r, Catalog.inserted r, Prod.ext ?_ rfl, .found record⟩
        show Catalog.looked r (s.hasCollection r.collection) =
          .call (.insertItem r) (Catalog.inserted r)
        rw [Catalog.looked, if_pos hc]
      · right
        have hwrite : s.operate (.write (.addItem item)) =
            (.error (.notFound (.collection r.collection)), s) := by
          show s.write (.addItem item) = _
          rw [Store.write_addItem, record]
          exact if_neg hc
        rw [hwrite]
        refine ⟨_, Prod.ext ?_ rfl, .same _⟩
        show Catalog.looked r (s.hasCollection r.collection) =
          .done (.error (.notFound (.collection r.collection)))
        rw [Catalog.looked, if_neg hc]

end Call

/-! ### One move, and all of them -/

namespace Store

variable {s : Store}

/-- An item that a client has written stays until a client disturbs it. -/
theorem exists_entryOf_explained {os : List Operation} {before later : List Answered} {item : Item}
    {w : Write} (hw : w = .addItem item ∨ w = .updateItem item)
    (h : List.Forall₂ Answered.Explained (before ++ ⟨.write w, .ok ()⟩ :: later) (s.answers os)) :
    ∃ e, EntryOf item e ∧ ((∀ a ∈ later, ¬a.Disturbs e.record.key) →
      (s.afterAll os).items[e.record.key]? = some e) := by
  induction os generalizing s before with
  | nil =>
    rw [answers_nil, List.forall₂_nil_right_iff] at h
    simp at h
  | cons o os ih =>
    rw [answers_cons] at h
    cases before with
    | cons a before => exact ih (List.forall₂_cons.mp h).2
    | nil =>
      obtain ⟨hfirst, hrest⟩ := List.forall₂_cons.mp h
      obtain ⟨rfl, hok⟩ := Answered.mk.inj hfirst.eq_of_ok
      obtain ⟨e, hentry, he⟩ := exists_entryOf_write hw (eq_of_heq hok)
      refine ⟨e, hentry, fun hlater => ?_⟩
      rw [afterAll_cons]
      exact getElem?_afterAll (Answered.undisturbed_of_explained hrest hlater) he

end Store

namespace Clients

variable {ι : Type}

/-- The order in which operations are over explains their answers and the store. -/
structure Sequential (y : Clients ι) : Prop where
  pending : ∀ i c, y.calls i = some c → c.Pending
  store_eq : y.store = Store.empty.afterAll y.operations
  explained : List.Forall₂ Answered.Explained y.answers (Store.empty.answers y.operations)

theorem sequential_initial : (initial : Clients ι).Sequential where
  pending := by simp [initial]
  store_eq := rfl
  explained := .nil

variable [DecidableEq ι] {y y' : Clients ι}

/-- What a move does: nothing, a step of an operation that is not over, or the last one. -/
inductive Moved (y : Clients ι) : Clients ι → Prop
  | idle : Moved y y
  | pending (i : ι) {c : Call} (h : c.Pending) :
      Moved y { y with calls := update y.calls i (some c) }
  | last (i : ι) {o : Operation} {answer : Result o.Answer}
      (h : Answered.Explained ⟨o, answer⟩ ⟨o, (y.store.operate o).1⟩) :
      Moved y { store := (y.store.operate o).2
                calls := update y.calls i none
                answered := y.answered ++ [(i, ⟨o, answer⟩)] }

theorem Sequential.moved (h : y.Sequential) (m : Move ι) : y.Moved (y.move m) := by
  cases m with
  | start i o =>
    cases hi : y.calls i with
    | some c => simpa only [move, hi] using .idle
    | none =>
      cases hprogram : o.program with
      | call p next => simpa only [move, hi, hprogram] using .pending i (.asks hprogram)
      | done answer =>
        -- An operation that asks for nothing is over before it has seen the store.
        have hrun : y.store.operate o = (answer, y.store) := by
          rw [Store.operate, hprogram, Store.run_done]
        have hanswer : Answered.Explained ⟨o, answer⟩ ⟨o, (y.store.operate o).1⟩ := by
          rw [hrun]
          exact .same _
        have hover := Moved.last i hanswer
        rw [hrun] at hover
        simp only [Clients.move, hi, hprogram]
        exact hover
  | advance i =>
    cases hi : y.calls i with
    | none => simpa only [move, hi] using .idle
    | some c =>
      rcases (h.pending i c hi).perform_cases y.store with
        ⟨p, next, hperform, hpending⟩ | ⟨answer, hperform, hanswer⟩
      · simpa only [move, hi, hperform] using .pending i hpending
      · simpa only [move, hi, hperform] using .last i hanswer

/-- An operation of one primitive that no other client comes between is run as it is alone. -/
theorem move_alone {i : ι} (hi : y.calls i = none) {o : Operation} {p : Primitive}
    {next : p.Reply → Program o.Answer} (hprogram : o.program = .call p next)
    (hsingle : (Program.call p next).Single) :
    (y.move (.start i o)).move (.advance i) =
      { y with
        store := (y.store.operate o).2
        answered := y.answered ++ [(i, ⟨o, (y.store.operate o).1⟩)] } := by
  obtain ⟨hdone, hstore⟩ := y.store.perform_of_single hsingle
  have hcalls : update y.calls i none = y.calls := by rw [← hi, Function.update_eq_self]
  simp only [move, hi, hprogram, proceed, Function.update_self, Call.perform, hdone, hstore,
    Function.update_idem, hcalls, Store.operate]

/-- **Every move keeps the order sequential.** -/
theorem Sequential.of_moved (h : y.Sequential) (hm : y.Moved y') : y'.Sequential := by
  have hupdate : ∀ i (c? : Option Call), (∀ c, c? = some c → c.Pending) →
      ∀ j c, update y.calls i c? j = some c → c.Pending := by
    intro i c? hc? j c hj
    rw [Function.update_apply] at hj
    split at hj
    · exact hc? c hj
    · exact h.pending j c hj
  cases hm with
  | idle => exact h
  | @pending i c hc =>
    refine ⟨hupdate i (some c) ?_, h.store_eq, h.explained⟩
    intro c' hc'
    exact Option.some.inj hc' ▸ hc
  | @last i o answer hanswer =>
    let a : Answered := ⟨o, answer⟩
    have hoperations : (y.answered ++ [(i, a)]).map (fun a => a.2.operation) =
        y.operations ++ [o] := List.map_append
    have hanswers : (y.answered ++ [(i, a)]).map Prod.snd = y.answers ++ [a] := List.map_append
    refine ⟨hupdate i none (by simp), ?_, ?_⟩
    · rw [operations, hoperations, Store.afterAll_append, ← h.store_eq]
      rfl
    · rw [operations, answers, hoperations, hanswers, Store.answers_append, ← h.store_eq]
      exact List.rel_append h.explained (.cons hanswer .nil)

theorem sequential_after (moves : List (Move ι)) : (after moves).Sequential := by
  suffices h : ∀ y : Clients ι, y.Sequential → (moves.foldl move y).Sequential from
    h initial sequential_initial
  intro y hy
  induction moves generalizing y with
  | nil => exact hy
  | cons m moves ih => exact ih (y.move m) (hy.of_moved (hy.moved m))

/-- A move changes the store only as the last primitive of a write that succeeds. -/
theorem Moved.store_cases (h : y.Moved y') : y'.store = y.store ∨ ∃ i w,
    y'.answered = y.answered ++ [(i, ⟨.write w, .ok ()⟩)] ∧
      Store.Effect y.store w y'.store := by
  cases h with
  | idle => exact .inl rfl
  | pending i hc => exact .inl rfl
  | @last i o answer hanswer =>
    rcases y.store.operate_cases o with ⟨w, s', rfl, hwrite, effect⟩ | hsame
    · have hoperate : y.store.operate (.write w) = (.ok (), s') := hwrite
      rw [hoperate] at hanswer ⊢
      have hok : answer = .ok () := by
        cases hanswer
        rfl
      rw [hok]
      exact .inr ⟨i, w, rfl, effect⟩
    · exact .inl hsame

/-- **Whatever moves clients make, the store is that of their operations one at a time, in the order
in which they were over, and every answer is that of this run.** The one exception is an item that
no document can hold, added to a collection that has been deleted in the meantime. No item is left
without its collection, nothing but a write that succeeds changes the store, and what a client has
written stays until a client disturbs it. -/
theorem sequential (moves : List (Move ι)) :
    let y := after moves
    y.store = Store.empty.afterAll y.operations ∧
    List.Forall₂ Answered.Explained y.answers (Store.empty.answers y.operations) ∧
    ((∀ o ∈ y.operations, o.Bounded) → y.answers = Store.empty.answers y.operations) ∧
    y.store.Consistent ∧
    (∀ m, (y.move m).store = y.store ∨ ∃ i w,
      (y.move m).answered = y.answered ++ [(i, ⟨.write w, .ok ()⟩)] ∧
        Store.Effect y.store w (y.move m).store) ∧
    ∀ (before later : List Answered) (item : Item) (w : Write),
      w = .addItem item ∨ w = .updateItem item →
      y.answers = before ++ ⟨.write w, .ok ()⟩ :: later →
      ∃ e, Store.EntryOf item e ∧ ((∀ a ∈ later, ¬a.Disturbs e.record.key) →
        y.store.items[e.record.key]? = some e) := by
  intro y
  have h : y.Sequential := sequential_after moves
  refine ⟨h.store_eq, h.explained, ?_, ?_, fun m => (h.moved m).store_cases, ?_⟩
  · intro hbounded
    refine Answered.eq_of_explained h.explained ?_
    intro a ha
    obtain ⟨b, hb, rfl⟩ := List.mem_map.mp ha
    exact hbounded _ (List.mem_map_of_mem hb)
  · rw [h.store_eq]
    exact Store.consistent_empty.afterAll y.operations
  · intro before later item w hw hanswers
    rw [h.store_eq]
    exact Store.exists_entryOf_explained hw (hanswers ▸ h.explained)

end Clients

/-! ### Races -/

/-- The error of an answer, if it is one. -/
def Answered.error? (a : Answered) : Option Error :=
  match a.answer with
  | .ok _ => none
  | .error e => some e

/-- Collections inside one another, with nothing in the innermost. -/
def Geometry.nest : Nat → Geometry
  | 0 => .collection []
  | n + 1 => .collection [nest n]

namespace Geometry

/-- The value of collections inside one another. -/
def nestJson : Nat → Json
  | 0 => typed .collection "geometries" (.arr [])
  | n + 1 => typed .collection "geometries" (.arr [nestJson n])

theorem ofJson_nestJson (n : Nat) : ofJson (nestJson n) = .ok (nest n) := by
  suffices h : ∃ raw, RawGeometry.decode (nestJson n) = .ok raw ∧ ofRaw raw = .ok (nest n) by
    obtain ⟨raw, hraw, hg⟩ := h
    rw [ofJson, hraw]
    exact hg
  induction n with
  | zero => exact ⟨⟨"GeometryCollection", none, some []⟩, rfl, rfl⟩
  | succ n ih =>
    obtain ⟨raw, hraw, hg⟩ := ih
    refine ⟨⟨"GeometryCollection", none, some [raw]⟩, ?_, ?_⟩
    · simp only [nestJson, typed, RawGeometry.decode, RawGeometry.decodeMembers,
        RawGeometry.decodeGeometries, RawGeometry.decodeList, hraw]
      rfl
    · simp only [ofRaw, ofRawMembers, ofRawList, hg]
      rfl

theorem toJson?_nest (n : Nat) : (nest n).toJson? = some (nestJson n) := by
  induction n with
  | zero => rfl
  | succ n ih =>
    rw [nest, toJson?, listToJson?, ih]
    rfl

theorem nesting_nestJson (n : Nat) : (nestJson n).nesting = 2 * n + 2 := by
  induction n with
  | zero => rfl
  | succ n ih =>
    simp only [nestJson, typed, Json.nesting, Json.membersNesting, Json.itemsNesting, ih]
    omega

end Geometry

/-- An item whose geometry is collections inside one another. -/
def nestedItem (n : Nat) (id collection : String) : Item where
  id := id
  collection := some collection
  document := .obj [("id", .str id), ("collection", .str collection),
    ("geometry", Geometry.nestJson n)]
  id_eq := rfl
  collection_eq := rfl

/-- The record of that item. -/
def nestedRecord (n : Nat) (id collection : String) : ItemRecord :=
  ⟨id, collection, (nestedItem n id collection).document, (Geometry.nestJson n).render⟩

theorem ofItem_nestedItem (n : Nat) (id collection : String) :
    ItemRecord.ofItem (nestedItem n id collection) = .ok (nestedRecord n id collection) := by
  refine ItemRecord.ofItem_eq_ok_iff.mpr ⟨rfl, rfl, rfl, Geometry.nest n, ?_, ?_⟩
  · have hnull : Geometry.nestJson n ≠ .null := by cases n <;> nofun
    exact ItemRecord.geometryOf_eq_ok_iff.mpr
      ⟨Geometry.nestJson n, rfl, hnull, Geometry.ofJson_nestJson n⟩
  · rw [Geometry.text, Geometry.toJson?_nest]
    rfl

theorem entry_nestedRecord {n : Nat} (hn : nestingLimit < 2 * n + 2) (id collection : String) :
    Store.entry (nestedRecord n id collection) = .error .geometryText := by
  rw [← Geometry.nesting_nestJson] at hn
  have hparse : RenderedGeometry.parse? (Geometry.nestJson n).render = none := by
    rw [RenderedGeometry.parse?, Json.parse?_render_eq_none hn]
    rfl
  simp only [Store.entry, Planar.Shape.parse, nestedRecord, hparse]
  rfl

namespace Clients

/-- A collection is added and deleted. -/
def comeAndGo : List Operation :=
  [.write (.addCollection (plainCollection "c")), .write (.deleteCollection "c")]

/-- A client that adds an item finds its collection. Another one deletes the collection, and then
the item is inserted. -/
def race (item : Item) : List (Move Bool) :=
  [.start true (.write (.addCollection (plainCollection "c"))), .advance true,
    .start true (.write (.addItem item)), .advance true,
    .start false (.write (.deleteCollection "c")), .advance false,
    .advance true]

/-- A client that adds an item has found the collection. -/
theorem move_looked {ι : Type} [DecidableEq ι] {y : Clients ι} {i : ι} (hi : y.calls i = none)
    {item : Item} {r : ItemRecord} (hr : ItemRecord.ofItem item = .ok r)
    (hc : y.store.hasCollection r.collection) :
    (y.move (.start i (.write (.addItem item)))).move (.advance i) =
      { y with
        calls := update y.calls i
          (some ⟨.write (.addItem item), .insertItem r, Catalog.inserted r⟩) } := by
  have hprogram : (Operation.write (.addItem item)).program =
      .call (.collectionExists r.collection) (Catalog.looked r) := Catalog.addItem_eq hr
  have hlooked : Call.perform ⟨.write (.addItem item), .collectionExists r.collection,
      Catalog.looked r⟩ y.store = (.call (.insertItem r) (Catalog.inserted r), y.store) := by
    show (Catalog.looked r (y.store.hasCollection r.collection), y.store) = _
    rw [Catalog.looked, if_pos hc]
    rfl
  simp only [move, hi, hprogram, proceed, Function.update_self, hlooked, Function.update_idem]

/-- The insertion is what is answered. -/
theorem answered_race {item : Item} {r : ItemRecord} {e : Error}
    (hr : ItemRecord.ofItem item = .ok r) (hc : r.collection = "c")
    (he : ∀ s : Store, s.hasCollection "c" = false → s.insertItem r = (.error e, s)) :
    (after (race item)).answered =
      [(true, ⟨.write (.addCollection (plainCollection "c")), .ok ()⟩),
        (false, ⟨.write (.deleteCollection "c"), .ok ()⟩),
        (true, ⟨.write (.addItem item), .error e⟩)] := by
  let added := (Store.empty.write (.addCollection (plainCollection "c"))).2
  let gone := (added.write (.deleteCollection "c")).2
  have hpresent : added.hasCollection r.collection := by
    rw [hc]
    decide +kernel
  have hinsert : gone.insertItem r = (.error e, gone) := he gone (by decide +kernel)
  let waiting : Bool → Option Call :=
    update (fun _ => none) true (some ⟨.write (.addItem item), .insertItem r, Catalog.inserted r⟩)
  let first : Bool × Answered := (true, ⟨.write (.addCollection (plainCollection "c")), .ok ()⟩)
  let second : Bool × Answered := (false, ⟨.write (.deleteCollection "c"), .ok ()⟩)
  have hadded : (initial.move (.start true first.2.operation)).move (.advance true) =
      ⟨added, fun _ => none, [first]⟩ := move_alone rfl rfl (.call fun _ => ⟨_, rfl⟩)
  have hlooked : (Clients.move ⟨added, fun _ => none, [first]⟩
      (.start true (.write (.addItem item)))).move (.advance true) = ⟨added, waiting, [first]⟩ :=
    move_looked rfl hr hpresent
  have hdeleted : (Clients.move ⟨added, waiting, [first]⟩
      (.start false second.2.operation)).move (.advance false) =
        ⟨gone, waiting, [first, second]⟩ := move_alone rfl rfl (.call fun _ => ⟨_, rfl⟩)
  have hinserted : Clients.move ⟨gone, waiting, [first, second]⟩ (.advance true) =
      ⟨gone, fun _ => none, [first, second, (true, ⟨.write (.addItem item), .error e⟩)]⟩ := by
    have hperform : Call.perform ⟨.write (.addItem item), .insertItem r, Catalog.inserted r⟩ gone =
        (.done (.error e), gone) := by
      show (Program.resume (p := .insertItem r) _ (gone.insertItem r).1,
        (gone.insertItem r).2) = _
      rw [hinsert]
      rfl
    have hwaiting : waiting true =
      some ⟨.write (.addItem item), .insertItem r, Catalog.inserted r⟩ := rfl
    have hcalls : update waiting true none = fun _ => none := by
      simp only [waiting, Function.update_idem, Function.update_eq_self]
    simp only [move, hwaiting, hperform, proceed, hcalls, List.cons_append, List.nil_append]
  simp only [after, race, List.foldl_cons, List.foldl_nil]
  rw [hadded, hlooked, hdeleted, hinserted]

/-- One at a time, the collection is missing when the item is added. -/
theorem answers_race {item : Item} {r : ItemRecord} (hr : ItemRecord.ofItem item = .ok r)
    (hc : r.collection = "c") :
    (Store.empty.answers (comeAndGo ++ [.write (.addItem item)])).map Answered.error? =
      [none, none, some (.notFound (.collection "c"))] := by
  have hmissing : (Store.empty.afterAll comeAndGo).hasCollection "c" = false := by decide +kernel
  have hwrite : (Store.empty.afterAll comeAndGo).write (.addItem item) =
      (.error (.notFound (.collection "c")), Store.empty.afterAll comeAndGo) := by
    rw [Store.write_addItem, hr]
    dsimp only
    rw [hc, hmissing]
    rfl
  have hfirst : (Store.empty.answers comeAndGo).map Answered.error? = [none, none] := by
    decide +kernel
  have hlast : (Store.empty.afterAll comeAndGo).answers [.write (.addItem item)] =
      [⟨.write (.addItem item), .error (.notFound (.collection "c"))⟩] :=
    congrArg (fun answer => [Answered.mk (.write (.addItem item)) answer])
      (congrArg Prod.fst hwrite)
  rw [Store.answers_append, List.map_append, hfirst, hlast]
  rfl

/-- A race is as in the sequential run. -/
theorem sequential_race :
    (after (race (originItem "a" "c"))).answers =
        Store.empty.answers (after (race (originItem "a" "c"))).operations ∧
      (after (race (originItem "a" "c"))).answers.map Answered.error? =
        [none, none, some (.notFound (.collection "c"))] := by
  have hb := Item.bounded_originItem "a" "c"
  obtain ⟨e, hentry, hkey⟩ := Store.exists_entryOf hb ⟨rfl, _, _, rfl, by simp, rfl⟩
  obtain ⟨hc, -⟩ := ItemKey.mk.inj hkey
  have hanswered := answered_race hentry.record hc
    (e := .notFound (.collection "c")) (by
      intro s hs
      rw [Store.insertItem, hentry.read, hc]
      simp only [hs]
      rfl)
  obtain ⟨-, -, hsequential, -⟩ := sequential (race (originItem "a" "c"))
  refine ⟨hsequential ?_, ?_⟩
  · rw [operations, hanswered]
    simp [Operation.Bounded, Write.Bounded, hb]
  · rw [answers, hanswered]
    rfl

/-- A race on an item that no document can hold is not. -/
theorem sequential_race_but_unread :
    (after (race (nestedItem 63 "a" "c"))).answers.map Answered.error? =
        [none, none, some (.internal .geometryText)] ∧
      (Store.empty.answers (after (race (nestedItem 63 "a" "c"))).operations).map Answered.error? =
        [none, none, some (.notFound (.collection "c"))] := by
  have hr := ofItem_nestedItem 63 "a" "c"
  have he := entry_nestedRecord (n := 63) (by decide) "a" "c"
  have hanswered := answered_race hr rfl fun s _ => by rw [Store.insertItem, he]
  rw [answers, operations, hanswered]
  exact ⟨rfl, answers_race hr rfl⟩

end Clients

end SpatialCatalog
