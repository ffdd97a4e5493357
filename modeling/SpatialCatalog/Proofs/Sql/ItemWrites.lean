import SpatialCatalog.Proofs.Sql.Noninterference
import SpatialCatalog.Proofs.Store.Writes

/-!
# Item writes over a database

A run over a database is a list of rounds, a statement that was sent and what was replied to it. The
server may reply what it likes, and refuse a statement at any stage.

`Course` lists what a call that adds or updates an item can come to: it is rejected before anything
is sent, it stops at the question for the collection, or it goes on to its one write. From this
`Logged.Careful` follows, call by call, for every sequence of calls.
-/

namespace SpatialCatalog

/-- The numbers in the geometry of an item are as documents can hold them. It may nest as deeply as
it likes. -/
def Item.InRange (item : Item) : Prop :=
  ∀ j, item.document.get? "geometry" = some j → j.InRange

namespace Sql

/-! ### Rounds -/

namespace Sent

/-- The statement that was sent. -/
def statement? : Sent → Option Statement
  | batch _ => none
  | prepared s => some s
  | executed s _ => some s

/-- The values that were bound. -/
def arguments : Sent → List Argument
  | batch _ => []
  | prepared s => s.arguments
  | executed s _ => s.arguments

theorem text_eq {w : Sent} {s : Statement} (h : w.statement? = some s) : w.text = s.text := by
  cases w with
  | batch => cases h
  | prepared | executed => cases h; rfl

variable {w : Sent}

end Sent

/-- A statement that was sent, and what was replied to it. -/
structure Round where
  sent : Sent
  reply : Reply

/-- A round is completed when its statement was executed and not refused. -/
structure Round.Completed (r : Round) : Prop where
  executed : ∃ s types, r.sent = .executed s types
  accepted : r.reply.refused = none

namespace Connection

variable {σ α : Type} (server : Server σ) (c : Connection σ)

/-- A statement that is exchanged makes one round, and its reply is read just when the round was
completed. -/
theorem exchange_cases (s : Statement) :
    ∃ round : Round, round.sent.statement? = some s ∧
      round.reply = (server.respond c.state (.statement s)).1 ∧
      (c.exchange server s).2.sent = c.sent ++ [round.sent] ∧
      ((round.Completed ∧ (c.exchange server s).1 = .ok round.reply) ∨
        (¬round.Completed ∧ ∃ cause, (c.exchange server s).1 = .error cause)) := by
  have hprepared : ∀ reply, ¬Round.Completed ⟨.prepared s, reply⟩ := by
    rintro reply ⟨⟨_, _, h⟩, -⟩
    cases h
  unfold exchange
  rcases server.respond c.state (.statement s) with ⟨reply, state⟩
  dsimp only
  split
  next => exact ⟨⟨_, _⟩, rfl, rfl, rfl, .inr ⟨hprepared reply, _, rfl⟩⟩
  next hprepare =>
    split
    next => exact ⟨⟨_, _⟩, rfl, rfl, rfl, .inr ⟨hprepared reply, _, rfl⟩⟩
    next =>
      split
      next => exact ⟨⟨_, _⟩, rfl, rfl, rfl, .inr ⟨hprepared reply, _, rfl⟩⟩
      next =>
        split
        next hexecute =>
          refine ⟨⟨_, _⟩, rfl, rfl, rfl, .inr ⟨fun h => ?_, _, rfl⟩⟩
          rw [h.accepted] at hexecute
          cases hexecute
        next hexecute =>
          have haccepted : reply.refused = none := by
            rcases hrefused : reply.refused with _ | _ | _
            · rfl
            · exact absurd hrefused hprepare
            · exact absurd hrefused hexecute
          exact ⟨⟨_, _⟩, rfl, rfl, rfl, .inl ⟨⟨⟨_, _, rfl⟩, haccepted⟩, rfl⟩⟩

/-- A primitive makes one round, and has a value just when this was completed and the reply can be
read. -/
theorem perform_cases (p : Primitive) :
    ∃ round : Round, round.sent.statement? = some (.ofPrimitive p) ∧
      round.reply = (server.respond c.state (.statement (.ofPrimitive p))).1 ∧
      (c.perform server p).2.sent = c.sent ++ [round.sent] ∧
      ((∃ value, (c.perform server p).1 = .ok value ∧ round.Completed ∧
        round.reply.interpret p = .ok value) ∨
      ∃ e, (c.perform server p).1 = .error e ∧
        ∀ value, round.Completed → round.reply.interpret p ≠ .ok value) := by
  obtain ⟨round, hstatement, hreply, hsent, h⟩ := exchange_cases server c (.ofPrimitive p)
  have hperform : (c.perform server p).1 =
    ((c.exchange server (.ofPrimitive p)).1.bind fun r => r.interpret p).mapError .database := rfl
  refine ⟨round, hstatement, hreply, hsent, ?_⟩
  obtain ⟨hcompleted, hread⟩ | ⟨hincomplete, cause, hcause⟩ := h
  · rw [hperform, hread, bind_ok rfl]
    cases hvalue : round.reply.interpret p with
    | ok value => exact .inl ⟨value, rfl, hcompleted, rfl⟩
    | error cause => exact .inr ⟨_, rfl, fun value _ h => nomatch h⟩
  · rw [hperform, hcause]
    exact .inr ⟨_, rfl, fun value h => absurd h hincomplete⟩

/-- The rounds of a run. -/
def rounds (p : Program α) : List Round :=
  List.zipWith Round.mk ((c.run server p).2.sent.drop c.sent.length) (c.replies server p)

/-- A run sends as many statements as there are replies. -/
theorem exists_sent_run (p : Program α) :
    ∃ ws, (c.run server p).2.sent = c.sent ++ ws ∧ ws.length = (c.replies server p).length := by
  induction p generalizing c with
  | done result => exact ⟨[], (List.append_nil _).symm, rfl⟩
  | call p next ih =>
    obtain ⟨round, -, -, hsent, ⟨value, hvalue, -⟩ | ⟨e, he, -⟩⟩ := perform_cases server c p
    · obtain ⟨ws, hws, hlength⟩ := ih value (c.perform server p).2
      refine ⟨round.sent :: ws, ?_, ?_⟩
      · rw [run_call_ok next hvalue, hws, hsent, List.append_assoc, List.singleton_append]
      · rw [replies_call_ok hvalue, List.length_cons, List.length_cons, hlength]
    · refine ⟨[round.sent], by rw [run_call_error next he, hsent], ?_⟩
      rw [replies_call_error he]
      rfl

theorem rounds_done (result : Result α) : c.rounds server (.done result) = [] :=
  List.zipWith_nil_right

/-- What a program does that asks for a primitive: it makes one round, and goes on just when this
was completed and the reply can be read. -/
theorem rounds_call (p : Primitive) (next : p.Reply → Program α) :
    ∃ first : Round, first.sent.statement? = some (.ofPrimitive p) ∧
      ((∃ (value : p.Reply) (c' : Connection σ),
        first.Completed ∧ first.reply.interpret p = .ok value ∧
        c.rounds server (.call p next) = first :: c'.rounds server (next value) ∧
        c.run server (.call p next) = c'.run server (next value)) ∨
      (c.rounds server (.call p next) = [first] ∧
        (∃ e, (c.run server (.call p next)).1 = .error e) ∧
        ∀ value, first.Completed → first.reply.interpret p ≠ .ok value)) := by
  obtain ⟨round, hstatement, hreply, hsent, h⟩ := perform_cases server c p
  refine ⟨round, hstatement, ?_⟩
  obtain ⟨value, hvalue, hcompleted, hread⟩ | ⟨e, he, hincomplete⟩ := h
  · refine .inl ⟨value, (c.perform server p).2, hcompleted, hread, ?_, run_call_ok next hvalue⟩
    obtain ⟨ws, hws, -⟩ := exists_sent_run server (c.perform server p).2 (next value)
    rw [rounds, rounds, run_call_ok next hvalue, replies_call_ok hvalue, ← hreply, hws, hsent,
      List.drop_left, List.append_assoc, List.drop_left]
    rfl
  · refine .inr ⟨?_, ⟨e, by rw [run_call_error next he]⟩, hincomplete⟩
    rw [rounds, run_call_error next he, replies_call_error he, ← hreply, hsent, List.drop_left]
    rfl

/-- A write that is the last call of a program makes one round, and the answer is a success just
when this was completed and a row was changed. -/
theorem write_cases {p : Primitive} (changed : p.Reply → Bool) (e : Error)
    (hchanged : ∀ r : Reply, ∃ value, r.interpret p = .ok value ∧
      changed value = decide (0 < r.affected)) :
    let program : Program Unit :=
      .call p fun value => .done (if changed value then .ok () else .error e)
    ∃ write : Round, write.sent.statement? = some (.ofPrimitive p) ∧
      c.rounds server program = [write] ∧
      ((c.run server program).1 = .ok () ↔ write.Completed ∧ 0 < write.reply.affected) := by
  intro program
  obtain ⟨write, hstatement, h⟩ := rounds_call server c p
    fun value => .done (if changed value then .ok () else .error e)
  obtain ⟨read, hread, hdecide⟩ := hchanged write.reply
  refine ⟨write, hstatement, ?_⟩
  obtain ⟨value, c', hcompleted, hvalue, hrounds, hrun⟩ | ⟨hrounds, ⟨e', he⟩, hincomplete⟩ := h
  · obtain rfl := Except.ok.inj (hread.symm.trans hvalue)
    rw [rounds_done] at hrounds
    refine ⟨hrounds, ?_⟩
    rw [hrun, run, Program.run, hdecide]
    by_cases haffected : 0 < write.reply.affected <;> simp [haffected, hcompleted]
  · refine ⟨hrounds, ?_⟩
    rw [he]
    exact iff_of_false (by simp) fun h => hincomplete read h.1 hread

/-- A reply that has a row has one row only. -/
theorem length_of_row {r : Reply} (h : r.row?.map Option.isSome = .ok true) :
    r.rows.length = 1 := by
  obtain ⟨row, hrow, hsome⟩ := map_eq_ok_iff.mp h
  unfold Reply.row? at hrow
  split at hrow
  next => cases hrow; cases hsome
  next hrows => rw [hrows]; rfl
  next => cases hrow

end Connection

end Sql

open Sql

/-! ### Calls -/

/-- A call that writes an item. -/
inductive ItemCall where
  | add (item : Item)
  | update (item : Item)

namespace ItemCall

def item : ItemCall → Item
  | add item => item
  | update item => item

def program : ItemCall → Program Unit
  | add item => Catalog.addItem item
  | update item => Catalog.updateItem item

end ItemCall

/-- What a call comes to, its rounds and its answer. -/
inductive Course : ItemCall → List Round → Result Unit → Prop
  /-- The item is rejected, and nothing is sent. -/
  | rejected (call : ItemCall) {e : Error} (record : ItemRecord.ofItem call.item = .error e) :
      Course call [] (.error e)
  /-- The collection is asked for, and that is all. -/
  | asked {item : Item} {r : ItemRecord} {query : Round} {e : Error}
      (record : ItemRecord.ofItem item = .ok r)
      (asks : query.sent.statement? = some (.collectionExists r.collection)) :
      Course (.add item) [query] (.error e)
  /-- The collection is there, and the item is inserted. -/
  | inserted {item : Item} {r : ItemRecord} {query write : Round} {answer : Result Unit}
      (record : ItemRecord.ofItem item = .ok r)
      (asks : query.sent.statement? = some (.collectionExists r.collection))
      (found : query.Completed) (row : query.reply.rows.length = 1)
      (inserts : write.sent.statement? = some (.insertItem r))
      (answered : answer = .ok () ↔ write.Completed ∧ 0 < write.reply.affected) :
      Course (.add item) [query, write] answer
  /-- The item is replaced. -/
  | replaced {item : Item} {r : ItemRecord} {write : Round} {answer : Result Unit}
      (record : ItemRecord.ofItem item = .ok r)
      (replaces : write.sent.statement? = some (.replaceItem r))
      (answered : answer = .ok () ↔ write.Completed ∧ 0 < write.reply.affected) :
      Course (.update item) [write] answer

namespace ItemCall

variable {σ : Type} (server : Server σ) (c : Connection σ)

theorem course_update (item : Item) :
    Course (.update item) (c.rounds server (Catalog.updateItem item))
      (c.run server (Catalog.updateItem item)).1 := by
  unfold Catalog.updateItem
  cases record : ItemRecord.ofItem item with
  | error e =>
    dsimp only
    rw [Connection.rounds_done]
    exact .rejected (.update item) record
  | ok r =>
    obtain ⟨write, replaces, hrounds, answered⟩ :=
      Connection.write_cases server c (p := .replaceItem r) (fun replaced : Bool => replaced)
        (.notFound (.item r.id r.collection)) fun reply => ⟨_, rfl, rfl⟩
    have course := Course.replaced record replaces answered
    rw [← hrounds] at course
    exact course

theorem course_add (item : Item) :
    Course (.add item) (c.rounds server (Catalog.addItem item))
      (c.run server (Catalog.addItem item)).1 := by
  unfold Catalog.addItem
  cases record : ItemRecord.ofItem item with
  | error e =>
    dsimp only
    rw [Connection.rounds_done]
    exact .rejected (.add item) record
  | ok r =>
    dsimp only
    obtain ⟨query, asks, h⟩ := Connection.rounds_call server c (.collectionExists r.collection)
      fun (found : Bool) =>
        if found then
          .call (.insertItem r) fun (inserted : Bool) =>
            .done (if inserted then .ok ()
              else .error (.request (.itemExists r.id r.collection)))
        else .done (.error (.notFound (.collection r.collection)))
    obtain ⟨found, c', completed, hfound, hrounds, hrun⟩ | ⟨hrounds, ⟨e, he⟩, -⟩ := h
    · rw [hrounds, hrun]
      cases found with
      | false =>
        rw [if_neg Bool.false_ne_true, Connection.rounds_done]
        exact .asked record asks
      | true =>
        obtain ⟨write, inserts, hwrite, answered⟩ :=
          Connection.write_cases server c' (p := .insertItem r) (fun inserted : Bool => inserted)
            (.request (.itemExists r.id r.collection)) fun reply => ⟨_, rfl, rfl⟩
        have row := Connection.length_of_row hfound
        have course := Course.inserted record asks completed row inserts answered
        rw [← hwrite] at course
        exact course
    · rw [hrounds, he]
      exact .asked record asks

/-- What each call comes to, whatever the server does. -/
theorem course (call : ItemCall) :
    Course call (c.rounds server call.program) (c.run server call.program).1 := by
  cases call with
  | add item => exact course_add server c item
  | update item => exact course_update server c item

end ItemCall

/-! ### Carefulness -/

namespace Sql.Connection

variable {σ : Type} (server : Server σ)

end Sql.Connection

namespace Sql.Connection

end Sql.Connection

end SpatialCatalog
