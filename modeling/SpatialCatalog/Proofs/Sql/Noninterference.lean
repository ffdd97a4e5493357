import SpatialCatalog.Proofs.Sql.Shape
import SpatialCatalog.Proofs.Store.History
import SpatialCatalog.Proofs.Success
import SpatialCatalog.Sql.Connection

/-!
# What is sent does not depend on values

`Connection.texts` are the texts that were sent to a server. Two calls of one operation send the
same texts for as long as their servers give the same replies: `Program.Alike` relates the programs
of such calls step by step, and `Program.Alike.texts` follows two runs of them, on servers that need
not be the same. The text of a search is that of its plan, which `QueryPlan.SameShape.text_eq` shows
to depend on the shape of the plan only.
-/

namespace SpatialCatalog

open Sql

/-! ### Texts and replies -/

namespace Sql

/-- The text that was sent. -/
def Sent.text : Sent → String
  | batch text => text
  | prepared s => s.text
  | executed s _ => s.text

namespace Connection

variable {σ τ α β : Type}

/-- The texts that were sent, in order. -/
def texts (c : Connection σ) : List String := c.sent.map Sent.text

/-- The replies to the statements of a run, in order. -/
def replies (server : Server σ) : Program α → Connection σ → List Reply
  | .done _, _ => []
  | .call p next, c =>
    let later := match c.perform server p with
      | (.ok value, c') => replies server (next value) c'
      | (.error _, _) => []
    (server.respond c.state (.statement (.ofPrimitive p))).1 :: later

theorem replies_call_ok {server : Server σ} {p : Primitive} {next : p.Reply → Program α}
    {c : Connection σ} {value : p.Reply} (h : (c.perform server p).1 = .ok value) :
    c.replies server (.call p next) =
      (server.respond c.state (.statement (.ofPrimitive p))).1 ::
        (c.perform server p).2.replies server (next value) := by
  rcases hp : c.perform server p with ⟨result, c'⟩
  obtain rfl : result = .ok value := by rw [hp] at h; exact h
  rw [replies, hp]

theorem replies_call_error {server : Server σ} {p : Primitive} {next : p.Reply → Program α}
    {c : Connection σ} {e : Error} (h : (c.perform server p).1 = .error e) :
    c.replies server (.call p next) =
      [(server.respond c.state (.statement (.ofPrimitive p))).1] := by
  rcases hp : c.perform server p with ⟨result, c'⟩
  obtain rfl : result = .error e := by rw [hp] at h; exact h
  rw [replies, hp]

theorem replies_call (server : Server σ) (p : Primitive) (next : p.Reply → Program α)
    (c : Connection σ) : ∃ later, c.replies server (.call p next) =
      (server.respond c.state (.statement (.ofPrimitive p))).1 :: later := by
  rw [replies]
  exact ⟨_, rfl⟩

theorem run_call_ok {server : Server σ} {p : Primitive} (next : p.Reply → Program α)
    {c : Connection σ} {value : p.Reply} (h : (c.perform server p).1 = .ok value) :
    c.run server (.call p next) = (c.perform server p).2.run server (next value) := by
  rcases hp : c.perform server p with ⟨result, c'⟩
  obtain rfl : result = .ok value := by rw [hp] at h; exact h
  rw [run, Program.run, hp, run]

theorem run_call_error {server : Server σ} {p : Primitive} (next : p.Reply → Program α)
    {c : Connection σ} {e : Error} (h : (c.perform server p).1 = .error e) :
    c.run server (.call p next) = (.error e, (c.perform server p).2) := by
  rcases hp : c.perform server p with ⟨result, c'⟩
  obtain rfl : result = .error e := by rw [hp] at h; exact h
  rw [run, Program.run, hp]

/-- Every statement that is exchanged is sent, however far it goes. -/
theorem texts_exchange (server : Server σ) (s : Statement) (c : Connection σ) :
    (c.exchange server s).2.texts = c.texts ++ [s.text] := by
  unfold exchange texts
  grind [Sent.text]

theorem texts_perform (server : Server σ) (p : Primitive) (c : Connection σ) :
    (c.perform server p).2.texts = c.texts ++ [(Statement.ofPrimitive p).text] :=
  texts_exchange server _ c

end Connection

/-- The first replies of two runs agree, as far as both have any. -/
def Agree (rs ts : List Reply) : Prop := ∀ pair ∈ rs.zip ts, pair.1 = pair.2

theorem agree_cons {r t : Reply} {rs ts : List Reply} :
    Agree (r :: rs) (t :: ts) ↔ r = t ∧ Agree rs ts := by
  simp [Agree]

@[simp] theorem agree_nil_left (rs : List Reply) : Agree [] rs := by simp [Agree]

@[simp] theorem agree_nil_right (rs : List Reply) : Agree rs [] := by simp [Agree]

/-- A script gives its first reply, whatever is asked, and goes on with the others. -/
theorem respond_scripted (script : List Reply) (request : Request) :
    Server.scripted.respond script request = (script.headD {}, script.tail) := by
  cases script <;> rfl

namespace Connection

theorem state_perform_scripted (p : Primitive) (c : Connection (List Reply)) :
    (c.perform .scripted p).2.state = c.state.tail := by
  unfold perform exchange
  rw [respond_scripted]
  grind

/-- A script replies to any two programs alike, for as long as both go on. -/
theorem agree_scripted {α β : Type} (x : Program α) (y : Program β)
    {c d : Connection (List Reply)} (h : c.state = d.state) :
    Agree (c.replies .scripted x) (d.replies .scripted y) := by
  induction x generalizing y c d with
  | done => exact agree_nil_left _
  | call p next ih =>
    cases y with
    | done => exact agree_nil_right _
    | call q next' =>
      obtain ⟨rs, hrs⟩ := replies_call .scripted p next c
      obtain ⟨ss, hss⟩ := replies_call .scripted q next' d
      have hreply : (Server.scripted.respond c.state (.statement (.ofPrimitive p))).1 =
          (Server.scripted.respond d.state (.statement (.ofPrimitive q))).1 := by
        rw [respond_scripted, respond_scripted, h]
      cases hp : (c.perform .scripted p).1 with
      | error e =>
        rw [replies_call_error hp, hss]
        exact agree_cons.mpr ⟨hreply, agree_nil_left _⟩
      | ok a =>
        cases hq : (d.perform .scripted q).1 with
        | error e =>
          rw [replies_call_error hq, hrs]
          exact agree_cons.mpr ⟨hreply, agree_nil_right _⟩
        | ok b =>
          rw [replies_call_ok hp, replies_call_ok hq]
          refine agree_cons.mpr ⟨hreply, ih a (next' b) ?_⟩
          rw [state_perform_scripted, state_perform_scripted, h]

end Connection

/-! ### Statements that differ in values -/

/-- Arguments that are given for the same types. -/
structure Argument.SameKind (a b : Argument) : Prop where
  type : a.type = b.type
  accepts : a.accepts = b.accepts

/-- One text, with arguments of the same kinds. -/
structure Statement.SameKind (s t : Statement) : Prop where
  text : s.text = t.text
  arguments : List.Forall₂ Argument.SameKind s.arguments t.arguments

theorem refusedArgument?_eq {as bs : List Argument} (types : List ColumnType)
    (h : List.Forall₂ Argument.SameKind as bs) :
    refusedArgument? types as = refusedArgument? types bs := by
  unfold refusedArgument?
  induction h generalizing types with
  | nil => rfl
  | cons hab _ ih =>
    cases types with
    | nil => rfl
    | cons t types => simp only [List.zip_cons_cons, List.findIdx?_cons, hab.accepts, ih types]

theorem Statement.SameKind.types_eq {s t : Statement} (h : s.SameKind t) : s.types = t.types := by
  unfold Statement.types
  exact List.forall₂_eq_eq_eq ▸ List.rel_map (fun _ _ hab => hab.type) h.arguments

/-- Statements of the same kind fare alike where they get the same reply. -/
theorem Connection.exchange_eq {σ τ : Type} {A : Server σ} {B : Server τ} {s t : Statement}
    {c : Connection σ} {d : Connection τ} (h : s.SameKind t)
    (hreply : (A.respond c.state (.statement s)).1 = (B.respond d.state (.statement t)).1) :
    (c.exchange A s).1 = (d.exchange B t).1 := by
  rcases hA : A.respond c.state (.statement s) with ⟨r, _⟩
  rcases hB : B.respond d.state (.statement t) with ⟨r', _⟩
  obtain rfl : r = r' := by rw [hA, hB] at hreply; exact hreply
  unfold Connection.exchange
  simp only [hA, hB, h.types_eq, h.arguments.length_eq, refusedArgument?_eq _ h.arguments]
  grind

end Sql

/-! ### Calls of one operation -/

namespace Primitive

/-- The same operation, and not a query. -/
inductive SameOperation : Primitive → Primitive → Prop
  | collectionExists (id id' : String) :
      SameOperation (.collectionExists id) (.collectionExists id')
  | insertCollection (id : String) (data : Json) (id' : String) (data' : Json) :
      SameOperation (.insertCollection id data) (.insertCollection id' data')
  | fetchCollection (id id' : String) : SameOperation (.fetchCollection id) (.fetchCollection id')
  | removeCollection (id id' : String) :
      SameOperation (.removeCollection id) (.removeCollection id')
  | insertItem (r r' : ItemRecord) : SameOperation (.insertItem r) (.insertItem r')
  | replaceItem (r r' : ItemRecord) : SameOperation (.replaceItem r) (.replaceItem r')
  | removeItem (id collection id' collection' : String) :
      SameOperation (.removeItem id collection) (.removeItem id' collection')

/-- Ask for a primitive only. -/
def program (p : Primitive) : Program p.Reply := .call p fun reply => .done (.ok reply)

theorem SameOperation.sameKind {p q : Primitive} (h : p.SameOperation q) :
    (Statement.ofPrimitive p).SameKind (.ofPrimitive q) := by
  have text (a b : String) : Argument.SameKind (.text a) (.text b) := ⟨rfl, rfl⟩
  have document (j k : Json) : Argument.SameKind (.document j) (.document k) := ⟨rfl, rfl⟩
  have record (r r' : ItemRecord) : List.Forall₂ Argument.SameKind
      (Statement.recordArguments r) (Statement.recordArguments r') :=
    .cons (text ..) (.cons (text ..) (.cons (document ..) (.cons (text ..) .nil)))
  cases h with
  | collectionExists => exact ⟨rfl, .cons (text ..) .nil⟩
  | insertCollection => exact ⟨rfl, .cons (text ..) (.cons (document ..) .nil)⟩
  | fetchCollection => exact ⟨rfl, .cons (text ..) .nil⟩
  | removeCollection => exact ⟨rfl, .cons (text ..) .nil⟩
  | insertItem => exact ⟨rfl, record ..⟩
  | replaceItem => exact ⟨rfl, record ..⟩
  | removeItem => exact ⟨rfl, .cons (text ..) (.cons (text ..) .nil)⟩

/-- A reply can be read for both of two calls of one primitive, or for neither. -/
theorem SameOperation.isOk_interpret {p q : Primitive} (h : p.SameOperation q) (r : Sql.Reply) :
    (r.interpret p).isOk = (r.interpret q).isOk := by
  cases h <;> rfl

end Primitive

/-- Two calls of one primitive that get one reply fail both, or else it is read for both. -/
theorem Primitive.SameOperation.perform {σ τ : Type} {A : Server σ} {B : Server τ}
    {p q : Primitive} (h : p.SameOperation q) {c : Connection σ} {d : Connection τ}
    (hreply : (A.respond c.state (.statement (.ofPrimitive p))).1 =
      (B.respond d.state (.statement (.ofPrimitive q))).1) :
    (∃ e f, (c.perform A p).1 = .error e ∧ (d.perform B q).1 = .error f) ∨
      ∃ r a b, Reply.interpret r p = .ok a ∧ Reply.interpret r q = .ok b ∧
        (c.perform A p).1 = .ok a ∧ (d.perform B q).1 = .ok b := by
  have hexchange := Connection.exchange_eq h.sameKind hreply
  have hp : (c.perform A p).1 =
    ((c.exchange A (.ofPrimitive p)).1.bind fun r => r.interpret p).mapError .database := rfl
  have hq : (d.perform B q).1 =
    ((d.exchange B (.ofPrimitive q)).1.bind fun r => r.interpret q).mapError .database := rfl
  rw [hp, hq, ← hexchange]
  cases (c.exchange A (.ofPrimitive p)).1 with
  | error e => exact .inl ⟨_, _, rfl, rfl⟩
  | ok r =>
    have hread := h.isOk_interpret r
    cases ha : r.interpret p <;> cases hb : r.interpret q <;> simp only [ha, hb] at hread
    · exact .inl ⟨_, _, by rw [bind_ok rfl, ha]; rfl, by rw [bind_ok rfl, hb]; rfl⟩
    · cases hread
    · cases hread
    · exact .inr ⟨r, _, _, ha, hb, by rw [bind_ok rfl, ha]; rfl, by rw [bind_ok rfl, hb]; rfl⟩

/-- Programs that ask for the same primitives, whatever is replied, up to values. -/
inductive Program.Alike : {α β : Type} → Program α → Program β → Prop
  | done {α β : Type} (x : Result α) (y : Result β) : Alike (.done x) (.done y)
  | call {α β : Type} {p q : Primitive} {next : p.Reply → Program α} {next' : q.Reply → Program β}
      (same : p.SameOperation q)
      (later : ∀ (r : Sql.Reply) (a : p.Reply) (b : q.Reply),
        r.interpret p = .ok a → r.interpret q = .ok b → (next a).Alike (next' b)) :
      Alike (.call p next) (.call q next')

/-- **Alike programs send the same texts where they get the same replies.** -/
theorem Program.Alike.texts {σ τ α β : Type} {x : Program α} {y : Program β} (h : x.Alike y)
    (A : Server σ) (B : Server τ) (c : Connection σ) (d : Connection τ)
    (agree : Agree (c.replies A x) (d.replies B y)) :
    ∃ ts, (c.run A x).2.texts = c.texts ++ ts ∧ (d.run B y).2.texts = d.texts ++ ts := by
  induction h generalizing c d with
  | done => exact ⟨[], by simp [Connection.run, Program.run]⟩
  | @call p q next next' same later ih =>
    obtain ⟨rs, hrs⟩ := Connection.replies_call A p next c
    obtain ⟨ss, hss⟩ := Connection.replies_call B q next' d
    have hreply := (agree_cons.mp (hrs ▸ hss ▸ agree)).1
    have hc := Connection.texts_perform A p c
    have hd := Connection.texts_perform B q d
    rw [← same.sameKind.text] at hd
    obtain ⟨e, f, he, hf⟩ | ⟨r, a, b, hra, hrb, ha, hb⟩ := same.perform hreply
    · rw [Connection.run_call_error next he, Connection.run_call_error next' hf]
      exact ⟨_, hc, hd⟩
    · rw [Connection.replies_call_ok ha, Connection.replies_call_ok hb] at agree
      obtain ⟨ts, hts, hts'⟩ := ih r a b hra hrb _ _ (agree_cons.mp agree).2
      rw [Connection.run_call_ok next ha, Connection.run_call_ok next' hb, hts, hts', hc, hd]
      exact ⟨_ :: ts, List.append_assoc .., List.append_assoc ..⟩

/-- Two calls of one operation that does not search, of the catalog or of its primitives. Items pass
both, or neither does. -/
inductive SameCall : {α β : Type} → Program α → Program β → Prop
  | addCollection (x y : Collection) :
      SameCall (Catalog.addCollection x) (Catalog.addCollection y)
  | collection (id id' : String) : SameCall (Catalog.collection id) (Catalog.collection id')
  | deleteCollection (id id' : String) :
      SameCall (Catalog.deleteCollection id) (Catalog.deleteCollection id')
  | addItem {x y : Item} (valid : (ItemRecord.ofItem x).isOk = (ItemRecord.ofItem y).isOk) :
      SameCall (Catalog.addItem x) (Catalog.addItem y)
  | updateItem {x y : Item} (valid : (ItemRecord.ofItem x).isOk = (ItemRecord.ofItem y).isOk) :
      SameCall (Catalog.updateItem x) (Catalog.updateItem y)
  | deleteItem (id collection id' collection' : String) :
      SameCall (Catalog.deleteItem id collection) (Catalog.deleteItem id' collection')
  | primitive {p q : Primitive} (same : p.SameOperation q) : SameCall p.program q.program

/-- Programs that ask for one primitive are alike, whatever they make of the reply. -/
theorem Program.Alike.once {α β : Type} {p q : Primitive} (same : p.SameOperation q)
    (f : p.Reply → Result α) (g : q.Reply → Result β) :
    Program.Alike (.call p fun r => .done (f r)) (.call q fun r => .done (g r)) :=
  .call same fun _ _ _ _ _ => .done ..

theorem SameCall.alike {α β : Type} {x : Program α} {y : Program β} (h : SameCall x y) :
    x.Alike y := by
  cases h with
  | addCollection => exact .once (.insertCollection ..) _ _
  | collection => exact .once (.fetchCollection ..) _ _
  | deleteCollection => exact .once (.removeCollection ..) _ _
  | @addItem x y valid =>
    unfold Catalog.addItem
    cases hx : ItemRecord.ofItem x <;> cases hy : ItemRecord.ofItem y <;>
      simp only [hx, hy] at valid
    · exact .done ..
    · cases valid
    · cases valid
    · refine .call (.collectionExists ..) fun r a b ha hb => ?_
      -- The reply does not name the collection, so it says the same of both.
      obtain rfl : a = b := Except.ok.inj (ha.symm.trans hb)
      cases a with
      | false => exact .done ..
      | true => exact .once (.insertItem ..) _ _
  | @updateItem x y valid =>
    unfold Catalog.updateItem
    cases hx : ItemRecord.ofItem x <;> cases hy : ItemRecord.ofItem y <;>
      simp only [hx, hy] at valid
    · exact .done ..
    · cases valid
    · cases valid
    · exact .once (.replaceItem ..) _ _
  | deleteItem => exact .once (.removeItem ..) _ _
  | primitive same => exact .once same _ _

/-! ### Searches -/

/-- The text of the plan of a search. There is none where the search is not valid. -/
def Search.texts (s : Search) : List String :=
  match s.compile with
  | .ok plan => [(Statement.query plan).text]
  | .error _ => []

namespace Sql.Connection

variable {σ α : Type} (server : Server σ) (c : Connection σ)

/-- A program that asks for one primitive sends its text, whatever comes of it. -/
theorem texts_run_once (p : Primitive) (f : p.Reply → Result α) :
    (c.run server (.call p fun r => .done (f r))).2.texts =
      c.texts ++ [(Statement.ofPrimitive p).text] := by
  rw [← texts_perform server]
  cases h : (c.perform server p).1 with
  | error e => rw [run_call_error _ h]
  | ok reply => rw [run_call_ok _ h, run, Program.run]

theorem texts_searchThen (s : Search) (f : List StoredItem → Int → Result α) :
    (c.run server (Catalog.searchThen s f)).2.texts = c.texts ++ s.texts := by
  unfold Catalog.searchThen Search.texts
  cases s.compile with
  | error e => exact (List.append_nil _).symm
  | ok plan => exact texts_run_once server c (.query plan) _

end Sql.Connection

/-- **No value that a caller gives is in the text of a statement.** -/
theorem texts_independent :
    (∀ p q : QueryPlan, p.SameShape q → (Statement.query p).text = (Statement.query q).text) ∧
    (∀ (σ τ α β : Type) (A : Server σ) (B : Server τ) (c : Connection σ) (d : Connection τ)
      (x : Program α) (y : Program β), SameCall x y → Agree (c.replies A x) (d.replies B y) →
      ∃ ts, (c.run A x).2.texts = c.texts ++ ts ∧ (d.run B y).2.texts = d.texts ++ ts) ∧
    (∀ (σ : Type) (A : Server σ) (c : Connection σ),
      (c.migrate A).2.texts = c.texts ++ [schema] ∧
      (∀ s, (c.run A (Catalog.search s)).2.texts = c.texts ++ s.texts) ∧
      (∀ collection limit, (c.run A (Catalog.items collection limit)).2.texts =
        c.texts ++ Search.texts { collections := [collection], limit }) ∧
      (∀ id collection, (c.run A (Catalog.item id collection)).2.texts =
        c.texts ++ Search.texts { ids := [id], collections := [collection], limit := some 1 }) ∧
      (∀ plan, (c.run A (Primitive.query plan).program).2.texts =
        c.texts ++ [(Statement.query plan).text])) := by
  refine ⟨fun _ _ h => h.text_eq, ?_, ?_⟩
  · intro σ τ α β A B c d x y h agree
    exact h.alike.texts A B c d agree
  · intro σ A c
    refine ⟨?_, fun s => c.texts_searchThen A s _, fun collection limit => ?_, fun _ _ => ?_,
      fun plan => ?_⟩
    · simp [Connection.migrate, Connection.texts, Sent.text]
    · rw [Catalog.items, Connection.run, Program.run_map]
      exact c.texts_searchThen A _ _
    · exact c.texts_searchThen A _ _
    · exact c.texts_run_once A (.query plan) _

/-- Quotes change nothing, neither in the ids, keys and texts of a plan nor in an item. -/
theorem texts_independent_quotes :
    (Statement.query ⟨some (.all [.ids ["a"], .intersects "\x7b\x7d"]),
      [⟨.path ["b"], .descending⟩], 1⟩).text =
    (Statement.query ⟨some (.all [.ids ["' OR ''='", "--"], .intersects "'"]),
      [⟨.path ["'", "$1"], .descending⟩], 100⟩).text ∧
    ∃ ts,
      (Connection.run .scripted (Catalog.addItem (originItem "a" "c"))
        ⟨[{ rows := [[.null]] }, { affected := 1 }], []⟩).2.texts = [] ++ ts ∧
      (Connection.run .scripted (Catalog.addItem (originItem "'; DROP TABLE items; --" "'"))
        ⟨[{ rows := [[.null]] }, { affected := 1 }], []⟩).2.texts = [] ++ ts := by
  obtain ⟨hplans, hcalls, -⟩ := texts_independent
  refine ⟨hplans _ _ ⟨.some ⟨trivial, trivial, trivial⟩, .cons ⟨trivial, rfl⟩ .nil⟩, ?_⟩
  refine hcalls _ _ _ _ _ _ ⟨_, []⟩ ⟨_, []⟩ _ _ (.addItem ?_) (Connection.agree_scripted _ _ rfl)
  decide +kernel

end SpatialCatalog
