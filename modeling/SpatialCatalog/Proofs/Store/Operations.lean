import SpatialCatalog.Proofs.Store.Consistency

/-!
# Operations and their answers

An `Operation` is a write or one of the calls that only read.

* `Store.operate` runs one operation, `Store.afterAll` is the store after a list of them, and
  `Store.answers` is what they were answered.
* `Store.operate_cases`: an operation has the effect of a write, or it leaves the store as it was.
* `Store.afterAll_eq_after`: what operations leave is what the writes among them leave.
-/

namespace SpatialCatalog

/-- An operation of the catalog. -/
inductive Operation where
  | write (w : Write)
  | collection (id : String)
  | item (id collection : String)
  | items (collection : String) (limit : Option Int)
  | search (s : Search)

namespace Operation

/-- What an operation is answered when it succeeds. -/
def Answer : Operation → Type
  | write _ => Unit
  | collection _ => Option Collection
  | item _ _ => Option Members
  | items _ _ => Page
  | search _ => Page

/-- The program of an operation. -/
def program : (o : Operation) → Program o.Answer
  | write w => w.program
  | collection id => Catalog.collection id
  | item id c => Catalog.item id c
  | items c limit => Catalog.items c limit
  | search s => Catalog.search s

/-- The write that an operation is, if it is one. -/
def write? : Operation → Option Write
  | write w => some w
  | _ => none

theorem write?_eq_some_iff {o : Operation} {w : Write} : o.write? = some w ↔ o = .write w := by
  cases o <;> simp [write?]

end Operation

/-- An operation and its answer. -/
structure Answered where
  operation : Operation
  answer : Result operation.Answer

namespace Store

variable {s : Store}

/-- Run an operation. -/
def operate (s : Store) (o : Operation) : Result o.Answer × Store := run o.program s

/-- The store after operations, one at a time. -/
def afterAll (s : Store) (os : List Operation) : Store := os.foldl (fun s o => (s.operate o).2) s

/-- What operations are answered, one at a time. -/
def answers : Store → List Operation → List Answered
  | _, [] => []
  | s, o :: os => ⟨o, (s.operate o).1⟩ :: answers (s.operate o).2 os

@[simp] theorem afterAll_nil (s : Store) : s.afterAll [] = s := rfl

@[simp] theorem afterAll_cons (s : Store) (o : Operation) (os : List Operation) :
    s.afterAll (o :: os) = (s.operate o).2.afterAll os := rfl

theorem afterAll_append (s : Store) (os os' : List Operation) :
    s.afterAll (os ++ os') = (s.afterAll os).afterAll os' := List.foldl_append

@[simp] theorem answers_nil (s : Store) : s.answers [] = [] := rfl

@[simp] theorem answers_cons (s : Store) (o : Operation) (os : List Operation) :
    s.answers (o :: os) = ⟨o, (s.operate o).1⟩ :: (s.operate o).2.answers os := rfl

theorem answers_append (s : Store) (os os' : List Operation) :
    s.answers (os ++ os') = s.answers os ++ (s.afterAll os).answers os' := by
  induction os generalizing s with
  | nil => rfl
  | cons o os ih => rw [List.cons_append, answers_cons, ih]; rfl

/-! ### What an operation does -/

theorem run_searchThen_snd {α : Type} (s : Store) (search : Search)
    (f : List StoredItem → Int → Result α) : (run (Catalog.searchThen search f) s).2 = s := by
  unfold Catalog.searchThen
  cases search.compile with
  | error e => rfl
  | ok plan =>
    dsimp only
    rw [run_query]
    cases s.query plan <;> rfl

/-- An operation that is no write leaves the store as it was. -/
theorem operate_snd_of_read (s : Store) {o : Operation} (h : o.write? = none) :
    (s.operate o).2 = s := by
  cases o with
  | write w => cases h
  | collection id => rfl
  | item id collection =>
    show (run (Catalog.item id collection) s).2 = s
    exact run_searchThen_snd s _ _
  | search search =>
    show (run (Catalog.search search) s).2 = s
    exact run_searchThen_snd s _ _
  | items collection limit =>
    show (run (Catalog.items collection limit) s).2 = s
    rw [Catalog.items, run, Program.run_map]
    exact run_searchThen_snd s _ _

/-- **An operation has the effect of a write that succeeds, or it changes nothing.** -/
theorem operate_cases (s : Store) (o : Operation) :
    (∃ w s', o = .write w ∧ s.write w = (.ok (), s') ∧ Effect s w s') ∨ (s.operate o).2 = s := by
  cases h : o.write? with
  | none => exact .inr (s.operate_snd_of_read h)
  | some w =>
    obtain rfl := Operation.write?_eq_some_iff.mp h
    rcases s.write_cases w with ⟨s', hwrite, effect⟩ | ⟨e, hwrite⟩
    · exact .inl ⟨w, s', rfl, hwrite, effect⟩
    · exact .inr (congrArg Prod.snd hwrite)

/-- **What operations leave is what the writes among them leave.** -/
theorem afterAll_eq_after (s : Store) (os : List Operation) :
    s.afterAll os = s.after (os.filterMap Operation.write?) := by
  induction os generalizing s with
  | nil => rfl
  | cons o os ih =>
    rw [afterAll_cons, ih]
    cases h : o.write? with
    | none => rw [List.filterMap_cons_none h, s.operate_snd_of_read h]
    | some w =>
      obtain rfl := Operation.write?_eq_some_iff.mp h
      rw [List.filterMap_cons_some h, after_cons]
      rfl

theorem Consistent.afterAll (hs : s.Consistent) (os : List Operation) :
    (s.afterAll os).Consistent := by
  rw [afterAll_eq_after]
  exact hs.after _

end Store

end SpatialCatalog
