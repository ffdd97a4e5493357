import SpatialCatalog.Sql.Statement
import Mathlib.Data.List.Forall2

/-!
# Plans of one shape

Two plans have one shape when they differ in values only: ids, collections, numbers, texts of
geometries, keys of paths, and the limit. `QueryPlan.SameShape.text_eq` says that the statements of
such plans have one text, so that no value of a plan stands in its statement.
-/

namespace SpatialCatalog

/-! ### Shapes -/

namespace Filter

mutual

/-- The same constructors, with as many parts in the same places. -/
def SameShape : Filter → Filter → Prop
  | all fs, all gs => SameShapes fs gs
  | any fs, any gs => SameShapes fs gs
  | ids _, ids _ => True
  | collections _, collections _ => True
  | envelope _, envelope _ => True
  | intersects _, intersects _ => True
  | _, _ => False

/-- As many filters, of the same shapes one by one. -/
def SameShapes : List Filter → List Filter → Prop
  | [], [] => True
  | f :: fs, g :: gs => f.SameShape g ∧ SameShapes fs gs
  | _, _ => False

end

end Filter

/-- The same column, or a path in both places. -/
def SortField.SameShape : SortField → SortField → Prop
  | column c, column d => c = d
  | path _, path _ => True
  | _, _ => False

/-- The same shape of the field, and the same direction. -/
structure SortKey.SameShape (k l : SortKey) : Prop where
  field : k.field.SameShape l.field
  direction : k.direction = l.direction

/-- Filters of one shape, or none in both places; as many keys, of the same shapes. -/
structure QueryPlan.SameShape (p q : QueryPlan) : Prop where
  filter : Option.Rel Filter.SameShape p.filter q.filter
  sort : List.Forall₂ SortKey.SameShape p.sort q.sort

/-! ### Statements -/

namespace Sql

/-- A part of a statement with its parameters, and another that differs in the values of the
parameters only. -/
structure SameBuild {α : Type} (a b : α × List Parameter) : Prop where
  part : a.1 = b.1
  parameters : a.2.length = b.2.length

namespace Condition

theorem length_floats (b : Bbox) : (b.toList.map Parameter.float).length = 4 := rfl

mutual

/-- A filter of the same shape gives the same condition, with as many parameters. -/
theorem sameBuild_ofFilter : ∀ (f : Filter) {g : Filter} (n : Nat), f.SameShape g →
    SameBuild (ofFilter n f) (ofFilter n g)
  | .all fs, g, n, h => by
    cases g with
    | all gs =>
      have hs := sameBuild_ofFilters fs n h
      exact ⟨congrArg all hs.part, hs.parameters⟩
    | _ => exact h.elim
  | .any fs, g, n, h => by
    cases g with
    | any gs =>
      have hs := sameBuild_ofFilters fs n h
      exact ⟨congrArg any hs.part, hs.parameters⟩
    | _ => exact h.elim
  | .ids _, g, _, h => by
    cases g with
    | ids _ => exact ⟨rfl, rfl⟩
    | _ => exact h.elim
  | .collections _, g, _, h => by
    cases g with
    | collections _ => exact ⟨rfl, rfl⟩
    | _ => exact h.elim
  | .envelope b, g, _, h => by
    cases g with
    | envelope c => exact ⟨rfl, (length_floats b).trans (length_floats c).symm⟩
    | _ => exact h.elim
  | .intersects _, g, _, h => by
    cases g with
    | intersects _ => exact ⟨rfl, rfl⟩
    | _ => exact h.elim

theorem sameBuild_ofFilters : ∀ (fs : List Filter) {gs : List Filter} (n : Nat),
    Filter.SameShapes fs gs → SameBuild (ofFilters n fs) (ofFilters n gs)
  | [], [], _, _ => ⟨rfl, rfl⟩
  | [], _ :: _, _, h => h.elim
  | _ :: _, [], _, h => h.elim
  | f :: fs, g :: gs, n, h => by
    have hhead := sameBuild_ofFilter f n h.1
    -- The rest is numbered after as many parameters in both places.
    have htail := sameBuild_ofFilters fs (n + (ofFilter n f).2.length) h.2
    rw [ofFilters, ofFilters]
    constructor
    · dsimp only
      rw [← hhead.part, ← hhead.parameters, htail.part]
    · dsimp only
      rw [List.length_append, List.length_append, ← hhead.parameters, htail.parameters]

end

theorem sameBuild_ofFilter? {f g : Option Filter} (n : Nat) (h : Option.Rel Filter.SameShape f g) :
    SameBuild (ofFilter? n f) (ofFilter? n g) := by
  cases h with
  | none => exact ⟨rfl, rfl⟩
  | some h =>
    have hs := sameBuild_ofFilter _ n h
    exact ⟨congrArg some hs.part, hs.parameters⟩

end Condition

/-- Keys of the same shapes give the same order, with as many parameters. -/
theorem OrderKey.sameBuild_ofSort {ks ls : List SortKey} (n : Nat)
    (h : List.Forall₂ SortKey.SameShape ks ls) : SameBuild (ofSort n ks) (ofSort n ls) := by
  induction h generalizing n with
  | nil => exact ⟨rfl, rfl⟩
  | @cons k l ks ls hkl _ ih =>
    obtain ⟨field, direction⟩ := k
    obtain ⟨field', direction'⟩ := l
    obtain ⟨hfield, hdirection⟩ := hkl
    dsimp only at hfield hdirection
    subst hdirection
    cases field with
    | column c =>
      cases field' with
      | column d =>
        obtain rfl : c = d := hfield
        exact ⟨congrArg (List.cons (OrderKey.mk (.column c) direction)) (ih n).part,
          (ih n).parameters⟩
      | path _ => exact hfield.elim
    | path keys =>
      cases field' with
      | column _ => exact hfield.elim
      | path _ =>
        exact ⟨congrArg (List.cons (OrderKey.mk (.path (n + 1)) direction)) (ih (n + 1)).part,
          congrArg Nat.succ (ih (n + 1)).parameters⟩

end Sql

/-- Plans of one shape are one statement, with as many parameters. -/
theorem QueryPlan.SameShape.sameBuild {p q : QueryPlan} (h : p.SameShape q) :
    Sql.SameBuild (Sql.Select.ofPlan p) (Sql.Select.ofPlan q) := by
  have hcondition := Sql.Condition.sameBuild_ofFilter? 0 h.filter
  have horder :=
    Sql.OrderKey.sameBuild_ofSort (Sql.Condition.ofFilter? 0 p.filter).2.length h.sort
  rw [Sql.Select.ofPlan, Sql.Select.ofPlan]
  constructor
  · dsimp only
    rw [List.length_append, List.length_append, ← hcondition.part, ← hcondition.parameters,
      horder.part, horder.parameters]
  · dsimp only
    simp only [List.length_append]
    rw [← hcondition.parameters, horder.parameters]
    rfl

/-- **The statements of plans of one shape have one text.** -/
theorem QueryPlan.SameShape.text_eq {p q : QueryPlan} (h : p.SameShape q) :
    (Sql.Statement.query p).text = (Sql.Statement.query q).text :=
  congrArg Sql.Select.text h.sameBuild.part

end SpatialCatalog
