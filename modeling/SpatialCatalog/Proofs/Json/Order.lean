import SpatialCatalog.Json.Order

/-!
# The order of JSON values is an order

Comparisons are put together from parts, of which the first difference counts. `Chains` says how
the comparisons of three values fit together, and it goes through `Ordering.then`: this is how the
order of JSON values is seen to be transitive. Different values may compare as equal, for objects
whose members are in another order and for numbers that are near each other.
-/

namespace SpatialCatalog

/-! ### Comparisons of three values -/

/-- The comparisons of a first with a second, a second with a third and a first with a third value
fit together: two steps that do not go down make one, and it is level when both are. -/
def Chains (o₁ o₂ o₃ : Ordering) : Prop := o₁.isLE → o₂.isLE → o₃ = o₁.then o₂

theorem Chains.isLE {o₁ o₂ o₃ : Ordering} (h : Chains o₁ o₂ o₃) (h₁ : o₁.isLE) (h₂ : o₂.isLE) :
    o₃.isLE := by
  rw [h h₁ h₂]
  cases o₁ <;> cases o₂ <;> simp_all

/-- Parts that only count when what is before them is level. -/
theorem Chains.then {o₁ o₂ o₃ p₁ p₂ p₃ : Ordering} (h : Chains o₁ o₂ o₃)
    (h' : o₁ = .eq → o₂ = .eq → Chains p₁ p₂ p₃) :
    Chains (o₁.then p₁) (o₂.then p₂) (o₃.then p₃) := by
  intro h₁ h₂
  cases o₁ with
  | gt => simp at h₁
  | lt =>
    cases o₂ with
    | gt => simp at h₂
    | _ => rw [h rfl rfl]; rfl
  | eq =>
    cases o₂ with
    | gt => simp at h₂
    | lt => rw [h rfl rfl]; cases p₁ <;> simp_all
    | eq => rw [h rfl rfl]; exact h' rfl rfl h₁ h₂

/-- Seen from the other end. -/
theorem Chains.symm {o₁ o₂ o₃ : Ordering} (h : Chains o₁ o₂ o₃) : Chains o₂ o₁ o₃ := by
  intro h₂ h₁
  rw [h h₁ h₂]
  cases o₁ <;> cases o₂ <;> simp_all

theorem chains_eq : Chains .eq .eq .eq := fun _ _ => rfl

theorem chains_compareOrd {α : Type} [Ord α] [Std.TransOrd α] (a b c : α) :
    Chains (compare a b) (compare b c) (compare a c) := by
  intro h₁ h₂
  cases hab : compare a b with
  | gt => rw [hab] at h₁; cases h₁
  | lt => exact Std.TransCmp.lt_of_lt_of_isLE hab h₂
  | eq => exact Std.TransCmp.congr_left hab

theorem compareOrd_swap {α : Type} [Ord α] [Std.OrientedOrd α] (a b : α) :
    compare b a = (compare a b).swap := Std.OrientedCmp.eq_swap

/-- A comparison that is reversed the other way round, and whose comparisons of three values fit
together, is a total preorder. -/
theorem transCmp_of_chains {α : Type} {cmp : α → α → Ordering}
    (swap : ∀ a b, cmp b a = (cmp a b).swap)
    (chains : ∀ a b c, Chains (cmp a b) (cmp b c) (cmp a c)) : Std.TransCmp cmp where
  eq_swap := swap _ _
  isLE_trans hab hbc := (chains _ _ _).isLE hab hbc

/-- Two values are in order, one way round or the other. -/
theorem isLE_total {α : Type} {cmp : α → α → Ordering} [Std.OrientedCmp cmp] (a b : α) :
    (cmp a b).isLE || (cmp b a).isLE := by
  have hswap : cmp b a = (cmp a b).swap := Std.OrientedCmp.eq_swap
  rw [hswap]
  cases cmp a b <;> rfl

theorem swap_then {o₁ o₂ p₁ p₂ : Ordering} (ho : o₂ = o₁.swap) (hp : p₂ = p₁.swap) :
    o₂.then p₂ = (o₁.then p₁).swap := by
  rw [ho, hp, Ordering.swap_then]

/-! ### Keys -/

theorem compareKeys_swap (a b : String) : compareKeys b a = (compareKeys a b).swap :=
  swap_then (compareOrd_swap _ _) (compareOrd_swap a b)

theorem chains_compareKeys (a b c : String) :
    Chains (compareKeys a b) (compareKeys b c) (compareKeys a c) :=
  (chains_compareOrd _ _ _).then fun _ _ => chains_compareOrd a b c

instance : Std.TransCmp compareKeys := transCmp_of_chains compareKeys_swap chains_compareKeys

namespace Json

/-! ### Values in storage form -/

/-- Compare two values of one kind. -/
def compareAlike : Json → Json → Ordering
  | str a, str b => Ord.compare a b
  | num a, num b => Ord.compare a.units b.units
  | bool a, bool b => Ord.compare a b
  | arr xs, arr ys => (Ord.compare xs.length ys.length).then (compareItems xs ys)
  | obj xs, obj ys => (Ord.compare xs.length ys.length).then (compareMembers xs ys)
  | _, _ => .eq

/-- Values are compared by kind first. -/
theorem compareStored_eq (x y : Json) :
    compareStored x y = (Ord.compare x.rank y.rank).then (compareAlike x y) := by
  cases x <;> cases y <;> rfl

mutual

theorem compareStored_swap : ∀ x y : Json, compareStored y x = (compareStored x y).swap := by
  intro x y
  rw [compareStored_eq, compareStored_eq]
  refine swap_then (compareOrd_swap _ _) ?_
  cases x with
  | null => cases y <;> rfl
  | str a =>
    cases y with
    | str b => exact compareOrd_swap a b
    | _ => rfl
  | num a =>
    cases y with
    | num b => exact compareOrd_swap a.units b.units
    | _ => rfl
  | bool a =>
    cases y with
    | bool b => exact compareOrd_swap a b
    | _ => rfl
  | arr xs =>
    cases y with
    | arr ys => exact swap_then (compareOrd_swap _ _) (compareItems_swap xs ys)
    | _ => rfl
  | obj xs =>
    cases y with
    | obj ys => exact swap_then (compareOrd_swap _ _) (compareMembers_swap xs ys)
    | _ => rfl

theorem compareItems_swap : ∀ xs ys : List Json, compareItems ys xs = (compareItems xs ys).swap
  | [], [] => rfl
  | [], _ :: _ => rfl
  | _ :: _, [] => rfl
  | x :: xs, y :: ys => swap_then (compareStored_swap x y) (compareItems_swap xs ys)

theorem compareMembers_swap : ∀ xs ys : List (String × Json),
    compareMembers ys xs = (compareMembers xs ys).swap
  | [], [] => rfl
  | [], _ :: _ => rfl
  | _ :: _, [] => rfl
  | (k, x) :: xs, (l, y) :: ys =>
    swap_then (swap_then (compareKeys_swap k l) (compareStored_swap x y))
      (compareMembers_swap xs ys)

end

mutual

theorem chains_compareStored : ∀ x y z : Json,
    Chains (compareStored x y) (compareStored y z) (compareStored x z) := by
  intro x y z
  rw [compareStored_eq, compareStored_eq, compareStored_eq]
  refine (chains_compareOrd _ _ _).then fun hxy hyz => ?_
  -- The three values are of one kind.
  rw [Nat.compare_eq_eq] at hxy hyz
  cases x with
  | null =>
    cases y with
    | null =>
      cases z with
      | null => exact chains_eq
      | _ => cases hyz
    | _ => cases hxy
  | str a =>
    cases y with
    | str b =>
      cases z with
      | str c => exact chains_compareOrd a b c
      | _ => cases hyz
    | _ => cases hxy
  | num a =>
    cases y with
    | num b =>
      cases z with
      | num c => exact chains_compareOrd a.units b.units c.units
      | _ => cases hyz
    | _ => cases hxy
  | bool a =>
    cases y with
    | bool b =>
      cases z with
      | bool c => exact chains_compareOrd a b c
      | _ => cases hyz
    | _ => cases hxy
  | arr xs =>
    cases y with
    | arr ys =>
      cases z with
      | arr zs =>
        refine (chains_compareOrd _ _ _).then fun hl hl' => ?_
        rw [Nat.compare_eq_eq] at hl hl'
        exact chains_compareItems xs ys zs hl hl'
      | _ => cases hyz
    | _ => cases hxy
  | obj xs =>
    cases y with
    | obj ys =>
      cases z with
      | obj zs =>
        refine (chains_compareOrd _ _ _).then fun hl hl' => ?_
        rw [Nat.compare_eq_eq] at hl hl'
        exact chains_compareMembers xs ys zs hl hl'
      | _ => cases hyz
    | _ => cases hxy

/-- Lists of one length. -/
theorem chains_compareItems : ∀ xs ys zs : List Json, xs.length = ys.length →
    ys.length = zs.length → Chains (compareItems xs ys) (compareItems ys zs) (compareItems xs zs)
  | [], [], [], _, _ => chains_eq
  | x :: xs, y :: ys, z :: zs, h, h' =>
    (chains_compareStored x y z).then fun _ _ =>
      chains_compareItems xs ys zs (Nat.succ.inj h) (Nat.succ.inj h')

theorem chains_compareMembers : ∀ xs ys zs : List (String × Json), xs.length = ys.length →
    ys.length = zs.length →
      Chains (compareMembers xs ys) (compareMembers ys zs) (compareMembers xs zs)
  | [], [], [], _, _ => chains_eq
  | (k, x) :: xs, (l, y) :: ys, (m, z) :: zs, h, h' =>
    ((chains_compareKeys k l m).then fun _ _ => chains_compareStored x y z).then fun _ _ =>
      chains_compareMembers xs ys zs (Nat.succ.inj h) (Nat.succ.inj h')

end

/-! ### Values -/

theorem compare_swap (a b : Json) : b.compare a = (a.compare b).swap := compareStored_swap _ _

theorem chains_compare (a b c : Json) : Chains (a.compare b) (b.compare c) (a.compare c) :=
  chains_compareStored _ _ _

instance : Std.TransCmp Json.compare := transCmp_of_chains compare_swap chains_compare

theorem compareTop_swap (a b : Json) : b.compareTop a = (a.compareTop b).swap := by
  unfold compareTop
  rw [compare_swap a b]
  cases a.isEmptyArray <;> cases b.isEmptyArray <;> rfl

theorem chains_compareTop (a b c : Json) :
    Chains (a.compareTop b) (b.compareTop c) (a.compareTop c) := by
  unfold compareTop
  have h := chains_compare a b c
  cases a.isEmptyArray <;> cases b.isEmptyArray <;> cases c.isEmptyArray <;>
    simp_all [Chains]

instance : Std.TransCmp compareTop := transCmp_of_chains compareTop_swap chains_compareTop

end Json

end SpatialCatalog
