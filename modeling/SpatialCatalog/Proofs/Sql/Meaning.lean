import SpatialCatalog.Proofs.Sql.Evaluation
import SpatialCatalog.Proofs.Sql.Reading
import SpatialCatalog.Proofs.Store.Consistency
import SpatialCatalog.Store.Query

/-!
# Statements find what the store finds

A filter is evaluated in two ways: the store reads its geometries and evaluates it item by item, and
a database evaluates the condition of the statement that it is written as. Both find the same items,
provided that the database knows geometries as the store does (`PostGis.Faithful`), that the texts
of the filter can be read, and that its boxes are made of numbers.

What carries the proof is `Evaluates`: an expression is a truth value, which is true just where it
should be. Junctions of expressions evaluate to the junctions of what they should be.
-/

namespace SpatialCatalog

/-! ### Operands of filters -/

namespace Filter

mutual

/-- The texts of geometries in a filter. -/
def texts : Filter → List String
  | all fs => textsOfAll fs
  | any fs => textsOfAll fs
  | intersects text => [text]
  | _ => []

def textsOfAll : List Filter → List String
  | [] => []
  | f :: fs => f.texts ++ textsOfAll fs

end

mutual

/-- The boxes in a filter. -/
def boxes : Filter → List Bbox
  | all fs => boxesOfAll fs
  | any fs => boxesOfAll fs
  | envelope box => [box]
  | _ => []

def boxesOfAll : List Filter → List Bbox
  | [] => []
  | f :: fs => f.boxes ++ boxesOfAll fs

end

/-- The texts of a filter can be read, and its boxes are made of numbers. -/
structure WellFormed (f : Filter) : Prop where
  texts : ∀ text ∈ f.texts, ∃ shape, Planar.Shape.parse text = .ok shape
  boxes : ∀ box ∈ f.boxes, ∀ x ∈ box.toList, ∀ negative, x ≠ .nan negative

mutual

/-- A filter whose texts can be read can be read. -/
theorem exists_ofFilter : ∀ f : Filter,
    (∀ text ∈ f.texts, ∃ shape, Planar.Shape.parse text = .ok shape) →
      ∃ c, Store.Condition.ofFilter f = .ok c
  | all fs, h => by
    obtain ⟨cs, hcs⟩ := exists_ofFilters fs h
    exact ⟨.all cs, by rw [Store.Condition.ofFilter, hcs]; rfl⟩
  | any fs, h => by
    obtain ⟨cs, hcs⟩ := exists_ofFilters fs h
    exact ⟨.any cs, by rw [Store.Condition.ofFilter, hcs]; rfl⟩
  | ids _, _ => ⟨_, rfl⟩
  | collections _, _ => ⟨_, rfl⟩
  | envelope _, _ => ⟨_, rfl⟩
  | intersects text, h => by
    obtain ⟨shape, hshape⟩ := h text (by simp [texts])
    exact ⟨.intersects shape, by rw [Store.Condition.ofFilter, hshape]; rfl⟩

theorem exists_ofFilters : ∀ fs : List Filter,
    (∀ text ∈ textsOfAll fs, ∃ shape, Planar.Shape.parse text = .ok shape) →
      ∃ cs, Store.Condition.ofFilters fs = .ok cs
  | [], _ => ⟨[], rfl⟩
  | f :: fs, h => by
    obtain ⟨hf, hfs⟩ := List.forall_mem_append.mp h
    obtain ⟨c, hc⟩ := exists_ofFilter f hf
    obtain ⟨cs, hcs⟩ := exists_ofFilters fs hfs
    exact ⟨c :: cs, by rw [Store.Condition.ofFilters, hc, hcs]; rfl⟩

end

end Filter

namespace Store.Condition

theorem holdAll_eq (cs : List Condition) (e : Entry) :
    holdAll cs e = (cs.map (·.holds e)).all id := by
  induction cs with
  | nil => rfl
  | cons c cs ih => rw [holdAll, ih]; rfl

theorem holdAny_eq (cs : List Condition) (e : Entry) :
    holdAny cs e = (cs.map (·.holds e)).any id := by
  induction cs with
  | nil => rfl
  | cons c cs ih => rw [holdAny, ih]; rfl

end Store.Condition

namespace Sql

/-! ### Numbers -/

/-- Where neither is not a number, the order of the database is that of the store. -/
theorem floatLe_eq_le {x y : Double} (hy : ∀ negative, y ≠ .nan negative) :
    floatLe x y = x.le y := by
  cases y with
  | nan negative => exact absurd rfl (hy negative)
  | _ => rfl

/-! ### Parameters -/

/-- Of some parameters, those from the number `n` on begin with `ps`. -/
def Binds (parameters : List Parameter) (n : Nat) (ps : List Parameter) : Prop :=
  ps <+: parameters.drop n

theorem Binds.append {parameters ps qs : List Parameter} {n : Nat}
    (h : Binds parameters n (ps ++ qs)) :
    Binds parameters n ps ∧ Binds parameters (n + ps.length) qs := by
  obtain ⟨rest, hrest⟩ := h
  rw [List.append_assoc] at hrest
  refine ⟨⟨_, hrest⟩, rest, ?_⟩
  rw [← List.drop_drop, ← hrest, List.drop_left]

theorem Binds.head {parameters ps : List Parameter} {p : Parameter} {n : Nat}
    (h : Binds parameters n (p :: ps)) : parameters[n]? = some p := by
  obtain ⟨rest, hrest⟩ := h
  rw [← List.head?_drop, ← hrest]
  rfl

theorem Binds.tail {parameters ps : List Parameter} {p : Parameter} {n : Nat}
    (h : Binds parameters n (p :: ps)) : Binds parameters (n + 1) ps :=
  (Binds.append (show Binds parameters n ([p] ++ ps) from h)).2

/-! ### Truth -/

section

variable {G : Type} {db : PostGis G} {row : Row G} {parameters : List Parameter}

/-- An expression is a truth value, which is true just where `b` is. -/
def Evaluates (db : PostGis G) (row : Row G) (parameters : List Parameter) (e : Expr) (b : Bool) :
    Prop :=
  ∃ truth : Option Bool, e.eval db row parameters = some (.bool truth) ∧ truth.getD false = b

theorem Evaluates.and {e e' : Expr} {b b' : Bool} (h : Evaluates db row parameters e b)
    (h' : Evaluates db row parameters e' b') :
    Evaluates db row parameters (.and e e') (b && b') := by
  obtain ⟨t, ht, rfl⟩ := h
  obtain ⟨t', ht', rfl⟩ := h'
  refine ⟨kleeneAnd t t', by rw [Expr.eval, ht, ht']; rfl, ?_⟩
  rcases t with _ | _ | _ <;> rcases t' with _ | _ | _ <;> rfl

theorem Evaluates.or {e e' : Expr} {b b' : Bool} (h : Evaluates db row parameters e b)
    (h' : Evaluates db row parameters e' b') :
    Evaluates db row parameters (.or e e') (b || b') := by
  obtain ⟨t, ht, rfl⟩ := h
  obtain ⟨t', ht', rfl⟩ := h'
  refine ⟨kleeneOr t t', by rw [Expr.eval, ht, ht']; rfl, ?_⟩
  rcases t with _ | _ | _ <;> rcases t' with _ | _ | _ <;> rfl

theorem Evaluates.foldl_and {es : List Expr} {bs : List Bool}
    (hs : List.Forall₂ (Evaluates db row parameters) es bs) {e : Expr} {b : Bool}
    (h : Evaluates db row parameters e b) :
    Evaluates db row parameters (es.foldl .and e) (b && bs.all id) := by
  induction hs generalizing e b with
  | nil => simpa using h
  | cons h' _ ih => simpa [Bool.and_assoc] using ih (h.and h')

theorem Evaluates.foldl_or {es : List Expr} {bs : List Bool}
    (hs : List.Forall₂ (Evaluates db row parameters) es bs) {e : Expr} {b : Bool}
    (h : Evaluates db row parameters e b) :
    Evaluates db row parameters (es.foldl .or e) (b || bs.any id) := by
  induction hs generalizing e b with
  | nil => simpa using h
  | cons h' _ ih => simpa [Bool.or_assoc] using ih (h.or h')

theorem evaluates_all {cs : List Condition} {bs : List Bool}
    (h : List.Forall₂ (Evaluates db row parameters) (Condition.exprs cs) bs) :
    Evaluates db row parameters (Condition.all cs).expr (bs.all id) := by
  cases cs with
  | nil =>
    cases h
    exact ⟨some true, rfl, rfl⟩
  | cons c cs =>
    cases h with
    | cons hc hcs => exact hc.foldl_and hcs

theorem evaluates_any {cs : List Condition} {bs : List Bool}
    (h : List.Forall₂ (Evaluates db row parameters) (Condition.exprs cs) bs) :
    Evaluates db row parameters (Condition.any cs).expr (bs.any id) := by
  cases cs with
  | nil =>
    cases h
    exact ⟨some false, rfl, rfl⟩
  | cons c cs =>
    cases h with
    | cons hc hcs => exact hc.foldl_or hcs

/-! ### Conditions -/

/-- A row is that of an entry. -/
structure Row.Represents (db : PostGis G) (row : Row G) (e : Entry) : Prop where
  id_eq : row.id = e.record.id
  collection_eq : row.collection = e.record.collection
  shows : db.Shows row.geometry e.shape

theorem evaluates_oneOf {column : Column} {value : String}
    (hcolumn : row.column? column.name = some (.text value)) {n : Nat} {values : List String}
    (hvalues : parameters[n]? = some (.textArray values)) :
    Evaluates db row parameters (Condition.oneOf column (n + 1)).expr (values.contains value) := by
  refine ⟨some (values.contains value), ?_, rfl⟩
  simp only [Condition.expr, Expr.eval, hcolumn, hvalues, Option.bind_some, Option.map_some]
  rfl

/-- A comparison of a number of the box around the geometry of a row; null where there is no box. -/
theorem evaluates_bound {function : String} {bound : Option Double} {op : Comparator}
    (hbound : db.call? function [.geometry row.geometry] = some (.float bound)) {n : Nat}
    {y : Double} (hy : parameters[n]? = some (.float y)) :
    Evaluates db row parameters (.compare op (Condition.bound function) (.parameter (n + 1)))
      (bound.any (op.ofFloats · y)) := by
  refine ⟨bound.map (op.ofFloats · y), ?_, by cases bound <;> rfl⟩
  have hcolumn : Expr.evalAll db row parameters [.column "geometry"] =
      some [.geometry row.geometry] := rfl
  simp only [Condition.bound, Expr.eval, hcolumn, hbound, hy, Option.bind_some, Option.map_some]
  cases bound <;> rfl

theorem evaluates_envelope (hdb : db.Faithful) {e : Entry} (hrow : row.Represents db e) {n : Nat}
    {box : Bbox} (hbox : ∀ x ∈ box.toList, ∀ negative, x ≠ .nan negative)
    (hbinds : Binds parameters n (box.toList.map .float)) :
    Evaluates db row parameters (Condition.envelope (n + 1) (n + 2) (n + 3) (n + 4)).expr
      (e.shape.box?.any fun b => box.meets b.toBbox) := by
  have hXMin : Evaluates db row parameters
      (.compare .atMost (Condition.bound "st_xmin") (.parameter (n + 3)))
      ((db.xMin row.geometry).any (floatLe · box.maxX)) := evaluates_bound rfl hbinds.tail.tail.head
  have hXMax : Evaluates db row parameters
      (.compare .atLeast (Condition.bound "st_xmax") (.parameter (n + 1)))
      ((db.xMax row.geometry).any (floatLe box.minX ·)) := evaluates_bound rfl hbinds.head
  have hYMin : Evaluates db row parameters
      (.compare .atMost (Condition.bound "st_ymin") (.parameter (n + 4)))
      ((db.yMin row.geometry).any (floatLe · box.maxY)) :=
    evaluates_bound rfl hbinds.tail.tail.tail.head
  have hYMax : Evaluates db row parameters
      (.compare .atLeast (Condition.bound "st_ymax") (.parameter (n + 2)))
      ((db.yMax row.geometry).any (floatLe box.minY ·)) := evaluates_bound rfl hbinds.tail.head
  have hmeets : ((((db.xMin row.geometry).any (floatLe · box.maxX) &&
      (db.xMax row.geometry).any (floatLe box.minX ·)) &&
      (db.yMin row.geometry).any (floatLe · box.maxY)) &&
      (db.yMax row.geometry).any (floatLe box.minY ·)) =
        e.shape.box?.any fun b => box.meets b.toBbox := by
    rw [hdb.xMin hrow.shows, hdb.xMax hrow.shows, hdb.yMin hrow.shows, hdb.yMax hrow.shows]
    have hmaxX := hbox box.maxX (by simp [Bbox.toList])
    have hmaxY := hbox box.maxY (by simp [Bbox.toList])
    have hfinite : ∀ (x : Finite64) negative, (x : Double) ≠ .nan negative := by simp
    cases e.shape.box? with
    -- Without a box every comparison is null.
    | none => rfl
    | some b =>
      simp only [Option.map_some, Option.any_some, floatLe_eq_le hmaxX, floatLe_eq_le hmaxY,
        floatLe_eq_le (hfinite _)]
      rfl
  exact hmeets ▸ ((hXMin.and hXMax).and hYMin).and hYMax

theorem evaluates_intersects (hdb : db.Faithful) {e : Entry} (hrow : row.Represents db e) {n : Nat}
    {text : String} {shape : Planar.Shape} (hshape : Planar.Shape.parse text = .ok shape)
    (htext : parameters[n]? = some (.text text)) :
    Evaluates db row parameters (Condition.intersects (n + 1)).expr (e.shape.intersects shape) := by
  obtain ⟨g, hg⟩ := Option.isSome_iff_exists.mp (hdb.accepts hshape)
  -- The operand is made from its text just as stored geometries are.
  have hshows : db.Shows (db.setSrid g referenceSystem) shape :=
    ⟨text, hshape, by rw [PostGis.geometry?, hg]; rfl⟩
  refine ⟨some (e.shape.intersects shape), ?_, rfl⟩
  rw [← hdb.intersects hrow.shows hshows]
  simp [Condition.expr, Condition.operand, Expr.eval, Expr.evalAll, Row.column?, htext,
    Value.ofParameter, Value.cast?, PostGis.call?, hg]

mutual

/-- The condition that a filter is written as evaluates to what the filter is for an entry. -/
theorem evaluates_ofFilter (hdb : db.Faithful) {e : Entry} (hrow : row.Represents db e) :
    ∀ (f : Filter) {n : Nat} {c : Store.Condition}, Store.Condition.ofFilter f = .ok c →
      (∀ box ∈ f.boxes, ∀ x ∈ box.toList, ∀ negative, x ≠ .nan negative) →
      Binds parameters n (Condition.ofFilter n f).2 →
        Evaluates db row parameters (Condition.ofFilter n f).1.expr (c.holds e)
  | .all fs, n, c, hc, hboxes, hbinds => by
    obtain ⟨cs, hcs, rfl⟩ := map_eq_ok_iff.mp hc
    rw [Store.Condition.holds, Store.Condition.holdAll_eq]
    exact evaluates_all (evaluates_ofFilters hdb hrow fs hcs hboxes hbinds)
  | .any fs, n, c, hc, hboxes, hbinds => by
    obtain ⟨cs, hcs, rfl⟩ := map_eq_ok_iff.mp hc
    rw [Store.Condition.holds, Store.Condition.holdAny_eq]
    exact evaluates_any (evaluates_ofFilters hdb hrow fs hcs hboxes hbinds)
  | .ids ids, n, c, hc, _, hbinds => by
    obtain rfl := Except.ok.inj hc
    have hid : row.column? Column.id.name = some (.text e.record.id) :=
      congrArg (some <| Value.text ·) hrow.id_eq
    exact evaluates_oneOf hid hbinds.head
  | .collections ids, n, c, hc, _, hbinds => by
    obtain rfl := Except.ok.inj hc
    have hcollection : row.column? Column.collection.name = some (.text e.record.collection) :=
      congrArg (some <| Value.text ·) hrow.collection_eq
    exact evaluates_oneOf hcollection hbinds.head
  | .envelope box, n, c, hc, hboxes, hbinds => by
    obtain rfl := Except.ok.inj hc
    exact evaluates_envelope hdb hrow (hboxes box (by simp [Filter.boxes])) hbinds
  | .intersects text, n, c, hc, _, hbinds => by
    obtain ⟨shape, hshape, rfl⟩ := map_eq_ok_iff.mp hc
    exact evaluates_intersects hdb hrow hshape hbinds.head

theorem evaluates_ofFilters (hdb : db.Faithful) {e : Entry} (hrow : row.Represents db e) :
    ∀ (fs : List Filter) {n : Nat} {cs : List Store.Condition},
      Store.Condition.ofFilters fs = .ok cs →
      (∀ box ∈ Filter.boxesOfAll fs, ∀ x ∈ box.toList, ∀ negative, x ≠ .nan negative) →
      Binds parameters n (Condition.ofFilters n fs).2 →
        List.Forall₂ (Evaluates db row parameters) (Condition.exprs (Condition.ofFilters n fs).1)
          (cs.map (·.holds e))
  | [], n, cs, hcs, _, _ => by
    obtain rfl := Except.ok.inj hcs
    exact .nil
  | f :: fs, n, cs, hcs, hboxes, hbinds => by
    obtain ⟨c, hc, hmap⟩ := bind_eq_ok_iff.mp hcs
    obtain ⟨cs', hcs', rfl⟩ := map_eq_ok_iff.mp hmap
    obtain ⟨hf, hfs⟩ := List.forall_mem_append.mp hboxes
    obtain ⟨hb, hbs⟩ := Binds.append hbinds
    exact .cons (evaluates_ofFilter hdb hrow f hc hf hb)
      (evaluates_ofFilters hdb hrow fs hcs' hfs hbs)

end

end

/-! ### Searches -/

/-- A stored item has a row, and the row is that of the item. -/
theorem exists_row {G : Type} {db : PostGis G} (hdb : db.Faithful) {e : Entry}
    (hshape : Planar.Shape.parse e.record.geometry = .ok e.shape) :
    ∃ row, Row.ofRecord? db e.record = some row ∧ row.Represents db e := by
  obtain ⟨g, hg⟩ := Option.isSome_iff_exists.mp (hdb.accepts hshape)
  have hgeometry : db.geometry? e.record.geometry = some (db.setSrid g referenceSystem) := by
    rw [PostGis.geometry?, hg]
    rfl
  exact ⟨_, by rw [Row.ofRecord?, hgeometry]; rfl, rfl, rfl, _, hshape, hgeometry⟩

/-- **The statement of a search has a condition just where its plan has a filter, and for every item
of every store the condition is true in the row of the item just where the filter holds of the
item.** The texts of the filter must be readable, and its boxes made of numbers. -/
theorem condition_ofPlan {G : Type} {db : PostGis G} (hdb : db.Faithful) (plan : QueryPlan) :
    (condition? (Select.ofPlan plan).1.text = some none ↔ plan.filter = none) ∧
    ∀ f ∈ plan.filter, f.WellFormed →
      ∃ c condition, Store.Condition.ofFilter f = .ok c ∧
        condition? (Select.ofPlan plan).1.text = some (some condition) ∧
        ∀ (ws : List Write) {key : ItemKey} {e : Entry},
          (Store.empty.after ws).items[key]? = some e →
            ∃ row truth, Row.ofRecord? db e.record = some row ∧
              condition.eval db row (Select.ofPlan plan).2 = some (.bool truth) ∧
              (truth = some true ↔ c.holds e) := by
  obtain ⟨filter, sort, limit⟩ := plan
  rw [Select.condition?_text]
  cases filter with
  | none => exact ⟨⟨fun _ => rfl, fun _ => rfl⟩, by simp⟩
  | some f =>
    refine ⟨by simp [Select.ofPlan, Condition.ofFilter?], fun f' hf' hf => ?_⟩
    obtain rfl := Option.some.inj hf'
    obtain ⟨c, hc⟩ := f.exists_ofFilter hf.texts
    refine ⟨c, _, hc, rfl, fun ws key e he => ?_⟩
    obtain ⟨row, hrow, hrepresents⟩ := exists_row hdb
      ((Store.consistent_empty.after ws) he).shape_eq
    -- The parameters of the condition come before those of the order and the limit.
    have hbinds : Binds (Select.ofPlan ⟨some f, sort, limit⟩).2 0 (Condition.ofFilter 0 f).2 :=
      ⟨_, (List.append_assoc _ _ _).symm⟩
    obtain ⟨truth, htruth, hvalue⟩ := evaluates_ofFilter hdb hrepresents f hc hf.boxes hbinds
    refine ⟨row, truth, hrow, htruth, ?_⟩
    rw [← hvalue]
    rcases truth with _ | _ | _ <;> simp

/-- A database whose geometries are shapes. -/
def planar : PostGis Planar.Shape where
  ofGeoJson text := (Planar.Shape.parse text).toOption
  setSrid shape _ := shape
  xMin shape := shape.box?.map fun b => b.minX
  yMin shape := shape.box?.map fun b => b.minY
  xMax shape := shape.box?.map fun b => b.maxX
  yMax shape := shape.box?.map fun b => b.maxY
  intersects := Planar.Shape.intersects

theorem faithful_planar : planar.Faithful := by
  have hshows : ∀ {g shape}, planar.Shows g shape → g = shape := by
    rintro g shape ⟨text, htext, hg⟩
    simpa [PostGis.geometry?, planar, htext, Except.toOption, eq_comm] using hg
  constructor
  case accepts =>
    intro text shape htext
    simp [planar, htext, Except.toOption]
  case intersects =>
    intro g h shape other hg hh
    rw [hshows hg, hshows hh]
    rfl
  all_goals
    intro g shape hg
    rw [hshows hg]
    rfl

/-- The text of the origin. -/
def originText : String := "\x7b\"type\":\"Point\",\"coordinates\":[0.0,0.0]\x7d"

/-- What meets the origin, or is called `b` and is not to the west of it. -/
def nested : Filter :=
  .any [.any [], .intersects originText, .all [.ids ["b"],
    .envelope ⟨.finite (.zero true), .infinite true, .infinite false, .infinite false⟩]]

theorem wellFormed_nested : nested.WellFormed where
  texts := by
    have horigin : (Planar.Shape.parse originText).isOk = true := by decide +kernel
    intro text htext
    obtain rfl : text = originText := by simpa [nested, Filter.texts, Filter.textsOfAll] using htext
    cases hshape : Planar.Shape.parse originText with
    | ok shape => exact ⟨shape, rfl⟩
    | error e => rw [hshape] at horigin; cases horigin
  boxes := by simp [nested, Filter.boxes, Filter.boxesOfAll, Bbox.toList]

/-- The store with one item, at the origin. -/
def oneItem : Store := Store.empty.after
  [.addCollection (plainCollection "c"), .addItem (originItem "a" "c")]

theorem condition_ofPlan_nested :
    ∃ c condition e row truth, Store.Condition.ofFilter nested = .ok c ∧
      condition? (Select.ofPlan ⟨some nested, [], 10⟩).1.text = some (some condition) ∧
      oneItem.items[(⟨"c", "a"⟩ : ItemKey)]? = some e ∧
      Row.ofRecord? planar e.record = some row ∧
      condition.eval planar row (Select.ofPlan ⟨some nested, [], 10⟩).2 = some (.bool truth) ∧
      (truth = some true ↔ c.holds e) := by
  obtain ⟨-, h⟩ := condition_ofPlan faithful_planar ⟨some nested, [], 10⟩
  obtain ⟨c, condition, hc, hcondition, hrows⟩ := h nested rfl wellFormed_nested
  have hstored : (oneItem.items[(⟨"c", "a"⟩ : ItemKey)]?).isSome := by decide +kernel
  obtain ⟨e, he⟩ := Option.isSome_iff_exists.mp hstored
  obtain ⟨row, truth, hrow, htruth, hiff⟩ := hrows _ he
  exact ⟨c, condition, e, row, truth, hc, hcondition, he, hrow, htruth, hiff⟩

end Sql

end SpatialCatalog
