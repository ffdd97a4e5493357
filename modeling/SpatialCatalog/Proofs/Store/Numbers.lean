import SpatialCatalog.Proofs.Json.Numbers
import SpatialCatalog.Proofs.Store.Page

/-!
# Sorting on numbers

A page that is sorted on a path to numbers has any two of them in the order of their values, unless
they are rounded to one value: `NumbersPlaced` says so of two items. Whole numbers above `2 ^ 53`
can be rounded, so a page can have two of them the wrong way round.
-/

namespace SpatialCatalog

/-- Numbers compare as the values that they are rounded to. -/
theorem Json.compareTop_num (m n : Number) :
    (num m).compareTop (num n) = Ord.compare m.units n.units := rfl

/-- The number at the end of a path. -/
def Json.numberAt? (j : Json) (path : List String) : Option Number :=
  match j.at? path with
  | some (.num n) => some n
  | _ => none

theorem Json.numberAt?_eq_some_iff {j : Json} {path : List String} {n : Number} :
    j.numberAt? path = some n ↔ j.at? path = some (.num n) := by
  unfold numberAt?
  split <;> simp_all

namespace Store

/-- A number comes before another, or both are rounded to one value. -/
def BeforeOrRounded (direction : Direction) (m n : Number) : Prop :=
  match direction with
  | .ascending => m.value < n.value ∨ m.units = n.units
  | .descending => n.value < m.value ∨ m.units = n.units

/-- Where a path to numbers is a key, and the keys before it do not tell two items apart, the number
of the first comes before that of the second or both are rounded to one value. -/
def NumbersPlaced (keys : List SortKey) (a b : ItemRecord) : Prop :=
  ∀ earlier path direction later, keys = earlier ++ ⟨.path path, direction⟩ :: later →
    (∀ k ∈ earlier, FieldLevel a b k.field) →
    ∀ m n, a.data.numberAt? path = some m → b.data.numberAt? path = some n →
      BeforeOrRounded direction m n

theorem compareRecords_append (earlier later : List SortKey) (a b : ItemRecord) :
    compareRecords (earlier ++ later) a b =
      (compareRecords earlier a b).then (compareRecords later a b) := by
  induction earlier with
  | nil => rfl
  | cons key earlier ih =>
    rw [List.cons_append, compareRecords_cons, compareRecords_cons, ih, Ordering.then_assoc]

theorem compareKey_num {path : List String} {direction : Direction} {a b : ItemRecord}
    {m n : Number} (ha : a.data.numberAt? path = some m) (hb : b.data.numberAt? path = some n) :
    compareKey a b ⟨.path path, direction⟩ =
      match direction with
      | .ascending => compare m.units n.units
      | .descending => compare n.units m.units := by
  have hfield : compareField a b (.path path) = compare m.units n.units := by
    rw [compareField, Json.numberAt?_eq_some_iff.mp ha, Json.numberAt?_eq_some_iff.mp hb,
      compareMissing, Json.compareTop_num]
  cases direction with
  | ascending => exact hfield
  | descending => rw [compareKey, hfield, ← compareOrd_swap]

/-- A key that does not put two items the other way round. -/
theorem Precedes.compareKey_ne_gt {earlier later : List SortKey} {key : SortKey} {a b : ItemRecord}
    (h : Precedes (earlier ++ key :: later) a b)
    (hlevel : ∀ k ∈ earlier, FieldLevel a b k.field) : compareKey a b key ≠ .gt := by
  intro hgt
  rw [precedes_iff, compareRecords_append, compareRecords_eq_eq_iff.mpr hlevel,
    compareRecords_cons, hgt] at h
  simp at h

theorem Precedes.numbersPlaced {keys : List SortKey} {a b : ItemRecord} (h : Precedes keys a b) :
    NumbersPlaced keys a b := by
  rintro earlier path direction later rfl hlevel m n ha hb
  have hkey := h.compareKey_ne_gt hlevel
  rw [compareKey_num ha hb] at hkey
  cases direction with
  | ascending =>
    rcases (compare_le_iff_le.mp hkey).lt_or_eq with hlt | heq
    · exact .inl (Number.value_lt_of_units_lt hlt)
    · exact .inr heq
  | descending =>
    rcases (compare_le_iff_le.mp hkey).lt_or_eq with hlt | heq
    · exact .inl (Number.value_lt_of_units_lt hlt)
    · exact .inr heq.symm

/-- **A page that is sorted on numbers has them in the order of their values**, unless they are
rounded to one value, and what is left out comes after it in the same way. This is as good as the
comparison of numbers, which is that of the binary64 values nearest to them. -/
theorem search_numbers_after (ws : List Write) {s : Search} {plan : QueryPlan}
    (h : s.compile = .ok plan) :
    (∀ m n : Number, m.InRange → n.InRange →
      m.Compared n ((Json.num m).compare (.num n)) ∧
        (Json.num m).compareTop (.num n) = (Json.num m).compare (.num n)) ∧
    ∃ wanted found page,
      run (Catalog.search s) (empty.after ws) = (.ok page, empty.after ws) ∧
        PageOf (empty.after ws) plan wanted found page ∧
        found.Pairwise (fun a b => NumbersPlaced plan.sort a.record b.record) ∧
        ∀ e ∈ wanted, e ∉ found → ∀ e' ∈ found, NumbersPlaced plan.sort e'.record e.record := by
  refine ⟨fun m n hm hn => ⟨Number.compared hm hn, rfl⟩, ?_⟩
  obtain ⟨wanted, found, page, hpage, hof⟩ := (consistent_empty.after ws).exists_page h
  exact ⟨wanted, found, page, hpage, hof, hof.ordered.imp Precedes.numbersPlaced,
    fun e he hnot e' he' => (hof.rest e he hnot e' he').1.numbersPlaced⟩

/-- An item at the origin with a number. -/
def numberedItem (id : String) (n : Number) : Item where
  id := id
  collection := some "c"
  document := .obj [("id", .str id), ("collection", .str "c"),
    ("geometry", .obj [("type", .str "Point"), ("coordinates", .arr [.int 0, .int 0])]),
    ("properties", .obj [("p", .num n)])]
  id_eq := rfl
  collection_eq := rfl

/-- Two items with numbers, the greater one first. -/
def twoNumbers (m n : Number) : List Write :=
  [.addCollection (plainCollection "c"), .addItem (numberedItem "a" m),
    .addItem (numberedItem "b" n)]

/-- A search that is sorted on these numbers, and its plan. -/
def byNumber : Search := { sortby := [⟨"properties.p", "asc"⟩] }

def numberKey : SortKey := ⟨.path ["properties", "p"], .ascending⟩

def numberPlan : QueryPlan := { filter := none, sort := [numberKey], limit := defaultLimit }

theorem byNumber_compile : byNumber.compile = .ok numberPlan := by
  have hsort : byNumber.sortby.mapM Search.sortKey = .ok [numberKey] := by decide +kernel
  rw [Search.compile, hsort]
  rfl

theorem search_numbers_after_twoNumbers :
    byNumber.compile = .ok numberPlan ∧ ∃ wanted found page,
      run (Catalog.search byNumber) (empty.after (twoNumbers (.int 2) (.int 1))) =
        (.ok page, empty.after (twoNumbers (.int 2) (.int 1))) ∧
      PageOf (empty.after (twoNumbers (.int 2) (.int 1))) numberPlan wanted found page ∧
      found.Pairwise fun a b => ∀ m n, a.record.data.numberAt? ["properties", "p"] = some m →
        b.record.data.numberAt? ["properties", "p"] = some n →
        BeforeOrRounded .ascending m n := by
  obtain ⟨-, wanted, found, page, hpage, hof, hplaced, -⟩ :=
    search_numbers_after (twoNumbers (.int 2) (.int 1)) byNumber_compile
  exact ⟨byNumber_compile, wanted, found, page, hpage, hof,
    hplaced.imp fun h => h [] _ _ [] rfl (by simp)⟩

/-- The least whole number that is rounded, and the number that it is rounded to. -/
def leastRounded : Number := .int 9007199254740993

def itsRounding : Number := .int 9007199254740992

/-- Entries that are on one level stay in the order of the table. -/
theorem sorted_pair {keys : List SortKey} {a b : Entry} (h : recordsLE keys a b) :
    sorted keys [a, b] = [a, b] :=
  List.mergeSort_of_pairwise (List.pairwise_pair.mpr h)

/-- **Numbers that are rounded to one value can be the wrong way round on a page**: they do not
compare as their values do, and the items stay in the order of the table. -/
theorem search_numbers_misplaced :
    leastRounded.InRange ∧ itsRounding.InRange ∧ itsRounding.value < leastRounded.value ∧
    (Json.num leastRounded).compare (.num itsRounding) = .eq ∧
    ∃ a b page,
      run (Catalog.search byNumber) (empty.after (twoNumbers leastRounded itsRounding)) =
        (.ok page, empty.after (twoNumbers leastRounded itsRounding)) ∧
      List.Forall₂ (fun e feature => (Entry.stored e).toFeature = .ok feature) [a, b]
        page.features ∧
      a.record.data.numberAt? ["properties", "p"] = some leastRounded ∧
      b.record.data.numberAt? ["properties", "p"] = some itsRounding := by
  have hlevel : compare leastRounded.units itsRounding.units = .eq := by decide +kernel
  refine ⟨by unfold Number.InRange leastRounded; decide +kernel,
    by unfold Number.InRange itsRounding; decide +kernel, by decide +kernel, hlevel, ?_⟩
  have hvalues : (empty.after (twoNumbers leastRounded itsRounding)).items.values.map
      (fun e => e.record.data.numberAt? ["properties", "p"]) =
        [some leastRounded, some itsRounding] := by
    decide +kernel
  have hst := consistent_empty.after (twoNumbers leastRounded itsRounding)
  generalize empty.after (twoNumbers leastRounded itsRounding) = st at hvalues hst ⊢
  obtain ⟨a, rest, hrest, ha, hmap⟩ := List.map_eq_cons_iff.mp hvalues
  obtain ⟨b, rest, rfl, hb, hnil⟩ := List.map_eq_cons_iff.mp hmap
  obtain rfl := List.map_eq_nil_iff.mp hnil
  have hle : recordsLE [numberKey] a b := by
    rw [recordsLE, compareRecords_cons, numberKey, compareKey_num ha hb, hlevel]
    rfl
  have hselect : st.select none = [a, b] := by
    rw [select, hrest]
    rfl
  have hcondition : numberPlan.filter.mapM Condition.ofFilter = .ok none := rfl
  have hquery : st.query numberPlan = .ok ([a, b].map Entry.stored) := by
    rw [query_eq_ok hcondition (by decide), hselect, numberPlan, sorted_pair hle]
    rfl
  obtain ⟨features, hfeatures, hall⟩ := hst.exists_features fun e he =>
    (mem_select_iff.mp (hselect ▸ he : e ∈ st.select none)).1
  exact ⟨a, b, _, run_search byNumber_compile st hquery (by rw [List.mapM_map]; exact hfeatures),
    hall, ha, hb⟩

end Store

end SpatialCatalog
