import SpatialCatalog.Proofs.Sql.Meaning
import SpatialCatalog.Sql.Statement

/-!
# Values in their places

A statement holds the numbers of its parameters, and the parameters are given beside it. Read as
lexemes, the statement of a plan has the placeholders from one to as many as there are parameters,
each of them once. With the parameters in their places it is what one would write of the plan with
its values: `QueryPlan.tokens`, where nothing is numbered. And each place asks for the type of the
parameter that it has, as far as what is around the place tells (`asked?`).

`Filled` and `Renders` say this of a part of the statement, and are kept when parts are put
together. The parameters of a box are not used in the order of their numbers.
-/

namespace SpatialCatalog.Sql

/-! ### Placeholders -/

/-- The number of a placeholder. -/
def Lexeme.placeholder? : Lexeme → Option Nat
  | parameter n => some n
  | _ => none

/-- The numbers of the placeholders among some lexemes, in order. -/
def placeholders (ls : List Lexeme) : List Nat := ls.filterMap Lexeme.placeholder?

/-- The parameter with a number, from one on. -/
def numbered? (parameters : List Parameter) : Nat → Option Parameter
  | 0 => none
  | n + 1 => parameters[n]?

/-! ### Values in place of numbers -/

/-- A lexeme, or the value of a parameter. -/
inductive Token where
  | lexeme (l : Lexeme)
  | value (p : Parameter)
deriving DecidableEq

/-- Lexemes without values. -/
def plain (ls : List Lexeme) : List Token := ls.map .lexeme

/-- A lexeme with the parameter in the place of its number. -/
def Lexeme.token? (parameters : List Parameter) : Lexeme → Option Token
  | parameter n => (numbered? parameters n).map .value
  | l => some (.lexeme l)

/-- The comparison of a number of the box around the geometry of a row with a value. -/
def boundTokens (function : String) (op : Mark) (x : Double) : List Token :=
  plain [.word function, .mark .opening, .word "geometry", .mark .closing, .mark op] ++
    [.value (.float x)]

/-- The comparison of a column with the elements of a list. -/
def oneOfTokens (c : Column) (values : List String) : List Token :=
  plain [.word c.name, .mark .equal, .word "any", .mark .opening] ++
    .value (.textArray values) :: plain [.mark .closing]

/-- The condition that the box around the geometry of a row meets a box: the least coordinates of
one are compared with the greatest of the other. -/
def envelopeTokens (b : Bbox) : List Token :=
  plain [.mark .opening] ++ boundTokens "st_xmin" .atMost b.maxX ++
    plain [.word "and"] ++ boundTokens "st_xmax" .atLeast b.minX ++
    plain [.word "and"] ++ boundTokens "st_ymin" .atMost b.maxY ++
    plain [.word "and"] ++ boundTokens "st_ymax" .atLeast b.minY ++ plain [.mark .closing]

/-- The condition that the geometry of a row intersects the geometry with a text. -/
def intersectsTokens (text : String) : List Token :=
  plain [.word "st_intersects", .mark .opening, .word "geometry", .mark .comma,
    .word "st_setsrid", .mark .opening, .word "st_geomfromgeojson", .mark .opening] ++
    .value (.text text) :: plain [.mark .cast, .word "text", .mark .closing, .mark .comma,
      .number referenceSystem, .mark .closing, .mark .closing]

mutual

/-- A filter as a condition with its values. -/
def filterTokens : Filter → List Token
  | .all [] => plain [.word "true"]
  | .all (f :: fs) =>
    plain [.mark .opening] ++ filterTokens f ++ filterTokensAfter "and" fs ++
      plain [.mark .closing]
  | .any [] => plain [.word "false"]
  | .any (f :: fs) =>
    plain [.mark .opening] ++ filterTokens f ++ filterTokensAfter "or" fs ++
      plain [.mark .closing]
  | .ids ids => oneOfTokens .id ids
  | .collections ids => oneOfTokens .collection ids
  | .envelope b => envelopeTokens b
  | .intersects text => intersectsTokens text

/-- Further filters, each after a word. -/
def filterTokensAfter (word : String) : List Filter → List Token
  | [] => []
  | f :: fs => plain [.word word] ++ filterTokens f ++ filterTokensAfter word fs

end

/-- What is sorted on, with its keys. -/
def fieldTokens : SortField → List Token
  | .column c => plain [.word c.name]
  | .path keys =>
    plain [.word "data", .mark .path] ++
      .value (.textArray keys) :: plain [.mark .cast, .word "text", .mark .brackets]

/-- The word of a direction. -/
def directionLexeme : Direction → Lexeme
  | .ascending => .word "asc"
  | .descending => .word "desc"

/-- A key of a sort. -/
def keyTokens (k : SortKey) : List Token :=
  fieldTokens k.field ++ plain [directionLexeme k.direction]

/-- Keys of a sort, with commas between them. -/
def sortTokens : List SortKey → List Token
  | [] => []
  | [k] => keyTokens k
  | k :: ks => keyTokens k ++ (plain [.mark .comma] ++ sortTokens ks)

/-- The clause of a filter, if there is one. -/
def whereTokens : Option Filter → List Token
  | none => []
  | some f => plain [.word "where"] ++ filterTokens f

/-- The clause of a sort, if there are keys. -/
def orderTokens : List SortKey → List Token
  | [] => []
  | k :: ks => plain [.word "order", .word "by"] ++ sortTokens (k :: ks)

/-- The statement of a plan, with the values of the plan in their places. -/
def planTokens (plan : QueryPlan) : List Token :=
  plain Select.headLexemes ++ whereTokens plan.filter ++ orderTokens plan.sort ++
    [.lexeme (.word "limit"), .value (.bigint plan.limit)]

/-! ### What places ask for -/

/-- The comparisons with the four numbers of a box. -/
def boundComparisons : List (String × Mark) :=
  [("st_xmin", .atMost), ("st_xmax", .atLeast), ("st_ymin", .atMost), ("st_ymax", .atLeast)]

/-- The type that a place asks for, by the lexemes before it, the nearest first, and after it. -/
def asked? : List Lexeme → List Lexeme → Option ColumnType
  | .mark .opening :: .word "any" :: .mark .equal :: _, .mark .closing :: _ => some (.array .text)
  | _, .mark .cast :: .word "text" :: .mark .brackets :: _ => some (.array .text)
  | _, .mark .cast :: .word "text" :: _ => some .text
  | .mark op :: .mark .closing :: .word "geometry" :: .mark .opening :: .word function :: _, _ =>
    if (function, op) ∈ boundComparisons then some .float8 else none
  | .word "limit" :: _, [] => some .int8
  | _, _ => none

/-- Each placeholder among some lexemes has a parameter of the type that its place asks for. What
stands before the lexemes, the nearest first, and after them is given. -/
def Fit (parameters : List Parameter) : List Lexeme → List Lexeme → List Lexeme → Prop
  | _, [], _ => True
  | before, l :: ls, after =>
    (∀ k, l = .parameter k → ∃ p, numbered? parameters k = some p ∧
      asked? before (ls ++ after) = some (Argument.search p).type) ∧
    Fit parameters (l :: before) ls after

variable {parameters : List Parameter}

theorem fit_append {ls ms before after : List Lexeme} :
    Fit parameters before (ls ++ ms) after ↔
      Fit parameters before ls (ms ++ after) ∧ Fit parameters (ls.reverse ++ before) ms after := by
  induction ls generalizing before with
  | nil => simp [Fit]
  | cons l ls ih => simp [Fit, ih, and_assoc]

/-- Each placeholder, wherever it stands. -/
theorem Fit.exists_numbered {ls before after : List Lexeme} {k : Nat}
    (h : Fit parameters [] ls []) (hls : ls = before ++ .parameter k :: after) :
    ∃ p, numbered? parameters k = some p ∧
      asked? before.reverse after = some (Argument.search p).type := by
  rw [hls, fit_append] at h
  obtain ⟨p, hp, hasked⟩ := h.2.1 k rfl
  exact ⟨p, hp, by simpa using hasked⟩

/-! ### Parts -/

/-- A part of a statement has values in the places of its parameters, and fits wherever it
stands. -/
structure Filled (parameters : List Parameter) (ls : List Lexeme) (ts : List Token) : Prop where
  filled : ls.mapM (Lexeme.token? parameters) = some ts
  fits : ∀ before after, Fit parameters before ls after

/-- A part of a statement with its own parameters, after `n` others: it numbers each of them
once. -/
structure Renders (parameters : List Parameter) (n count : Nat) (ls : List Lexeme)
    (ts : List Token) : Prop extends Filled parameters ls ts where
  numbers : (placeholders ls).Perm (List.range' (n + 1) count)

theorem mapM_token?_append {ls ms : List Lexeme} {ts us : List Token}
    (h : ls.mapM (Lexeme.token? parameters) = some ts)
    (h' : ms.mapM (Lexeme.token? parameters) = some us) :
    (ls ++ ms).mapM (Lexeme.token? parameters) = some (ts ++ us) := by
  rw [List.mapM_append, h, h']
  rfl

theorem numbers_append {ls ms : List Lexeme} {n i j : Nat}
    (h : (placeholders ls).Perm (List.range' (n + 1) i))
    (h' : (placeholders ms).Perm (List.range' (n + i + 1) j)) :
    (placeholders (ls ++ ms)).Perm (List.range' (n + 1) (i + j)) := by
  have hrange : List.range' (n + 1) i ++ List.range' (n + i + 1) j =
      List.range' (n + 1) (i + j) := by
    rw [Nat.add_right_comm, List.range'_append_1]
  rw [placeholders, List.filterMap_append, ← hrange]
  exact h.append h'

theorem Filled.append {ls ms : List Lexeme} {ts us : List Token} (h : Filled parameters ls ts)
    (h' : Filled parameters ms us) : Filled parameters (ls ++ ms) (ts ++ us) where
  filled := mapM_token?_append h.filled h'.filled
  fits _ _ := fit_append.mpr ⟨h.fits _ _, h'.fits _ _⟩

theorem Renders.append {ls ms : List Lexeme} {ts us : List Token} {n i j : Nat}
    (h : Renders parameters n i ls ts) (h' : Renders parameters (n + i) j ms us) :
    Renders parameters n (i + j) (ls ++ ms) (ts ++ us) where
  toFilled := h.toFilled.append h'.toFilled
  numbers := numbers_append h.numbers h'.numbers

/-- Lexemes without placeholders. -/
theorem filled_plain {ls : List Lexeme} (h : placeholders ls = []) :
    Filled parameters ls (plain ls) := by
  induction ls with
  | nil => exact ⟨rfl, fun _ _ => trivial⟩
  | cons l ls ih =>
    obtain ⟨hl, hls⟩ := List.forall_mem_cons.mp (List.filterMap_eq_nil_iff.mp h)
    obtain ⟨hfilled, hfits⟩ := ih (List.filterMap_eq_nil_iff.mpr hls)
    have hnot : ∀ k, l ≠ .parameter k := by
      rintro k rfl
      cases hl
    refine ⟨?_, fun before after => ⟨fun k hk => absurd hk (hnot k), hfits _ _⟩⟩
    cases l with
    | parameter k => exact absurd rfl (hnot k)
    | _ => rw [List.mapM_cons, hfilled]; rfl

theorem renders_plain {ls : List Lexeme} (h : placeholders ls = []) (n : Nat) :
    Renders parameters n 0 ls (plain ls) :=
  ⟨filled_plain h, .of_eq h⟩

theorem Renders.plain_append {ls : List Lexeme} {ts : List Token} {n count : Nat}
    (h : Renders parameters n count ls ts) (ms : List Lexeme) (hms : placeholders ms = []) :
    Renders parameters n count (ms ++ ls) (plain ms ++ ts) := by
  have h' := (renders_plain hms n).append h
  rwa [Nat.zero_add] at h'

theorem Renders.append_plain {ls : List Lexeme} {ts : List Token} {n count : Nat}
    (h : Renders parameters n count ls ts) (ms : List Lexeme) (hms : placeholders ms = []) :
    Renders parameters n count (ls ++ ms) (ts ++ plain ms) :=
  h.append (renders_plain hms _)

/-- A placeholder between lexemes that ask for the type of its parameter. -/
theorem filled_single (ls ms : List Lexeme) {k : Nat} {p : Parameter}
    (hp : numbered? parameters k = some p) (hls : placeholders ls = []) (hms : placeholders ms = [])
    (hasked : ∀ before after,
      asked? (ls.reverse ++ before) (ms ++ after) = some (Argument.search p).type) :
    Filled parameters (ls ++ .parameter k :: ms) (plain ls ++ .value p :: plain ms) := by
  obtain ⟨hleft, hfitsLeft⟩ := filled_plain hls
  obtain ⟨hright, hfitsRight⟩ := filled_plain hms
  constructor
  case filled =>
    refine mapM_token?_append hleft ?_
    rw [List.mapM_cons, Lexeme.token?, hp, hright]
    rfl
  case fits =>
    refine fun before after => fit_append.mpr ⟨hfitsLeft _ _, ?_, hfitsRight _ _⟩
    rintro _ ⟨⟩
    exact ⟨p, hp, hasked _ _⟩

theorem renders_oneOf {c : Column} {n : Nat} {values : List String}
    (h : parameters[n]? = some (.textArray values)) :
    Renders parameters n 1 (Condition.oneOf c (n + 1)).lexemes (oneOfTokens c values) where
  toFilled := filled_single [.word c.name, .mark .equal, .word "any", .mark .opening]
    [.mark .closing] h rfl rfl fun _ _ => rfl
  numbers := .refl _

/-- A comparison with a number of a box, and what follows it: alone it would not ask for a number,
because a cast could follow. -/
theorem filled_bound {function : String} {op : Mark} (hop : (function, op) ∈ boundComparisons)
    {l : Lexeme} (hl : l = .word "and" ∨ l = .mark .closing) {n : Nat} {x : Double}
    (h : parameters[n]? = some (.float x)) :
    Filled parameters (Condition.boundLexemes function op (n + 1) ++ [l])
      (boundTokens function op x ++ plain [l]) := by
  refine filled_single [.word function, .mark .opening, .word "geometry", .mark .closing, .mark op]
    [l] h rfl ?_ fun before after => ?_
  · obtain rfl | rfl := hl <;> rfl
  · obtain rfl | rfl := hl <;> cases op <;> exact if_pos hop

theorem renders_envelope {n : Nat} {b : Bbox}
    (h : Binds parameters n (b.toList.map .float)) :
    Renders parameters n 4 (Condition.envelope (n + 1) (n + 2) (n + 3) (n + 4)).lexemes
      (envelopeTokens b) := by
  have hminX : parameters[n]? = some (.float b.minX) := h.head
  have hminY : parameters[n + 1]? = some (.float b.minY) := h.tail.head
  have hmaxX : parameters[n + 2]? = some (.float b.maxX) := h.tail.tail.head
  have hmaxY : parameters[n + 3]? = some (.float b.maxY) := h.tail.tail.tail.head
  constructor
  case toFilled =>
    obtain ⟨hxmin, hxmax, hymin, hymax⟩ :
        ("st_xmin", .atMost) ∈ boundComparisons ∧ ("st_xmax", .atLeast) ∈ boundComparisons ∧
          ("st_ymin", .atMost) ∈ boundComparisons ∧ ("st_ymax", .atLeast) ∈ boundComparisons := by
      decide
    have hx := (filled_bound hxmin (.inl rfl) hmaxX).append (filled_bound hxmax (.inl rfl) hminX)
    have hy := (filled_bound hymin (.inl rfl) hmaxY).append (filled_bound hymax (.inr rfl) hminY)
    have hopening : Filled parameters [.mark .opening] (plain [.mark .opening]) := filled_plain rfl
    exact hopening.append (hx.append hy)
  case numbers =>
    have hperm : [3, 1, 4, 2].Perm [1, 2, 3, 4] := by decide
    exact hperm.map (n + ·)

theorem renders_intersects {n : Nat} {text : String} (h : parameters[n]? = some (.text text)) :
    Renders parameters n 1 (Condition.intersects (n + 1)).lexemes (intersectsTokens text) where
  toFilled := filled_single [.word "st_intersects", .mark .opening, .word "geometry", .mark .comma,
      .word "st_setsrid", .mark .opening, .word "st_geomfromgeojson", .mark .opening]
    [.mark .cast, .word "text", .mark .closing, .mark .comma, .number referenceSystem,
      .mark .closing, .mark .closing] h rfl rfl fun _ _ => rfl
  numbers := .refl _

/-! ### Conditions -/

mutual

/-- A filter renders as its condition. -/
theorem renders_ofFilter : ∀ (f : Filter) {n : Nat}, Binds parameters n (Condition.ofFilter n f).2 →
    Renders parameters n (Condition.ofFilter n f).2.length (Condition.ofFilter n f).1.lexemes
      (filterTokens f)
  | .all [], n, _ => renders_plain rfl n
  | .any [], n, _ => renders_plain rfl n
  | .all (f :: fs), _, h => by
    obtain ⟨hf, hfs⟩ := Binds.append h
    have hfirst := (renders_ofFilter f hf).plain_append [.mark .opening] rfl
    have hall := hfirst.append (renders_ofFilters "and" fs hfs)
    rw [← List.length_append] at hall
    exact hall.append_plain [.mark .closing] rfl
  | .any (f :: fs), _, h => by
    obtain ⟨hf, hfs⟩ := Binds.append h
    have hfirst := (renders_ofFilter f hf).plain_append [.mark .opening] rfl
    have hany := hfirst.append (renders_ofFilters "or" fs hfs)
    rw [← List.length_append] at hany
    exact hany.append_plain [.mark .closing] rfl
  | .ids _, _, h => renders_oneOf h.head
  | .collections _, _, h => renders_oneOf h.head
  | .envelope _, _, h => renders_envelope h
  | .intersects _, _, h => renders_intersects h.head

/-- Further filters render as further conditions. -/
theorem renders_ofFilters (word : String) : ∀ (fs : List Filter) {n : Nat},
    Binds parameters n (Condition.ofFilters n fs).2 →
    Renders parameters n (Condition.ofFilters n fs).2.length
      (Condition.lexemesAfter word (Condition.ofFilters n fs).1) (filterTokensAfter word fs)
  | [], n, _ => renders_plain rfl n
  | f :: fs, _, h => by
    obtain ⟨hf, hfs⟩ := Binds.append h
    have hfirst := (renders_ofFilter f hf).plain_append [.word word] rfl
    have hall := hfirst.append (renders_ofFilters word fs hfs)
    rwa [← List.length_append] at hall

end

/-- The lexemes of the clause of a condition. -/
def whereLexemes : Option Condition → List Lexeme
  | none => []
  | some c => .word "where" :: c.lexemes

theorem renders_ofFilter? {f : Option Filter} {n : Nat}
    (h : Binds parameters n (Condition.ofFilter? n f).2) :
    Renders parameters n (Condition.ofFilter? n f).2.length
      (whereLexemes (Condition.ofFilter? n f).1) (whereTokens f) := by
  cases f with
  | none => exact renders_plain rfl n
  | some f => exact (renders_ofFilter f h).plain_append [.word "where"] rfl

/-! ### Orders -/

theorem renders_column (c : Column) (d : Direction) (n : Nat) :
    Renders parameters n 0 (OrderKey.lexemes ⟨.column c, d⟩) (keyTokens ⟨.column c, d⟩) := by
  cases d <;> exact renders_plain rfl n

theorem renders_path {keys : List String} (d : Direction) {n : Nat}
    (h : parameters[n]? = some (.textArray keys)) :
    Renders parameters n 1 (OrderKey.lexemes ⟨.path (n + 1), d⟩) (keyTokens ⟨.path keys, d⟩) := by
  have hfield :
      Renders parameters n 1 (OrderField.path (n + 1)).lexemes (fieldTokens (.path keys)) :=
    { toFilled := filled_single [.word "data", .mark .path]
        [.mark .cast, .word "text", .mark .brackets] h rfl rfl fun _ _ => rfl
      numbers := .refl _ }
  cases d <;> exact hfield.append_plain _ rfl

/-- A key before others. -/
theorem Renders.cons {k : SortKey} {key : OrderKey} {ks : List SortKey} {order : List OrderKey}
    {n i j : Nat} (hk : Renders parameters n i key.lexemes (keyTokens k))
    (hks : Renders parameters (n + i) j (OrderKey.lexemesOfAll order) (sortTokens ks))
    (hlength : order.length = ks.length) :
    Renders parameters n (i + j) (OrderKey.lexemesOfAll (key :: order)) (sortTokens (k :: ks)) := by
  cases order with
  | nil =>
    obtain rfl := List.length_eq_zero_iff.mp hlength.symm
    have h := hk.append hks
    rwa [OrderKey.lexemesOfAll, sortTokens, List.append_nil, List.append_nil] at h
  | cons key' order =>
    cases ks with
    | nil => cases hlength
    | cons k' ks =>
      exact hk.append (hks.plain_append [.mark .comma] rfl)

theorem length_ofSort (ks : List SortKey) (n : Nat) :
    (OrderKey.ofSort n ks).1.length = ks.length := by
  induction ks generalizing n with
  | nil => rfl
  | cons k ks ih =>
    obtain ⟨field, d⟩ := k
    cases field with
    | column c => exact congrArg Nat.succ (ih n)
    | path keys => exact congrArg Nat.succ (ih (n + 1))

theorem renders_ofSort {ks : List SortKey} {n : Nat}
    (h : Binds parameters n (OrderKey.ofSort n ks).2) :
    Renders parameters n (OrderKey.ofSort n ks).2.length
      (OrderKey.lexemesOfAll (OrderKey.ofSort n ks).1) (sortTokens ks) := by
  induction ks generalizing n with
  | nil => exact renders_plain rfl n
  | cons k ks ih =>
    obtain ⟨field, d⟩ := k
    cases field with
    | column c =>
      have hcons := (renders_column c d n).cons (ih h) (length_ofSort ks n)
      rwa [Nat.zero_add] at hcons
    | path keys =>
      have hcons := (renders_path d h.head).cons (ih h.tail) (length_ofSort ks (n + 1))
      rwa [Nat.add_comm] at hcons

/-- The lexemes of the clause of an order. -/
def orderLexemes : List OrderKey → List Lexeme
  | [] => []
  | key :: keys => .word "order" :: .word "by" :: OrderKey.lexemesOfAll (key :: keys)

theorem renders_order {ks : List SortKey} {n : Nat}
    (h : Binds parameters n (OrderKey.ofSort n ks).2) :
    Renders parameters n (OrderKey.ofSort n ks).2.length
      (orderLexemes (OrderKey.ofSort n ks).1) (orderTokens ks) := by
  have horder := renders_ofSort h
  have hlength := length_ofSort ks n
  cases ks with
  | nil => exact horder
  | cons k ks =>
    cases hkeys : (OrderKey.ofSort n (k :: ks)).1 with
    | nil => rw [hkeys] at hlength; cases hlength
    | cons key keys =>
      rw [hkeys] at horder
      exact horder.plain_append [.word "order", .word "by"] rfl

/-! ### Statements -/

theorem Select.lexemes_eq (s : Select) :
    s.lexemes = headLexemes ++ whereLexemes s.condition ++ orderLexemes s.order ++
      [.word "limit", .parameter s.limit] := by
  obtain ⟨condition, order, limit⟩ := s
  rw [List.append_assoc]
  cases condition <;> cases order <;> rfl

section

variable {k : Nat} {limit : Int} (h : numbered? parameters k = some (.bigint limit))
include h

theorem fit_limit (before : List Lexeme) :
    Fit parameters before [.word "limit", .parameter k] [] := by
  refine ⟨?_, ?_, trivial⟩
  · rintro _ ⟨⟩
  · rintro _ ⟨⟩
    exact ⟨_, h, rfl⟩

theorem filled_limit : [Lexeme.word "limit", .parameter k].mapM (Lexeme.token? parameters) =
    some [.lexeme (.word "limit"), .value (.bigint limit)] := by
  simp [Lexeme.token?, h]

end

/-- **The parameters of a statement are complete and stand where they belong.** The placeholders are
those from one to as many as there are parameters, each of them once; with the parameters in their
places the statement is the plan with its values; each place asks for the type of its parameter; and
the limit is the last parameter, and stands at the end. -/
theorem query_placed (plan : QueryPlan) :
    ∃ ls parameters, lexemes? (Statement.query plan).text = some ls ∧
      (Statement.query plan).arguments = parameters.map .search ∧
      (placeholders ls).Perm (List.range' 1 parameters.length) ∧
      ls.mapM (Lexeme.token? parameters) = some (planTokens plan) ∧
      (∀ before k after, ls = before ++ .parameter k :: after →
        ∃ p, numbered? parameters k = some p ∧
          asked? before.reverse after = some (Argument.search p).type) ∧
      numbered? parameters parameters.length = some (.bigint plan.limit) ∧
      ∃ before, ls = before ++ [.word "limit", .parameter parameters.length] := by
  let cs := Condition.ofFilter? 0 plan.filter
  let os := OrderKey.ofSort cs.2.length plan.sort
  let parameters := cs.2 ++ os.2 ++ [.bigint plan.limit]
  let body := Select.headLexemes ++ whereLexemes cs.1 ++ orderLexemes os.1
  have hcs : Binds parameters 0 cs.2 := ⟨_, (List.append_assoc _ _ _).symm⟩
  have hos : Binds parameters cs.2.length os.2 := by
    refine ⟨[.bigint plan.limit], ?_⟩
    simp [parameters]
  have hcount : parameters.length = (cs.2 ++ os.2).length + 1 := by
    simp only [parameters, List.length_append, List.length_singleton]
  have hlimit : numbered? parameters parameters.length = some (.bigint plan.limit) := by
    rw [hcount, numbered?]
    exact List.getElem?_concat_length
  have hbody : Renders parameters 0 (cs.2 ++ os.2).length body
      (plain Select.headLexemes ++ whereTokens plan.filter ++ orderTokens plan.sort) := by
    have hwhere := (renders_ofFilter? hcs).plain_append Select.headLexemes rfl
    rw [List.length_append]
    refine hwhere.append ?_
    rw [Nat.zero_add]
    exact renders_order hos
  -- The limit fits at the end only.
  have hfit : Fit parameters [] (body ++ [.word "limit", .parameter parameters.length]) [] :=
    fit_append.mpr ⟨hbody.fits _ _, fit_limit hlimit _⟩
  refine ⟨body ++ [.word "limit", .parameter parameters.length], parameters, ?_, rfl, ?_,
    mapM_token?_append hbody.filled (filled_limit hlimit),
    fun before k after h => hfit.exists_numbered h, hlimit, _, rfl⟩
  · rw [hcount]
    exact (Select.lexemes_eq _ ▸ (Select.ofPlan plan).1.lexes_text).lexemes?
  · rw [hcount]
    refine numbers_append hbody.numbers ?_
    rw [Nat.zero_add]
    exact .refl _

/-- The four numbers of a box are not used in their order, and the limit comes last. -/
example : placeholders (Select.ofPlan ⟨some (.envelope ⟨.ofInt 1, .ofInt 2, .ofInt 3, .ofInt 4⟩),
    [⟨.path ["properties", "datetime"], .descending⟩], 10⟩).1.lexemes = [3, 1, 4, 2, 5, 6] := by
  decide

end SpatialCatalog.Sql
