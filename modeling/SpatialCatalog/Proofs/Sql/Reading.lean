import SpatialCatalog.Proofs.Sql.Lexing
import SpatialCatalog.Proofs.Success

/-!
# How the condition of a search is read

A condition is written so that it is read as it is meant: lists are in parentheses, and everything
else between two words binds tighter than the words. `Condition.expr` is the expression that a
condition stands for, and `Select.condition?_text` says that the statement of a search is read as
having the expression of its condition.
-/

namespace SpatialCatalog.Sql

/-! ### What a condition stands for -/

namespace Condition

/-- A number of the box around the geometry of a row. -/
def bound (function : String) : Expr := .call function [.column "geometry"]

/-- The geometry made from a parameter. -/
def operand (n : Nat) : Expr :=
  .call "st_setsrid"
    [.call "st_geomfromgeojson" [.cast (.parameter n) "text"], .number referenceSystem]

/-- What is between the parentheses around an envelope. -/
def envelopeExpr (minX minY maxX maxY : Nat) : Expr :=
  .and (.and (.and (.compare .atMost (bound "st_xmin") (.parameter maxX))
    (.compare .atLeast (bound "st_xmax") (.parameter minX)))
    (.compare .atMost (bound "st_ymin") (.parameter maxY)))
    (.compare .atLeast (bound "st_ymax") (.parameter minY))

mutual

/-- The expression of a condition. -/
def expr : Condition → Expr
  | all [] => .constant true
  | all (c :: cs) => (exprs cs).foldl .and c.expr
  | any [] => .constant false
  | any (c :: cs) => (exprs cs).foldl .or c.expr
  | oneOf column values => .compareAny .equal (.column column.name) (.parameter values)
  | envelope minX minY maxX maxY => envelopeExpr minX minY maxX maxY
  | intersects geometry => .call "st_intersects" [.column "geometry", operand geometry]

def exprs : List Condition → List Expr
  | [] => []
  | c :: cs => c.expr :: exprs cs

end

end Condition

/-! ### Parentheses -/

/-- Lexemes that are read as items, whatever is around them. -/
def Groups (ls : List Lexeme) (is : List Item) : Prop :=
  ∀ g : Grouper, ls.foldlM Grouper.step? g = some { g with items := is.reverse ++ g.items }

namespace Groups

variable {ls ms : List Lexeme} {is js : List Item}

theorem nil : Groups [] [] := fun _ => rfl

theorem append (h : Groups ls is) (h' : Groups ms js) : Groups (ls ++ ms) (is ++ js) := fun g => by
  rw [List.foldlM_append, h, Option.bind_eq_bind, Option.bind_some, h', List.reverse_append,
    List.append_assoc]

theorem word (w : String) : Groups [.word w] [.lexeme (.word w)] := fun _ => rfl

/-- A pair of parentheses becomes one item. -/
theorem group {es : List Expr} (h : Groups ls is) (hargs : arguments? is = some es) :
    Groups (.mark .opening :: ls ++ [.mark .closing]) [.group es] := fun g => by
  have hopening : Grouper.step? g (.mark .opening) = some ⟨[], g.items :: g.outer⟩ := rfl
  rw [List.cons_append, List.foldlM_cons, hopening, Option.bind_eq_bind, Option.bind_some,
    List.foldlM_append, h]
  simp [Grouper.step?, hargs]

theorem items? (h : Groups ls is) : items? ls = some is := by
  rw [Sql.items?, h]
  simp

end Groups

/-! ### Expressions -/

/-- Whether an item stands between expressions, or begins a clause. -/
def Item.separates : Item → Bool
  | lexeme (.word w) => w == "and" || w == "or" || laterClauses.contains w
  | i => i.isComma

/-- Items that are read as one comparison or one value. -/
structure Compares (is : List Item) (e : Expr) : Prop where
  unseparated : ∀ i ∈ is, i.separates = false
  comparison : Expr.comparison? is = some e

/-- Further items, each list of them after a word. -/
def itemsAfter (word : String) (jss : List (List Item)) : List Item :=
  jss.flatMap (.lexeme (.word word) :: ·)

theorem Item.isComma_of_separates {i : Item} (h : i.separates = false) : i.isComma = false := by
  unfold separates at h
  split at h
  · rfl
  · exact h

theorem Item.isWord_of_separates {i : Item} {w : String} (h : i.separates = false)
    (hw : (Item.lexeme (.word w)).separates) : i.isWord w = false := by
  unfold isWord
  split
  next v =>
    rw [beq_eq_false_iff_ne]
    rintro rfl
    rw [hw] at h
    cases h
  next => rfl

theorem splitOnP_itemsAfter {word : String} {is : List Item} {jss : List (List Item)}
    (his : ∀ i ∈ is, i.isWord word = false) (hjss : ∀ js ∈ jss, ∀ j ∈ js, j.isWord word = false) :
    (is ++ itemsAfter word jss).splitOnP (·.isWord word) = is :: jss := by
  induction jss generalizing is with
  | nil => rw [itemsAfter, List.flatMap_nil, List.append_nil, List.splitOnP_eq_singleton his]
  | cons js jss ih =>
    obtain ⟨hjs, hjss⟩ := List.forall_mem_cons.mp hjss
    rw [itemsAfter, List.flatMap_cons, List.cons_append,
      List.splitOnP_append_cons_of_forall_mem his _ (by exact beq_self_eq_true word)]
    exact congrArg (is :: ·) (ih hjs hjss)

theorem arguments?_expression {is : List Item} {e : Expr} (hcomma : ∀ i ∈ is, i.isComma = false)
    (he : expression? is = some e) : arguments? is = some [e] := by
  have his : is ≠ [] := by
    rintro rfl
    cases he
  simp [arguments?, his, List.splitOnP_eq_singleton hcomma, he]

section

variable {is : List Item} {jss : List (List Item)} {e : Expr} {es : List Expr}

theorem Compares.isWord (h : Compares is e) {w : String} (hw : (Item.lexeme (.word w)).separates) :
    ∀ i ∈ is, i.isWord w = false := fun i hi => Item.isWord_of_separates (h.unseparated i hi) hw

theorem unseparated_of_compares (h : List.Forall₂ Compares jss es) :
    ∀ js ∈ jss, ∀ j ∈ js, j.separates = false := by
  induction h with
  | nil => simp
  | cons h _ ih => exact List.forall_mem_cons.mpr ⟨h.unseparated, ih⟩

theorem isWord_of_compares (h : List.Forall₂ Compares jss es) {w : String}
    (hw : (Item.lexeme (.word w)).separates) : ∀ js ∈ jss, ∀ j ∈ js, j.isWord w = false :=
  fun js hjs j hj => Item.isWord_of_separates (unseparated_of_compares h js hjs j hj) hw

theorem isComma_itemsAfter (word : String) (h : Compares is e) (hs : List.Forall₂ Compares jss es) :
    ∀ i ∈ is ++ itemsAfter word jss, i.isComma = false := by
  intro i hi
  obtain hi | hi := List.mem_append.mp hi
  · exact Item.isComma_of_separates (h.unseparated i hi)
  obtain ⟨js, hjs, hi⟩ := List.mem_flatMap.mp hi
  obtain rfl | hi := List.mem_cons.mp hi
  · rfl
  · exact Item.isComma_of_separates (unseparated_of_compares hs js hjs i hi)

theorem conjunction?_itemsAfter (h : Compares is e) (hs : List.Forall₂ Compares jss es) :
    Expr.conjunction? (is ++ itemsAfter "and" jss) = some (es.foldl .and e) := by
  have hes : jss.mapM Expr.comparison? = some es :=
    mapM_eq_some_iff.mpr (hs.imp fun _ _ => Compares.comparison)
  rw [Expr.conjunction?, splitOnP_itemsAfter (h.isWord rfl) (isWord_of_compares hs rfl)]
  simp [h.comparison, hes, Expr.join?]

theorem Compares.conjunction? (h : Compares is e) : Expr.conjunction? is = some e := by
  simpa [itemsAfter] using conjunction?_itemsAfter h .nil

theorem expression?_and (h : Compares is e) (hs : List.Forall₂ Compares jss es) :
    expression? (is ++ itemsAfter "and" jss) = some (es.foldl .and e) := by
  -- What is joined by `AND` is one conjunction: no `OR` is outside parentheses.
  have hor : ∀ i ∈ is ++ itemsAfter "and" jss, i.isWord "or" = false := by
    intro i hi
    obtain hi | hi := List.mem_append.mp hi
    · exact h.isWord rfl i hi
    obtain ⟨js, hjs, hi⟩ := List.mem_flatMap.mp hi
    obtain rfl | hi := List.mem_cons.mp hi
    · rfl
    · exact isWord_of_compares hs rfl js hjs i hi
  rw [expression?, List.splitOnP_eq_singleton hor]
  simp [conjunction?_itemsAfter h hs, Expr.join?]

theorem expression?_or (h : Compares is e) (hs : List.Forall₂ Compares jss es) :
    expression? (is ++ itemsAfter "or" jss) = some (es.foldl .or e) := by
  have hes : jss.mapM Expr.conjunction? = some es :=
    mapM_eq_some_iff.mpr (hs.imp fun _ _ => Compares.conjunction?)
  rw [expression?, splitOnP_itemsAfter (h.isWord rfl) (isWord_of_compares hs rfl)]
  simp [h.conjunction?, hes, Expr.join?]

theorem Compares.expression? (h : Compares is e) : expression? is = some e := by
  simpa [itemsAfter] using expression?_and h .nil

/-- What is in parentheses is one value. -/
theorem compares_group (e : Expr) : Compares [.group [e]] e where
  unseparated := by simp [Item.separates, Item.isComma]
  comparison := rfl

end

/-! ### Conditions -/

namespace Condition

/-- The items of a condition. -/
def items : Condition → List Item
  | all [] => [.lexeme (.word "true")]
  | all (c :: cs) => [.group [(all (c :: cs)).expr]]
  | any [] => [.lexeme (.word "false")]
  | any (c :: cs) => [.group [(any (c :: cs)).expr]]
  | oneOf column values =>
    [.lexeme (.word column.name), .lexeme (.mark .equal), .lexeme (.word "any"),
      .group [.parameter values]]
  | envelope minX minY maxX maxY => [.group [envelopeExpr minX minY maxX maxY]]
  | intersects geometry =>
    [.lexeme (.word "st_intersects"), .group [.column "geometry", operand geometry]]

theorem compares_items (c : Condition) : Compares c.items c.expr := by
  cases c with
  | all cs => cases cs with
    | nil => exact ⟨by simp [items, Item.separates, laterClauses], rfl⟩
    | cons c cs => exact compares_group _
  | any cs => cases cs with
    | nil => exact ⟨by simp [items, Item.separates, laterClauses], rfl⟩
    | cons c cs => exact compares_group _
  | oneOf column n =>
    exact ⟨by cases column <;>
        simp [items, Item.separates, Item.isComma, Column.name, laterClauses],
      by cases column <;> rfl⟩
  | envelope minX minY maxX maxY => exact compares_group _
  | intersects n => exact ⟨by simp [items, Item.separates, Item.isComma, laterClauses], rfl⟩

theorem compares_exprs : ∀ cs : List Condition,
    List.Forall₂ Compares (cs.map items) (exprs cs)
  | [] => .nil
  | c :: cs => .cons (compares_items c) (compares_exprs cs)

mutual

theorem groups_lexemes : ∀ c : Condition, Groups c.lexemes c.items
  | all [] => .word _
  | all (c :: cs) =>
    .group ((groups_lexemes c).append (groups_lexemesAfter "and" cs))
      (arguments?_expression (isComma_itemsAfter _ (compares_items c) (compares_exprs cs))
        (expression?_and (compares_items c) (compares_exprs cs)))
  | any [] => .word _
  | any (c :: cs) =>
    .group ((groups_lexemes c).append (groups_lexemesAfter "or" cs))
      (arguments?_expression (isComma_itemsAfter _ (compares_items c) (compares_exprs cs))
        (expression?_or (compares_items c) (compares_exprs cs)))
  | oneOf _ _ => fun _ => rfl
  | envelope _ _ _ _ => fun _ => rfl
  | intersects _ => fun _ => rfl

theorem groups_lexemesAfter (word : String) :
    ∀ cs : List Condition, Groups (lexemesAfter word cs) (itemsAfter word (cs.map items))
  | [] => .nil
  | c :: cs => ((Groups.word word).append (groups_lexemes c)).append (groups_lexemesAfter word cs)

end

end Condition

/-! ### Statements -/

/-- A lexeme that is no parenthesis and begins no condition. -/
def Lexeme.isLater : Lexeme → Bool
  | word w => w != "where"
  | mark .opening => false
  | mark .closing => false
  | _ => true

theorem Groups.lexemes {ls : List Lexeme} (h : ∀ l ∈ ls, l.isLater) :
    Groups ls (ls.map .lexeme) := by
  induction ls with
  | nil => exact .nil
  | cons l ls ih =>
    obtain ⟨hl, hls⟩ := List.forall_mem_cons.mp h
    have hstep : Groups [l] [.lexeme l] := by
      intro g
      cases l with
      | mark m => cases m <;> first | rfl | cases hl
      | _ => rfl
    exact hstep.append (ih hls)

/-- The lexemes of what rows are ordered by. -/
def OrderField.lexemes : OrderField → List Lexeme
  | column c => [.word c.name]
  | path keys =>
    [.word "data", .mark .path, .parameter keys, .mark .cast, .word "text", .mark .brackets]

theorem OrderField.lexes_text (f : OrderField) : Lexes f.text f.lexemes := by
  cases f with
  | column c => cases c <;> exact .of_word (by decide +kernel)
  | path n =>
    have hdata : Completes "data #> " [.word "data", .mark .path] := .of_run (by decide +kernel)
    have hcast : Completes "::text[]" [.mark .cast, .word "text", .mark .brackets] :=
      .of_run (by decide +kernel)
    exact ((hdata.append_lexes (lexes_placeholder n)).append_completes hcast
      ⟨_, _, rfl, rfl, rfl⟩).lexes

namespace OrderKey

/-- The lexemes of a key of an order. -/
def lexemes (k : OrderKey) : List Lexeme :=
  k.field.lexemes ++ match k.direction with
    | .ascending => [.word "asc"]
    | .descending => [.word "desc"]

theorem lexes_text (k : OrderKey) : Lexes k.text k.lexemes := by
  obtain ⟨field, direction⟩ := k
  cases direction with
  | ascending =>
    have hword : Lexes " ASC" [.word "asc"] := .of_word (by decide +kernel)
    exact field.lexes_text.append_lexes hword ⟨_, _, rfl, rfl, rfl⟩
  | descending =>
    have hword : Lexes " DESC" [.word "desc"] := .of_word (by decide +kernel)
    exact field.lexes_text.append_lexes hword ⟨_, _, rfl, rfl, rfl⟩

theorem isLater_lexemes (k : OrderKey) : ∀ l ∈ k.lexemes, l.isLater := by
  obtain ⟨field, direction⟩ := k
  cases field with
  | column c =>
    cases c <;> cases direction <;>
      simp [lexemes, OrderField.lexemes, Lexeme.isLater, Column.name]
  | path n => cases direction <;> simp [lexemes, OrderField.lexemes, Lexeme.isLater]

/-- The lexemes of keys, with commas between them. -/
def lexemesOfAll : List OrderKey → List Lexeme
  | [] => []
  | [k] => k.lexemes
  | k :: ks => k.lexemes ++ .mark .comma :: lexemesOfAll ks

theorem lexes_intercalate : ∀ ks : List OrderKey, ks ≠ [] →
    Lexes (String.intercalate ", " (ks.map text)) (lexemesOfAll ks)
  | [k], _ => by simpa [lexemesOfAll] using k.lexes_text
  | k :: k' :: ks, _ => by
    have hcomma : Completes ", " [.mark .comma] := .of_run (by decide +kernel)
    have hks := lexes_intercalate (k' :: ks) (List.cons_ne_nil _ _)
    have h := (k.lexes_text.append_completes hcomma ⟨_, _, rfl, rfl, rfl⟩).append_lexes hks
    rw [List.map_cons, List.map_cons, String.intercalate_cons_cons]
    simpa [lexemesOfAll] using h

theorem isLater_lexemesOfAll : ∀ ks : List OrderKey, ∀ l ∈ lexemesOfAll ks, l.isLater
  | [] => by simp [lexemesOfAll]
  | [k] => k.isLater_lexemes
  | k :: k' :: ks => by
    intro l hl
    obtain hl | hl := List.mem_append.mp hl
    · exact k.isLater_lexemes l hl
    obtain rfl | hl := List.mem_cons.mp hl
    · rfl
    · exact isLater_lexemesOfAll (k' :: ks) l hl

end OrderKey

namespace Select

/-- The lexemes of what a search selects, and from where. -/
def headLexemes : List Lexeme :=
  [.word "select", .word "id", .mark .comma, .word "collection", .mark .comma, .word "data",
    .mark .comma, .word "st_asgeojson", .mark .opening, .word "geometry", .mark .comma,
    .number renderedDecimals, .mark .closing, .word "as", .word "geometry", .word "from",
    .word "items"]

theorem lexes_head : Lexes head headLexemes := by
  have hrun : Lexer.run? {} head =
      some ⟨.word "items".toList.reverse, headLexemes.reverse.tail⟩ := by
    decide +kernel
  exact .of_run hrun (.word _ _)

/-- The items of what a search selects. -/
def headItems : List Item :=
  [.lexeme (.word "select"), .lexeme (.word "id"), .lexeme (.mark .comma),
    .lexeme (.word "collection"), .lexeme (.mark .comma), .lexeme (.word "data"),
    .lexeme (.mark .comma), .lexeme (.word "st_asgeojson"),
    .group [.column "geometry", .number renderedDecimals], .lexeme (.word "as"),
    .lexeme (.word "geometry"), .lexeme (.word "from"), .lexeme (.word "items")]

theorem groups_head : Groups headLexemes headItems := fun _ => rfl

/-- The lexemes of the clauses after the condition. -/
def laterLexemes (s : Select) : List Lexeme :=
  (if s.order.isEmpty then []
    else .word "order" :: .word "by" :: OrderKey.lexemesOfAll s.order) ++
    [.word "limit", .parameter s.limit]

theorem isLater_laterLexemes (s : Select) : ∀ l ∈ s.laterLexemes, l.isLater := by
  intro l hl
  obtain hl | hl := List.mem_append.mp hl
  · split at hl
    · cases hl
    · obtain rfl | hl := List.mem_cons.mp hl
      · rfl
      obtain rfl | hl := List.mem_cons.mp hl
      · rfl
      · exact OrderKey.isLater_lexemesOfAll _ l hl
  · obtain rfl | rfl : l = .word "limit" ∨ l = .parameter s.limit := by simpa using hl
    · rfl
    · rfl

/-- What comes after the condition, after any text. -/
theorem lexes_later (s : Select) {a : String} {ls : List Lexeme} (h : Lexes a ls) :
    Lexes (a ++ (if s.order.isEmpty then ""
      else " ORDER BY " ++ String.intercalate ", " (s.order.map OrderKey.text)) ++
      " LIMIT " ++ placeholder s.limit) (ls ++ s.laterLexemes) := by
  have hlimit : Completes " LIMIT " [.word "limit"] := .of_run (by decide +kernel)
  have horder : Completes " ORDER BY " [.word "order", .word "by"] := .of_run (by decide +kernel)
  unfold laterLexemes
  split
  next =>
    have h' := (h.append_completes hlimit ⟨_, _, rfl, rfl, rfl⟩).append_lexes
      (lexes_placeholder s.limit)
    simpa using h'
  next hne =>
    have hkeys := OrderKey.lexes_intercalate s.order (by simpa using hne)
    have h' := (h.append_completes horder ⟨_, _, rfl, rfl, rfl⟩).append_lexes hkeys
    have h'' := (h'.append_completes hlimit ⟨_, _, rfl, rfl, rfl⟩).append_lexes
      (lexes_placeholder s.limit)
    simpa [← String.append_assoc] using h''

/-- The clauses after the condition begin with a word that ends it. -/
theorem exists_laterLexemes (s : Select) :
    ∃ w ls, s.laterLexemes = .word w :: ls ∧ laterClauses.contains w := by
  unfold laterLexemes
  split
  · exact ⟨_, _, rfl, rfl⟩
  · exact ⟨_, _, rfl, rfl⟩

/-- The lexemes of a search. -/
def lexemes (s : Select) : List Lexeme :=
  headLexemes ++ (match s.condition with
    | none => []
    | some c => .word "where" :: c.lexemes) ++ s.laterLexemes

theorem lexes_text (s : Select) : Lexes s.text s.lexemes := by
  obtain ⟨condition, order, limit⟩ := s
  cases condition with
  | none =>
    have h := lexes_later ⟨none, order, limit⟩ lexes_head
    simpa [text, lexemes] using h
  | some c =>
    have hwhere : Completes " WHERE " [.word "where"] := .of_run (by decide +kernel)
    have hc := (lexes_head.append_completes hwhere ⟨_, _, rfl, rfl, rfl⟩).append_lexes c.lexes_text
    have h := lexes_later ⟨some c, order, limit⟩ hc
    simpa [text, lexemes, String.append_assoc] using h

/-- The items of a search. -/
def items (s : Select) : List Item :=
  headItems ++ (match s.condition with
    | none => []
    | some c => .lexeme (.word "where") :: c.items) ++ s.laterLexemes.map .lexeme

theorem groups_lexemes (s : Select) : Groups s.lexemes s.items := by
  refine (groups_head.append ?_).append (Groups.lexemes s.isLater_laterLexemes)
  cases s.condition with
  | none => exact .nil
  | some c => exact (Groups.word _).append c.groups_lexemes

theorem isWord_headItems : ∀ i ∈ headItems, !i.isWord "where" := by
  simp [headItems, Item.isWord]

theorem isWord_laterItems (s : Select) :
    ∀ i ∈ s.laterLexemes.map Item.lexeme, !i.isWord "where" := by
  intro i hi
  obtain ⟨l, hl, rfl⟩ := List.mem_map.mp hi
  have hlater := s.isLater_laterLexemes l hl
  cases l with
  | word w => exact hlater
  | _ => rfl

/-- Of the items between `WHERE` and the next clause, none begins a clause. -/
theorem takeWhile_items (s : Select) (c : Condition) :
    (c.items ++ s.laterLexemes.map Item.lexeme).takeWhile (fun i => !laterClauses.any i.isWord) =
      c.items := by
  obtain ⟨w, ls, hls, hw⟩ := s.exists_laterLexemes
  have hitems : ∀ i ∈ c.items, !laterClauses.any i.isWord := by
    intro i hi
    have hseparates : ∀ v ∈ laterClauses, i.isWord v = false := fun v hv =>
      c.compares_items.isWord (by simp [Item.separates, hv]) i hi
    simpa using hseparates
  have hword : (laterClauses.any (Item.lexeme (.word w)).isWord) = true :=
    List.any_eq_true.mpr ⟨w, by simpa using hw, beq_self_eq_true w⟩
  rw [List.takeWhile_append_of_pos hitems, hls, List.map_cons,
    List.takeWhile_cons_of_neg (by simp [hword]), List.append_nil]

/-- **The statement of a search is read as having the expression of its condition**, and as having
no condition where it has none. -/
theorem condition?_text (s : Select) :
    condition? s.text = some (s.condition.map Condition.expr) := by
  rw [condition?, s.lexes_text.lexemes?, Option.bind_some, s.groups_lexemes.items?,
    Option.bind_some, conditionOf?, items, List.append_assoc,
    List.dropWhile_append_of_pos isWord_headItems]
  cases s.condition with
  | none =>
    -- No `WHERE` is left, as the later clauses have none either.
    rw [List.nil_append, List.dropWhile_eq_nil_iff.mpr s.isWord_laterItems]
    rfl
  | some c =>
    change (expression? ((c.items ++ s.laterLexemes.map Item.lexeme).takeWhile
      fun i => !laterClauses.any i.isWord)).map some = some (some c.expr)
    rw [takeWhile_items, c.compares_items.expression?]
    rfl

end Select

end SpatialCatalog.Sql
