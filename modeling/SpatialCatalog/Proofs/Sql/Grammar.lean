import SpatialCatalog.Number.Numeral

/-!
# Reading statements

The part of the grammar of SQL that is needed to read the condition of a search. A statement is
read in three steps.

* `lexemes?` cuts the text into lexemes. Words are read in either case; a parameter is a number
  after a dollar sign.
* `items?` resolves parentheses: a pair of them becomes one item, which holds what it encloses as
  expressions between commas.
* `expression?` reads items without parentheses by precedence. What binds least is cut first: `OR`,
  then `AND`, then a comparison, then casts.

The condition is what stands between `WHERE` and the next clause, outside all parentheses.
-/

namespace SpatialCatalog.Sql

/-! ### Lexemes -/

/-- Marks other than letters and digits. -/
inductive Mark where
  | opening
  | closing
  | comma
  | equal
  | atMost
  | atLeast
  | cast
  | path
  | brackets
deriving DecidableEq

/-- A lexeme. Words are in lower case. -/
inductive Lexeme where
  | word (w : String)
  | number (n : Nat)
  | parameter (n : Nat)
  | mark (m : Mark)
deriving DecidableEq

/-- Where the reader of lexemes is; words are held in reverse. -/
inductive LexState where
  | between
  | word (cs : List Char)
  | number (n : Nat)
  /-- After a dollar sign: a digit must follow. -/
  | dollar
  | parameter (n : Nat)
  /-- After the first character of a mark of two. -/
  | less
  | greater
  | colon
  | hash
  | bracket
deriving DecidableEq

/-- The reader's place, and the lexemes that it has completed, in reverse. -/
structure Lexer where
  state : LexState := .between
  lexemes : List Lexeme := []
deriving DecidableEq

namespace Lexer

/-- Complete a lexeme. -/
def emit (s : Lexer) (l : Lexeme) : Lexer := { lexemes := l :: s.lexemes }

/-- The characters that a word may begin with. -/
def isLetter (c : Char) : Bool := c.isAlpha || c = '_'

/-- Read a character that begins a lexeme, or a space. -/
def begin? (s : Lexer) (c : Char) : Option Lexer :=
  if isLetter c then some { s with state := .word [c.toLower] }
  else
    match Digit.ofChar? c with
    | some d => some { s with state := .number d }
    | none =>
      match c with
      | ' ' => some { s with state := .between }
      | '$' => some { s with state := .dollar }
      | '(' => some (s.emit (.mark .opening))
      | ')' => some (s.emit (.mark .closing))
      | ',' => some (s.emit (.mark .comma))
      | '=' => some (s.emit (.mark .equal))
      | '<' => some { s with state := .less }
      | '>' => some { s with state := .greater }
      | ':' => some { s with state := .colon }
      | '#' => some { s with state := .hash }
      | '[' => some { s with state := .bracket }
      | _ => none

/-- The word that is held. -/
def wordOf (cs : List Char) : Lexeme := .word (String.ofList cs.reverse)

/-- Read one character. A word, a number or a parameter ends at the first character that does not
belong to it, and no letter may follow a digit. -/
def step? (s : Lexer) (c : Char) : Option Lexer :=
  match s.state with
  | .between => s.begin? c
  | .word cs =>
    if isLetter c || (Digit.ofChar? c).isSome then some { s with state := .word (c.toLower :: cs) }
    else (s.emit (wordOf cs)).begin? c
  | .number n =>
    match Digit.ofChar? c with
    | some d => some { s with state := .number (10 * n + d) }
    | none => if isLetter c then none else (s.emit (.number n)).begin? c
  | .dollar => (Digit.ofChar? c).map fun d => { s with state := .parameter d }
  | .parameter n =>
    match Digit.ofChar? c with
    | some d => some { s with state := .parameter (10 * n + d) }
    | none => if isLetter c then none else (s.emit (.parameter n)).begin? c
  | .less => if c = '=' then some (s.emit (.mark .atMost)) else none
  | .greater => if c = '=' then some (s.emit (.mark .atLeast)) else none
  | .colon => if c = ':' then some (s.emit (.mark .cast)) else none
  | .hash => if c = '>' then some (s.emit (.mark .path)) else none
  | .bracket => if c = ']' then some (s.emit (.mark .brackets)) else none

/-- The lexemes in order, where the text may end. -/
def finish? (s : Lexer) : Option (List Lexeme) :=
  match s.state with
  | .between => some s.lexemes.reverse
  | .word cs => some (s.emit (wordOf cs)).lexemes.reverse
  | .number n => some (s.emit (.number n)).lexemes.reverse
  | .parameter n => some (s.emit (.parameter n)).lexemes.reverse
  | _ => none

end Lexer

/-- The lexemes of a text. -/
def lexemes? (text : String) : Option (List Lexeme) :=
  (text.toList.foldlM Lexer.step? {}).bind Lexer.finish?

/-! ### Expressions -/

/-- A comparison. -/
inductive Comparator where
  | equal
  | atMost
  | atLeast
deriving DecidableEq

/-- An expression of a statement. -/
inductive Expr where
  | constant (b : Bool)
  | number (n : Nat)
  | parameter (n : Nat)
  | column (name : String)
  | call (function : String) (arguments : List Expr)
  | cast (e : Expr) (type : String)
  | compare (op : Comparator) (a b : Expr)
  /-- A comparison with the elements of an array, one of which has to fulfil it. -/
  | compareAny (op : Comparator) (a array : Expr)
  | and (a b : Expr)
  | or (a b : Expr)

/-- A lexeme outside parentheses, or what a pair of parentheses encloses. -/
inductive Item where
  | lexeme (l : Lexeme)
  | group (es : List Expr)

namespace Item

/-- Whether an item is a word. -/
def isWord (w : String) : Item → Bool
  | lexeme (.word v) => v == w
  | _ => false

def isComma : Item → Bool
  | lexeme (.mark .comma) => true
  | _ => false

/-- The comparison that an item stands for. -/
def comparator? : Item → Option Comparator
  | lexeme (.mark .equal) => some .equal
  | lexeme (.mark .atMost) => some .atMost
  | lexeme (.mark .atLeast) => some .atLeast
  | _ => none

end Item

/-- Words that are no names. -/
def keywords : List String :=
  ["select", "from", "where", "group", "having", "window", "union", "order", "by", "limit",
    "offset", "fetch", "for", "as", "asc", "desc", "and", "or", "not", "any", "all", "null"]

namespace Expr

/-- The value or the call at the beginning of some items, and the further items. -/
def operand? : List Item → Option (Expr × List Item)
  | .lexeme (.number n) :: rest => some (number n, rest)
  | .lexeme (.parameter n) :: rest => some (parameter n, rest)
  | .group [e] :: rest => some (e, rest)
  | .lexeme (.word "true") :: rest => some (constant true, rest)
  | .lexeme (.word "false") :: rest => some (constant false, rest)
  | .lexeme (.word w) :: .group es :: rest =>
    if keywords.contains w then none else some (call w es, rest)
  | .lexeme (.word w) :: rest => if keywords.contains w then none else some (column w, rest)
  | _ => none

/-- Read casts after an expression. -/
def casts? (e : Expr) : List Item → Option Expr
  | [] => some e
  | .lexeme (.mark .cast) :: .lexeme (.word type) :: rest => casts? (cast e type) rest
  | _ => none

/-- Read a value with its casts. -/
def value? (items : List Item) : Option Expr :=
  (operand? items).bind fun (e, rest) => casts? e rest

/-- The right side of a comparison: a value, or the elements of an array. -/
def compared? (op : Comparator) (a : Expr) : List Item → Option Expr
  | [.lexeme (.word "any"), .group [array]] => some (compareAny op a array)
  | items => (value? items).map (compare op a)

/-- Read a comparison, or a value alone. Comparisons do not associate. -/
def comparison? (items : List Item) : Option Expr :=
  match items.splitOnP (·.comparator?.isSome), items.filterMap Item.comparator? with
  | [left], [] => value? left
  | [left, right], [op] => (value? left).bind fun a => compared? op a right
  | _, _ => none

/-- Put expressions together from the left. -/
def join? (op : Expr → Expr → Expr) : List Expr → Option Expr
  | [] => none
  | e :: es => some (es.foldl op e)

/-- Read comparisons between `AND`s. -/
def conjunction? (items : List Item) : Option Expr :=
  ((items.splitOnP (·.isWord "and")).mapM comparison?).bind (join? and)

end Expr

/-- Read conjunctions between `OR`s. -/
def expression? (items : List Item) : Option Expr :=
  ((items.splitOnP (·.isWord "or")).mapM Expr.conjunction?).bind (Expr.join? .or)

/-! ### Parentheses -/

/-- Read expressions between commas; there may be none. -/
def arguments? (items : List Item) : Option (List Expr) :=
  if items.isEmpty then some [] else (items.splitOnP (·.isComma)).mapM expression?

/-- The items inside the innermost open parentheses, and those before each open one, all in
reverse. -/
structure Grouper where
  items : List Item := []
  outer : List (List Item) := []

/-- Read one lexeme. -/
def Grouper.step? (g : Grouper) : Lexeme → Option Grouper
  | .mark .opening => some { items := [], outer := g.items :: g.outer }
  | .mark .closing =>
    match g.outer with
    | [] => none
    | items :: outer => (arguments? g.items.reverse).map fun es => ⟨.group es :: items, outer⟩
  | l => some { g with items := .lexeme l :: g.items }

/-- The items of a sequence of lexemes. -/
def items? (ls : List Lexeme) : Option (List Item) :=
  (ls.foldlM Grouper.step? {}).bind fun g =>
    if g.outer.isEmpty then some g.items.reverse else none

/-! ### The condition of a search -/

/-- The words that begin the clauses after a condition. -/
def laterClauses : List String :=
  ["group", "having", "window", "union", "order", "limit", "offset", "fetch", "for"]

/-- The condition among the items of a statement, if there is one. -/
def conditionOf? (items : List Item) : Option (Option Expr) :=
  match items.dropWhile fun i => !i.isWord "where" with
  | [] => some none
  | _ :: rest =>
    (expression? (rest.takeWhile fun i => !laterClauses.any i.isWord)).map some

/-- Read the condition of a statement, if it has one. -/
def condition? (text : String) : Option (Option Expr) :=
  (lexemes? text).bind fun ls => (items? ls).bind conditionOf?

/-- `AND` binds tighter than `OR`, and parentheses bind tightest. -/
example : condition? "SELECT id FROM items WHERE TRUE OR id = ANY($2) AND (FALSE or $1 <= 3)" =
    some (some (.or (.constant true) (.and (.compareAny .equal (.column "id") (.parameter 2))
      (.or (.constant false) (.compare .atMost (.parameter 1) (.number 3)))))) := by
  rfl

end SpatialCatalog.Sql
