import SpatialCatalog.Proofs.Sql.Grammar
import SpatialCatalog.Sql.Connection

/-!
# A server that keeps the tables

`Server.tables` keeps the two tables of the schema. It reads the text of a statement as a `Command`,
and runs it with the arguments of the statement, which are numbered from one. It answers with the
rows that are found, or with the number of rows that were changed.

* A row has a value in every column of its table, of the type of the column.
* No two rows have the same key; an insertion of a key that is taken changes nothing.
* A row of the items needs the row of its collection, and goes with it.

Of geometries it knows only that they are made from a text and are given a reference system, so a
geometry is kept as its text.
-/

namespace SpatialCatalog.Sql

/-! ### Commands -/

/-- A table of the schema. -/
inductive Table where
  | collections
  | items
deriving DecidableEq

/-- A statement that has been read. -/
inductive Command where
  /-- One row for each row where the condition holds. -/
  | select (t : Table) (condition : Expr)
  /-- A row with values in some columns, unless the columns in conflict have the values of another
  row. -/
  | insert (t : Table) (columns : List String) (values : List Expr) (conflict : List String)
  | update (t : Table) (assignments : List (String × Expr)) (condition : Expr)
  | delete (t : Table) (condition : Expr)

/-- A table from its name. -/
def Table.ofName? : String → Option Table
  | "collections" => some collections
  | "items" => some items
  | _ => none

namespace Command

/-- The names of columns in parentheses. -/
def columns? (es : List Expr) : Option (List String) :=
  es.mapM fun
    | .column name => some name
    | _ => none

/-- A column, and the value that it is set to. -/
def assignment? : List Item → Option (String × Expr)
  | .lexeme (.word name) :: .lexeme (.mark .equal) :: value => (Expr.value? value).map (name, ·)
  | _ => none

/-- Read a statement with one of four beginnings. -/
def ofItems? : List Item → Option Command
  | .lexeme (.word "select") :: .lexeme (.number 1) :: .lexeme (.word "from") ::
      .lexeme (.word name) :: .lexeme (.word "where") :: condition =>
    (Table.ofName? name).bind fun t => (expression? condition).map (select t)
  | [.lexeme (.word "insert"), .lexeme (.word "into"), .lexeme (.word name), .group columns,
      .lexeme (.word "values"), .group values, .lexeme (.word "on"), .lexeme (.word "conflict"),
      .group conflict, .lexeme (.word "do"), .lexeme (.word "nothing")] =>
    (Table.ofName? name).bind fun t => (columns? columns).bind fun columns =>
      (columns? conflict).map (insert t columns values)
  | .lexeme (.word "update") :: .lexeme (.word name) :: .lexeme (.word "set") :: rest =>
    let assignments := (rest.takeWhile fun i => !i.isWord "where").splitOnP (·.isComma)
    (Table.ofName? name).bind fun t => (assignments.mapM assignment?).bind fun assignments =>
      (expression? (rest.dropWhile fun i => !i.isWord "where").tail).map (update t assignments)
  | .lexeme (.word "delete") :: .lexeme (.word "from") :: .lexeme (.word name) ::
      .lexeme (.word "where") :: condition =>
    (Table.ofName? name).bind fun t => (expression? condition).map (delete t)
  | _ => none

/-- Read the text of a statement. -/
def ofText? (text : String) : Option Command :=
  (lexemes? text).bind fun ls => (items? ls).bind ofItems?

end Command

/-! ### Values -/

/-- A value in a row or of an expression. A geometry is kept as the text that it was made from, with
the number of its reference system. -/
inductive Datum where
  | text (s : String)
  | document (j : Json)
  | geometry (text : String) (system : Nat)
  | number (n : Nat)
  | truth (b : Bool)

/-- The values of a row by column. -/
abbrev TableRow := List (String × Datum)

namespace Datum

def ofArgument? : Argument → Option Datum
  | .text s => some (text s)
  | .document j => some (document j)
  | .search _ => none

/-- Whether two texts are the same. Nothing else is compared. -/
def same : Datum → Datum → Bool
  | text s, text t => s = t
  | _, _ => false

/-- Cast a value; texts are texts already. -/
def cast? : Datum → String → Option Datum
  | text s, "text" => some (text s)
  | _, _ => none

/-- Call a function. What is made from a text has no reference system yet. -/
def call? : String → List Datum → Option Datum
  | "st_geomfromgeojson", [text s] => some (geometry s 0)
  | "st_setsrid", [geometry s _, number n] => some (geometry s n)
  | _, _ => none

def and? : Datum → Datum → Option Datum
  | truth a, truth b => some (truth (a && b))
  | _, _ => none

end Datum

namespace Expr

variable (row : TableRow) (arguments : List Argument)

mutual

/-- The value of an expression in a row, if it has one. Arguments are numbered from one. -/
def datum? : Expr → Option Datum
  | constant b => some (.truth b)
  | number n => some (.number n)
  | parameter 0 => none
  | parameter (n + 1) => arguments[n]?.bind Datum.ofArgument?
  | column name => row.lookup name
  | call function es => (data? es).bind (Datum.call? function)
  | cast e type => e.datum?.bind (·.cast? type)
  | compare .equal a b => a.datum?.bind fun x => b.datum?.map fun y => .truth (x.same y)
  | and a b => a.datum?.bind fun x => b.datum?.bind x.and?
  | _ => none

def data? : List Expr → Option (List Datum)
  | [] => some []
  | e :: es => e.datum?.bind fun x => (data? es).map (x :: ·)

end

/-- Whether a condition is true in a row. -/
def holds (e : Expr) : Bool :=
  match e.datum? row arguments with
  | some (.truth b) => b
  | _ => false

end Expr

/-! ### Tables -/

namespace Table

/-- The columns of a table, with what may stand in them. Geometries have one reference system. -/
def columns : Table → List (String × (Datum → Bool))
  | collections => [("id", isText), ("data", isDocument)]
  | items => [("id", isText), ("collection", isText), ("data", isDocument), ("geometry", isPlaced)]
where
  isText : Datum → Bool
    | .text _ => true
    | _ => false
  isDocument : Datum → Bool
    | .document _ => true
    | _ => false
  isPlaced : Datum → Bool
    | .geometry _ system => system = referenceSystem
    | _ => false

/-- The columns that tell the rows of a table apart. -/
def key : Table → List String
  | collections => ["id"]
  | items => ["collection", "id"]

/-- The row of a table with values by column. There must be one for each column. -/
def row? (t : Table) (values : List (String × Datum)) : Option TableRow :=
  t.columns.mapM fun (name, fits) => ((values.lookup name).filter fits).map (name, ·)

end Table

/-- Whether a column of a row and a column of another have the same text. -/
def sameIn (a : String) (row : TableRow) (b : String) (other : TableRow) : Bool :=
  match row.lookup a, other.lookup b with
  | some x, some y => x.same y
  | _, _ => false

/-- Whether two rows of a table have the same key. -/
def Table.sameKey (t : Table) (row other : TableRow) : Bool :=
  t.key.all fun name => sameIn name row name other

/-- Whether a row of the items belongs to a row of the collections. -/
def refersTo (item collection : TableRow) : Bool := sameIn "collection" item "id" collection

/-- The rows of the two tables. -/
structure Database where
  collections : List TableRow
  items : List TableRow

namespace Database

def empty : Database := ⟨[], []⟩

def rows (db : Database) : Table → List TableRow
  | .collections => db.collections
  | .items => db.items

def setRows (db : Database) (rows : List TableRow) : Table → Database
  | .collections => { db with collections := rows }
  | .items => { db with items := rows }

/-- Whether a row may be added to a table, where the rows are that it refers to. -/
def refers (db : Database) (row : TableRow) : Table → Bool
  | .collections => true
  | .items => db.collections.any (refersTo row)

/-- What goes with rows that are deleted from a table. -/
def cascade (db : Database) (gone : List TableRow) : Table → Database
  | .collections => { db with items := db.items.filter fun item => !gone.any (refersTo item) }
  | .items => db

end Database

/-! ### Execution -/

/-- What is answered to a statement that is refused when it is executed. -/
def Reply.refusal : Reply := { refused := some .execute }

namespace Command

variable (arguments : List Argument)

/-- The row with new values in some columns. -/
def assigned? (t : Table) (assignments : List (String × Expr)) (row : TableRow) :
    Option TableRow :=
  (assignments.mapM fun (a : String × Expr) => (a.2.datum? row arguments).map (a.1, ·)).bind
    fun values => t.row? (values ++ row)

/-- Execute a command. A conflict is recognized by the key of a table only, and keys are not
assigned to. -/
def execute : Command → Database → Reply × Database
  | select t condition, db =>
    let found := (db.rows t).filter (condition.holds · arguments)
    ({ columns := [⟨"?column?", .other "int4"⟩], rows := found.map fun _ => [.other] }, db)
  | insert t columns values conflict, db =>
    if conflict ≠ t.key then (.refusal, db)
    else
      match (Expr.data? [] arguments values).bind fun data => t.row? (columns.zip data) with
      | none => (.refusal, db)
      | some row =>
        if (db.rows t).any (t.sameKey row) then ({ affected := 0 }, db)
        else if db.refers row t then ({ affected := 1 }, db.setRows (db.rows t ++ [row]) t)
        else (.refusal, db)
  | update t assignments condition, db =>
    if assignments.any (t.key.contains ·.1) then (.refusal, db)
    else
      let updated := (db.rows t).mapM fun row =>
        if condition.holds row arguments then assigned? arguments t assignments row else some row
      match updated with
      | none => (.refusal, db)
      | some rows =>
        ({ affected := (db.rows t).countP (condition.holds · arguments) }, db.setRows rows t)
  | delete t condition, db =>
    let (gone, kept) := (db.rows t).partition (condition.holds · arguments)
    ({ affected := gone.length }, (db.setRows kept t).cascade gone t)

end Command

/-- The server that keeps the tables. It refuses to prepare what it cannot read. -/
def Server.tables : Server Database where
  respond
    | db, .batch _ => ({}, db)
    | db, .statement s =>
      match Command.ofText? s.text with
      | none => ({ refused := some .prepare }, db)
      | some command => command.execute s.arguments db

/-! ### The statements of the catalog -/

namespace Command

/-- The condition that a column has the value of a parameter. -/
def equals (name : String) (n : Nat) : Expr := .compare .equal (.column name) (.parameter n)

/-- The condition that finds the row of an item. -/
def keyCondition : Expr := .and (equals "id" 1) (equals "collection" 2)

/-- A geometry made from a parameter. -/
def placed (n : Nat) : Expr :=
  .call "st_setsrid" [.call "st_geomfromgeojson" [.cast (.parameter n) "text"],
    .number referenceSystem]

/-- The lexemes of that condition. -/
def equalsLexemes (name : String) (n : Nat) : List Lexeme :=
  [.word name, .mark .equal, .parameter n]

/-- The lexemes of such a geometry. -/
def placedLexemes (n : Nat) : List Lexeme :=
  [.word "st_setsrid", .mark .opening, .word "st_geomfromgeojson", .mark .opening, .parameter n,
    .mark .cast, .word "text", .mark .closing, .mark .comma, .number referenceSystem,
    .mark .closing]

theorem ofText?_eq {text : String} {ls : List Lexeme} {command : Command}
    (hlexemes : lexemes? text = some ls) (hitems : (items? ls).bind ofItems? = some command) :
    ofText? text = some command := by
  rw [ofText?, hlexemes, Option.bind_some, hitems]

theorem ofText?_collectionExists (id : String) :
    ofText? (Statement.collectionExists id).text = some (select .collections (equals "id" 1)) := by
  have hlexemes : lexemes? (Statement.collectionExists "").text =
      some ([.word "select", .number 1, .word "from", .word "collections", .word "where"] ++
        equalsLexemes "id" 1) := by decide +kernel
  exact ofText?_eq hlexemes rfl

theorem ofText?_insertCollection (id : String) (data : Json) :
    ofText? (Statement.insertCollection id data).text =
      some (insert .collections ["id", "data"] [.parameter 1, .parameter 2] ["id"]) := by
  have hlexemes : lexemes? (Statement.insertCollection "" .null).text =
      some [.word "insert", .word "into", .word "collections", .mark .opening, .word "id",
        .mark .comma, .word "data", .mark .closing, .word "values", .mark .opening, .parameter 1,
        .mark .comma, .parameter 2, .mark .closing, .word "on", .word "conflict", .mark .opening,
        .word "id", .mark .closing, .word "do", .word "nothing"] := by decide +kernel
  exact ofText?_eq hlexemes rfl

theorem ofText?_removeCollection (id : String) :
    ofText? (Statement.removeCollection id).text =
      some (delete .collections (equals "id" 1)) := by
  have hlexemes : lexemes? (Statement.removeCollection "").text =
      some ([.word "delete", .word "from", .word "collections", .word "where"] ++
        equalsLexemes "id" 1) := by decide +kernel
  exact ofText?_eq hlexemes rfl

theorem ofText?_insertItem (r : ItemRecord) :
    ofText? (Statement.insertItem r).text =
      some (insert .items ["id", "collection", "data", "geometry"]
        [.parameter 1, .parameter 2, .parameter 3, placed 4] ["collection", "id"]) := by
  have hlexemes : lexemes? (Statement.insertItem ⟨"", "", .null, ""⟩).text =
      some ([.word "insert", .word "into", .word "items", .mark .opening, .word "id", .mark .comma,
          .word "collection", .mark .comma, .word "data", .mark .comma, .word "geometry",
          .mark .closing, .word "values", .mark .opening, .parameter 1, .mark .comma,
          .parameter 2, .mark .comma, .parameter 3, .mark .comma] ++ placedLexemes 4 ++
        [.mark .closing, .word "on", .word "conflict", .mark .opening, .word "collection",
          .mark .comma, .word "id", .mark .closing, .word "do", .word "nothing"]) := by
    decide +kernel
  exact ofText?_eq hlexemes rfl

theorem ofText?_replaceItem (r : ItemRecord) :
    ofText? (Statement.replaceItem r).text =
      some (update .items [("data", .parameter 3), ("geometry", placed 4)] keyCondition) := by
  have hlexemes : lexemes? (Statement.replaceItem ⟨"", "", .null, ""⟩).text =
      some ([.word "update", .word "items", .word "set", .word "data", .mark .equal, .parameter 3,
          .mark .comma, .word "geometry", .mark .equal] ++ placedLexemes 4 ++ [.word "where"] ++
        equalsLexemes "id" 1 ++ [.word "and"] ++ equalsLexemes "collection" 2) := by
    decide +kernel
  exact ofText?_eq hlexemes rfl

theorem ofText?_removeItem (id collection : String) :
    ofText? (Statement.removeItem id collection).text = some (delete .items keyCondition) := by
  have hlexemes : lexemes? (Statement.removeItem "" "").text =
      some ([.word "delete", .word "from", .word "items", .word "where"] ++
        equalsLexemes "id" 1 ++ [.word "and"] ++ equalsLexemes "collection" 2) := by decide +kernel
  exact ofText?_eq hlexemes rfl

end Command

end SpatialCatalog.Sql
