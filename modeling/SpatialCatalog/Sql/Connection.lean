import SpatialCatalog.Operation
import SpatialCatalog.Sql.Statement

/-!
# The catalog over a database

A `Server` is anything that replies to requests and changes its state by them. A `Connection` holds
the state of a server and everything that was sent to it.

Each statement is prepared first; then the number of its parameters and their types are compared
with the arguments, and only then is it executed. `Connection.perform` interprets the primitives of
the catalog by one statement each, and reads the columns of the rows by name.
-/

namespace SpatialCatalog.Sql

/-! ### Replies -/

/-- When a database can refuse a statement. -/
inductive Stage where
  | prepare
  | execute
deriving DecidableEq

/-- A value in a row. -/
inductive Cell where
  | null
  | text (s : String)
  /-- A document, which is sent as text. -/
  | document (text : String)
  /-- A value that the catalog never reads. -/
  | other

/-- A column of a result. -/
structure ResultColumn where
  name : String
  type : ColumnType
deriving DecidableEq

/-- What a server replies to a request. -/
structure Reply where
  /-- Where the request is refused, if it is. -/
  refused : Option Stage := none
  /-- How many rows a write changed. -/
  affected : Nat := 0
  columns : List ResultColumn := []
  rows : List (List Cell) := []
  /-- The types of the parameters, where they are not those of the tables. -/
  types : Option (List ColumnType) := none

/-- What is asked of a server. -/
inductive Request where
  /-- Several statements in one text, without parameters. -/
  | batch (text : String)
  | statement (s : Statement)

/-- A server replies to a request and changes its state. -/
structure Server (σ : Type) where
  respond : σ → Request → Reply × σ

/-- A server that replies by a script, and with nothing when the script has run out. -/
def Server.scripted : Server (List Reply) where
  respond
    | [], _ => ({}, [])
    | reply :: script, _ => (reply, script)

/-! ### Requests -/

/-- What was sent to a server. -/
inductive Sent where
  | batch (text : String)
  /-- A statement that was prepared and not executed. -/
  | prepared (s : Statement)
  /-- A statement that was executed, and the types of its parameters. -/
  | executed (s : Statement) (types : List ColumnType)

/-- The state of a server, and all that was sent to it in order. -/
structure Connection (σ : Type) where
  state : σ
  sent : List Sent := []

/-- The index of the first argument that is not accepted. -/
def refusedArgument? (types : List ColumnType) (arguments : List Argument) : Option Nat :=
  (types.zip arguments).findIdx? fun (t, a) => !a.accepts t

namespace Connection

variable {σ : Type}

/-- Send a statement, and go as far with it as its arguments and the server allow. -/
def exchange (server : Server σ) (s : Statement) (c : Connection σ) :
    Except DatabaseFault Reply × Connection σ :=
  let (reply, state) := server.respond c.state (.statement s)
  let types := reply.types.getD s.types
  let prepared : Connection σ := { state, sent := c.sent ++ [.prepared s] }
  let executed : Connection σ := { state, sent := c.sent ++ [.executed s types] }
  if reply.refused = some .prepare then (.error .refused, prepared)
  else if types.length ≠ s.arguments.length then
    (.error (.parameterCount types.length s.arguments.length), prepared)
  else
    match refusedArgument? types s.arguments with
    | some index => (.error (.parameter index), prepared)
    | none =>
      if reply.refused = some .execute then (.error .refused, executed) else (.ok reply, executed)

/-- Create the tables. -/
def migrate (server : Server σ) (c : Connection σ) : Result Unit × Connection σ :=
  let (reply, state) := server.respond c.state (.batch schema)
  let result := if reply.refused.isSome then .error (.database .refused) else .ok ()
  (result, { state, sent := c.sent ++ [.batch schema] })

end Connection

/-! ### Rows -/

/-- A result of reading a reply. -/
abbrev Reading (α : Type) := Except DatabaseFault α

namespace Reply

/-- The index of a column by its name: exactly, or else without regard to the case of ASCII
letters. -/
def column? (r : Reply) (name : String) : Option Nat :=
  let lower := fun (s : String) => s.toList.map Char.toLower
  (r.columns.findIdx? fun c => c.name = name).or
    (r.columns.findIdx? fun c => lower c.name = lower name)

/-- Read the cell of a column, of a type that is accepted. -/
def read {α : Type} (r : Reply) (name : String) (accepts : ColumnType → Bool)
    (value? : Cell → Option α) (row : List Cell) : Reading α :=
  match r.column? name with
  | none => .error (.missingColumn name)
  | some index =>
    let value := (r.columns[index]?.filter (accepts ·.type)).bind fun _ => row[index]?.bind value?
    match value with
    | some a => .ok a
    | none => .error (.column index)

def text? : Cell → Option String
  | .text s => some s
  | _ => none

def nullableText? : Cell → Option (Option String)
  | .null => some none
  | .text s => some (some s)
  | _ => none

def document? : Cell → Option Json
  | .document text => Json.parse? text
  | _ => none

/-- Read the document of a row. -/
def data (r : Reply) (row : List Cell) : Reading Json :=
  r.read "data" ColumnType.isDocument document? row

/-- Read an item from a row. -/
def storedItem (r : Reply) (row : List Cell) : Reading StoredItem := do
  let id ← r.read "id" ColumnType.isText text? row
  let collection ← r.read "collection" ColumnType.isText text? row
  let data ← r.data row
  let geometry ← r.read "geometry" ColumnType.isText nullableText? row
  return { id, collection, data, geometry }

/-- The row of a result that may have one. -/
def row? (r : Reply) : Reading (Option (List Cell)) :=
  match r.rows with
  | [] => .ok none
  | [row] => .ok (some row)
  | _ => .error .rowCount

end Reply

/-! ### Primitives -/

/-- The statement of a primitive. -/
def Statement.ofPrimitive : Primitive → Statement
  | .collectionExists id => collectionExists id
  | .insertCollection id data => insertCollection id data
  | .fetchCollection id => fetchCollection id
  | .removeCollection id => removeCollection id
  | .insertItem r => insertItem r
  | .replaceItem r => replaceItem r
  | .removeItem id collection => removeItem id collection
  | .query plan => query plan

/-- What a reply means for a primitive. A write did something if it changed a row. -/
def Reply.interpret (r : Reply) : (p : Primitive) → Reading p.Reply
  | .collectionExists _ => r.row?.map Option.isSome
  | .fetchCollection _ => r.row?.bind fun row => row.mapM r.data
  | .query _ => r.rows.mapM r.storedItem
  | .insertCollection _ _ => .ok (decide (0 < r.affected))
  | .removeCollection _ => .ok (decide (0 < r.affected))
  | .insertItem _ => .ok (decide (0 < r.affected))
  | .replaceItem _ => .ok (decide (0 < r.affected))
  | .removeItem _ _ => .ok (decide (0 < r.affected))

namespace Connection

variable {σ : Type}

/-- Perform a primitive by its statement. -/
def perform (server : Server σ) (p : Primitive) (c : Connection σ) :
    Result p.Reply × Connection σ :=
  let (reply, c') := c.exchange server (.ofPrimitive p)
  ((reply.bind fun r => r.interpret p).mapError .database, c')

/-- Run an operation. -/
def run {α : Type} (server : Server σ) (p : Program α) (c : Connection σ) :
    Result α × Connection σ :=
  p.run (perform server) c

end Connection

end SpatialCatalog.Sql
