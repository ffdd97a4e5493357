import SpatialCatalog.Document.Record
import SpatialCatalog.Sql.Select

/-!
# Statements

Every statement that the catalog sends has a fixed text, searches apart, and binds all values as
arguments. The schema of the two tables is sent as one text.
-/

namespace SpatialCatalog.Sql

/-- A value bound to a parameter. -/
inductive Argument where
  | text (s : String)
  | document (j : Json)
  | search (p : Parameter)

namespace Argument

/-- The type that the parameter of an argument has in the tables. -/
def type : Argument → ColumnType
  | text _ => .text
  | document _ => .jsonb
  | search (.text _) => .text
  | search (.textArray _) => .array .text
  | search (.float _) => .float8
  | search (.bigint _) => .int8

/-- Whether an argument can be given where the database wants a type. -/
def accepts : Argument → ColumnType → Bool
  | text _, t => t.isText
  | document _, t => t.isDocument
  | search _, t => Parameter.accepts t

end Argument

/-- A statement with its arguments. -/
structure Statement where
  text : String
  arguments : List Argument

namespace Statement

/-- The types of the parameters in the tables. -/
def types (s : Statement) : List ColumnType := s.arguments.map Argument.type

def collectionExists (id : String) : Statement :=
  { text := "SELECT 1 FROM collections WHERE id = $1", arguments := [.text id] }

def insertCollection (id : String) (data : Json) : Statement :=
  { text := "INSERT INTO collections (id, data) VALUES ($1, $2) ON CONFLICT (id) DO NOTHING"
    arguments := [.text id, .document data] }

def fetchCollection (id : String) : Statement :=
  { text := "SELECT data FROM collections WHERE id = $1", arguments := [.text id] }

def removeCollection (id : String) : Statement :=
  { text := "DELETE FROM collections WHERE id = $1", arguments := [.text id] }

/-- The arguments that write a record. -/
def recordArguments (r : ItemRecord) : List Argument :=
  [.text r.id, .text r.collection, .document r.data, .text r.geometry]

def insertItem (r : ItemRecord) : Statement :=
  { text := "INSERT INTO items (id, collection, data, geometry) VALUES ($1, $2, $3, " ++
      geometryOf 4 ++ ") ON CONFLICT (collection, id) DO NOTHING"
    arguments := recordArguments r }

def replaceItem (r : ItemRecord) : Statement :=
  { text := "UPDATE items SET data = $3, geometry = " ++ geometryOf 4 ++
      " WHERE id = $1 AND collection = $2"
    arguments := recordArguments r }

def removeItem (id collection : String) : Statement :=
  { text := "DELETE FROM items WHERE id = $1 AND collection = $2"
    arguments := [.text id, .text collection] }

def query (plan : QueryPlan) : Statement :=
  let (select, parameters) := Select.ofPlan plan
  { text := select.text, arguments := parameters.map .search }

end Statement

/-- The two tables, what they need and their index. -/
def schema : String :=
  "CREATE EXTENSION IF NOT EXISTS postgis;\n\n" ++
  "CREATE TABLE IF NOT EXISTS collections (\n" ++
  "    id text PRIMARY KEY,\n" ++
  "    data jsonb NOT NULL\n" ++
  ");\n\n" ++
  "CREATE TABLE IF NOT EXISTS items (\n" ++
  "    id text NOT NULL,\n" ++
  "    collection text NOT NULL REFERENCES collections (id) ON DELETE CASCADE,\n" ++
  "    data jsonb NOT NULL,\n" ++
  "    geometry geometry NOT NULL CHECK (ST_SRID(geometry) = 4326),\n" ++
  "    PRIMARY KEY (collection, id)\n" ++
  ");\n\n" ++
  "CREATE INDEX IF NOT EXISTS items_geometry_idx ON items USING GIST (geometry);\n"

end SpatialCatalog.Sql
