import SpatialCatalog.Document.Record
import SpatialCatalog.Page
import SpatialCatalog.Plan

/-!
# Operations of the catalog

The public operations are written once, over the primitive reads and writes that a store must
offer. An operation is a `Program`: either it is done, or it asks for one primitive and goes on with
the reply. A store runs a program with its own primitives, so all stores compile searches, derive
geometries and report errors in the same way.
-/

namespace SpatialCatalog

/-- A primitive that a store must offer. -/
inductive Primitive where
  | collectionExists (id : String)
  /-- Add a collection; the reply is false if there is one. -/
  | insertCollection (id : String) (data : Json)
  | fetchCollection (id : String)
  /-- Remove a collection with its items; the reply is false if there is none. -/
  | removeCollection (id : String)
  /-- Add an item with its geometry; the reply is false if there is one. -/
  | insertItem (record : ItemRecord)
  /-- Replace an item with its geometry; the reply is false if there is none. -/
  | replaceItem (record : ItemRecord)
  /-- Remove an item; the reply is false if there is none. -/
  | removeItem (id collection : String)
  | query (plan : QueryPlan)

/-- What a primitive replies. -/
def Primitive.Reply : Primitive → Type
  | fetchCollection _ => Option Json
  | query _ => List StoredItem
  | _ => Bool

/-- An operation: done, or waiting for the reply to a primitive. -/
inductive Program (α : Type) where
  | done (result : Result α)
  | call (p : Primitive) (next : p.Reply → Program α)

namespace Program

/-- Run a program on a state, with an interpretation of the primitives. An error of a primitive is
the result. -/
def run {α σ : Type} (perform : (p : Primitive) → σ → Result p.Reply × σ) :
    Program α → σ → Result α × σ
  | done result, s => (result, s)
  | call p next, s =>
    match perform p s with
    | (.ok reply, s') => (next reply).run perform s'
    | (.error e, s') => (.error e, s')

/-- Apply a function to the result. -/
def map {α β : Type} (f : α → β) : Program α → Program β
  | done result => done (result.map f)
  | call p next => call p fun reply => (next reply).map f

end Program

namespace Catalog

/-- Add a collection, unless there is one with its id. -/
def addCollection (c : Collection) : Program Unit :=
  .call (.insertCollection c.id c.document) fun (inserted : Bool) =>
    .done (if inserted then .ok () else .error (.request (.collectionExists c.id)))

/-- A collection, if there is one. A stored document that is no collection is an error. -/
def collection (id : String) : Program (Option Collection) :=
  .call (.fetchCollection id) fun (found : Option Json) =>
    .done (match found with
      | none => .ok none
      | some data =>
        match Collection.ofJson? data with
        | some c => .ok (some c)
        | none => .error .document)

/-- Delete a collection with its items. -/
def deleteCollection (id : String) : Program Unit :=
  .call (.removeCollection id) fun (removed : Bool) =>
    .done (if removed then .ok () else .error (.notFound (.collection id)))

/-- Add an item to its collection. Nothing is asked of the store when the item has no collection or
its geometry is not valid, and nothing is written when the collection is not there. -/
def addItem (item : Item) : Program Unit :=
  match ItemRecord.ofItem item with
  | .error e => .done (.error e)
  | .ok r =>
    .call (.collectionExists r.collection) fun (found : Bool) =>
      if found then
        .call (.insertItem r) fun (inserted : Bool) =>
          .done (if inserted then .ok ()
            else .error (.request (.itemExists r.id r.collection)))
      else .done (.error (.notFound (.collection r.collection)))

/-- Replace the item with the same id and collection. -/
def updateItem (item : Item) : Program Unit :=
  match ItemRecord.ofItem item with
  | .error e => .done (.error e)
  | .ok r =>
    .call (.replaceItem r) fun (replaced : Bool) =>
      .done (if replaced then .ok () else .error (.notFound (.item r.id r.collection)))

/-- Delete an item. -/
def deleteItem (id collection : String) : Program Unit :=
  .call (.removeItem id collection) fun (removed : Bool) =>
    .done (if removed then .ok () else .error (.notFound (.item id collection)))

/-- Search, and go on with the items found and the limit. -/
def searchThen {α : Type} (s : Search) (f : List StoredItem → Int → Result α) : Program α :=
  match s.compile with
  | .error e => .done (.error e)
  | .ok plan => .call (.query plan) fun (found : List StoredItem) => .done (f found plan.limit)

/-- The feature of an item, if there is one. -/
def item (id collection : String) : Program (Option Members) :=
  searchThen { ids := [id], collections := [collection], limit := some 1 } fun found _ =>
    found.head?.mapM StoredItem.toFeature

/-- The page of the items that a search finds. -/
def search (s : Search) : Program Page :=
  searchThen s fun found limit =>
    (found.mapM StoredItem.toFeature).map fun features => .ofFeatures features limit

/-- The page of the items of one collection. -/
def items (collection : String) (limit : Option Int) : Program Page :=
  (search { collections := [collection], limit }).map fun page =>
    { page with collection := some collection }

end Catalog

end SpatialCatalog
