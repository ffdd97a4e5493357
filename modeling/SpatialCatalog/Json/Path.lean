import SpatialCatalog.Json.Basic
import SpatialCatalog.Number.Decimal

/-!
# Paths in JSON values

A path is a list of keys. A key names a member of an object, or an item of an array by its index,
counted from zero.
-/

namespace SpatialCatalog.Json

/-- The part of a value that a key names. -/
def child? (key : String) : Json → Option Json
  | arr items => (readNat? key.toList).bind fun index => items[index]?
  | j => j.get? key

/-- The part of a value at the end of a path. -/
def at? (j : Json) (path : List String) : Option Json := path.foldlM (fun j key => j.child? key) j

end SpatialCatalog.Json
