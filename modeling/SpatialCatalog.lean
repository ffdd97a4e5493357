import SpatialCatalog.Proofs.Geometry.RoundTrip
import SpatialCatalog.Proofs.Search.Parameters
import SpatialCatalog.Proofs.Search.Validity
import SpatialCatalog.Proofs.Sql.Agreement
import SpatialCatalog.Proofs.Sql.Binding
import SpatialCatalog.Proofs.Sql.ItemWrites
import SpatialCatalog.Proofs.Sql.Meaning
import SpatialCatalog.Proofs.Store.Concurrency
import SpatialCatalog.Proofs.Store.Envelope
import SpatialCatalog.Proofs.Store.Faults
import SpatialCatalog.Proofs.Geometry.Grammar
import SpatialCatalog.Proofs.Json.Jsonb
import SpatialCatalog.Proofs.Store.Independence
import SpatialCatalog.Proofs.Store.Numbers
import SpatialCatalog.Proofs.Search.WireForm
