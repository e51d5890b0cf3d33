import Boutique.Lib.LuaNumber
import Boutique.Common.Subject
import Boutique.Common.Message
import Mathlib.Logic.Function.Basic

/-!
# The catalog projection of the cart service

`cartservice/src/cartstore/RedisCatalogProjection.cs`: the products that the cart service keeps of
the catalog facts.  A version that a script stores is the decimal text of its argument, so a stored
version is the exact number, and `tonumber` rounds it when it is compared.
-/

namespace Boutique.CartCatalog

/-- The fields of the hash of a product. -/
structure ProductFields where
  version : ℕ
  active : Bool
  sourceEventId : String
  catalogRevision : ℕ
  deriving DecidableEq

/-- What `tonumber(redis.call(...) or "0")` reads. -/
def luaStored (version : Option ℕ) : ℕ := luaNumber (version.getD 0)

/-- What `ApplyProductScript` returns. -/
def applyProductReply (stored : Option ProductFields) (incoming : ProductFields) : Bool :=
  !(luaNumber incoming.version ≤ luaStored (stored.map ProductFields.version))

/-- `ApplyProductScript`. -/
def applyProductScript (stored : Option ProductFields) (incoming : ProductFields) :
    Option ProductFields :=
  if applyProductReply stored incoming then some incoming else stored

/-- What `ApplySnapshotScript` returns. -/
def applySnapshotReply (stored : Option ℕ) (incoming : ℕ) : Bool :=
  !(luaNumber incoming ≤ luaStored stored)

/-- `ApplySnapshotScript`. -/
def applySnapshotScript (stored : Option ℕ) (incoming : ℕ) : Option ℕ :=
  if applySnapshotReply stored incoming then some incoming else stored

/-- The keys of the projection.  A product is stored under the digest of its ID. -/
structure CatalogKeys where
  products : String → Option ProductFields := fun _ => none
  snapshot : Option ℕ := none

variable (digest : String → String)

/-- `ApplyProductAsync`. -/
def applyProductAsync (keys : CatalogKeys) (productId : String) (fields : ProductFields) :
    CatalogKeys :=
  let key := digest productId
  { keys with
    products := Function.update keys.products key (applyProductScript (keys.products key) fields) }

/-- `ApplyAsync`. -/
def applyAsync (keys : CatalogKeys) (subject : EventSubject) (envelope : MessageEnvelope) :
    Except String CatalogKeys :=
  if envelope.schemaVersion ≠ 1 || isBlank envelope.messageId then
    .error "Catalog event envelope is incomplete or unsupported."
  else
    match subject with
    | .catalogProductUpserted =>
      match envelope.data with
      | .catalogProductUpserted (some product) catalogRevision =>
        if isBlank product.productId || product.productVersion = 0 then
          .error "Catalog product-upserted payload is invalid."
        else
          .ok (applyProductAsync digest keys product.productId
            { version := product.productVersion, active := true
              sourceEventId := envelope.messageId, catalogRevision := catalogRevision })
      | _ => .error "Catalog product-upserted payload is invalid."
    | .catalogProductRemoved =>
      match envelope.data with
      | .catalogProductRemoved productId productVersion catalogRevision =>
        if isBlank productId || productVersion = 0 then
          .error "Catalog product-removed payload is invalid."
        else
          .ok (applyProductAsync digest keys productId
            { version := productVersion, active := false
              sourceEventId := envelope.messageId, catalogRevision := catalogRevision })
      | _ => .error "Catalog product-removed payload is invalid."
    | .catalogSnapshotCompleted =>
      match envelope.data with
      | .catalogSnapshotCompleted catalogRevision _ _ =>
        if catalogRevision = 0 then .error "Catalog snapshot-completed payload is invalid."
        else .ok { keys with snapshot := applySnapshotScript keys.snapshot catalogRevision }
      | _ => .error "Catalog snapshot-completed payload is invalid."
    | subject => .error ("Unsupported catalog event subject " ++ subject.text ++ ".")

/-- `ContainsAsync`, for a product ID that is not blank. -/
def containsAsync (keys : CatalogKeys) (productId : String) : Bool :=
  (keys.products (digest productId)).any ProductFields.active

end Boutique.CartCatalog
