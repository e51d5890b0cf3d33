import Boutique.Lib.StoreProgram
import Mathlib.Data.Finset.Basic

/-!
# The shared catalog of the recommendation service

`recommendationservice/catalog_kv.py`: the versioned product records of the shared bucket, and the index
of the active products.  A call to the store is one operation of a program.

The index is stored as the sorted list of a set of IDs, and is modelled by the set.  Of a product record
there are the fields that are read; a missing version is 0 and a missing text is empty.
-/

namespace Boutique.Recommendation

open StoreProgram

/-! ## Records -/

/-- A product record. -/
structure ProductRecord where
  productId : String
  productVersion : ℤ
  sourceEventId : String
  removed : Bool
deriving DecidableEq, Repr

/-- The keys `product.<id>` and `CATALOG_INDEX_KEY`. -/
inductive Key where
  | product (productId : String)
  | index
deriving DecidableEq, Repr

/-- What is stored under a key: a record, or the IDs of the index. -/
abbrev Value : Key → Type
  | .product _ => ProductRecord
  | .index => Finset String

/-- The call of `store.keys()`, which returns the keys that it found. -/
inductive Query where
  | keys

/-- The keys that were found. -/
abbrev Query.Result : Query → Type
  | .keys => List Key

/-- The exceptions. -/
inductive Failure where
  | valueError (text : String)
  | conflict (text : String)
  | store
deriving DecidableEq, Repr

/-- The results of the calls. -/
inductive Outcome where
  | created | duplicate | stale | updated | existing
deriving DecidableEq, Repr

/-- The programs of the service. -/
abbrev Prog := @Program (Op Value Query) (Reply Query.Result) Failure

/-- `store.get`. -/
def get (k : Key) : Prog (Answer (Entry (Value k))) := .call (.get k) .ret

/-- `store.create`. -/
def create (k : Key) (value : Value k) : Prog (Answer ℕ) := .call (.create k value) .ret

/-- `store.update`. -/
def update (k : Key) (value : Value k) (revision : ℕ) : Prog (Answer ℕ) :=
  .call (.update k value revision) .ret

/-- `store.keys`. -/
def keys : Prog (List Key) := .call (.outside .keys) .ret

/-- `product_key` raises on such an ID. -/
def invalidProductId (productId : String) : Bool :=
  productId = "" || productId.toList.any fun c => c ∈ ".*> /\\".toList

/-! ## The index -/

/-- The IDs of the index after the change for a product. -/
def reconciled (productIds : Finset String) (productId : String) (removed : Bool) :
    Finset String :=
  if removed then productIds.erase productId else insert productId productIds

/-- The loop of `_reconcile_catalog_index`. -/
def indexLoop (productId : String) (removed : Bool) : ℕ → Prog Unit
  | 0 => throw (.conflict "catalog product-index CAS retry limit reached")
  | attempts + 1 => do
    match ← get .index with
    | .refused =>
      match ← create .index (if removed then ∅ else {productId}) with
      | .done _ => pure ()
      | .refused => indexLoop productId removed attempts
      | .failed => throw .store
    | .done current =>
      let productIds : Finset String := current.value.filter (· ≠ "")
      if reconciled productIds productId removed = productIds then pure ()
      else
        match ← update .index (reconciled productIds productId removed) current.revision with
        | .done _ => pure ()
        | .refused => indexLoop productId removed attempts
        | .failed => throw .store
    | .failed => throw .store

/-- `_reconcile_catalog_index`. -/
def reconcileCatalogIndex (productId : String) (maxAttempts : ℕ) : Prog Unit := do
  match ← get (.product productId) with
  | .refused => pure ()
  | .done record =>
    if record.value.productId = "" then
      throw (.valueError "stored catalog product has no identity")
    else indexLoop record.value.productId record.value.removed maxAttempts
  | .failed => throw .store

/-! ## The calls -/

/-- The loop of `apply_product`. -/
def applyLoop (record : ProductRecord) : ℕ → Prog Outcome
  | 0 => throw (.conflict ("catalog CAS retry limit reached for product." ++ record.productId))
  | attempts + 1 => do
    match ← get (.product record.productId) with
    | .refused =>
      match ← create (.product record.productId) record with
      | .done _ => pure .created
      | .refused => applyLoop record attempts
      | .failed => throw .store
    | .done current =>
      if current.value.sourceEventId = record.sourceEventId then pure .duplicate
      else if record.productVersion ≤ current.value.productVersion then pure .stale
      else
        match ← update (.product record.productId) record current.revision with
        | .done _ => pure .updated
        | .refused => applyLoop record attempts
        | .failed => throw .store
    | .failed => throw .store

/-- `apply_product`. -/
def applyProduct (record : ProductRecord) : Prog Outcome :=
  if invalidProductId record.productId then
    throw (.valueError "product ID cannot be represented as a KV key")
  else if record.productVersion ≤ 0 ∨ record.sourceEventId = "" then
    throw (.valueError "catalog record is missing version or source event identity")
  else do
    let outcome ← applyLoop record 20
    reconcileCatalogIndex record.productId 20
    pure outcome

/-- The loop of `ensure_catalog_index` over the keys. -/
def collectActive (productIds : Finset String) : List Key → Prog (Finset String)
  | [] => pure productIds
  | .index :: rest => collectActive productIds rest
  | .product productId :: rest => do
    match ← get (.product productId) with
    | .refused => collectActive productIds rest
    | .done record =>
      if record.value.productId ≠ "" ∧ record.value.removed = false then
        collectActive (insert record.value.productId productIds) rest
      else collectActive productIds rest
    | .failed => throw .store

/-- The end of `ensure_catalog_index`. -/
def seedIndex (productIds : Finset String) : Prog Outcome := do
  match ← create .index productIds with
  | .done _ => pure .created
  | .refused => pure .existing
  | .failed => throw .store

/-- `ensure_catalog_index`. -/
def ensureCatalogIndex : Prog Outcome := do
  match ← get .index with
  | .done _ => pure .existing
  | .refused =>
    let found ← keys
    let productIds ← collectActive ∅ found
    seedIndex productIds
  | .failed => throw .store

/-- The calls of the replicas. -/
inductive Call where
  | applyProduct (record : ProductRecord)
  | ensureCatalogIndex

/-- The program of a call. -/
def Call.program : Call → Prog Outcome
  | .applyProduct record => Recommendation.applyProduct record
  | .ensureCatalogIndex => Recommendation.ensureCatalogIndex

/-- The bucket and the calls on it. -/
abbrev System := Pool Value Query.Result Failure Outcome ℕ

/-- The steps of the system. -/
abbrev Step := Action Query.Result ℕ Call

/-- One step. -/
abbrev System.step : System → Step → Option System := Pool.step Call.program

/-- No call has started. -/
def System.initial (s : Store Value) : System where
  store := s
  thread := fun _ => none

/-! ## Agreement -/

/-- The stored record of a product is not removed. -/
def Active (s : Store Value) (productId : String) : Prop :=
  ∃ entry, s.record (.product productId) = some entry ∧
    ProductRecord.removed entry.value = false

/-- The IDs in `catalog-products`. -/
def indexed (s : Store Value) : Finset String :=
  match s.record .index with
  | none => ∅
  | some entry => entry.value

/-- The index has exactly the products whose record is not removed. -/
def Agrees (s : Store Value) : Prop := ∀ productId, productId ∈ indexed s ↔ Active s productId

end Boutique.Recommendation
