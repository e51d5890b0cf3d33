import Boutique.Common.Message

/-!
# Storefront views

The materialized records of `storefrontprojectionservice/internal/storefront/views.go` that the
modelled projections write, and the metadata by which a projection recognises an event that it has
applied before.
-/

namespace Boutique.Storefront

/-! ## Metadata -/

/-- `ProjectionMetadata`. -/
structure ProjectionMetadata where
  sourceEventId : String := ""
  sourceVersion : ℕ := 0
  appliedEventIds : List String := []
  deriving DecidableEq, Repr

/-- `projectionEventHistory`: how many applied events a record remembers. -/
def projectionEventHistory : ℕ := 32

/-- `projectionMetadata`. -/
def projectionMetadata (envelope : MessageEnvelope) (sourceVersion : ℕ) : ProjectionMetadata where
  sourceEventId := envelope.messageId
  sourceVersion := sourceVersion
  appliedEventIds := [envelope.messageId]

/-- `projectionApplied`. -/
def projectionApplied (metadata : ProjectionMetadata) (eventId : String) : Bool :=
  eventId ≠ "" && (metadata.sourceEventId = eventId || eventId ∈ metadata.appliedEventIds)

/-- The step `if !projectionApplied(...) { append }` of `mergeProjectionMetadata`. -/
def rememberEvent (applied : List String) (eventId : String) : List String :=
  if projectionApplied { appliedEventIds := applied } eventId then applied
  else applied ++ [eventId]

/-- `mergeProjectionMetadata`. -/
def mergeProjectionMetadata (current incoming : ProjectionMetadata) : ProjectionMetadata :=
  if incoming.sourceEventId = "" then current
  else
    let applied := if current.sourceEventId ≠ "" then
        rememberEvent current.appliedEventIds current.sourceEventId
      else current.appliedEventIds
    let applied := rememberEvent applied incoming.sourceEventId
    { incoming with appliedEventIds := applied.drop (applied.length - projectionEventHistory) }

/-! ## Catalog, currency and cart -/

/-- `ProductView`. -/
structure ProductView extends ProjectionMetadata where
  product : Option ProductSnapshot
  catalogRevision : ℕ
  removed : Bool := false
  updatedAt : Time
  deriving DecidableEq

/-- `GetProductVersion` of the stored product, 0 when there is none. -/
def ProductView.productVersion (view : ProductView) : ℕ :=
  (view.product.map ProductSnapshot.productVersion).getD 0

/-- `CatalogView`. -/
structure CatalogView extends ProjectionMetadata where
  catalogRevision : ℕ
  productCount : ℕ
  checksum : String
  updatedAt : Time
  deriving DecidableEq

/-- `CurrencyView`, less the effective time, which no query reads. -/
structure CurrencyView extends ProjectionMetadata where
  baseCurrencyCode : String
  rates : List CurrencyRate
  rateRevision : ℕ
  updatedAt : Time
  deriving DecidableEq

/-- `CartView`. -/
structure CartView extends ProjectionMetadata where
  cart : CartSnapshot
  updatedAt : Time
  deriving DecidableEq

/-- `CartQuoteView`. -/
structure CartQuoteView extends ProjectionMetadata where
  userId : String
  cartVersion : ℕ
  costUsd : Option Money := none
  expiresAt : Time := 0
  failureCode : String := ""
  updatedAt : Time
  deriving DecidableEq

/-! ## Operations and orders -/

/-- `OperationView`. -/
structure OperationView extends ProjectionMetadata where
  operationId : String
  commandId : String
  kind : String := ""
  status : String
  userId : String
  failureCode : String := ""
  retryable : Bool := false
  safeMessage : String := ""
  cartVersion : ℕ := 0
  updatedAt : Time
  deriving DecidableEq

/-- The texts in the field `Status` of an order view; `unset` is the empty text. -/
inductive OrderStatus where
  | unset | queued | processing | completed | cancelled | rejected | manualReview
  deriving DecidableEq, Repr

/-- The stored text. -/
def OrderStatus.text : OrderStatus → String
  | .unset => ""
  | .queued => "QUEUED"
  | .processing => "PROCESSING"
  | .completed => "COMPLETED"
  | .cancelled => "CANCELLED"
  | .rejected => "REJECTED"
  | .manualReview => "MANUAL_REVIEW"

/-- `terminalOrderStatus`. -/
def OrderStatus.terminal : OrderStatus → Bool
  | .completed | .cancelled | .rejected | .manualReview => true
  | .unset | .queued | .processing => false

/-- The texts in the field `NotificationStatus`. -/
inductive NotificationStatus where
  | unset | sent | failed
  deriving DecidableEq, Repr

/-- The texts in the field `CartClearStatus`. -/
inductive CartClearStatus where
  | unset | succeeded | rejected
  deriving DecidableEq, Repr

/-- `OrderView`. -/
structure OrderView extends ProjectionMetadata where
  orderId : String
  userId : String := ""
  status : OrderStatus := .unset
  stage : String := ""
  snapshot : Option SanitizedOrderSnapshot := none
  failureCode : String := ""
  retryable : Bool := false
  safeMessage : String := ""
  notificationStatus : NotificationStatus := .unset
  cartClearStatus : CartClearStatus := .unset
  cartClearFailureCode : String := ""
  aggregateVersion : ℕ := 0
  outcomeAt : Option Time := none
  updatedAt : Time
  deriving DecidableEq

end Boutique.Storefront
