import Mathlib.Logic.Function.Basic
import Boutique.Lib.VersionGate
import Boutique.Common.Subject
import Boutique.Storefront.Views

/-!
# The storefront projector

`applyEnvelope` of `storefrontprojectionservice/projection.go` with the updates it makes.  A KV
bucket is a partial function from keys, and an update is what one round of the compare-and-set loop
of the source stores, so this is the projector as the only writer of its keys.  The recommendation
and ad facts, which write keys of their own, are left out.  The time `none` of an envelope stands for an
absent `OccurredAt` and for one that is not valid, for both of which the source takes its own clock.
-/

namespace Boutique.Storefront

/-- The errors of the projector. -/
inductive ProjectionError where
  | payloadType
  | message (text : String)
  deriving DecidableEq

/-- The KV buckets. -/
structure Buckets where
  products : String → Option ProductView := fun _ => none
  catalog : Option CatalogView := none
  currency : Option CurrencyView := none
  carts : String → Option CartView := fun _ => none
  quotes : String → Option CartQuoteView := fun _ => none
  operations : String → Option OperationView := fun _ => none
  orders : String → Option OrderView := fun _ => none

/-! ## Versioned records -/

/-- `updateJSON`: the record that is stored afterwards. -/
def updateJSON {T : Type} (current : Option T) (incomingVersion : ℕ) (currentVersion : T → ℕ)
    (currentSourceEventId : T → String) (incomingSourceEventId : String) (next : T) : T :=
  match current with
  | none => next
  | some current =>
    if currentSourceEventId current ≠ "" ∧ currentSourceEventId current = incomingSourceEventId then
      current
    else if incomingVersion ≤ currentVersion current then current
    else next

/-- Different events one after the other: the stored record is the first of those with the largest
version, whatever its version is. -/
lemma foldl_updateJSON {T : Type} {version : T → ℕ} {source : T → String} {l : List T}
    (hsource : (l.map source).Nodup) :
    l.foldl (fun current next => some (updateJSON current (version next) version source
        (source next) next)) none =
      VersionGate.winner (fun view => WithBot.some (version view)) ⊥ l := by
  induction l using List.reverseRecOn with
  | nil => rfl
  | append_singleton l next ih =>
    rw [List.map_append, List.nodup_append] at hsource
    rw [List.foldl_append, ih hsource.1, VersionGate.winner_concat]
    simp only [List.foldl_cons, List.foldl_nil, VersionGate.offer]
    cases hwinner : VersionGate.winner (fun view => WithBot.some (version view)) ⊥ l with
    | none => simp [updateJSON]
    | some current =>
      have hmem : current ∈ l := (VersionGate.winner_eq_some_iff.mp hwinner).2.mem
      have hne : source current ≠ source next :=
        hsource.2.2 _ (List.mem_map_of_mem hmem) _ (by simp)
      simp only [updateJSON, hne, and_false, if_false, Option.elim_some, WithBot.coe_le_coe]
      split_ifs <;> rfl

/-- `updateJSON` on the product bucket. -/
def updateProduct (buckets : Buckets) (productId : String) (version : ℕ) (next : ProductView) :
    Buckets :=
  let stored := updateJSON (buckets.products productId) version ProductView.productVersion
    (fun view => view.sourceEventId) next.sourceEventId next
  { buckets with products := Function.update buckets.products productId (some stored) }

/-- `updateJSON` on the catalog record. -/
def updateCatalog (buckets : Buckets) (next : CatalogView) : Buckets :=
  { buckets with catalog := some (updateJSON buckets.catalog next.catalogRevision
      CatalogView.catalogRevision (fun view => view.sourceEventId) next.sourceEventId next) }

/-- `updateJSON` on the currency record. -/
def updateCurrency (buckets : Buckets) (next : CurrencyView) : Buckets :=
  { buckets with currency := some (updateJSON buckets.currency next.rateRevision
      CurrencyView.rateRevision (fun view => view.sourceEventId) next.sourceEventId next) }

/-- `updateCart`. -/
def updateCart (buckets : Buckets) (cart : Option CartSnapshot) (updatedAt : Time)
    (source : ProjectionMetadata) : Except ProjectionError Buckets :=
  match cart with
  | none => .error (.message "cart snapshot is missing user ID")
  | some cart =>
    if cart.userId = "" then .error (.message "cart snapshot is missing user ID")
    else
      let next : CartView := { source with cart := cart, updatedAt := updatedAt }
      let stored := match buckets.carts cart.userId with
        | none => next
        | some current =>
          if current.sourceEventId = source.sourceEventId then current
          else if cart.cartVersion ≤ current.cart.cartVersion then current
          else next
      .ok { buckets with carts := Function.update buckets.carts cart.userId (some stored) }

/-- `updateCartQuote`: of two quotes for one cart version the later one is kept. -/
def updateCartQuote (buckets : Buckets) (incoming : CartQuoteView) :
    Except ProjectionError Buckets :=
  if incoming.userId = "" || incoming.cartVersion = 0 then
    .error (.message "cart quote identity is incomplete")
  else
    let stored := match buckets.quotes incoming.userId with
      | none => incoming
      | some current =>
        if current.sourceEventId = incoming.sourceEventId then current
        else if incoming.cartVersion < current.cartVersion ∨
            incoming.cartVersion = current.cartVersion ∧ incoming.updatedAt ≤ current.updatedAt then
          current
        else incoming
    .ok { buckets with quotes := Function.update buckets.quotes incoming.userId (some stored) }

/-! ## Operations -/

/-- The end of an operation. -/
def OperationView.terminal (view : OperationView) : Bool :=
  view.status = "SUCCEEDED" || view.status = "REJECTED"

/-- `mergeOperation`. -/
def mergeOperation (current incoming : OperationView) : OperationView :=
  let metadata := mergeProjectionMetadata current.toProjectionMetadata incoming.toProjectionMetadata
  if current.terminal then
    let current := if incoming.terminal then current
      else { current with
        kind := if current.kind = "" then incoming.kind else current.kind
        commandId := if current.commandId = "" then incoming.commandId else current.commandId }
    { current with
      toProjectionMetadata := metadata
      updatedAt := if current.updatedAt < incoming.updatedAt then incoming.updatedAt
        else current.updatedAt }
  else
    { incoming with
      toProjectionMetadata := metadata
      kind := if incoming.kind = "" then current.kind else incoming.kind
      updatedAt := if incoming.updatedAt < current.updatedAt then current.updatedAt
        else incoming.updatedAt }

/-- `updateOperation`. -/
def updateOperation (buckets : Buckets) (incoming : OperationView) :
    Except ProjectionError Buckets :=
  let incoming := if incoming.operationId = "" then
      { incoming with operationId := incoming.commandId }
    else incoming
  if incoming.operationId = "" || incoming.commandId = "" || incoming.userId = "" then
    .error (.message "operation identity is incomplete")
  else
    let stored := match buckets.operations incoming.operationId with
      | none => incoming
      | some current =>
        if projectionApplied current.toProjectionMetadata incoming.sourceEventId then current
        else mergeOperation current incoming
    .ok { buckets with
      operations := Function.update buckets.operations incoming.operationId (some stored) }

/-- `operationUser`. -/
def operationUser (buckets : Buckets) (operationId : String) : String :=
  ((buckets.operations operationId).map OperationView.userId).getD ""

/-! ## Orders -/

/-- `mergeOrder`. -/
def mergeOrder (current incoming : OrderView) : OrderView :=
  let status := if incoming.status = .unset then current.status else incoming.status
  let stage := if incoming.stage = "" then current.stage else incoming.stage
  -- a terminal status is not left again
  let latched := current.status.terminal && !status.terminal
  { orderId := incoming.orderId
    toProjectionMetadata :=
      mergeProjectionMetadata current.toProjectionMetadata incoming.toProjectionMetadata
    userId := if incoming.userId = "" then current.userId else incoming.userId
    status := if latched then current.status else status
    stage := if latched then current.stage else stage
    snapshot := if incoming.snapshot.isNone then current.snapshot else incoming.snapshot
    failureCode := if incoming.failureCode = "" then current.failureCode else incoming.failureCode
    retryable := if incoming.failureCode = "" then current.retryable else incoming.retryable
    safeMessage := if incoming.failureCode = "" then current.safeMessage else incoming.safeMessage
    notificationStatus := if incoming.notificationStatus = .unset then current.notificationStatus
      else incoming.notificationStatus
    cartClearStatus := if incoming.cartClearStatus = .unset then current.cartClearStatus
      else incoming.cartClearStatus
    cartClearFailureCode := if incoming.cartClearStatus = .unset then current.cartClearFailureCode
      else incoming.cartClearFailureCode
    aggregateVersion := if incoming.aggregateVersion < current.aggregateVersion then
        current.aggregateVersion
      else incoming.aggregateVersion
    outcomeAt := if current.outcomeAt.isSome then current.outcomeAt else incoming.outcomeAt
    updatedAt := if incoming.updatedAt < current.updatedAt then current.updatedAt
      else incoming.updatedAt }

/-- The view that `updateOrder` stores over `current`. -/
def orderAfter (current : Option OrderView) (incoming : OrderView) : OrderView :=
  match current with
  | none => incoming
  | some current =>
    if projectionApplied current.toProjectionMetadata incoming.sourceEventId then current
    else if incoming.aggregateVersion < current.aggregateVersion then
      if current.userId ≠ "" || incoming.userId = "" then current
      else
        -- the late event only brings the user ID that is missing
        mergeOrder current { incoming with
          aggregateVersion := current.aggregateVersion, status := current.status
          stage := current.stage, snapshot := current.snapshot }
    else mergeOrder current incoming

/-- `updateOrder`. -/
def updateOrder (buckets : Buckets) (incoming : OrderView) : Except ProjectionError Buckets :=
  if incoming.orderId = "" then .error (.message "order identity is incomplete")
  else
    let stored := orderAfter (buckets.orders incoming.orderId) incoming
    .ok { buckets with orders := Function.update buckets.orders incoming.orderId (some stored) }

/-- The view that `updateOrderSettlement` stores over `current`. -/
def settlementAfter (current : Option OrderView) (orderId : String) (status : CartClearStatus)
    (failureCode : String) (updatedAt : Time) (source : ProjectionMetadata) : OrderView :=
  match current with
  | none => { source with orderId := orderId, cartClearStatus := status
                          cartClearFailureCode := failureCode, updatedAt := updatedAt }
  | some current =>
    if projectionApplied current.toProjectionMetadata source.sourceEventId then current
    else
      { current with
        cartClearStatus := status
        cartClearFailureCode := failureCode
        toProjectionMetadata := mergeProjectionMetadata current.toProjectionMetadata source
        updatedAt := if current.updatedAt < updatedAt then updatedAt else current.updatedAt }

/-- `updateOrderSettlement`. -/
def updateOrderSettlement (buckets : Buckets) (orderId : String) (status : CartClearStatus)
    (failureCode : String) (updatedAt : Time) (source : ProjectionMetadata) :
    Except ProjectionError Buckets :=
  if orderId = "" || status = .unset then
    .error (.message "order settlement identity is incomplete")
  else
    let stored := settlementAfter (buckets.orders orderId) orderId status failureCode updatedAt
      source
    .ok { buckets with orders := Function.update buckets.orders orderId (some stored) }

/-- `applyOrderFailure`. -/
def applyOrderFailure (view : OrderView) (failure : Option Failure) : OrderView :=
  match failure with
  | none => view
  | some failure =>
    { view with failureCode := failure.code, retryable := failure.retryable
                safeMessage := failure.safeMessage }

/-- `terminalOrderOutcomeAt`. -/
def terminalOrderOutcomeAt (status : OrderStatus) (value : Time) : Option Time :=
  if status.terminal then some value else none

/-! ## Events -/

section Events

variable (buckets : Buckets) (envelope : MessageEnvelope) (updatedAt publishedAt : Time)

/-- The case of `applyEnvelope` for cart facts. -/
def applyCartEvent : Payload → Except ProjectionError Buckets
  | .cartItemAdded commandId userId cart => do
    let version := (cart.map CartSnapshot.cartVersion).getD 0
    let source := projectionMetadata envelope version
    let buckets ← updateCart buckets cart updatedAt source
    updateOperation buckets { source with
      operationId := commandId, commandId := commandId, kind := "cart.add-item"
      status := "SUCCEEDED", userId := userId, cartVersion := version, updatedAt := updatedAt }
  | .cartCleared commandId userId cart orderId => do
    let version := (cart.map CartSnapshot.cartVersion).getD 0
    let source := projectionMetadata envelope version
    let buckets ← updateCart buckets cart updatedAt source
    let buckets ← updateOperation buckets { source with
      operationId := commandId, commandId := commandId, kind := "cart.clear"
      status := "SUCCEEDED", userId := userId, cartVersion := version, updatedAt := updatedAt }
    if orderId ≠ "" then
      updateOrderSettlement buckets orderId .succeeded "" updatedAt source
    else return buckets
  | .cartCommandRejected commandId userId failure version => do
    let source := projectionMetadata envelope version
    let failureCode := (failure.map Failure.code).getD ""
    let buckets ← updateOperation buckets { source with
      operationId := commandId, commandId := commandId, status := "REJECTED", userId := userId
      cartVersion := version, updatedAt := updatedAt, failureCode := failureCode
      retryable := (failure.map Failure.retryable).getD false
      safeMessage := (failure.map Failure.safeMessage).getD "" }
    -- checkout correlates its cart-clear command to the order
    if envelope.correlationId ≠ "" ∧ envelope.correlationId ≠ commandId then
      updateOrderSettlement buckets envelope.correlationId .rejected failureCode updatedAt source
    else return buckets
  | _ => .error .payloadType

/-- The cases of `applyEnvelope` for shipping quotes of carts. -/
def applyCartQuote : Payload → Except ProjectionError Buckets
  | .cartQuoteUpdated userId cartVersion costUsd expiresAt =>
    updateCartQuote buckets { projectionMetadata envelope cartVersion with
      userId := userId, cartVersion := cartVersion, costUsd := costUsd
      expiresAt := expiresAt.getD 0, updatedAt := updatedAt }
  | .cartQuoteFailed userId cartVersion failure =>
    updateCartQuote buckets { projectionMetadata envelope cartVersion with
      userId := userId, cartVersion := cartVersion
      failureCode := (failure.map Failure.code).getD "", updatedAt := updatedAt }
  | _ => .error .payloadType

/-- The view of an accepted submit operation. -/
def queuedOrder (operationId user : String) : OrderView :=
  { projectionMetadata envelope envelope.aggregateVersion with
    orderId := operationId, userId := user, status := .queued, stage := "QUEUED"
    updatedAt := updatedAt }

/-- The case of `applyEnvelope` for accepted operations. -/
def applyOperationAccepted : Payload → Except ProjectionError Buckets
  | .operationAccepted operationId commandId operationKind status user => do
    let buckets ← updateOperation buckets
      { projectionMetadata envelope envelope.aggregateVersion with
        operationId := operationId, commandId := commandId, kind := operationKind
        status := status, userId := user, updatedAt := updatedAt }
    if operationKind = "order.submit" then
      updateOrder buckets (queuedOrder envelope updatedAt operationId user)
    else return buckets
  | _ => .error .payloadType

/-- A view with the metadata and the aggregate version of an order event. -/
def orderEventView (orderId : String) : OrderView :=
  { projectionMetadata envelope envelope.aggregateVersion with
    orderId := orderId, aggregateVersion := envelope.aggregateVersion, updatedAt := updatedAt }

/-- The view of a terminal order event. -/
def terminalView (orderId : String) (status : OrderStatus) : OrderView :=
  { orderEventView envelope updatedAt orderId with
    status := status, stage := status.text
    outcomeAt := terminalOrderOutcomeAt status publishedAt }

/-- The view that `applyEnvelope` passes to `updateOrder` for an order or notification event, or
`none` for the stages that it skips. -/
def orderEvent (subject : EventSubject) (data : Payload) :
    Except ProjectionError (Option OrderView) :=
  match subject with
  | .orderSubmitted =>
    match data with
    | .orderSubmitted _ none _ _ _ => .error (.message "submitted order snapshot is missing")
    | .orderSubmitted _ (some order) _ _ _ =>
      .ok (some { orderEventView envelope updatedAt order.orderId with
        userId := order.userId, status := .processing, stage := "WAITING_FOR_QUOTE"
        snapshot := some order })
    | _ => .error .payloadType
  | .orderProcessingStageChanged =>
    match data with
    | .orderProcessingStageChanged orderId stage _ =>
      if stage ≠ "COMPENSATING" then .ok none
      else .ok (some { orderEventView envelope updatedAt orderId with
        status := .processing, stage := stage })
    | _ => .error .payloadType
  | .orderRejected =>
    match data with
    | .orderRejected operationId orderId failure =>
      .ok (some (applyOrderFailure
        { terminalView envelope updatedAt publishedAt orderId .rejected with
          userId := operationUser buckets operationId } failure))
    | _ => .error .payloadType
  | .orderCompleted =>
    match data with
    | .orderCompleted none => .error (.message "completed order snapshot is missing")
    | .orderCompleted (some order) =>
      .ok (some { terminalView envelope updatedAt publishedAt order.orderId .completed with
        userId := order.userId, snapshot := some order })
    | _ => .error .payloadType
  | .orderCancelled =>
    match data with
    | .orderCancelled orderId failure _ =>
      .ok (some (applyOrderFailure
        (terminalView envelope updatedAt publishedAt orderId .cancelled) failure))
    | _ => .error .payloadType
  | .orderManualReviewRequired =>
    match data with
    | .orderManualReviewRequired orderId _ failedCompensation _ =>
      .ok (some { terminalView envelope updatedAt publishedAt orderId .manualReview with
        failureCode := failedCompensation, safeMessage := "The order requires manual review." })
    | _ => .error .payloadType
  | .orderStepTimedOut =>
    match data with
    | .orderStepTimedOut orderId waitingStage _ _ _ =>
      .ok (some { orderEventView envelope updatedAt orderId with
        status := .processing, stage := "TIMED_OUT_" ++ waitingStage
        failureCode := "STEP_TIMEOUT" })
    | _ => .error .payloadType
  | .orderConfirmationSent =>
    match data with
    | .orderConfirmationSent orderId =>
      .ok (some { orderEventView envelope updatedAt orderId with notificationStatus := .sent })
    | _ => .error .payloadType
  | .orderConfirmationFailed =>
    match data with
    | .orderConfirmationFailed orderId _ =>
      .ok (some { orderEventView envelope updatedAt orderId with notificationStatus := .failed })
    | _ => .error .payloadType
  | _ => .ok none

/-- The cases of `applyEnvelope` for catalog and currency facts. -/
def applyCatalogEvent (subject : EventSubject) (data : Payload) : Except ProjectionError Buckets :=
  match subject with
  | .catalogProductUpserted =>
    match data with
    | .catalogProductUpserted none _ => .error (.message "product snapshot is missing")
    | .catalogProductUpserted (some product) revision =>
      .ok (updateProduct buckets product.productId product.productVersion
        { projectionMetadata envelope product.productVersion with
          product := some product, catalogRevision := revision, updatedAt := updatedAt })
    | _ => .error .payloadType
  | .catalogProductRemoved =>
    match data with
    | .catalogProductRemoved productId version revision =>
      .ok (updateProduct buckets productId version
        { projectionMetadata envelope version with
          product := some { productId := productId, priceUsd := none, productVersion := version }
          catalogRevision := revision, removed := true, updatedAt := updatedAt })
    | _ => .error .payloadType
  | .catalogSnapshotCompleted =>
    match data with
    | .catalogSnapshotCompleted revision productCount checksum =>
      .ok (updateCatalog buckets
        { projectionMetadata envelope revision with
          catalogRevision := revision, productCount := productCount, checksum := checksum
          updatedAt := updatedAt })
    | _ => .error .payloadType
  | .currencyRatesUpdated =>
    match data with
    | .currencyRatesUpdated rates =>
      .ok (updateCurrency buckets
        { projectionMetadata envelope rates.rateRevision with
          baseCurrencyCode := rates.baseCurrencyCode, rates := rates.rates
          rateRevision := rates.rateRevision, updatedAt := updatedAt })
    | _ => .error .payloadType
  | _ => .ok buckets

end Events

/-- `applyEnvelope`, with the clock reading `now`. -/
def applyEnvelope (now : Time) (buckets : Buckets) (subject : EventSubject)
    (envelope : MessageEnvelope) (publishedAt : Time) : Except ProjectionError Buckets :=
  if envelope.schemaVersion ≠ 1 then .error (.message "unsupported or empty envelope")
  else if isBlank envelope.messageId then .error (.message "envelope message ID is required")
  else
    let updatedAt := envelope.occurredAt.getD now
    let publishedAt := if publishedAt = 0 then now else publishedAt
    match subject with
    | .catalogProductUpserted | .catalogProductRemoved | .catalogSnapshotCompleted
    | .currencyRatesUpdated => applyCatalogEvent buckets envelope updatedAt subject envelope.data
    | .cartItemAdded =>
      match envelope.data with
      | .cartItemAdded .. => applyCartEvent buckets envelope updatedAt envelope.data
      | _ => .error .payloadType
    | .cartCleared =>
      match envelope.data with
      | .cartCleared .. => applyCartEvent buckets envelope updatedAt envelope.data
      | _ => .error .payloadType
    | .cartCommandRejected =>
      match envelope.data with
      | .cartCommandRejected .. => applyCartEvent buckets envelope updatedAt envelope.data
      | _ => .error .payloadType
    | .cartQuoteUpdated =>
      match envelope.data with
      | .cartQuoteUpdated .. => applyCartQuote buckets envelope updatedAt envelope.data
      | _ => .error .payloadType
    | .cartQuoteFailed =>
      match envelope.data with
      | .cartQuoteFailed .. => applyCartQuote buckets envelope updatedAt envelope.data
      | _ => .error .payloadType
    | .operationAccepted => applyOperationAccepted buckets envelope updatedAt envelope.data
    | .orderSubmitted | .orderProcessingStageChanged | .orderRejected | .orderCompleted
    | .orderCancelled | .orderManualReviewRequired | .orderStepTimedOut | .orderConfirmationSent
    | .orderConfirmationFailed => do
      match ← orderEvent buckets envelope updatedAt publishedAt subject envelope.data with
      | some incoming => updateOrder buckets incoming
      | none => return buckets
    | .other _ => .ok buckets

end Boutique.Storefront
