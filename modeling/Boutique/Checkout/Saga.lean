import Boutique.Common.Money
import Boutique.Stateless.Result

/-!
# The order saga

The transition functions of `checkoutservice/saga.go` and the deadline transition of
`checkoutservice/messaging.go`, on the workspace `persistedState` of `checkoutservice/store.go`.

A workspace holds one order only, so the map `Orders` is an `Option`.  A Go function that mutates
the saga through its pointer and may return an error becomes a function that returns the new
workspace in `Except`: an error leaves no trace in the store because the caller then returns
without committing.
-/

namespace Boutique

/-! ## Stages, subjects and records -/

/-- The stages of an order saga. -/
inductive Stage where
  | waitingQuote | waitingAuthorize | waitingShipment | waitingCapture | compensating
  | completed | cancelled | rejected | manualReview
  deriving DecidableEq, Repr

/-- The text of a stage in the stored JSON and in published events. -/
def Stage.text : Stage → String
  | .waitingQuote => "WAITING_FOR_QUOTE"
  | .waitingAuthorize => "WAITING_FOR_AUTHORIZATION"
  | .waitingShipment => "WAITING_FOR_SHIPMENT"
  | .waitingCapture => "WAITING_FOR_CAPTURE"
  | .compensating => "COMPENSATING"
  | .completed => "COMPLETED"
  | .cancelled => "CANCELLED"
  | .rejected => "REJECTED"
  | .manualReview => "MANUAL_REVIEW"

/-- The stages in which `applySagaEvent` ignores every event. -/
def Stage.terminal : Stage → Bool
  | .completed | .cancelled | .rejected | .manualReview => true
  | _ => false

/-- The subjects on which checkout publishes results. -/
inductive ResultSubject where
  | orderSubmitted | orderRejected | orderCancelled | orderCompleted | orderStageChanged
  | orderStepTimedOut | orderManualReview
  | calculateOrderQuote | authorize | createShipment | capture
  | releaseAuthorization | cancelShipment | cartClear
  deriving DecidableEq, Repr

/-- The NATS subject. -/
def ResultSubject.text : ResultSubject → String
  | .orderSubmitted => "boutique.evt.order.submitted.v1"
  | .orderRejected => "boutique.evt.order.rejected.v1"
  | .orderCancelled => "boutique.evt.order.cancelled.v1"
  | .orderCompleted => "boutique.evt.order.completed.v1"
  | .orderStageChanged => "boutique.evt.order.processing-stage-changed.v1"
  | .orderStepTimedOut => "boutique.evt.order.step-timed-out.v1"
  | .orderManualReview => "boutique.evt.order.manual-review-required.v1"
  | .calculateOrderQuote => "boutique.cmd.shipping.calculate-order-quote.v1"
  | .authorize => "boutique.cmd.payment.authorize.v1"
  | .createShipment => "boutique.cmd.shipping.create-shipment.v1"
  | .capture => "boutique.cmd.payment.capture.v1"
  | .releaseAuthorization => "boutique.cmd.payment.release-authorization.v1"
  | .cancelShipment => "boutique.cmd.shipping.cancel-shipment.v1"
  | .cartClear => "boutique.cmd.cart.clear.v1"

/-- The message type that the saga passes with each subject. -/
def ResultSubject.messageType : ResultSubject → String
  | .orderSubmitted => "boutique.order.Submitted.v1"
  | .orderRejected => "boutique.order.Rejected.v1"
  | .orderCancelled => "boutique.order.Cancelled.v1"
  | .orderCompleted => "boutique.order.Completed.v1"
  | .orderStageChanged => "boutique.order.ProcessingStageChanged.v1"
  | .orderStepTimedOut => "boutique.order.StepTimedOut.v1"
  | .orderManualReview => "boutique.order.ManualReviewRequired.v1"
  | .calculateOrderQuote => "boutique.shipping.CalculateOrderQuote.v1"
  | .authorize => "boutique.payment.Authorize.v1"
  | .createShipment => "boutique.shipping.CreateShipment.v1"
  | .capture => "boutique.payment.Capture.v1"
  | .releaseAuthorization => "boutique.payment.ReleaseAuthorization.v1"
  | .cancelShipment => "boutique.shipping.CancelShipment.v1"
  | .cartClear => "boutique.cart.Clear.v1"

/-- `resultSlotForSubject`. -/
def resultSlotForSubject : ResultSubject → String
  | .orderSubmitted | .orderRejected | .orderCancelled | .orderCompleted => "order.decision"
  | .orderStageChanged => "order.stage"
  | .calculateOrderQuote => "order.quote-command"
  | .authorize => "order.authorize-command"
  | .createShipment => "order.shipment-command"
  | .capture => "order.capture-command"
  | .cartClear => "order.cart-clear-command"
  | .releaseAuthorization => "order.release-command"
  | .cancelShipment => "order.shipment-cancel-command"
  | .orderStepTimedOut => "order.timeout"
  | .orderManualReview => "order.manual-review"

/-- The subjects that the switch of `applySagaEvent` names; `other` is any other subject. -/
inductive SagaSubject where
  | orderQuoteCalculated | orderQuoteFailed
  | paymentAuthorized | paymentAuthorizationDeclined
  | shipmentCreated | shipmentCreationFailed
  | paymentCaptured | paymentCaptureFailed
  | authorizationReleased | shipmentCancelled
  | authorizationReleaseFailed | shipmentCancellationFailed
  | other (text : String)
  deriving DecidableEq, Repr

/-- The NATS subject of a saga event. -/
def SagaSubject.text : SagaSubject → String
  | .orderQuoteCalculated => "boutique.evt.shipping.order-quote-calculated.v1"
  | .orderQuoteFailed => "boutique.evt.shipping.order-quote-failed.v1"
  | .paymentAuthorized => "boutique.evt.payment.authorized.v1"
  | .paymentAuthorizationDeclined => "boutique.evt.payment.authorization-declined.v1"
  | .shipmentCreated => "boutique.evt.shipping.shipment-created.v1"
  | .shipmentCreationFailed => "boutique.evt.shipping.shipment-creation-failed.v1"
  | .paymentCaptured => "boutique.evt.payment.captured.v1"
  | .paymentCaptureFailed => "boutique.evt.payment.capture-failed.v1"
  | .authorizationReleased => "boutique.evt.payment.authorization-released.v1"
  | .shipmentCancelled => "boutique.evt.shipping.shipment-cancelled.v1"
  | .authorizationReleaseFailed => "boutique.evt.payment.authorization-release-failed.v1"
  | .shipmentCancellationFailed => "boutique.evt.shipping.shipment-cancellation-failed.v1"
  | .other text => text

/-- `orderSaga`. -/
structure OrderSaga where
  orderId : String
  operationId : String
  commandId : String
  userId : String
  email : String := ""
  address : Option PostalAddress := none
  currencyCode : String := ""
  paymentToken : String := ""
  cartVersion : ℕ := 0
  catalogRevision : ℕ := 0
  rateRevision : ℕ := 0
  version : ℕ
  stage : Stage
  deadline : Time := Time.zero
  snapshot : Option SanitizedOrderSnapshot := none
  authorizationId : String := ""
  shipmentId : String := ""
  trackingId : String := ""
  cancelReason : Option Failure := none
  authorizationReleased : Bool := false
  shipmentCancelled : Bool := false
  needRelease : Bool := false
  needShipmentCancel : Bool := false
  deriving DecidableEq

/-- `resultMessage`.  `data` is the envelope itself: `MarshalEnvelope` is deterministic, so equal
envelopes are journalled as equal bytes. -/
structure ResultMessage where
  slot : String
  messageId : String
  subject : ResultSubject
  data : MessageEnvelope
  deriving DecidableEq

/-- `persistedState`, the workspace of one transition. -/
structure PersistedState where
  orders : Option OrderSaga := none
  products : String → Option ProductSnapshot := fun _ => none
  removedProducts : String → Bool := fun _ => false
  carts : String → Option CartSnapshot := fun _ => none
  rates : Option CurrencyRatesUpdatedEvent := none
  catalogRevision : ℕ := 0
  inbox : String → Option Time := fun _ => none
  results : List ResultMessage := []
  transitionTime : Time
  deadlineStart : Time
  input : Option MessageEnvelope := none

/-- What the checkout workers are configured with: the hash functions, the `float64` rounding, the
time a saga step may take and what their deadline leases need. -/
structure CheckoutEnv where
  /-- `digest`: the hexadecimal SHA-256 of a text. -/
  digest : String → String
  /-- `stableID`: a UUID made from the SHA-256 of NUL-terminated parts. -/
  stableID : List String → String
  /-- The hash part of `DeriveResultMessageID`. -/
  resultHash : String → String → String
  /-- Rounding of an exact result to the nearest `float64`. -/
  round64 : ℚ → ℚ
  /-- `checkoutWorker.stepTimeout`. -/
  stepTimeout : Duration
  /-- `checkoutWorker.leaseDuration`. -/
  leaseDuration : Duration
  /-- `checkoutWorker.workerID` of each worker process. -/
  workerId : ℕ → String

/-- The errors a transition can end with.  `projectionLag` wraps `errCheckoutProjectionLag`,
`payloadType` is the error of `UnmarshalTo` and `nilPointer` a panic. -/
inductive CheckoutError where
  | projectionLag (text : String)
  | payloadType
  | nilPointer
  | message (text : String)
  deriving DecidableEq

namespace PersistedState

/-- `newPersistedState`. -/
def new (time : Time) : PersistedState where
  transitionTime := time
  deadlineStart := time

/-- `deadlineAfter`. -/
def deadlineAfter (state : PersistedState) (timeout : Duration) : Time :=
  let base := if state.deadlineStart = 0 then state.transitionTime else state.deadlineStart
  base + timeout.nanos

/-- `setOrder`. -/
def setOrder (state : PersistedState) (saga : OrderSaga) : PersistedState :=
  { state with orders := some saga }

/-- `setInbox`. -/
def setInbox (state : PersistedState) (messageId : String) (receivedAt : Time) : PersistedState :=
  { state with inbox := Function.update state.inbox messageId (some receivedAt) }

/-- `addResult`. -/
def addResult (state : PersistedState) (message : ResultMessage) : PersistedState :=
  { state with results := state.results ++ [message] }

end PersistedState

/-! ## Queueing results -/

variable (env : CheckoutEnv)

/-- The `ResultSpec` that `queueEnvelope` builds. -/
def resultSpec (state : PersistedState) (subject : ResultSubject)
    (aggregateType aggregateId : String) (aggregateVersion : ℕ) (payload : Payload) :
    ResultSpec where
  slot := resultSlotForSubject subject
  messageType := subject.messageType
  producer := "checkoutservice/phase5"
  aggregateType := aggregateType
  aggregateId := aggregateId
  aggregateVersion := aggregateVersion
  occurredAt := state.transitionTime
  payload := payload

/-- `queueEnvelope`.  Its correlation and causation arguments are not used by the Go code. -/
def queueEnvelope (state : PersistedState) (subject : ResultSubject)
    (aggregateType aggregateId : String) (aggregateVersion : ℕ) (payload : Payload) :
    Except CheckoutError PersistedState :=
  match state.input with
  | none => .error (.message "transition input envelope is missing")
  | some input =>
    match newResultEnvelope env.resultHash input
        (resultSpec state subject aggregateType aggregateId aggregateVersion payload) with
    | .error text => .error (.message text)
    | .ok envelope =>
      .ok (state.addResult { slot := resultSlotForSubject subject, messageId := envelope.messageId,
                             subject := subject, data := envelope })

/-- `envelopeMessageID`. -/
def envelopeMessageID (subject : ResultSubject) (causationId : String) : String :=
  match deriveResultMessageID env.resultHash causationId (resultSlotForSubject subject) with
  | .ok messageId => messageId
  | .error _ => ""

/-- `safeFailure`. -/
def safeFailure (failure : Option Failure) (fallback : String) : Failure :=
  failure.getD { code := fallback, safeMessage := "The order could not be completed." }

/-! ## Transitions that end or compensate an order -/

/-- `cancel`. -/
def cancel (state : PersistedState) (saga : OrderSaga) (failure : Failure) :
    Except CheckoutError PersistedState :=
  let saga := { saga with version := saga.version + 1, stage := .cancelled,
                          deadline := Time.zero, cancelReason := some failure }
  queueEnvelope env (state.setOrder saga) .orderCancelled "order" saga.orderId saga.version
    (.orderCancelled saga.orderId (some failure) [])

/-- `queueStage`. -/
def queueStage (state : PersistedState) (saga : OrderSaga) : Except CheckoutError PersistedState :=
  queueEnvelope env state .orderStageChanged "order" saga.orderId saga.version
    (.orderProcessingStageChanged saga.orderId saga.stage.text state.transitionTime)

/-- `startCompensation`. -/
def startCompensation (state : PersistedState) (saga : OrderSaga) (failure : Failure)
    (release cancelShipment : Bool) : Except CheckoutError PersistedState := do
  let saga := { saga with version := saga.version + 1, stage := .compensating,
                          deadline := state.deadlineAfter env.stepTimeout,
                          cancelReason := some failure,
                          needRelease := release, needShipmentCancel := cancelShipment }
  let state := state.setOrder saga
  let state ←
    if release then
      queueEnvelope env state .releaseAuthorization "order" saga.orderId saga.version
        (.releaseAuthorization (env.stableID ["release", saga.orderId]) saga.orderId
          saga.authorizationId failure.code (saga.orderId ++ "/release"))
    else pure state
  let state ←
    if cancelShipment then
      queueEnvelope env state .cancelShipment "order" saga.orderId saga.version
        (.cancelShipment (env.stableID ["cancel-shipment", saga.orderId]) saga.orderId
          saga.shipmentId saga.trackingId failure.code (saga.orderId ++ "/cancel-shipment"))
    else pure state
  queueStage env state saga

/-- The compensations that `finishCompensation` reports as completed. -/
def completedCompensations (saga : OrderSaga) : List String :=
  (if saga.authorizationReleased then ["payment.authorization-released"] else []) ++
    (if saga.shipmentCancelled then ["shipping.shipment-cancelled"] else [])

/-- `finishCompensation`. -/
def finishCompensation (state : PersistedState) (saga : OrderSaga) :
    Except CheckoutError PersistedState :=
  if saga.stage ≠ .compensating then .ok state
  else if saga.needRelease && !saga.authorizationReleased then .ok state
  else if saga.needShipmentCancel && !saga.shipmentCancelled then .ok state
  else
    let saga := { saga with version := saga.version + 1, stage := .cancelled,
                            deadline := Time.zero }
    queueEnvelope env (state.setOrder saga) .orderCancelled "order" saga.orderId saga.version
      (.orderCancelled saga.orderId saga.cancelReason (completedCompensations saga))

/-- `manualReview`. -/
def manualReview (state : PersistedState) (saga : OrderSaga)
    (failedCompensation reference : String) : Except CheckoutError PersistedState :=
  let saga := { saga with version := saga.version + 1, stage := .manualReview,
                          deadline := Time.zero }
  queueEnvelope env (state.setOrder saga) .orderManualReview "order" saga.orderId saga.version
    (.orderManualReviewRequired saga.orderId ((saga.cancelReason.map Failure.code).getD "")
      failedCompensation [reference])

/-! ## Admission of an order -/

/-- `decodeOrderCommand`. -/
def decodeOrderCommand (envelope : MessageEnvelope) : Except CheckoutError OrderSubmitCommand :=
  match envelope.data with
  | .orderSubmit payload =>
    if payload.orderId = "" || payload.operationId = "" || payload.userId = "" ||
        payload.paymentToken = "" then
      .error (.message "order command identity or payment token is missing")
    else .ok payload
  | _ => .error .payloadType

/-- The test of the loop in `validateOrderProjection`: a line whose product checkout has seen
neither upserted nor removed. -/
def unprojected (state : PersistedState) (line : CartLine) : Bool :=
  (state.products line.productId).isNone && !state.removedProducts line.productId

/-- `validateOrderProjection`. -/
def validateOrderProjection (state : PersistedState) (envelope : MessageEnvelope)
    (payload : OrderSubmitCommand) : Except CheckoutError Unit :=
  if (state.inbox envelope.messageId).isSome then .ok ()
  else if state.orders.isSome then .ok ()
  else
    match state.carts payload.userId with
    | none => .error (.projectionLag ("cart \"" ++ payload.userId ++ "\" is not projected"))
    | some cart =>
      if cart.cartVersion < payload.expectedCartVersion then
        .error (.projectionLag ("cart version " ++ toString cart.cartVersion ++ " is below " ++
          toString payload.expectedCartVersion))
      else if state.catalogRevision < payload.expectedCatalogRevision then
        .error (.projectionLag ("catalog revision " ++ toString state.catalogRevision ++
          " is below " ++ toString payload.expectedCatalogRevision))
      else
        match state.rates with
        | none => .error (.projectionLag "currency rates are not projected")
        | some rates =>
          if rates.rateRevision < payload.expectedRateRevision then
            .error (.projectionLag ("rate revision " ++ toString rates.rateRevision ++
              " is below " ++ toString payload.expectedRateRevision))
          else
            match cart.items.find? (unprojected state) with
            | some line =>
              .error (.projectionLag ("product \"" ++ line.productId ++ "\" is not projected"))
            | none => .ok ()

/-- `validateOrderCommand`: the reason for rejecting the order, if there is one. -/
def validateOrderCommand (state : PersistedState) (cart : Option CartSnapshot)
    (command : OrderSubmitCommand) : Option Failure :=
  match cart with
  | none => some { code := "EMPTY_CART", safeMessage := "The cart is empty." }
  | some cart =>
    if cart.items = [] then some { code := "EMPTY_CART", safeMessage := "The cart is empty." }
    else if cart.cartVersion ≠ command.expectedCartVersion then
      some { code := "CART_VERSION_CONFLICT", safeMessage := "The cart changed before checkout." }
    else if state.catalogRevision ≠ command.expectedCatalogRevision then
      some { code := "CATALOG_VERSION_CONFLICT",
             safeMessage := "The catalog changed before checkout." }
    else
      match state.rates with
      | none => some { code := "RATE_VERSION_CONFLICT",
                       safeMessage := "Currency rates changed before checkout." }
      | some rates =>
        if rates.rateRevision ≠ command.expectedRateRevision then
          some { code := "RATE_VERSION_CONFLICT",
                 safeMessage := "Currency rates changed before checkout." }
        else if command.shippingAddress.isNone || command.email = "" then
          some { code := "INVALID_ORDER", safeMessage := "Order contact details are incomplete." }
        else if cart.items.any fun line =>
            line.quantity ≤ 0 || (state.products line.productId).isNone then
          some { code := "PRODUCT_UNAVAILABLE", safeMessage := "A cart product is unavailable." }
        else if (convertMoney env.round64 state.rates
            (some { currencyCode := rates.baseCurrencyCode }) command.currencyCode).isNone then
          some { code := "INVALID_CURRENCY",
                 safeMessage := "The selected currency is unavailable." }
        else none

/-- One iteration of the loop of `buildOrderSnapshot`. -/
def addOrderLine (state : PersistedState) (command : OrderSubmitCommand)
    (snapshot : SanitizedOrderSnapshot) (line : CartLine) :
    Except CheckoutError SanitizedOrderSnapshot :=
  match state.products line.productId with
  | none => .error .nilPointer
  | some product =>
    match convertMoney env.round64 state.rates product.priceUsd command.currencyCode with
    | none => .error (.message ("cannot convert " ++ line.productId ++ " to " ++
        command.currencyCode))
    | some cost =>
      .ok { snapshot with
        items := snapshot.items ++ [{ item := line, unitCost := cost }]
        total := some (addMoney snapshot.total (multiplyMoney cost line.quantity)) }

/-- The snapshot that `buildOrderSnapshot` starts from. -/
def emptySnapshot (command : OrderSubmitCommand) : SanitizedOrderSnapshot where
  orderId := command.orderId
  userId := command.userId
  email := command.email
  shippingAddress := command.shippingAddress
  shippingCost := some { currencyCode := command.currencyCode }
  total := some { currencyCode := command.currencyCode }

/-- `buildOrderSnapshot`. -/
def buildOrderSnapshot (state : PersistedState) (cart : CartSnapshot)
    (command : OrderSubmitCommand) : Except CheckoutError SanitizedOrderSnapshot :=
  cart.items.foldlM (addOrderLine env state command) (emptySnapshot command)

/-- The saga of a rejected order. -/
def rejectedSaga (payload : OrderSubmitCommand) : OrderSaga where
  orderId := payload.orderId
  operationId := payload.operationId
  commandId := payload.commandId
  userId := payload.userId
  version := 1
  stage := .rejected

/-- The saga of an accepted order. -/
def acceptedSaga (state : PersistedState) (payload : OrderSubmitCommand)
    (snapshot : SanitizedOrderSnapshot) : OrderSaga where
  orderId := payload.orderId
  operationId := payload.operationId
  commandId := payload.commandId
  userId := payload.userId
  email := payload.email
  address := payload.shippingAddress
  currencyCode := payload.currencyCode
  paymentToken := payload.paymentToken
  cartVersion := payload.expectedCartVersion
  catalogRevision := payload.expectedCatalogRevision
  rateRevision := payload.expectedRateRevision
  version := 1
  stage := .waitingQuote
  deadline := state.deadlineAfter env.stepTimeout
  snapshot := some snapshot

/-- The part of `applyOrderCommand` that rejects a new order. -/
def rejectOrder (state : PersistedState) (envelope : MessageEnvelope)
    (payload : OrderSubmitCommand) (failure : Failure) : Except CheckoutError PersistedState := do
  let saga := rejectedSaga payload
  let state ← queueEnvelope env (state.setOrder saga) .orderRejected "order" payload.orderId
    saga.version (.orderRejected payload.operationId payload.orderId (some failure))
  return state.setInbox envelope.messageId state.transitionTime

/-- The part of `applyOrderCommand` that accepts a new order. -/
def acceptOrder (state : PersistedState) (envelope : MessageEnvelope)
    (payload : OrderSubmitCommand) (cart : CartSnapshot) :
    Except CheckoutError PersistedState := do
  let snapshot ← buildOrderSnapshot env state cart payload
  let saga := acceptedSaga env state payload snapshot
  let state ← queueEnvelope env (state.setOrder saga) .orderSubmitted "order" payload.orderId
    saga.version (.orderSubmitted payload.operationId (some snapshot) saga.cartVersion
      saga.catalogRevision saga.rateRevision)
  let state ← queueEnvelope env state .calculateOrderQuote "order" payload.orderId saga.version
    (.calculateOrderQuote (env.stableID ["quote", payload.orderId]) payload.orderId
      payload.shippingAddress cart)
  return state.setInbox envelope.messageId state.transitionTime

/-- `applyOrderCommand`. -/
def applyOrderCommand (state : PersistedState) (envelope : MessageEnvelope)
    (payload : OrderSubmitCommand) : Except CheckoutError PersistedState :=
  if (state.inbox envelope.messageId).isSome then .ok state
  else if state.orders.isSome then
    .ok (state.setInbox envelope.messageId state.transitionTime)
  else
    match validateOrderCommand env state (state.carts payload.userId) payload with
    | some failure => rejectOrder env state envelope payload failure
    | none =>
      match state.carts payload.userId with
      | none => .error .nilPointer
      | some cart => acceptOrder env state envelope payload cart

/-- The update that `processOrderCommand` passes to `ApplyOrder`. -/
def orderCommandUpdate (envelope : MessageEnvelope) (payload : OrderSubmitCommand)
    (state : PersistedState) : Except CheckoutError PersistedState := do
  validateOrderProjection state envelope payload
  applyOrderCommand env state envelope payload

/-! ## Saga events -/

/-- The quote branch of `applySagaEvent`. -/
def applyQuote (state : PersistedState) (saga : OrderSaga) (costUsd : Option Money) :
    Except CheckoutError PersistedState :=
  match convertMoney env.round64 state.rates costUsd saga.currencyCode with
  | none => cancel env state saga
      { code := "INVALID_CURRENCY", safeMessage := "Shipping could not be converted." }
  | some shipping =>
    match saga.snapshot with
    | none => .error .nilPointer
    | some snapshot =>
      let total := addMoney snapshot.total shipping
      let saga := { saga with
        snapshot := some { snapshot with shippingCost := some shipping, total := some total }
        version := saga.version + 1, stage := .waitingAuthorize
        deadline := state.deadlineAfter env.stepTimeout }
      queueEnvelope env (state.setOrder saga) .authorize "order" saga.orderId saga.version
        (.authorize (env.stableID ["authorize", saga.orderId]) saga.orderId (some total)
          saga.paymentToken (saga.orderId ++ "/authorize"))

/-- The authorization branch of `applySagaEvent`. -/
def applyAuthorized (state : PersistedState) (saga : OrderSaga) (authorizationId : String) :
    Except CheckoutError PersistedState :=
  match saga.snapshot with
  | none => .error .nilPointer
  | some snapshot =>
    let saga := { saga with
      authorizationId := authorizationId, paymentToken := "", version := saga.version + 1
      stage := .waitingShipment, deadline := state.deadlineAfter env.stepTimeout }
    queueEnvelope env (state.setOrder saga) .createShipment "order" saga.orderId saga.version
      (.createShipment (env.stableID ["shipment", saga.orderId]) saga.orderId saga.address
        (snapshot.items.map OrderLine.item) (saga.orderId ++ "/shipment"))

/-- The shipment branch of `applySagaEvent`. -/
def applyShipmentCreated (state : PersistedState) (saga : OrderSaga)
    (shipmentId trackingId : String) : Except CheckoutError PersistedState :=
  match saga.snapshot with
  | none => .error .nilPointer
  | some snapshot =>
    let saga := { saga with
      shipmentId := shipmentId, trackingId := trackingId
      snapshot := some { snapshot with trackingId := trackingId }
      version := saga.version + 1, stage := .waitingCapture
      deadline := state.deadlineAfter env.stepTimeout }
    queueEnvelope env (state.setOrder saga) .capture "order" saga.orderId saga.version
      (.capture (env.stableID ["capture", saga.orderId]) saga.orderId saga.authorizationId
        snapshot.total (saga.orderId ++ "/capture"))

/-- The capture branch of `applySagaEvent`. -/
def applyCaptured (state : PersistedState) (saga : OrderSaga) (cause : String) :
    Except CheckoutError PersistedState := do
  let saga := { saga with version := saga.version + 1, stage := .completed,
                          deadline := Time.zero }
  let state ← queueEnvelope env (state.setOrder saga) .orderCompleted "order" saga.orderId
    saga.version (.orderCompleted saga.snapshot)
  queueEnvelope env state .cartClear "cart" saga.userId saga.cartVersion
    (.cartClear (envelopeMessageID env .cartClear cause) saga.userId saga.cartVersion
      "order-completed" saga.orderId)

/-- The switch of `applySagaEvent`.  A payload of another type than the subject's is an error in
every branch that unmarshals it; the two failed-compensation branches do not. -/
def sagaEventSwitch (state : PersistedState) (saga : OrderSaga) (subject : SagaSubject)
    (envelope : MessageEnvelope) : Except CheckoutError PersistedState :=
  match subject with
  | .orderQuoteCalculated =>
    match envelope.data with
    | .orderQuoteCalculated _ costUsd =>
      if saga.stage ≠ .waitingQuote then .ok state else applyQuote env state saga costUsd
    | _ => .error .payloadType
  | .orderQuoteFailed =>
    match envelope.data with
    | .orderQuoteFailed _ failure =>
      if saga.stage ≠ .waitingQuote then .ok state
      else cancel env state saga (safeFailure failure "SHIPPING_QUOTE_FAILED")
    | _ => .error .payloadType
  | .paymentAuthorized =>
    match envelope.data with
    | .paymentAuthorized _ authorizationId =>
      if saga.stage ≠ .waitingAuthorize then .ok state
      else applyAuthorized env state saga authorizationId
    | _ => .error .payloadType
  | .paymentAuthorizationDeclined =>
    match envelope.data with
    | .paymentAuthorizationDeclined _ _ =>
      if saga.stage ≠ .waitingAuthorize then .ok state
      else cancel env state saga
        { code := "PAYMENT_DECLINED", safeMessage := "Payment authorization was declined." }
    | _ => .error .payloadType
  | .shipmentCreated =>
    match envelope.data with
    | .shipmentCreated _ shipmentId trackingId =>
      if saga.stage ≠ .waitingShipment then .ok state
      else applyShipmentCreated env state saga shipmentId trackingId
    | _ => .error .payloadType
  | .shipmentCreationFailed =>
    match envelope.data with
    | .shipmentCreationFailed _ failure =>
      if saga.stage ≠ .waitingShipment then .ok state
      else startCompensation env state saga (safeFailure failure "SHIPMENT_FAILED") true false
    | _ => .error .payloadType
  | .paymentCaptured =>
    match envelope.data with
    | .paymentCaptured _ _ =>
      if saga.stage ≠ .waitingCapture then .ok state
      else applyCaptured env state saga envelope.messageId
    | _ => .error .payloadType
  | .paymentCaptureFailed =>
    match envelope.data with
    | .paymentCaptureFailed _ _ failure =>
      if saga.stage ≠ .waitingCapture then .ok state
      else startCompensation env state saga (safeFailure failure "CAPTURE_FAILED") true true
    | _ => .error .payloadType
  | .authorizationReleased =>
    match envelope.data with
    | .authorizationReleased _ _ =>
      if saga.stage ≠ .compensating then .ok state
      else
        let saga := { saga with authorizationReleased := true }
        finishCompensation env (state.setOrder saga) saga
    | _ => .error .payloadType
  | .shipmentCancelled =>
    match envelope.data with
    | .shipmentCancelled _ _ =>
      if saga.stage ≠ .compensating then .ok state
      else
        let saga := { saga with shipmentCancelled := true }
        finishCompensation env (state.setOrder saga) saga
    | _ => .error .payloadType
  | .authorizationReleaseFailed =>
    if saga.stage ≠ .compensating then .ok state
    else manualReview env state saga "payment.authorization-release" "PAYMENT_RELEASE_FAILED"
  | .shipmentCancellationFailed =>
    if saga.stage ≠ .compensating then .ok state
    else manualReview env state saga "shipping.cancel-shipment" "SHIPMENT_CANCELLATION_FAILED"
  | .other _ => .ok state

/-- `applySagaEvent`. -/
def applySagaEvent (subject : SagaSubject) (envelope : MessageEnvelope) (state : PersistedState) :
    Except CheckoutError PersistedState :=
  if (state.inbox envelope.messageId).isSome then .ok state
  else
    let state := state.setInbox envelope.messageId state.transitionTime
    match state.orders with
    | none => .ok state
    | some saga =>
      if saga.stage.terminal then .ok state else sagaEventSwitch env state saga subject envelope

/-! ## Deadlines -/

/-- The update that `processDeadline` passes to `ApplyOrder`. -/
def deadlineUpdate (orderId : String) (version : ℕ) (deadline : Time) (inputId : String)
    (state : PersistedState) : Except CheckoutError PersistedState :=
  match state.orders with
  | none => .ok state
  | some saga =>
    if saga.version ≠ version || saga.deadline ≠ deadline then .ok state
    else do
      let previousStage := saga.stage
      let saga := { saga with version := saga.version + 1 }
      let state ← queueEnvelope env (state.setOrder saga) .orderStepTimedOut "order" orderId
        saga.version (.orderStepTimedOut orderId previousStage.text deadline inputId
          "manual-review")
      manualReview env state saga previousStage.text "STEP_TIMEOUT"

end Boutique
