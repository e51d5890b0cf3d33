import Boutique.Payment.Worker

/-!
# The shipping commands of an order

`buildShippingOutcome` of `shippingservice/shipping_commands.go` for the commands that checkout sends;
the subject of cart quotes is left out.  The keyed hashes of the provider are parameters.
-/

namespace Boutique.Shipping

open Payment (Reply)

/-- `shippingProvider`, the failure mode and the hash of result IDs. -/
structure ShippingEnv where
  failureMode : String := ""
  /-- The first sixteen bytes of the HMAC of the kind and the parts. -/
  hash : String → List String → Fin 16 → UInt8
  rejectsShipment : String → Bool
  trackingID : String → String
  resultHash : String → String → String

/-- A hexadecimal digit. -/
def hexDigit (n : ℕ) : Char := Nat.digitChar n

/-- Bytes in hexadecimal. -/
def hex (bytes : List UInt8) : String :=
  String.ofList (bytes.flatMap fun b => [hexDigit (b.toNat / 16), hexDigit (b.toNat % 16)])

/-- `shippingProvider.stableID`. -/
def stableID (env : ShippingEnv) (kind : String) (parts : List String) : String :=
  let id : Fin 16 → UInt8 := fun i =>
    let b := env.hash kind parts i
    if i = 6 then b &&& 0x0f ||| 0x50 else if i = 8 then b &&& 0x3f ||| 0x80 else b
  hex [id 0, id 1, id 2, id 3] ++ "-" ++ hex [id 4, id 5] ++ "-" ++ hex [id 6, id 7] ++ "-" ++
    hex [id 8, id 9] ++ "-" ++ hex [id 10, id 11, id 12, id 13, id 14, id 15]

/-- `Quote`. -/
structure Quote where
  dollars : ℕ
  cents : ℕ

/-- `CreateQuoteFromCount`: nothing for an empty cart, and else 8.99. -/
def createQuoteFromCount (count : ℤ) : Quote :=
  if count = 0 then { dollars := 0, cents := 0 } else { dollars := 8, cents := 99 }

/-- `validateShippingInput`. -/
def validateShippingInput (envelope : MessageEnvelope) : Except String Time :=
  match envelope.occurredAt with
  | none => .error "shipping input envelope is incomplete"
  | some time =>
    if envelope.messageId = "" || envelope.correlationId = "" || envelope.aggregateId = "" ||
        envelope.aggregateVersion = 0 then
      .error "shipping input envelope is incomplete"
    else if !validTimestamp time then .error "shipping input timestamp is invalid"
    else .ok time

variable (env : ShippingEnv)

/-- `newShippingOutcome`. -/
def newShippingOutcome (slot : String) (subject : SagaSubject) (messageType orderID : String)
    (cause : MessageEnvelope) (occurredAt : Time) (payload : Payload) : Except String Reply := do
  let envelope ← newResultEnvelope env.resultHash cause
    { slot := slot
      messageType := messageType
      producer := "shippingservice/phase3"
      aggregateType := "order"
      aggregateId := orderID
      aggregateVersion := cause.aggregateVersion
      occurredAt := occurredAt
      payload := payload }
  return { messageId := envelope.messageId, subject := subject, data := envelope }

/-- The order quote branch of `buildShippingOutcome`. -/
def buildOrderQuote (envelope : MessageEnvelope) (inputTime : Time) (commandId orderId : String)
    (cart : CartSnapshot) : Except String Reply :=
  if commandId = "" || orderId = "" then .error "shipping quote command is incomplete"
  else if orderId ≠ envelope.aggregateId then
    .error "shipping quote order does not match the envelope aggregate"
  else if env.failureMode = "quote" then
    newShippingOutcome env "shipping.order-quote" .orderQuoteFailed
      "boutique.shipping.OrderQuoteFailed.v1" orderId envelope inputTime
      (.orderQuoteFailed orderId
        (some { code := "QUOTE_PROVIDER_UNAVAILABLE", retryable := true
                safeMessage := "Shipping quote is unavailable." }))
  else
    let count := cart.items.foldl (fun count line => wrapInt64 (count + line.quantity)) 0
    let quote := createQuoteFromCount count
    newShippingOutcome env "shipping.order-quote" .orderQuoteCalculated
      "boutique.shipping.OrderQuoteCalculated.v1" orderId envelope inputTime
      (.orderQuoteCalculated orderId
        (some { currencyCode := "USD", units := quote.dollars, nanos := quote.cents * 10000000 }))

/-- The shipment branch of `buildShippingOutcome`. -/
def buildShipment (envelope : MessageEnvelope) (inputTime : Time)
    (commandId orderId idempotencyKey : String) : Except String Reply :=
  if commandId = "" || orderId = "" || idempotencyKey = "" then
    .error "shipping create command is incomplete"
  else if orderId ≠ envelope.aggregateId then
    .error "shipping create order does not match the envelope aggregate"
  else if env.failureMode = "shipment" || env.rejectsShipment idempotencyKey then
    let failure : Failure :=
      if env.failureMode ≠ "shipment" then
        { code := "CARRIER_REJECTED", retryable := false
          safeMessage := "The carrier rejected the shipment." }
      else
        { code := "CARRIER_UNAVAILABLE", retryable := true
          safeMessage := "Shipment creation failed." }
    newShippingOutcome env "shipping.create-shipment" .shipmentCreationFailed
      "boutique.shipping.ShipmentCreationFailed.v1" orderId envelope inputTime
      (.shipmentCreationFailed orderId (some failure))
  else
    newShippingOutcome env "shipping.create-shipment" .shipmentCreated
      "boutique.shipping.ShipmentCreated.v1" orderId envelope inputTime
      (.shipmentCreated orderId (stableID env "shipment" [idempotencyKey])
        (env.trackingID idempotencyKey))

/-- The cancellation branch of `buildShippingOutcome`. -/
def buildCancellation (envelope : MessageEnvelope) (inputTime : Time)
    (commandId orderId shipmentId idempotencyKey : String) : Except String Reply :=
  if commandId = "" || orderId = "" || shipmentId = "" || idempotencyKey = "" then
    .error "shipping cancellation command is incomplete"
  else if orderId ≠ envelope.aggregateId then
    .error "shipping cancellation order does not match the envelope aggregate"
  else if env.failureMode = "cancel" then
    newShippingOutcome env "shipping.cancel-shipment" .shipmentCancellationFailed
      "boutique.shipping.ShipmentCancellationFailed.v1" orderId envelope inputTime
      (.shipmentCancellationFailed orderId shipmentId
        (some { code := "CARRIER_CANCELLATION_FAILED"
                safeMessage := "Shipment cancellation requires review." }))
  else
    newShippingOutcome env "shipping.cancel-shipment" .shipmentCancelled
      "boutique.shipping.ShipmentCancelled.v1" orderId envelope inputTime
      (.shipmentCancelled orderId shipmentId)

/-- `buildShippingOutcome`. -/
def buildShippingOutcome (subject : ResultSubject) (envelope : MessageEnvelope) :
    Except String Reply := do
  let inputTime ← validateShippingInput envelope
  match subject, envelope.data with
  | .calculateOrderQuote, .calculateOrderQuote commandId orderId _ cart =>
    buildOrderQuote env envelope inputTime commandId orderId cart
  | .createShipment, .createShipment commandId orderId _ _ idempotencyKey =>
    buildShipment env envelope inputTime commandId orderId idempotencyKey
  | .cancelShipment, .cancelShipment commandId orderId shipmentId _ _ idempotencyKey =>
    buildCancellation env envelope inputTime commandId orderId shipmentId idempotencyKey
  | .calculateOrderQuote, _ | .createShipment, _ | .cancelShipment, _ =>
    .error "proto: mismatched message type"
  | subject, _ => .error ("unsupported shipping command " ++ subject.text)

/-! ## What the service replies -/

variable {env}

/-- What a reply has of the command and of its own. -/
lemma of_newShippingOutcome {slot : String} {subject : SagaSubject} {messageType orderID : String}
    {cause : MessageEnvelope} {occurredAt : Time} {payload : Payload} {reply : Reply}
    (h : newShippingOutcome env slot subject messageType orderID cause occurredAt payload =
      .ok reply) :
    reply.subject = subject ∧ reply.data.data = payload ∧ reply.data.aggregateId = orderID ∧
      reply.data.messageId = "br1_" ++ env.resultHash cause.messageId slot ∧
      reply.data.correlationId = cause.correlationId ∧ reply.data.occurredAt = some occurredAt := by
  obtain ⟨envelope, henvelope, h⟩ := bind_eq_ok.mp h
  obtain rfl := Except.ok.inj h
  rw [newResultEnvelope_eq_ok henvelope]
  exact ⟨rfl, rfl, rfl, rfl, rfl, rfl⟩

/-- A provider ID is not empty. -/
lemma stableID_ne (kind : String) (parts : List String) : stableID env kind parts ≠ "" := by
  intro hempty
  simpa [stableID] using congrArg String.length hempty

end Boutique.Shipping
