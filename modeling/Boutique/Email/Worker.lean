import Boutique.Checkout.Saga

/-!
# The email worker

`emailservice/nats_worker.py`: what `_build_outcome` makes of a completed order.  A Python exception is the
error of an `Except`.  The hash functions are parameters.

The payload of an envelope is decoded by its type; a missing payload is one of another type.
-/

namespace Boutique.Email

/-! ## Messages -/

/-- The payloads of the worker: `NotificationOrderConfirmationSentEvent` and
`NotificationOrderConfirmationFailedEvent`. -/
inductive Notification where
  | sent (orderId maskedRecipient providerMessageId : String)
  | failed (orderId : String) (failure : Failure) (attemptCount : ℕ)
  deriving DecidableEq

/-- The `MessageEnvelope` of a notification. -/
structure NotificationEnvelope where
  messageId : String
  messageType : String
  schemaVersion : ℕ := 1
  occurredAt : Time
  producer : String
  aggregateType : String
  aggregateId : String
  aggregateVersion : ℕ
  correlationId : String
  causationId : String
  traceparent : String
  tracestate : String
  data : Notification
  deriving DecidableEq

/-- The dictionary that `_build_outcome` returns, with the envelope decoded. -/
structure Confirmation where
  subject : String
  messageId : String
  providerIdempotencyKey : String
  data : NotificationEnvelope
  deriving DecidableEq

/-- `SENT_SUBJECT`. -/
def sentSubject : String := "boutique.evt.notification.order-confirmation-sent.v1"

/-- `FAILED_SUBJECT`. -/
def failedSubject : String := "boutique.evt.notification.order-confirmation-failed.v1"

/-- `NOTIFICATION_TYPE`. -/
def notificationType : String := "order-confirmation"

/-- `RESULT_SLOT`. -/
def resultSlot : String := "notification.order-confirmation"

/-! ## The outcome of a completed order -/

/-- The configuration of a worker: `EMAIL_FAILURE_MODE`, and the hash functions. -/
structure EmailEnv where
  failureMode : String := ""
  /-- The hash part of `_result_message_id`. -/
  resultHash : String → String → String
  /-- `_stable_id`: a UUID made from the SHA-256 of parts. -/
  stableID : List String → String

/-- `_result_message_id`. -/
def resultMessageId (env : EmailEnv) (inputMessageId slot : String) : Except String String :=
  if inputMessageId = "" then .error "input message ID is required"
  else .ok ("br1_" ++ env.resultHash inputMessageId slot)

/-- `_mask_recipient`. -/
def maskRecipient (address : String) : String :=
  match address.toList.span (· ≠ '@') with
  | (_, []) => "***"
  | (mailbox, _ :: domain) =>
    (if mailbox = [] then "*" else String.ofList (mailbox.take 1)) ++ "***@" ++ String.ofList domain

/-- `_provider_idempotency_key`. -/
def providerIdempotencyKey (orderId notificationType : String) : Except String String :=
  if orderId = "" || notificationType = "" then .error "order ID and notification type are required"
  else .ok (orderId ++ ":" ++ notificationType)

/-- `_validate_input`: the time of the envelope, which `ToDatetime` can convert. -/
def validateInput (envelope : MessageEnvelope) : Except String Time :=
  if envelope.messageId = "" || envelope.correlationId = "" || envelope.aggregateId = "" ||
      envelope.aggregateVersion = 0 then
    .error "completed order envelope is incomplete"
  else
    match envelope.occurredAt with
    | none => .error "completed order envelope is incomplete"
    | some time => if validTimestamp time then .ok time else .error "Timestamp is not valid"

/-- The failure of the provider. -/
def providerFailure : Failure where
  code := "EMAIL_PROVIDER_UNAVAILABLE"
  retryable := true
  safeMessage := "Order confirmation could not be sent."

/-- The subject, the payload and the type of the outcome. -/
def notification (env : EmailEnv) (order : SanitizedOrderSnapshot) (providerKey : String) :
    String × Notification × String :=
  if env.failureMode = "failed" then
    (failedSubject, .failed order.orderId providerFailure 1,
      "boutique.notification.OrderConfirmationFailed.v1")
  else
    (sentSubject,
      .sent order.orderId (maskRecipient order.email) (env.stableID ["email-provider-v1", providerKey]),
      "boutique.notification.OrderConfirmationSent.v1")

/-- The dictionary that `_build_outcome` returns for an order. -/
def outcome (env : EmailEnv) (envelope : MessageEnvelope) (occurredAt : Time)
    (order : SanitizedOrderSnapshot) (providerKey messageId : String) : Confirmation :=
  let (subject, payload, messageType) := notification env order providerKey
  { subject := subject
    messageId := messageId
    providerIdempotencyKey := providerKey
    data := { messageId := messageId, messageType := messageType, occurredAt := occurredAt
              producer := "emailservice/phase3", aggregateType := "order"
              aggregateId := order.orderId, aggregateVersion := envelope.aggregateVersion
              correlationId := envelope.correlationId, causationId := envelope.messageId
              traceparent := envelope.traceparent, tracestate := envelope.tracestate
              data := payload } }

/-- `_build_outcome`. -/
def buildOutcome (env : EmailEnv) (envelope : MessageEnvelope) : Except String Confirmation := do
  let occurredAt ← validateInput envelope
  match envelope.data with
  | .orderCompleted (some order) =>
    if order.orderId = "" then .error "completed order payload is invalid"
    else if order.orderId ≠ envelope.aggregateId then
      .error "completed order does not match the envelope aggregate"
    else do
      let providerKey ← providerIdempotencyKey order.orderId notificationType
      let messageId ← resultMessageId env envelope.messageId resultSlot
      return outcome env envelope occurredAt order providerKey messageId
  | _ => .error "completed order payload is invalid"

/-! ## What the worker makes -/

variable {env : EmailEnv} {envelope : MessageEnvelope} {made : Confirmation}

/-- What an outcome has of its order: its IDs are those of the order, and its address is masked. -/
structure Confirms (env : EmailEnv) (envelope : MessageEnvelope) (made : Confirmation) : Prop where
  messageId : made.messageId = "br1_" ++ env.resultHash envelope.messageId resultSlot
  providerKey : made.providerIdempotencyKey = envelope.aggregateId ++ ":" ++ notificationType
  causation : made.data.causationId = envelope.messageId
  order : made.data.aggregateId = envelope.aggregateId
  payload : ∃ order, envelope.data = .orderCompleted (some order) ∧ order.orderId = envelope.aggregateId ∧
    ((made.subject = sentSubject ∧ made.data.data = .sent order.orderId (maskRecipient order.email)
        (env.stableID ["email-provider-v1", made.providerIdempotencyKey])) ∨
      made.subject = failedSubject ∧ made.data.data = .failed order.orderId providerFailure 1)

/-- Every outcome confirms its order. -/
lemma confirms_of_buildOutcome (h : buildOutcome env envelope = .ok made) :
    Confirms env envelope made := by
  unfold buildOutcome at h
  obtain ⟨time, -, h⟩ := bind_eq_ok.mp h
  split at h
  · next order hdata =>
    split_ifs at h with hempty haggregate
    obtain ⟨key, hkey, h⟩ := bind_eq_ok.mp h
    obtain ⟨messageId, hid, h⟩ := bind_eq_ok.mp h
    unfold providerIdempotencyKey at hkey
    unfold resultMessageId at hid
    split_ifs at hkey hid
    obtain rfl := Except.ok.inj hkey
    obtain rfl := Except.ok.inj hid
    obtain rfl := Except.ok.inj h
    have hsame : order.orderId = envelope.aggregateId := not_not.mp haggregate
    refine ⟨rfl, ?_, rfl, hsame, order, hdata, hsame, ?_⟩
    · rw [← hsame]
      rfl
    · by_cases hmode : env.failureMode = "failed"
      · right
        simp [outcome, notification, hmode]
      · left
        simp [outcome, notification, hmode]
  · cases h

/-- What an envelope of a completed order has that the worker needs. -/
structure Complete (envelope : MessageEnvelope) : Prop where
  messageId : envelope.messageId ≠ ""
  correlationId : envelope.correlationId ≠ ""
  aggregateId : envelope.aggregateId ≠ ""
  aggregateVersion : envelope.aggregateVersion ≠ 0
  occurredAt : ∃ time, envelope.occurredAt = some time ∧ validTimestamp time = true
  order : ∃ order, envelope.data = .orderCompleted (some order) ∧ order.orderId = envelope.aggregateId

/-- The worker accepts exactly these envelopes, whether its provider fails or not. -/
lemma buildOutcome_ok_iff : (∃ made, buildOutcome env envelope = .ok made) ↔ Complete envelope := by
  constructor
  · rintro ⟨made, h⟩
    obtain ⟨order, hdata, hsame, -⟩ := (confirms_of_buildOutcome h).payload
    unfold buildOutcome at h
    obtain ⟨time, htime, -⟩ := bind_eq_ok.mp h
    unfold validateInput at htime
    split_ifs at htime with hincomplete
    simp only [Bool.or_eq_true, decide_eq_true_eq, not_or] at hincomplete
    obtain ⟨⟨⟨hmessage, hcorrelation⟩, haggregate⟩, hversion⟩ := hincomplete
    split at htime
    · cases htime
    · next occurredAt hoccurred =>
      split_ifs at htime with hvalid
      exact ⟨hmessage, hcorrelation, haggregate, hversion, ⟨occurredAt, hoccurred, hvalid⟩, order,
        hdata, hsame⟩
  · intro h
    obtain ⟨time, htime, hvalid⟩ := h.occurredAt
    obtain ⟨order, hdata, hsame⟩ := h.order
    have hinput : validateInput envelope = .ok time := by
      simp [validateInput, h.messageId, h.correlationId, h.aggregateId, h.aggregateVersion, htime, hvalid]
    have hne : order.orderId ≠ "" := hsame ▸ h.aggregateId
    simp [buildOutcome, hinput, hdata, hsame, h.aggregateId, providerIdempotencyKey, notificationType,
      resultMessageId, h.messageId, bind, Except.bind, pure, Except.pure]

end Boutique.Email
