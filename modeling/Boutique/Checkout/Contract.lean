import Boutique.Checkout.Flow
import Boutique.Shipping.Commands
import Boutique.Cart.System

/-!
# The handlers understand what the saga sends

Checkout journals commands for the shipping, payment and cart services, and takes their replies as
inputs.  Every command is accepted by the checks of its handler, and every reply is an input that
moves the order on, as long as the order still waits for it.

The invariant is about the stored order and the journalled commands together: an open order has the
IDs that its next commands need, because the replies that brought it so far have them.
-/

namespace Boutique

open Payment (PaymentEnv Reply processCommand)
open Shipping (ShippingEnv buildShippingOutcome)

/-! ## Messages between the services -/

/-- A message that was sent and a delivered one: the trace context is replaced on the way. -/
def SameMessage (sent delivered : MessageEnvelope) : Prop :=
  ∃ traceparent tracestate,
    delivered = { sent with traceparent := traceparent, tracestate := tracestate }

/-- The payment or the shipping service, in some configuration, replies to a journalled command. -/
inductive Handled (result : ResultMessage) (reply : Reply) : Prop where
  | payment (env : PaymentEnv) (envelope : MessageEnvelope)
      (hsame : SameMessage result.data envelope)
      (hreply : processCommand env result.subject envelope = .ok reply)
  | shipping (env : ShippingEnv) (envelope : MessageEnvelope)
      (hsame : SameMessage result.data envelope)
      (hreply : buildShippingOutcome env result.subject envelope = .ok reply)

/-- The cart that an event of the cart service carries. -/
def CartStore.CartEvent.cart? : CartStore.CartEvent → Option CartSnapshot
  | .itemAdded _ _ _ _ _ cart => some cart
  | .cleared _ _ _ cart _ _ => some cart
  | .commandRejected .. => none

/-- The cart is one that an accepted command of the user left at the cart service. -/
def CartServed (userId : String) (cart : CartSnapshot) : Prop :=
  ∃ (call : CartStore.Call) (stored : CartStore.Cart) (version : ℕ)
    (selected : CartStore.CartTransition),
    call.command.userId = userId ∧ call.validate = .ok () ∧
    call.transition stored version = .ok selected ∧ selected.payload.cart? = some cart

/-- An input comes from the services: an event is a reply to a command that is journalled, and the
carts of an order command are served by the cart service. -/
def InputOk (log : List Commit) : OrderInput → Prop
  | .command _ _ projections =>
    ∀ userId cart, projections.carts userId = some cart → CartServed userId cart
  | .event subject envelope =>
    ∃ result ∈ journalledResults log, ∃ reply, Handled result reply ∧ reply.subject = subject ∧
      SameMessage reply.data envelope
  | .deadline .. => True

/-- The inputs that the step delivers come from the services. -/
def FromServices (s : CheckoutState) : Action → Prop
  | .deliver _ input _ => InputOk s.log input
  | _ => True

/-- The stage in which the order waits for the reply to a command. -/
def ResultSubject.awaits : ResultSubject → Option Stage
  | .calculateOrderQuote => some .waitingQuote
  | .authorize => some .waitingAuthorize
  | .createShipment => some .waitingShipment
  | .capture => some .waitingCapture
  | .releaseAuthorization | .cancelShipment => some .compensating
  | _ => none

/-- The order moves on, or records the reply. -/
def Progress (subject : SagaSubject) (saga saga' : OrderSaga) : Prop :=
  saga.version < saga'.version ∨
    (subject = .authorizationReleased ∧ saga'.authorizationReleased = true) ∨
    (subject = .shipmentCancelled ∧ saga'.shipmentCancelled = true)

/-! ## What a handler needs -/

/-- The fields that every handler checks. -/
structure EnvelopeOk (envelope : MessageEnvelope) : Prop where
  messageId : isBlank envelope.messageId = false
  correlationId : isBlank envelope.correlationId = false
  occurredAt : ∃ time, envelope.occurredAt = some time ∧ time ≠ 0 ∧ validTimestamp time = true

/-- A text that is not blank is not empty. -/
lemma ne_empty_of_isBlank {text : String} (h : isBlank text = false) : text ≠ "" := by
  rintro rfl
  cases h

/-- The ID of a result is not blank. -/
lemma isBlank_resultId (hash : String) : isBlank ("br1_" ++ hash) = false := by
  simp [isBlank, isSpace]

/-- The delivered message has the fields that were sent. -/
lemma SameMessage.envelopeOk {sent delivered : MessageEnvelope} (h : SameMessage sent delivered)
    (hok : EnvelopeOk sent) : EnvelopeOk delivered := by
  obtain ⟨_, _, rfl⟩ := h
  exact ⟨hok.messageId, hok.correlationId, hok.occurredAt⟩

/-- What the payload of a command to a handler has. -/
def CommandFields (orderId : String) (subject : ResultSubject) (envelope : MessageEnvelope) : Prop :=
  match subject with
  | .calculateOrderQuote => ∃ commandId address cart,
    envelope.data = .calculateOrderQuote commandId orderId address cart ∧ commandId ≠ ""
  | .authorize => ∃ commandId amount token key,
    envelope.data = .authorize commandId orderId amount token key ∧ commandId ≠ "" ∧ key ≠ ""
  | .createShipment => ∃ commandId address items key,
    envelope.data = .createShipment commandId orderId address items key ∧ commandId ≠ "" ∧ key ≠ ""
  | .capture => ∃ commandId authorizationId amount key,
    envelope.data = .capture commandId orderId authorizationId amount key ∧ commandId ≠ "" ∧
      authorizationId ≠ "" ∧ key ≠ ""
  | .releaseAuthorization => ∃ commandId authorizationId reason key,
    envelope.data = .releaseAuthorization commandId orderId authorizationId reason key ∧
      commandId ≠ "" ∧ authorizationId ≠ "" ∧ key ≠ ""
  | .cancelShipment => ∃ commandId shipmentId trackingId reason key,
    envelope.data = .cancelShipment commandId orderId shipmentId trackingId reason key ∧
      commandId ≠ "" ∧ shipmentId ≠ "" ∧ key ≠ ""
  | .cartClear => ∃ userId reason order,
    envelope.data = .cartClear envelope.messageId userId envelope.aggregateVersion reason order ∧
      envelope.aggregateId = userId ∧ isBlank userId = false ∧ envelope.aggregateType = "cart"
  | _ => True

/-- Where a command to the payment or shipping service is addressed. -/
structure Addressed (orderId : String) (envelope : MessageEnvelope) : Prop where
  aggregateId : envelope.aggregateId = orderId
  positive : envelope.aggregateVersion ≠ 0
  bounded : envelope.aggregateVersion ≤ 5

/-- Whether checkout publishes commands on a subject. -/
def ResultSubject.isCommand (subject : ResultSubject) : Bool :=
  subject = .cartClear || subject.awaits.isSome

/-- A journalled command has what its handler needs. -/
structure CommandOk (orderId : String) (result : ResultMessage) : Prop where
  envelope : EnvelopeOk result.data
  schemaVersion : result.data.schemaVersion = 1
  messageType : result.data.messageType = result.subject.messageType
  addressed : result.subject.awaits.isSome = true → Addressed orderId result.data
  fields : CommandFields orderId result.subject result.data

/-! ## The handlers accept -/

section Handlers

variable {orderId : String} {result : ResultMessage} {envelope : MessageEnvelope}

/-- The timestamps of the contract are safe integers as milliseconds. -/
lemma isSafeInteger_epochMillis {time : ℤ} (h : validTimestamp time = true) :
    Payment.isSafeInteger (epochMillis time) = true := by
  rw [validTimestamp, Bool.and_eq_true] at h
  have hlower : 0 ≤ time := of_decide_eq_true h.1
  have hupper : time < timestampEnd := of_decide_eq_true h.2
  unfold timestampEnd unixEpoch at hupper
  rw [Payment.isSafeInteger, Bool.and_eq_true]
  unfold epochMillis unixEpoch
  exact ⟨decide_eq_true (by omega), decide_eq_true (by omega)⟩

/-- `ValidateEnvelope` accepts the command to clear the cart. -/
lemma CommandOk.cart_accepts (h : CommandOk orderId result) (hsubject : result.subject = .cartClear)
    (hsame : SameMessage result.data envelope) :
    ∃ commandId userId version reason order,
      envelope.data = .cartClear commandId userId version reason order ∧
      CartStore.validateEnvelope commandId userId (some version) "boutique.cart.Clear.v1" envelope =
        .ok () := by
  have hfields := h.fields
  have htype := h.messageType
  rw [hsubject] at hfields htype
  obtain ⟨userId, reason, order, hdata, hid, huser, haggregate⟩ := hfields
  obtain ⟨time, htime, -, hvalid⟩ := h.envelope.occurredAt
  obtain ⟨_, _, rfl⟩ := hsame
  refine ⟨_, userId, _, reason, order, hdata, ?_⟩
  simp [CartStore.validateEnvelope, huser, h.envelope.messageId, h.envelope.correlationId, hid,
    haggregate, htype, ResultSubject.messageType, h.schemaVersion, htime, hvalid]

/-- A command that has what its handler needs has it when it is delivered. -/
lemma SameMessage.commandFields {subject : ResultSubject} {sent delivered : MessageEnvelope}
    (h : SameMessage sent delivered) (hfields : CommandFields orderId subject sent) :
    CommandFields orderId subject delivered := by
  obtain ⟨_, _, rfl⟩ := h
  exact hfields

/-- A delivered command is addressed as it was sent. -/
lemma SameMessage.addressed {sent delivered : MessageEnvelope} (h : SameMessage sent delivered)
    (haddressed : Addressed orderId sent) : Addressed orderId delivered := by
  obtain ⟨_, _, rfl⟩ := h
  exact ⟨haddressed.aggregateId, haddressed.positive, haddressed.bounded⟩

/-- What a reply has that checkout needs: it is addressed to the order, and has the payload of its
subject with the IDs that the next commands need. -/
def ReplyFields (orderId : String) (reply : Reply) : Prop :=
  match reply.subject with
  | .orderQuoteCalculated => ∃ cost, reply.data.data = .orderQuoteCalculated orderId cost
  | .orderQuoteFailed => ∃ failure, reply.data.data = .orderQuoteFailed orderId failure
  | .paymentAuthorized => ∃ authorizationId,
    reply.data.data = .paymentAuthorized orderId authorizationId ∧ authorizationId ≠ ""
  | .paymentAuthorizationDeclined => ∃ category,
    reply.data.data = .paymentAuthorizationDeclined orderId category
  | .shipmentCreated => ∃ shipmentId trackingId,
    reply.data.data = .shipmentCreated orderId shipmentId trackingId ∧ shipmentId ≠ ""
  | .shipmentCreationFailed => ∃ failure, reply.data.data = .shipmentCreationFailed orderId failure
  | .paymentCaptured => ∃ transactionId, reply.data.data = .paymentCaptured orderId transactionId
  | .paymentCaptureFailed => ∃ authorizationId failure,
    reply.data.data = .paymentCaptureFailed orderId authorizationId failure
  | .authorizationReleased => ∃ authorizationId,
    reply.data.data = .authorizationReleased orderId authorizationId
  | .shipmentCancelled => ∃ shipmentId, reply.data.data = .shipmentCancelled orderId shipmentId
  | .authorizationReleaseFailed | .shipmentCancellationFailed => True
  | .other _ => False

/-- The stage in which the switch of `applySagaEvent` reacts to a subject. -/
def SagaSubject.stage : SagaSubject → Option Stage
  | .orderQuoteCalculated | .orderQuoteFailed => some .waitingQuote
  | .paymentAuthorized | .paymentAuthorizationDeclined => some .waitingAuthorize
  | .shipmentCreated | .shipmentCreationFailed => some .waitingShipment
  | .paymentCaptured | .paymentCaptureFailed => some .waitingCapture
  | .authorizationReleased | .shipmentCancelled | .authorizationReleaseFailed
  | .shipmentCancellationFailed => some .compensating
  | .other _ => none

/-- A reply to a command of the order, which waits for it in `stage`. -/
structure ReplyOk (orderId : String) (stage : Option Stage) (reply : Reply) : Prop where
  envelope : EnvelopeOk reply.data
  aggregateId : reply.data.aggregateId = orderId
  stage : reply.subject.stage = stage
  fields : ReplyFields orderId reply

/-! ### The payment worker -/

section Worker

variable {env : PaymentEnv} {reply : Reply}

/-- The payment worker makes a reply of a command with a complete envelope. -/
lemma outcome_accepts {slot messageType : String} {subject : SagaSubject} {payload : Payload}
    {stage : Option Stage} (hok : EnvelopeOk envelope) (haddressed : Addressed orderId envelope)
    (hid : orderId ≠ "") (hstage : subject.stage = stage)
    (hfields : ∀ reply : Reply, reply.subject = subject → reply.data.data = payload →
      ReplyFields orderId reply) :
    ∃ reply, Payment.outcome env envelope slot subject messageType payload = .ok reply ∧
      ReplyOk orderId stage reply := by
  obtain ⟨time, htime, -⟩ := id hok.occurredAt
  have hmade : ∃ reply, Payment.outcome env envelope slot subject messageType payload = .ok reply :=
    Payment.outcome_eq_ok (ne_empty_of_isBlank hok.messageId)
      (ne_empty_of_isBlank hok.correlationId) (haddressed.aggregateId ▸ hid) haddressed.positive
      (by simp [htime]) slot subject messageType payload
  obtain ⟨reply, hreply⟩ := hmade
  obtain ⟨hsubject, hdata, haggregate, hmessage, hcorrelation, htimes⟩ := Payment.of_outcome hreply
  refine ⟨reply, hreply, ⟨?_, ?_, ?_⟩, haggregate.trans haddressed.aggregateId, ?_,
    hfields reply hsubject hdata⟩
  · rw [hmessage]
    exact isBlank_resultId _
  · rw [hcorrelation]
    exact hok.correlationId
  · rw [htimes]
    exact hok.occurredAt
  · rw [hsubject, hstage]

/-- The envelope of a command passes the checks of `processCommand`. -/
lemma processCommand_checked (hok : EnvelopeOk envelope)
    (haddressed : Addressed orderId envelope) (hid : orderId ≠ "") :
    ((envelope.messageId = "" || envelope.correlationId = "" || envelope.aggregateId = "" ||
        !Payment.isSafeInteger envelope.aggregateVersion ||
        envelope.aggregateVersion = 0) = true) = False ∧
      ∃ time, Payment.occurredAtMilliseconds envelope = .ok time := by
  have hsafe : Payment.isSafeInteger envelope.aggregateVersion = true := by
    have hbounded := haddressed.bounded
    rw [Payment.isSafeInteger, Bool.and_eq_true]
    exact ⟨decide_eq_true (by omega), decide_eq_true (by omega)⟩
  obtain ⟨time, htime, -, hvalid⟩ := hok.occurredAt
  have haggregate : envelope.aggregateId ≠ "" := haddressed.aggregateId ▸ hid
  refine ⟨?_, epochMillis time, ?_⟩
  · simp [ne_empty_of_isBlank hok.messageId, ne_empty_of_isBlank hok.correlationId, haggregate,
      haddressed.positive, hsafe]
  · simp [Payment.occurredAtMilliseconds, htime, isSafeInteger_epochMillis hvalid]

/-- The payment worker accepts a command to authorize. -/
lemma processAuthorize_accepts {commandId token key : String} {time : ℤ} (hok : EnvelopeOk envelope)
    (haddressed : Addressed orderId envelope) (hid : orderId ≠ "") (hcommand : commandId ≠ "")
    (hkey : key ≠ "") :
    ∃ reply, Payment.processAuthorize env envelope time commandId orderId token key = .ok reply ∧
      ReplyOk orderId (some .waitingAuthorize) reply := by
  have hdeclined : ∀ category, ∃ reply, Payment.outcome env envelope "payment.authorize"
      .paymentAuthorizationDeclined "boutique.payment.AuthorizationDeclined.v1"
      (.paymentAuthorizationDeclined orderId category) = .ok reply ∧
      ReplyOk orderId (some .waitingAuthorize) reply := fun category =>
    outcome_accepts hok haddressed hid rfl fun reply hsubject hdata => by
      simp [ReplyFields, hsubject, hdata]
  simp only [Payment.processAuthorize]
  rw [if_neg (by simp [hcommand, hid, hkey, haddressed.aggregateId])]
  by_cases hmode : env.mode = "authorization_declined"
  · rw [if_pos hmode]
    exact hdeclined _
  · rw [if_neg hmode]
    cases hverified : Payment.verifyPaymentToken env token orderId time with
    | error => exact hdeclined _
    | ok keyID =>
      obtain ⟨reference, hreference⟩ := Payment.authorizationReference_ok hverified orderId key
      have hne := Payment.authorizationReference_ne hreference
      simp only [hreference]
      exact outcome_accepts hok haddressed hid rfl fun reply hsubject hdata => by
        simp [ReplyFields, hsubject, hdata, hne]

/-- The IDs of a command pass the checks of the capture and release branches. -/
lemma checkAuthorized_ok {commandId authorizationId key : String} (text : String)
    (haddressed : Addressed orderId envelope) (hid : orderId ≠ "") (hcommand : commandId ≠ "")
    (hauthorization : authorizationId ≠ "") (hkey : key ≠ "") :
    Payment.checkAuthorized envelope commandId orderId authorizationId key text = .ok () := by
  unfold Payment.checkAuthorized
  rw [if_neg (by simp [hcommand, hid, hauthorization, hkey, haddressed.aggregateId])]

/-- The payment worker accepts a command to capture. -/
lemma processCapture_accepts {commandId authorizationId key : String} (hok : EnvelopeOk envelope)
    (haddressed : Addressed orderId envelope) (hid : orderId ≠ "") (hcommand : commandId ≠ "")
    (hauthorization : authorizationId ≠ "") (hkey : key ≠ "") :
    ∃ reply,
      Payment.processCapture env envelope commandId orderId authorizationId key = .ok reply ∧
      ReplyOk orderId (some .waitingCapture) reply := by
  unfold Payment.processCapture
  rw [checkAuthorized_ok _ haddressed hid hcommand hauthorization hkey]
  simp only [bind, Except.bind]
  split_ifs
  all_goals
    exact outcome_accepts hok haddressed hid rfl fun reply hsubject hdata => by
      simp [ReplyFields, hsubject, hdata]

/-- The payment worker accepts a command to release an authorization. -/
lemma processRelease_accepts {commandId authorizationId key : String} (hok : EnvelopeOk envelope)
    (haddressed : Addressed orderId envelope) (hid : orderId ≠ "") (hcommand : commandId ≠ "")
    (hauthorization : authorizationId ≠ "") (hkey : key ≠ "") :
    ∃ reply,
      Payment.processRelease env envelope commandId orderId authorizationId key = .ok reply ∧
      ReplyOk orderId (some .compensating) reply := by
  unfold Payment.processRelease
  rw [checkAuthorized_ok _ haddressed hid hcommand hauthorization hkey]
  simp only [bind, Except.bind]
  split_ifs
  all_goals
    exact outcome_accepts hok haddressed hid rfl fun reply hsubject hdata => by
      simp [ReplyFields, hsubject, hdata]

/-- The subjects of the payment commands. -/
def ResultSubject.isPayment : ResultSubject → Bool
  | .authorize | .capture | .releaseAuthorization => true
  | _ => false

/-- The payment worker accepts every payment command that has what it needs. -/
lemma CommandOk.payment_accepts (h : CommandOk orderId result) (env : PaymentEnv)
    (hid : orderId ≠ "") (hpayment : result.subject.isPayment = true)
    (hsame : SameMessage result.data envelope) :
    ∃ reply, processCommand env result.subject envelope = .ok reply ∧
      ReplyOk orderId result.subject.awaits reply := by
  have hok := hsame.envelopeOk h.envelope
  have hfields := hsame.commandFields h.fields
  have haddressed : Addressed orderId envelope := by
    refine hsame.addressed (h.addressed ?_)
    cases hsubject : result.subject <;> simp_all [ResultSubject.isPayment, ResultSubject.awaits]
  obtain ⟨hchecks, time, htime⟩ := processCommand_checked hok haddressed hid
  unfold Payment.processCommand
  rw [if_neg (by rw [hchecks]; exact not_false), htime]
  cases hsubject : result.subject with
  | authorize =>
    rw [hsubject] at hfields
    obtain ⟨commandId, amount, token, key, hdata, hcommand, hkey⟩ := hfields
    simp only [hdata]
    exact processAuthorize_accepts hok haddressed hid hcommand hkey
  | capture =>
    rw [hsubject] at hfields
    obtain ⟨commandId, authorizationId, amount, key, hdata, hcommand, hauthorization, hkey⟩ := hfields
    simp only [hdata]
    exact processCapture_accepts hok haddressed hid hcommand hauthorization hkey
  | releaseAuthorization =>
    rw [hsubject] at hfields
    obtain ⟨commandId, authorizationId, reason, key, hdata, hcommand, hauthorization, hkey⟩ := hfields
    simp only [hdata]
    exact processRelease_accepts hok haddressed hid hcommand hauthorization hkey
  | _ => simp [hsubject, ResultSubject.isPayment] at hpayment

/-- The payment worker replies to payment commands only. -/
lemma isPayment_of_processCommand {subject : ResultSubject}
    (h : processCommand env subject envelope = .ok reply) : subject.isPayment = true := by
  unfold Payment.processCommand at h
  split_ifs at h
  obtain ⟨time, -, h⟩ := bind_eq_ok.mp h
  split at h
  all_goals first | rfl | cases h

end Worker

/-! ### The shipping service -/

/-- The fields of a `ResultSpec` that do not depend on the input. -/
structure SpecOk (spec : ResultSpec) : Prop where
  slot : validSlot spec.slot = true
  messageType : isBlank spec.messageType = false
  producer : isBlank spec.producer = false
  aggregateType : isBlank spec.aggregateType = false
  aggregateId : isBlank spec.aggregateId = false
  aggregateVersion : spec.aggregateVersion ≠ 0
  occurredAt : spec.occurredAt ≠ 0
  timestamp : validTimestamp spec.occurredAt = true

/-- `NewResultEnvelope` makes an envelope of what passes its checks. -/
lemma newResultEnvelope_ok {hash : String → String → String} {spec : ResultSpec}
    (hok : EnvelopeOk envelope) (hspec : SpecOk spec) :
    newResultEnvelope hash envelope spec =
      .ok (resultEnvelope envelope spec ("br1_" ++ hash envelope.messageId spec.slot)) := by
  simp [newResultEnvelope, deriveResultMessageID, hok.messageId, hok.correlationId, hspec.slot,
    hspec.messageType, hspec.producer, hspec.aggregateType, hspec.aggregateId,
    hspec.aggregateVersion, hspec.occurredAt, hspec.timestamp]

section Provider

variable {env : ShippingEnv} {reply : Reply}

/-- The shipping service makes a reply of a command with a complete envelope. -/
lemma newShippingOutcome_accepts {slot messageType : String} {subject : SagaSubject} {time : Time}
    {payload : Payload} {stage : Option Stage} (hok : EnvelopeOk envelope)
    (haddressed : Addressed orderId envelope) (hid : isBlank orderId = false)
    (htime : envelope.occurredAt = some time) (hslot : validSlot slot = true)
    (htype : isBlank messageType = false) (hstage : subject.stage = stage)
    (hfields : ∀ reply : Reply, reply.subject = subject → reply.data.data = payload →
      ReplyFields orderId reply) :
    ∃ reply, Shipping.newShippingOutcome env slot subject messageType orderId envelope time payload =
        .ok reply ∧ ReplyOk orderId stage reply := by
  obtain ⟨time', htime', hzero, hvalid⟩ := id hok.occurredAt
  obtain rfl : time = time' := Option.some.inj (htime.symm.trans htime')
  have hmade : ∃ reply,
      Shipping.newShippingOutcome env slot subject messageType orderId envelope time payload =
        .ok reply := by
    unfold Shipping.newShippingOutcome
    have hproducer : isBlank "shippingservice/phase3" = false := by decide
    have hkind : isBlank "order" = false := by decide
    have hspec : SpecOk
        { slot := slot, messageType := messageType, producer := "shippingservice/phase3"
          aggregateType := "order", aggregateId := orderId
          aggregateVersion := envelope.aggregateVersion, occurredAt := time, payload := payload } :=
      ⟨hslot, htype, hproducer, hkind, hid, haddressed.positive, hzero, hvalid⟩
    rw [newResultEnvelope_ok hok hspec]
    exact ⟨_, rfl⟩
  obtain ⟨reply, hreply⟩ := hmade
  obtain ⟨hsubject, hdata, haggregate, hmessage, hcorrelation, htimes⟩ :=
    Shipping.of_newShippingOutcome hreply
  refine ⟨reply, hreply, ⟨?_, ?_, time, htimes, hzero, hvalid⟩, haggregate, ?_,
    hfields reply hsubject hdata⟩
  · rw [hmessage]
    exact isBlank_resultId _
  · rw [hcorrelation]
    exact hok.correlationId
  · rw [hsubject, hstage]

/-- The subjects of the shipping commands of an order. -/
def ResultSubject.isShipping : ResultSubject → Bool
  | .calculateOrderQuote | .createShipment | .cancelShipment => true
  | _ => false

/-- The shipping service accepts every shipping command that has what it needs. -/
lemma CommandOk.shipping_accepts (h : CommandOk orderId result) (env : ShippingEnv)
    (hid : isBlank orderId = false) (hshipping : result.subject.isShipping = true)
    (hsame : SameMessage result.data envelope) :
    ∃ reply, buildShippingOutcome env result.subject envelope = .ok reply ∧
      ReplyOk orderId result.subject.awaits reply := by
  have hok := hsame.envelopeOk h.envelope
  have hfields := hsame.commandFields h.fields
  have hne := ne_empty_of_isBlank hid
  have haddressed : Addressed orderId envelope := by
    refine hsame.addressed (h.addressed ?_)
    cases hsubject : result.subject <;> simp_all [ResultSubject.isShipping, ResultSubject.awaits]
  obtain ⟨time, htime, -, hvalid⟩ := id hok.occurredAt
  have hinput : Shipping.validateShippingInput envelope = .ok time := by
    simp [Shipping.validateShippingInput, htime, ne_empty_of_isBlank hok.messageId,
      ne_empty_of_isBlank hok.correlationId, haddressed.aggregateId, hne, haddressed.positive,
      hvalid]
  unfold Shipping.buildShippingOutcome
  rw [hinput]
  cases hsubject : result.subject with
  | calculateOrderQuote =>
    rw [hsubject] at hfields
    obtain ⟨commandId, address, cart, hdata, hcommand⟩ := hfields
    simp only [hdata, bind, Except.bind, Shipping.buildOrderQuote]
    rw [if_neg (by simp [hcommand, hne]), if_neg (by simp [haddressed.aggregateId])]
    split_ifs
    all_goals
      exact newShippingOutcome_accepts hok haddressed hid htime (by decide) (by decide) rfl
        fun reply hsubject hdata => by simp [ReplyFields, hsubject, hdata]
  | createShipment =>
    rw [hsubject] at hfields
    obtain ⟨commandId, address, items, key, hdata, hcommand, hkey⟩ := hfields
    simp only [hdata, bind, Except.bind, Shipping.buildShipment]
    rw [if_neg (by simp [hcommand, hne, hkey]), if_neg (by simp [haddressed.aggregateId])]
    split_ifs
    all_goals
      exact newShippingOutcome_accepts hok haddressed hid htime (by decide) (by decide) rfl
        fun reply hsubject hdata => by simp [ReplyFields, hsubject, hdata, Shipping.stableID_ne]
  | cancelShipment =>
    rw [hsubject] at hfields
    obtain ⟨commandId, shipmentId, trackingId, reason, key, hdata, hcommand, hshipment, hkey⟩ :=
      hfields
    simp only [hdata, bind, Except.bind, Shipping.buildCancellation]
    rw [if_neg (by simp [hcommand, hne, hshipment, hkey]), if_neg (by simp [haddressed.aggregateId])]
    split_ifs
    all_goals
      exact newShippingOutcome_accepts hok haddressed hid htime (by decide) (by decide) rfl
        fun reply hsubject hdata => by simp [ReplyFields, hsubject, hdata]
  | _ => simp [hsubject, ResultSubject.isShipping] at hshipping

/-- The shipping service replies to shipping commands only. -/
lemma isShipping_of_buildShippingOutcome {subject : ResultSubject}
    (h : buildShippingOutcome env subject envelope = .ok reply) : subject.isShipping = true := by
  unfold Shipping.buildShippingOutcome at h
  obtain ⟨time, -, h⟩ := bind_eq_ok.mp h
  split at h
  all_goals first | rfl | cases h

end Provider

/-- Every reply to a command that has what its handler needs is one that the order waits for. -/
lemma CommandOk.replyOk {reply : Reply} (h : CommandOk orderId result)
    (hid : isBlank orderId = false) (hhandled : Handled result reply) :
    ReplyOk orderId result.subject.awaits reply := by
  cases hhandled with
  | payment env envelope hsame hreply =>
    obtain ⟨reply', hreply', hok⟩ := h.payment_accepts env (ne_empty_of_isBlank hid)
      (isPayment_of_processCommand hreply) hsame
    rwa [Except.ok.inj (hreply.symm.trans hreply')]
  | shipping env envelope hsame hreply =>
    obtain ⟨reply', hreply', hok⟩ := h.shipping_accepts env hid
      (isShipping_of_buildShippingOutcome hreply) hsame
    rwa [Except.ok.inj (hreply.symm.trans hreply')]

end Handlers

end Boutique
