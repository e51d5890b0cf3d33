import Boutique.Lib.Lanes
import Boutique.Checkout.Saga
import Boutique.Stateless.Result

/-!
# The stream processor of checkout

`checkoutStreamProcessor` of `checkoutservice/messaging.go`: the messages of a batch are handled by lanes, and
each message is acknowledged or given back when its handler returns.  What the store and JetStream answer to
a handler is given with the end of the handling.
-/

namespace Boutique.Checkout

open StepSystem Lanes

/-! ## Messages -/

/-- `nats.Msg`. -/
structure StreamMessage where
  subject : String
  data : List UInt8
  deriving DecidableEq

/-- An envelope as `proto.Unmarshal` gives it, whose data may be missing. -/
structure WireEnvelope where
  envelope : MessageEnvelope
  hasData : Bool := true

/-- The errors of `decodeEnvelope`. -/
inductive EnvelopeError where
  | decode
  | incomplete
  | occurrenceTime
  deriving DecidableEq

/-- The text of an error of `decodeEnvelope`. -/
def EnvelopeError.text : EnvelopeError → String
  | .decode => "decode envelope"
  | .incomplete => "unsupported or incomplete envelope"
  | .occurrenceTime => "invalid envelope occurrence time"

variable (unmarshal : List UInt8 → Option WireEnvelope)

/-- `decodeEnvelope`. -/
def decodeEnvelope (data : List UInt8) : Except EnvelopeError MessageEnvelope :=
  match unmarshal data with
  | none => .error .decode
  | some wire =>
    let envelope := wire.envelope
    match envelope.occurredAt with
    | none => .error .incomplete
    | some occurredAt =>
      if envelope.schemaVersion ≠ 1 ∨ envelope.messageId = "" ∨ envelope.correlationId = "" ∨
          envelope.aggregateId = "" ∨ wire.hasData = false then .error .incomplete
      else if validTimestamp occurredAt then .ok envelope
      else .error .occurrenceTime

/-- `checkoutMessageGroup`. -/
def checkoutMessageGroup : Option MessageEnvelope → String
  | none => "unknown"
  | some envelope =>
    if envelope.aggregateId ≠ "" then envelope.aggregateType ++ "\x00" ++ envelope.aggregateId
    else if envelope.correlationId ≠ "" then "correlation\x00" ++ envelope.correlationId
    else if envelope.messageId ≠ "" then "message\x00" ++ envelope.messageId
    else "unknown"

/-- The hash of `checkoutMessageLane`. -/
def groupHash (group : String) : UInt32 :=
  group.toUTF8.toList.foldl (fun hash byte => (hash ^^^ byte.toUInt32) * 16777619) 2166136261

/-- `checkoutMessageLane`. -/
def checkoutMessageLane (envelope : Option MessageEnvelope) (lanes : ℕ) : ℕ :=
  (groupHash (checkoutMessageGroup envelope) % UInt32.ofNat lanes).toNat

/-- The group of a message. -/
def StreamMessage.group (message : StreamMessage) : String :=
  checkoutMessageGroup (decodeEnvelope unmarshal message.data).toOption

/-! ## Publishing -/

/-- What a future of JetStream answers; the acknowledgement can be empty. -/
inductive FutureAnswer where
  | ok (acknowledged : Bool)
  | err
  deriving DecidableEq

/-- The answer to `PublishMsgAsync`. -/
inductive Submission where
  | failed
  | pending (answer : FutureAnswer)
  deriving DecidableEq

/-- The errors of `publishResults`, with the message they name. -/
inductive PublishError where
  | submit (messageId : String)
  | empty (messageId : String)
  | future (messageId : String)
  deriving DecidableEq

section Publish

variable (answers : ℕ → Submission)

/-- The first loop of `publishResults`: results are submitted until one fails. -/
def submitResults : ℕ → List ResultMessage → List (ResultMessage × FutureAnswer) × Option PublishError
  | _, [] => ([], none)
  | i, result :: results =>
    match answers i with
    | .failed => ([], some (.submit result.messageId))
    | .pending answer =>
      let (pending, error) := submitResults (i + 1) results
      ((result, answer) :: pending, error)

/-- The second loop of `publishResults`: the first error is kept. -/
def awaitResults : List (ResultMessage × FutureAnswer) → Option PublishError → Option PublishError
  | [], firstError => firstError
  | (_, .ok true) :: pending, firstError => awaitResults pending firstError
  | (result, .ok false) :: pending, firstError =>
    awaitResults pending (firstError.or (some (.empty result.messageId)))
  | (result, .err) :: pending, firstError =>
    awaitResults pending (firstError.or (some (.future result.messageId)))

/-- `publishResults`; `none` is success. -/
def publishResults (results : List ResultMessage) : Option PublishError :=
  let (pending, firstError) := submitResults answers 0 results
  awaitResults pending firstError

/-- JetStream acknowledged every result. -/
def Acknowledged (results : List ResultMessage) : Prop :=
  ∀ i < results.length, answers i = .pending (.ok true)

end Publish

/-! ## Handlers -/

/-- `transitionOutcome`. -/
structure TransitionOutcome where
  results : List ResultMessage
  duplicate : Bool := false
  version : ℕ := 0

/-- What the store and JetStream answer while a message is handled. -/
structure Attempt where
  applyProjection : Bool := true
  loadOrderProjections : Bool := true
  applyOrder : Option TransitionOutcome := none
  answers : ℕ → Submission := fun _ => .failed

instance : Inhabited Attempt := ⟨{}⟩

/-- The handlers of the consumers. -/
inductive ConsumerHandler where
  | projection
  | command
  | shippingQuoteEvent
  | shipmentEvent
  | paymentAuthorizationEvent
  | paymentLateStageEvent
  deriving DecidableEq

/-- The errors of a handler. -/
inductive HandlerError where
  | applyProjection
  | decodeOrderCommand (error : CheckoutError)
  | loadOrderProjections
  | missingOrderId
  | applyOrder
  | publish (error : PublishError)

/-- `isCheckoutShippingQuoteEvent`. -/
def isCheckoutShippingQuoteEvent (subject : String) : Bool :=
  subject ∈ [SagaSubject.orderQuoteCalculated.text, SagaSubject.orderQuoteFailed.text]

/-- `isCheckoutShipmentEvent`. -/
def isCheckoutShipmentEvent (subject : String) : Bool :=
  subject ∈ [SagaSubject.shipmentCreated.text, SagaSubject.shipmentCreationFailed.text,
    SagaSubject.shipmentCancelled.text, SagaSubject.shipmentCancellationFailed.text]

/-- `isCheckoutPaymentAuthorizationEvent`. -/
def isCheckoutPaymentAuthorizationEvent (subject : String) : Bool :=
  subject ∈ [SagaSubject.paymentAuthorized.text, SagaSubject.paymentAuthorizationDeclined.text]

/-- `isCheckoutPaymentLateStageEvent`. -/
def isCheckoutPaymentLateStageEvent (subject : String) : Bool :=
  subject ∈ [SagaSubject.paymentCaptured.text, SagaSubject.paymentCaptureFailed.text,
    SagaSubject.authorizationReleased.text, SagaSubject.authorizationReleaseFailed.text]

/-- The subjects that a handler of saga events ignores. -/
def ConsumerHandler.ignores (handler : ConsumerHandler) (subject : String) : Bool :=
  match handler with
  | .projection | .command => false
  | .shippingQuoteEvent => !isCheckoutShippingQuoteEvent subject
  | .shipmentEvent => !isCheckoutShipmentEvent subject
  | .paymentAuthorizationEvent => !isCheckoutPaymentAuthorizationEvent subject
  | .paymentLateStageEvent => !isCheckoutPaymentLateStageEvent subject

section Handling

variable (attempt : Attempt)

/-- `ApplyOrder`. -/
def applyOrder : Except HandlerError TransitionOutcome :=
  match attempt.applyOrder with
  | some outcome => .ok outcome
  | none => .error .applyOrder

/-- `processOrderCommand`. -/
def processOrderCommand (envelope : MessageEnvelope) : Except HandlerError TransitionOutcome :=
  match decodeOrderCommand envelope with
  | .error error => .error (.decodeOrderCommand error)
  | .ok _ => if attempt.loadOrderProjections then applyOrder attempt else .error .loadOrderProjections

/-- `processSagaEvent`. -/
def processSagaEvent (envelope : MessageEnvelope) : Except HandlerError TransitionOutcome :=
  if isBlank envelope.aggregateId then .error .missingOrderId else applyOrder attempt

/-- `finishTransition`. -/
def finishTransition (outcome : TransitionOutcome) : Except HandlerError Unit :=
  match publishResults attempt.answers outcome.results with
  | none => .ok ()
  | some error => .error (.publish error)

/-- `handleProjectionMessage`. -/
def handleProjectionMessage : Except HandlerError Unit :=
  if attempt.applyProjection then .ok () else .error .applyProjection

/-- `handleCommandMessage`. -/
def handleCommandMessage (envelope : MessageEnvelope) : Except HandlerError Unit := do
  let outcome ← processOrderCommand attempt envelope
  finishTransition attempt outcome

/-- `handleSagaEventMessage`. -/
def handleSagaEventMessage (envelope : MessageEnvelope) : Except HandlerError Unit := do
  let outcome ← processSagaEvent attempt envelope
  finishTransition attempt outcome

/-- A handler, for a subject. -/
def ConsumerHandler.handle (handler : ConsumerHandler) (subject : String) (envelope : MessageEnvelope) :
    Except HandlerError Unit :=
  match handler with
  | .projection => handleProjectionMessage attempt
  | .command => handleCommandMessage attempt envelope
  | _ => if handler.ignores subject then .ok () else handleSagaEventMessage attempt envelope

/-- What is done with a message: `Ack`, or `NakWithDelay` with a second. -/
inductive Settlement where
  | ack
  | nak
  deriving DecidableEq

/-- `processMessage`. -/
def processMessage (handler : ConsumerHandler) (message : StreamMessage) : Settlement :=
  match decodeEnvelope unmarshal message.data with
  | .error _ => .nak
  | .ok envelope =>
    match handler.handle attempt message.subject envelope with
    | .ok _ => .ack
    | .error _ => .nak

/-- The outcome that `ApplyOrder` returned for a command or a saga event, if it was called. -/
def appliedOutcome (handler : ConsumerHandler) (envelope : MessageEnvelope) : Option TransitionOutcome :=
  match handler with
  | .projection => none
  | .command =>
    if (decodeOrderCommand envelope).toOption.isSome && attempt.loadOrderProjections then
      attempt.applyOrder
    else none
  | _ => if isBlank envelope.aggregateId then none else attempt.applyOrder

/-- The work of a message is finished: it was decoded, `ApplyOrder` returned an outcome for it, and JetStream
acknowledged every result of the outcome. -/
def WorkFinished (handler : ConsumerHandler) (message : StreamMessage) : Prop :=
  ∃ envelope, decodeEnvelope unmarshal message.data = .ok envelope ∧
    ∃ outcome, appliedOutcome attempt handler envelope = some outcome ∧
      Acknowledged attempt.answers outcome.results

end Handling

/-! ## The processor -/

/-- `checkoutStreamProcessor`.  Its lanes are allocated, so that there are fewer than `2 ^ 32`. -/
structure StreamProcessor where
  handler : ConsumerHandler
  queueSize : ℕ
  parallelism : ℤ
  allocated : parallelism < 2 ^ 32

/-- The number of lanes that `newCheckoutStreamProcessor` makes. -/
def StreamProcessor.lanes (processor : StreamProcessor) : ℕ :=
  if processor.parallelism < 1 then 1 else processor.parallelism.toNat

/-- The lane of a message. -/
def StreamProcessor.laneOf (processor : StreamProcessor) (message : StreamMessage) : ℕ :=
  checkoutMessageLane (decodeEnvelope unmarshal message.data).toOption processor.lanes

/-- A step of the processor. -/
def StreamProcessor.step (processor : StreamProcessor) :
    State StreamMessage Attempt → Action StreamMessage Attempt → Option (State StreamMessage Attempt) :=
  State.step (processor.laneOf unmarshal) processor.queueSize

/-! ## Acknowledgements -/

/-- An error that was found first stays. -/
lemma awaitResults_some (pending : List (ResultMessage × FutureAnswer)) (error : PublishError) :
    awaitResults pending (some error) = some error := by
  induction pending with
  | nil => rfl
  | cons publish pending ih =>
    obtain ⟨result, answer⟩ := publish
    cases answer with
    | ok acknowledged => cases acknowledged <;> exact ih
    | err => exact ih

/-- Publishing from a result on succeeds if and only if every result is acknowledged. -/
lemma awaitResults_submitResults (answers : ℕ → Submission) (i : ℕ) (results : List ResultMessage) :
    awaitResults (submitResults answers i results).1 (submitResults answers i results).2 = none ↔
      ∀ j < results.length, answers (i + j) = .pending (.ok true) := by
  induction results generalizing i with
  | nil => simp [submitResults, awaitResults]
  | cons result results ih =>
    have hsplit : (∀ j < (result :: results).length, answers (i + j) = .pending (.ok true)) ↔
        answers i = .pending (.ok true) ∧
          ∀ j < results.length, answers (i + 1 + j) = .pending (.ok true) := by
      constructor
      · intro h
        refine ⟨h 0 (Nat.succ_pos _), fun j hj => ?_⟩
        rw [Nat.add_assoc, Nat.add_comm 1 j]
        exact h (j + 1) (Nat.succ_lt_succ hj)
      · rintro ⟨hfirst, hrest⟩ j hj
        cases j with
        | zero => exact hfirst
        | succ j =>
          have hnext := hrest j (Nat.lt_of_succ_lt_succ hj)
          rwa [Nat.add_assoc, Nat.add_comm 1 j] at hnext
    rw [hsplit, ← ih (i + 1)]
    cases hanswer : answers i with
    | failed => simp [submitResults, hanswer, awaitResults]
    | pending answer =>
      simp only [submitResults, hanswer, Submission.pending.injEq]
      cases answer with
      | ok acknowledged =>
        cases acknowledged with
        | true => simp [awaitResults]
        | false =>
          -- The empty acknowledgement is the first error, or an earlier one is kept.
          refine iff_of_false ?_ (by simp)
          simp only [awaitResults]
          cases (submitResults answers (i + 1) results).2 <;> simp [awaitResults_some]
      | err =>
        refine iff_of_false ?_ (by simp)
        simp only [awaitResults]
        cases (submitResults answers (i + 1) results).2 <;> simp [awaitResults_some]

/-- `publishResults` succeeds if and only if JetStream acknowledged every result. -/
lemma publishResults_eq_none_iff (answers : ℕ → Submission) (results : List ResultMessage) :
    publishResults answers results = none ↔ Acknowledged answers results := by
  have h := awaitResults_submitResults answers 0 results
  simp only [Nat.zero_add] at h
  exact h

/-- `finishTransition` succeeds if and only if JetStream acknowledged every result of the outcome. -/
lemma finishTransition_ok_iff (attempt : Attempt) (outcome : TransitionOutcome) :
    finishTransition attempt outcome = .ok () ↔ Acknowledged attempt.answers outcome.results := by
  rw [← publishResults_eq_none_iff, finishTransition]
  cases publishResults attempt.answers outcome.results <;> simp

/-- `ApplyOrder` gives the outcome of the store. -/
lemma applyOrder_ok_iff {attempt : Attempt} {outcome : TransitionOutcome} :
    applyOrder attempt = .ok outcome ↔ attempt.applyOrder = some outcome := by
  rw [applyOrder]
  cases attempt.applyOrder <;> simp

/-- A command has the outcome that `ApplyOrder` returned. -/
lemma processOrderCommand_ok_iff {attempt : Attempt} {envelope : MessageEnvelope}
    {outcome : TransitionOutcome} :
    processOrderCommand attempt envelope = .ok outcome ↔
      appliedOutcome attempt .command envelope = some outcome := by
  simp only [processOrderCommand, appliedOutcome]
  cases decodeOrderCommand envelope with
  | error error => simp [Except.toOption]
  | ok payload =>
    cases attempt.loadOrderProjections with
    | true => simp [Except.toOption, applyOrder_ok_iff]
    | false => simp [Except.toOption]

/-- A saga event has the outcome that `ApplyOrder` returned. -/
lemma processSagaEvent_ok_iff {attempt : Attempt} {envelope : MessageEnvelope} {outcome : TransitionOutcome} :
    processSagaEvent attempt envelope = .ok outcome ↔
      (if isBlank envelope.aggregateId then none else attempt.applyOrder) = some outcome := by
  rw [processSagaEvent]
  split_ifs
  · simp
  · exact applyOrder_ok_iff

/-- A handler that does not ignore a subject succeeds if and only if its work is finished. -/
lemma handle_ok_iff {attempt : Attempt} {handler : ConsumerHandler} {subject : String}
    {envelope : MessageEnvelope} (hhandler : handler ≠ .projection)
    (hignores : handler.ignores subject = false) :
    handler.handle attempt subject envelope = .ok () ↔
      ∃ outcome, appliedOutcome attempt handler envelope = some outcome ∧
        Acknowledged attempt.answers outcome.results := by
  have hsaga : handleSagaEventMessage attempt envelope = .ok () ↔
      ∃ outcome, (if isBlank envelope.aggregateId then none else attempt.applyOrder) = some outcome ∧
        Acknowledged attempt.answers outcome.results := by
    rw [handleSagaEventMessage, bind_eq_ok]
    simp only [processSagaEvent_ok_iff, finishTransition_ok_iff]
  cases handler with
  | projection => exact absurd rfl hhandler
  | command =>
    rw [ConsumerHandler.handle, handleCommandMessage, bind_eq_ok]
    simp only [processOrderCommand_ok_iff, finishTransition_ok_iff]
  | _ =>
    simp only [ConsumerHandler.handle, hignores, Bool.false_eq_true, if_false]
    exact hsaga

variable {unmarshal}

/-- A message that is not ignored is acknowledged if and only if its work is finished. -/
lemma processMessage_ack_iff {attempt : Attempt} {handler : ConsumerHandler} {message : StreamMessage}
    (hhandler : handler ≠ .projection) (hignores : handler.ignores message.subject = false) :
    processMessage unmarshal attempt handler message = .ack ↔
      WorkFinished unmarshal attempt handler message := by
  unfold processMessage WorkFinished
  cases decodeEnvelope unmarshal message.data with
  | error error => simp
  | ok envelope =>
    have hhandle : handler.handle attempt message.subject envelope = .ok () ↔ _ :=
      handle_ok_iff hhandler hignores
    simp only [Except.ok.injEq, exists_eq_left', ← hhandle]
    cases handler.handle attempt message.subject envelope <;> simp

/-! ## Runs -/

/-- Every message has a lane. -/
lemma laneOf_lt (processor : StreamProcessor) (message : StreamMessage) :
    processor.laneOf unmarshal message < processor.lanes := by
  have hallocated := processor.allocated
  have hpos : 0 < processor.lanes := by
    rw [StreamProcessor.lanes]
    split_ifs <;> omega
  have hlt : processor.lanes < 2 ^ 32 := by
    rw [StreamProcessor.lanes]
    split_ifs <;> omega
  rw [StreamProcessor.laneOf, checkoutMessageLane, UInt32.toNat_mod, UInt32.toNat_ofNat_of_lt' hlt]
  exact Nat.mod_lt _ hpos

/-- Messages of the same group have the same lane. -/
lemma laneOf_eq {processor : StreamProcessor} {a b : StreamMessage}
    (h : a.group unmarshal = b.group unmarshal) :
    processor.laneOf unmarshal a = processor.laneOf unmarshal b := by
  simp only [StreamProcessor.laneOf, checkoutMessageLane]
  rw [show checkoutMessageGroup (decodeEnvelope unmarshal a.data).toOption =
    checkoutMessageGroup (decodeEnvelope unmarshal b.data).toOption from h]

/-- A processor handles every message of its batches exactly once before the call for the batch returns, and
the messages of a group one at a time in their order.  A command or a saga event that is not ignored is
acknowledged if and only if its work is finished, and given back otherwise.  A running call is never stuck,
and takes boundedly many steps. -/
theorem stream_processor_exact (processor : StreamProcessor)
    {actions : List (Action StreamMessage Attempt)} {s : State StreamMessage Attempt}
    (hrun : run (processor.step unmarshal) {} actions = some s) :
    (s.call = none → s.sent = s.batches.flatten ∧ ∀ i < s.batches.flatten.length,
      (startedIds s.log).count i = 1 ∧ (finishedIds s.log).count i = 1) ∧
    (∀ before j after, s.log = before ++ .started j :: after → ∀ i a b, i < j → s.sent[i]? = some a →
      s.sent[j]? = some b → a.group unmarshal = b.group unmarshal → i ∈ finishedIds before) ∧
    (∀ i attempt, .finished i attempt ∈ s.log → ∃ message, s.sent[i]? = some message ∧
      processor.laneOf unmarshal message < processor.lanes ∧
      (processor.handler ≠ .projection → processor.handler.ignores message.subject = false →
        (processMessage unmarshal attempt processor.handler message = .ack ↔
          WorkFinished unmarshal attempt processor.handler message) ∧
        (processMessage unmarshal attempt processor.handler message = .nak ↔
          ¬ WorkFinished unmarshal attempt processor.handler message))) ∧
    (∀ rest, s.call = some rest →
      (∃ a, a.isProcess = false ∧ (processor.step unmarshal s a).isSome) ∧
      ∀ more t, (∀ a ∈ more, a.isProcess = false) → run (processor.step unmarshal) s more = some t →
        more.length ≤ s.left) := by
  have hinv : Inv (processor.laneOf unmarshal) processor.queueSize s := Inv.init.run hrun
  refine ⟨hinv.handled, ?_, ?_, ?_⟩
  · intro before j after hlog i a b hij ha hb hgroup
    exact hinv.ordered before j after hlog i a b hij ha hb (laneOf_eq hgroup)
  · intro i attempt hfinished
    have hmem : i ∈ finishedIds s.log := by
      rw [finishedIds, List.mem_filterMap]
      exact ⟨_, hfinished, rfl⟩
    have hlt := hinv.sent i (hinv.started i hmem)
    refine ⟨s.sent[i], List.getElem?_eq_getElem hlt, laneOf_lt processor _, fun hhandler hignores => ?_⟩
    have hack : processMessage unmarshal attempt processor.handler s.sent[i] = .ack ↔ _ :=
      processMessage_ack_iff hhandler hignores
    refine ⟨hack, ?_⟩
    rw [← hack]
    cases processMessage unmarshal attempt processor.handler s.sent[i] <;> simp
  · intro rest hcall
    refine ⟨hinv.progress hcall, fun more t hmore hrest => ?_⟩
    have hle := hinv.run_length_le hmore hrest
    omega

/-! ## Two events of an order -/

namespace Sample

/-- The envelope of an event of an order. -/
def event (messageId : String) : MessageEnvelope where
  messageId := messageId
  messageType := "boutique.events.v1.PaymentAuthorizedEvent"
  occurredAt := some unixEpoch
  producer := "paymentservice"
  aggregateType := "order"
  aggregateId := "order-1"
  correlationId := "operation-1"
  data := .paymentAuthorized "order-1" "authorization-1"

/-- `proto.Unmarshal` of the data of the events; other data cannot be decoded. -/
def unmarshalEvent (data : List UInt8) : Option WireEnvelope :=
  match data with
  | [1] => some { envelope := event "event-1" }
  | [2] => some { envelope := event "event-2" }
  | _ => none

/-- The processor of payment authorizations, with one lane. -/
def authorizations : StreamProcessor where
  handler := .paymentAuthorizationEvent
  queueSize := 1
  parallelism := 1
  allocated := by decide

/-- A message with the subject of an authorization. -/
def authorized (data : List UInt8) : StreamMessage where
  subject := SagaSubject.paymentAuthorized.text
  data := data

/-- Two events of the order in one batch; the second one is sent while the first one is handled. -/
def twoEvents : List (Action StreamMessage Attempt) :=
  [.process [authorized [1], authorized [2]], .send, .take 0, .send,
    .finish 0 { applyOrder := some { results := [] } }, .take 0, .finish 0 {}, .return]

end Sample

/-- Both events of the order are handled exactly once before the call returns. -/
theorem two_events_handled :
    ∃ s, run (Sample.authorizations.step Sample.unmarshalEvent) {} Sample.twoEvents = some s ∧
      s.call = none ∧ ∀ i < 2, (startedIds s.log).count i = 1 ∧ (finishedIds s.log).count i = 1 := by
  obtain ⟨s, hrun, hcall, hbatches⟩ : ∃ s,
      run (Sample.authorizations.step Sample.unmarshalEvent) {} Sample.twoEvents = some s ∧
      s.call = none ∧ s.batches = [[Sample.authorized [1], Sample.authorized [2]]] := by
    have hlane : Sample.authorizations.laneOf Sample.unmarshalEvent = fun _ => 0 :=
      funext fun message => Nat.lt_one_iff.mp (laneOf_lt Sample.authorizations message)
    rw [StreamProcessor.step, hlane]
    exact ⟨_, rfl, rfl, rfl⟩
  refine ⟨s, hrun, hcall, ?_⟩
  have hhandled := (stream_processor_exact Sample.authorizations hrun).1 hcall
  rw [hbatches] at hhandled
  exact hhandled.2

end Boutique.Checkout
