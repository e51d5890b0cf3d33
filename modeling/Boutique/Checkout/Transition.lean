import Boutique.Checkout.Saga

/-!
# What one transition can do

`OrderInput` collects the three kinds of input that reach `ApplyOrder`: an order command, a saga
event and a fired deadline.  `SagaMove` lists every change that the transition of an input can make
to the loaded saga, with the results it queues; `OrderInput.update_move` says that the list is
complete.  Every invariant of the order store is proved by a case analysis on `SagaMove`, so the
transition functions are unfolded here and nowhere else.
-/

namespace Boutique

/-! ## Inputs -/

/-- An input of `ApplyOrder`: what `processOrderCommand` (with the projections it loaded),
`processSagaEvent` and `processDeadline` pass to it. -/
inductive OrderInput where
  | command (envelope : MessageEnvelope) (payload : OrderSubmitCommand)
      (projections : PersistedState)
  | event (subject : SagaSubject) (envelope : MessageEnvelope)
  | deadline (orderId : String) (version : ℕ) (due : Time) (inputId : String)

/-- The message type of the synthetic deadline input. -/
def deadlineMessageType : String := "boutique.checkout.Deadline.v1"

/-- The synthetic envelope that `processDeadline` builds. -/
def deadlineEnvelope (orderId : String) (version : ℕ) (deadline : Time) (inputId : String) :
    MessageEnvelope where
  messageId := inputId
  messageType := deadlineMessageType
  occurredAt := some deadline
  producer := "checkoutservice/deadline"
  aggregateType := "order"
  aggregateId := orderId
  aggregateVersion := version
  correlationId := orderId
  data := .empty

namespace OrderInput

/-- The envelope of an input. -/
def envelope : OrderInput → MessageEnvelope
  | .command envelope _ _ => envelope
  | .event _ envelope => envelope
  | .deadline orderId version due inputId => deadlineEnvelope orderId version due inputId

/-- The message ID under which the input is journalled. -/
def messageId (input : OrderInput) : String := input.envelope.messageId

/-- The projections loaded before `ApplyOrder`; only an order command has them. -/
def base : OrderInput → Option PersistedState
  | .command _ _ projections => some projections
  | _ => none

/-- The update function of the input. -/
def update (env : CheckoutEnv) : OrderInput → PersistedState → Except CheckoutError PersistedState
  | .command envelope payload _ => orderCommandUpdate env envelope payload
  | .event subject envelope => applySagaEvent env subject envelope
  | .deadline orderId version due inputId => deadlineUpdate env orderId version due inputId

end OrderInput

/-! ## Queued results -/

variable {env : CheckoutEnv} {state state' : PersistedState} {saga : OrderSaga}

/-- The message that `queueEnvelope` appends for an input handled at `time`. -/
def queuedResult (env : CheckoutEnv) (input : MessageEnvelope) (state : PersistedState)
    (subject : ResultSubject) (aggregateType aggregateId : String) (aggregateVersion : ℕ)
    (payload : Payload) : ResultMessage where
  slot := resultSlotForSubject subject
  messageId := "br1_" ++ env.resultHash input.messageId (resultSlotForSubject subject)
  subject := subject
  data := resultEnvelope input
    (resultSpec state subject aggregateType aggregateId aggregateVersion payload)
    ("br1_" ++ env.resultHash input.messageId (resultSlotForSubject subject))

/-- The aggregate version that a result carries. -/
def ResultMessage.version (result : ResultMessage) : ℕ := result.data.aggregateVersion

@[simp] lemma queuedResult_subject (input : MessageEnvelope) (subject : ResultSubject)
    (aggregateType aggregateId : String) (aggregateVersion : ℕ) (payload : Payload) :
    (queuedResult env input state subject aggregateType aggregateId aggregateVersion
      payload).subject = subject := rfl

@[simp] lemma queuedResult_version (input : MessageEnvelope) (subject : ResultSubject)
    (aggregateType aggregateId : String) (aggregateVersion : ℕ) (payload : Payload) :
    (queuedResult env input state subject aggregateType aggregateId aggregateVersion
      payload).version = aggregateVersion := rfl

@[simp] lemma queuedResult_payload (input : MessageEnvelope) (subject : ResultSubject)
    (aggregateType aggregateId : String) (aggregateVersion : ℕ) (payload : Payload) :
    (queuedResult env input state subject aggregateType aggregateId aggregateVersion
      payload).data.data = payload := rfl

/-- `queueEnvelope` appends one result and changes nothing else. -/
lemma queueEnvelope_eq_ok {input : MessageEnvelope} {subject : ResultSubject}
    {aggregateType aggregateId : String} {aggregateVersion : ℕ} {payload : Payload}
    (h : queueEnvelope env state subject aggregateType aggregateId aggregateVersion payload =
      .ok state') (hinput : state.input = some input) :
    state' = state.addResult
      (queuedResult env input state subject aggregateType aggregateId aggregateVersion payload) := by
  unfold queueEnvelope at h
  rw [hinput] at h
  simp only at h
  split at h
  · cases h
  · rename_i envelope henvelope
    rw [← Except.ok.inj h, newResultEnvelope_eq_ok henvelope]
    rfl

/-! ## The moves of a saga -/

/-- The two events that acknowledge a compensation. -/
def SagaSubject.isAck : SagaSubject → Bool
  | .authorizationReleased | .shipmentCancelled => true
  | _ => false

namespace OrderSaga

/-- The flag that an acknowledgement sets. -/
def acknowledge (saga : OrderSaga) : SagaSubject → OrderSaga
  | .authorizationReleased => { saga with authorizationReleased := true }
  | .shipmentCancelled => { saga with shipmentCancelled := true }
  | _ => saga

/-- A compensation that was requested has not been acknowledged yet. -/
def compensationPending (saga : OrderSaga) : Bool :=
  (saga.needRelease && !saga.authorizationReleased) ||
    (saga.needShipmentCancel && !saga.shipmentCancelled)

/-- The saga after its last step, without a deadline. -/
def close (saga : OrderSaga) (stage : Stage) : OrderSaga :=
  { saga with version := saga.version + 1, stage := stage, deadline := Time.zero }

/-- The saga after a step that waits for the next reply. -/
def advance (saga : OrderSaga) (stage : Stage) (deadline : Time) : OrderSaga :=
  { saga with version := saga.version + 1, stage := stage, deadline := deadline }

end OrderSaga

/-- The stages from which a compensation starts: with a shipment to cancel, after a failed capture,
and without one, after a failed shipment. -/
def compensationSource (withShipment : Bool) : Stage :=
  if withShipment then .waitingCapture else .waitingShipment

/-- The subject of the event that starts a compensation. -/
def compensationSubject (withShipment : Bool) : SagaSubject :=
  if withShipment then .paymentCaptureFailed else .shipmentCreationFailed

/-- The results of `startCompensation` on the saga it has just written. -/
def compensationResults (env : CheckoutEnv) (input : MessageEnvelope) (ws : PersistedState)
    (saga : OrderSaga) (failure : Failure) : List ResultMessage :=
  [queuedResult env input ws .releaseAuthorization "order" saga.orderId saga.version
    (.releaseAuthorization (env.stableID ["release", saga.orderId]) saga.orderId
      saga.authorizationId failure.code (saga.orderId ++ "/release"))] ++
  (if saga.needShipmentCancel then
    [queuedResult env input ws .cancelShipment "order" saga.orderId saga.version
      (.cancelShipment (env.stableID ["cancel-shipment", saga.orderId]) saga.orderId
        saga.shipmentId saga.trackingId failure.code (saga.orderId ++ "/cancel-shipment"))]
   else []) ++
  [queuedResult env input ws .orderStageChanged "order" saga.orderId saga.version
    (.orderProcessingStageChanged saga.orderId saga.stage.text ws.transitionTime)]

/-- The result of `manualReview` on the saga it has just written. -/
def reviewResult (env : CheckoutEnv) (input : MessageEnvelope) (ws : PersistedState)
    (saga : OrderSaga) (failedCompensation reference : String) : ResultMessage :=
  queuedResult env input ws .orderManualReview "order" saga.orderId saga.version
    (.orderManualReviewRequired saga.orderId ((saga.cancelReason.map Failure.code).getD "")
      failedCompensation [reference])

/-- Every change that the transition of `input` can make to the saga of the loaded workspace `ws`,
with the results it queues. -/
inductive SagaMove (env : CheckoutEnv) (input : OrderInput) (ws : PersistedState) :
    Option OrderSaga → List ResultMessage → Prop where
  | absent (horder : ws.orders = none) : SagaMove env input ws none []
  | idle {s : OrderSaga} (horder : ws.orders = some s)
      (hack : ∀ subject envelope, input = .event subject envelope → subject.isAck = true →
        s.stage ≠ .compensating)
      (hmiss : ∀ id version due inputId, input = .deadline id version due inputId →
        s.version = version → s.deadline ≠ due) :
      SagaMove env input ws (some s) []
  | rejected {envelope : MessageEnvelope} {payload : OrderSubmitCommand}
      {projections : PersistedState} {failure : Failure}
      (hinput : input = .command envelope payload projections) (horder : ws.orders = none)
      (hfailure : validateOrderCommand env ws (ws.carts payload.userId) payload = some failure) :
      SagaMove env input ws (some (rejectedSaga payload))
        [queuedResult env envelope ws .orderRejected "order" payload.orderId 1
          (.orderRejected payload.operationId payload.orderId (some failure))]
  | accepted {envelope : MessageEnvelope} {payload : OrderSubmitCommand}
      {projections : PersistedState} {cart : CartSnapshot} {snapshot : SanitizedOrderSnapshot}
      (hinput : input = .command envelope payload projections) (horder : ws.orders = none)
      (hvalid : validateOrderCommand env ws (ws.carts payload.userId) payload = none)
      (hcart : ws.carts payload.userId = some cart)
      (hsnapshot : buildOrderSnapshot env ws cart payload = .ok snapshot) :
      SagaMove env input ws (some (acceptedSaga env ws payload snapshot))
        [queuedResult env envelope ws .orderSubmitted "order" payload.orderId 1
          (.orderSubmitted payload.operationId (some snapshot) payload.expectedCartVersion
            payload.expectedCatalogRevision payload.expectedRateRevision),
         queuedResult env envelope ws .calculateOrderQuote "order" payload.orderId 1
          (.calculateOrderQuote (env.stableID ["quote", payload.orderId]) payload.orderId
            payload.shippingAddress cart)]
  | quoted {s : OrderSaga} {envelope : MessageEnvelope} {orderId : String}
      {costUsd : Option Money} {shipping : Money} {snapshot : SanitizedOrderSnapshot}
      (hinput : input = .event .orderQuoteCalculated envelope) (horder : ws.orders = some s)
      (hdata : envelope.data = .orderQuoteCalculated orderId costUsd)
      (hstage : s.stage = .waitingQuote)
      (hshipping : convertMoney env.round64 ws.rates costUsd s.currencyCode = some shipping)
      (hsnapshot : s.snapshot = some snapshot) :
      SagaMove env input ws
        (some (OrderSaga.advance
          { s with snapshot := some { snapshot with
              shippingCost := some shipping, total := some (addMoney snapshot.total shipping) } }
          .waitingAuthorize (ws.deadlineAfter env.stepTimeout)))
        [queuedResult env envelope ws .authorize "order" s.orderId (s.version + 1)
          (.authorize (env.stableID ["authorize", s.orderId]) s.orderId
            (some (addMoney snapshot.total shipping)) s.paymentToken (s.orderId ++ "/authorize"))]
  | cancelled {s : OrderSaga} {subject : SagaSubject} {envelope : MessageEnvelope}
      {failure : Failure}
      (hinput : input = .event subject envelope) (horder : ws.orders = some s)
      (hstage : s.stage = .waitingQuote ∨ s.stage = .waitingAuthorize) :
      SagaMove env input ws
        (some (OrderSaga.close { s with cancelReason := some failure } .cancelled))
        [queuedResult env envelope ws .orderCancelled "order" s.orderId (s.version + 1)
          (.orderCancelled s.orderId (some failure) [])]
  | authorized {s : OrderSaga} {envelope : MessageEnvelope} {orderId authorizationId : String}
      {snapshot : SanitizedOrderSnapshot}
      (hinput : input = .event .paymentAuthorized envelope) (horder : ws.orders = some s)
      (hdata : envelope.data = .paymentAuthorized orderId authorizationId)
      (hstage : s.stage = .waitingAuthorize) (hsnapshot : s.snapshot = some snapshot) :
      SagaMove env input ws
        (some (OrderSaga.advance { s with authorizationId := authorizationId, paymentToken := "" }
          .waitingShipment (ws.deadlineAfter env.stepTimeout)))
        [queuedResult env envelope ws .createShipment "order" s.orderId (s.version + 1)
          (.createShipment (env.stableID ["shipment", s.orderId]) s.orderId s.address
            (snapshot.items.map OrderLine.item) (s.orderId ++ "/shipment"))]
  | shipped {s : OrderSaga} {envelope : MessageEnvelope} {orderId shipmentId trackingId : String}
      {snapshot : SanitizedOrderSnapshot}
      (hinput : input = .event .shipmentCreated envelope) (horder : ws.orders = some s)
      (hdata : envelope.data = .shipmentCreated orderId shipmentId trackingId)
      (hstage : s.stage = .waitingShipment) (hsnapshot : s.snapshot = some snapshot) :
      SagaMove env input ws
        (some (OrderSaga.advance
          { s with shipmentId := shipmentId, trackingId := trackingId
                   snapshot := some { snapshot with trackingId := trackingId } }
          .waitingCapture (ws.deadlineAfter env.stepTimeout)))
        [queuedResult env envelope ws .capture "order" s.orderId (s.version + 1)
          (.capture (env.stableID ["capture", s.orderId]) s.orderId s.authorizationId
            snapshot.total (s.orderId ++ "/capture"))]
  | completed {s : OrderSaga} {envelope : MessageEnvelope}
      (hinput : input = .event .paymentCaptured envelope) (horder : ws.orders = some s)
      (hstage : s.stage = .waitingCapture) :
      SagaMove env input ws (some (s.close .completed))
        [queuedResult env envelope ws .orderCompleted "order" s.orderId (s.version + 1)
          (.orderCompleted s.snapshot),
         queuedResult env envelope ws .cartClear "cart" s.userId s.cartVersion
          (.cartClear (envelopeMessageID env .cartClear envelope.messageId) s.userId s.cartVersion
            "order-completed" s.orderId)]
  | compensating {s s' : OrderSaga} {envelope : MessageEnvelope} {failure : Failure}
      {withShipment : Bool}
      (hinput : input = .event (compensationSubject withShipment) envelope)
      (horder : ws.orders = some s) (hstage : s.stage = compensationSource withShipment)
      (hs' : s' = OrderSaga.advance
          { s with cancelReason := some failure, needRelease := true
                   needShipmentCancel := withShipment }
          .compensating (ws.deadlineAfter env.stepTimeout)) :
      SagaMove env input ws (some s') (compensationResults env envelope ws s' failure)
  | acknowledged {s : OrderSaga} {subject : SagaSubject} {envelope : MessageEnvelope}
      (hinput : input = .event subject envelope) (hack : subject.isAck = true)
      (horder : ws.orders = some s) (hstage : s.stage = .compensating)
      (hpending : (s.acknowledge subject).compensationPending = true) :
      SagaMove env input ws (some (s.acknowledge subject)) []
  | compensated {s : OrderSaga} {subject : SagaSubject} {envelope : MessageEnvelope}
      (hinput : input = .event subject envelope) (hack : subject.isAck = true)
      (horder : ws.orders = some s) (hstage : s.stage = .compensating)
      (hpending : (s.acknowledge subject).compensationPending = false) :
      SagaMove env input ws (some ((s.acknowledge subject).close .cancelled))
        [queuedResult env envelope ws .orderCancelled "order" s.orderId (s.version + 1)
          (.orderCancelled s.orderId s.cancelReason
            (completedCompensations (s.acknowledge subject)))]
  | reviewed {s : OrderSaga} {subject : SagaSubject} {envelope : MessageEnvelope}
      {failedCompensation reference : String}
      (hinput : input = .event subject envelope)
      (hfailed : subject = .authorizationReleaseFailed ∨ subject = .shipmentCancellationFailed)
      (horder : ws.orders = some s) (hstage : s.stage = .compensating) :
      SagaMove env input ws (some (s.close .manualReview))
        [reviewResult env envelope ws (s.close .manualReview) failedCompensation reference]
  | timedOut {s : OrderSaga} {orderId : String} {version : ℕ} {due : Time} {inputId : String}
      (hinput : input = .deadline orderId version due inputId) (horder : ws.orders = some s)
      (hversion : s.version = version) (hdue : s.deadline = due) :
      SagaMove env input ws
        (some (OrderSaga.close { s with version := s.version + 1 } .manualReview))
        [queuedResult env input.envelope ws .orderStepTimedOut "order" orderId (s.version + 1)
          (.orderStepTimedOut orderId s.stage.text due inputId "manual-review"),
         reviewResult env input.envelope ws
          (OrderSaga.close { s with version := s.version + 1 } .manualReview) s.stage.text
          "STEP_TIMEOUT"]

/-! ## One specification lemma for each transition function -/

section Specifications

variable {input : MessageEnvelope}

/-- What `cancel` writes and queues. -/
lemma cancel_eq_ok {failure : Failure} (hinput : state.input = some input)
    (h : cancel env state saga failure = .ok state') :
    state'.orders = some (OrderSaga.close { saga with cancelReason := some failure } .cancelled) ∧
    state'.results = state.results ++
      [queuedResult env input state .orderCancelled "order" saga.orderId (saga.version + 1)
        (.orderCancelled saga.orderId (some failure) [])] := by
  have hq := queueEnvelope_eq_ok h hinput
  subst hq
  exact ⟨rfl, rfl⟩

/-- What `startCompensation` writes and queues; every caller asks for the release. -/
lemma startCompensation_eq_ok {failure : Failure} {withShipment : Bool} {s' : OrderSaga}
    (hinput : state.input = some input)
    (hs' : s' = OrderSaga.advance
      { saga with cancelReason := some failure, needRelease := true
                  needShipmentCancel := withShipment }
      .compensating (state.deadlineAfter env.stepTimeout))
    (h : startCompensation env state saga failure true withShipment = .ok state') :
    state'.orders = some s' ∧
    state'.results = state.results ++ compensationResults env input state s' failure := by
  subst hs'
  unfold startCompensation queueStage at h
  simp only [if_true] at h
  obtain ⟨s1, h1, h⟩ := bind_eq_ok.mp h
  have hs1 := queueEnvelope_eq_ok h1 hinput
  cases withShipment with
  | false =>
    have hs2 := queueEnvelope_eq_ok h (by rw [hs1]; exact hinput)
    subst hs2 hs1
    simp only [PersistedState.addResult, PersistedState.setOrder, List.append_assoc]
    exact ⟨rfl, rfl⟩
  | true =>
    simp only [if_true] at h
    obtain ⟨s2, h2, h⟩ := bind_eq_ok.mp h
    have hs2 := queueEnvelope_eq_ok h2 (by rw [hs1]; exact hinput)
    have hs3 := queueEnvelope_eq_ok h (by rw [hs2, hs1]; exact hinput)
    subst hs3 hs2 hs1
    simp only [PersistedState.addResult, PersistedState.setOrder, List.append_assoc]
    exact ⟨rfl, rfl⟩

/-- What `manualReview` writes and queues. -/
lemma manualReview_eq_ok {failedCompensation reference : String}
    (h : manualReview env state saga failedCompensation reference = .ok state')
    (hinput : state.input = some input) :
    state'.orders = some (saga.close .manualReview) ∧
    state'.results = state.results ++
      [reviewResult env input state (saga.close .manualReview) failedCompensation reference] := by
  have hq := queueEnvelope_eq_ok h hinput
  subst hq
  exact ⟨rfl, rfl⟩

/-- `finishCompensation` leaves the workspace alone while a compensation is pending. -/
lemma finishCompensation_pending (hstage : saga.stage = .compensating)
    (hpending : saga.compensationPending = true) :
    finishCompensation env state saga = .ok state := by
  unfold finishCompensation
  unfold OrderSaga.compensationPending at hpending
  by_cases hrelease : (saga.needRelease && !saga.authorizationReleased) = true
  · simp only [hstage, ne_eq, not_true_eq_false, if_false, hrelease, if_true]
  · simp only [hrelease, Bool.false_or] at hpending
    simp only [hstage, ne_eq, not_true_eq_false, if_false, hrelease, hpending, if_true,
      Bool.false_eq_true]

/-- What `finishCompensation` writes and queues once nothing is pending. -/
lemma finishCompensation_eq_ok (h : finishCompensation env state saga = .ok state')
    (hinput : state.input = some input) (hstage : saga.stage = .compensating)
    (hpending : saga.compensationPending = false) :
    state'.orders = some (saga.close .cancelled) ∧
    state'.results = state.results ++
      [queuedResult env input state .orderCancelled "order" saga.orderId (saga.version + 1)
        (.orderCancelled saga.orderId saga.cancelReason (completedCompensations saga))] := by
  unfold OrderSaga.compensationPending at hpending
  obtain ⟨hrelease, hshipment⟩ := Bool.or_eq_false_iff.mp hpending
  unfold finishCompensation at h
  simp only [hstage, ne_eq, not_true_eq_false, if_false, hrelease, hshipment,
    Bool.false_eq_true] at h
  have hq := queueEnvelope_eq_ok h hinput
  subst hq
  exact ⟨rfl, rfl⟩

end Specifications

/-! ## The moves are complete -/

variable {ws : PersistedState}

/-- The transition of an order command. -/
lemma orderCommandUpdate_move {envelope : MessageEnvelope} {payload : OrderSubmitCommand}
    {projections : PersistedState} (hresults : ws.results = [])
    (hinput : ws.input = some envelope) (hinbox : ws.inbox envelope.messageId = none)
    (h : orderCommandUpdate env envelope payload ws = .ok state') :
    SagaMove env (.command envelope payload projections) ws state'.orders state'.results := by
  unfold orderCommandUpdate at h
  obtain ⟨_, -, h⟩ := bind_eq_ok.mp h
  unfold applyOrderCommand at h
  simp only [hinbox, Option.isSome_none, Bool.false_eq_true, if_false] at h
  cases horder : ws.orders with
  | some s =>
    simp only [horder, Option.isSome_some, if_true] at h
    cases h
    simpa only [PersistedState.setInbox, horder, hresults] using
      @SagaMove.idle env (.command envelope payload projections) ws s horder
        (by rintro _ _ ⟨⟩) (by rintro _ _ _ _ ⟨⟩)
  | none =>
    simp only [horder, Option.isSome_none, Bool.false_eq_true, if_false] at h
    split at h
    · rename_i failure hfailure
      unfold rejectOrder at h
      obtain ⟨s1, h1, h⟩ := bind_eq_ok.mp h
      have hs1 := queueEnvelope_eq_ok h1 hinput
      cases h
      subst hs1
      simp only [PersistedState.setInbox, PersistedState.addResult, PersistedState.setOrder,
        hresults, List.nil_append]
      exact .rejected rfl horder hfailure
    · rename_i hvalid
      split at h
      · cases h
      · rename_i cart hcart
        unfold acceptOrder at h
        obtain ⟨snapshot, hsnapshot, h⟩ := bind_eq_ok.mp h
        obtain ⟨s1, h1, h⟩ := bind_eq_ok.mp h
        have hs1 := queueEnvelope_eq_ok h1 hinput
        obtain ⟨s2, h2, h⟩ := bind_eq_ok.mp h
        have hs2 := queueEnvelope_eq_ok h2 (by rw [hs1]; exact hinput)
        cases h
        subst hs2 hs1
        simp only [PersistedState.setInbox, PersistedState.addResult, PersistedState.setOrder,
          hresults, List.nil_append, List.singleton_append]
        exact .accepted rfl horder hvalid hcart hsnapshot

/-- The transition of an acknowledgement of a compensation. -/
lemma acknowledge_move {subject : SagaSubject} {envelope : MessageEnvelope} {s : OrderSaga}
    (hack : subject.isAck = true) (horder : ws.orders = some s)
    (hresults : ws.results = []) (hinput : ws.input = some envelope)
    (hstage : s.stage = .compensating)
    (h : finishCompensation env (ws.setOrder (s.acknowledge subject)) (s.acknowledge subject) =
      .ok state') :
    SagaMove env (.event subject envelope) ws state'.orders state'.results := by
  have hstage' : (s.acknowledge subject).stage = .compensating := by
    unfold OrderSaga.acknowledge
    split <;> exact hstage
  cases hpending : (s.acknowledge subject).compensationPending with
  | true =>
    rw [finishCompensation_pending hstage' hpending] at h
    cases h
    simpa only [PersistedState.setOrder, hresults] using
      @SagaMove.acknowledged env (.event subject envelope) ws s subject envelope rfl hack horder
        hstage hpending
  | false =>
    obtain ⟨ho, hr⟩ := finishCompensation_eq_ok h hinput hstage' hpending
    have hid : (s.acknowledge subject).orderId = s.orderId ∧
        (s.acknowledge subject).version = s.version ∧
        (s.acknowledge subject).cancelReason = s.cancelReason := by
      unfold OrderSaga.acknowledge
      split <;> exact ⟨rfl, rfl, rfl⟩
    rw [ho, hr, hid.1, hid.2.1, hid.2.2]
    simp only [PersistedState.setOrder, hresults, List.nil_append]
    exact .compensated rfl hack horder hstage hpending

/-- A saga event that is not awaited leaves the order as it is. -/
lemma idle_move {subject : SagaSubject} {envelope : MessageEnvelope} {s : OrderSaga}
    (hack : subject.isAck = true → s.stage ≠ .compensating) (horder : ws.orders = some s)
    (hresults : ws.results = []) : SagaMove env (.event subject envelope) ws ws.orders ws.results := by
  rw [horder, hresults]
  refine .idle horder ?_ (by rintro _ _ _ _ ⟨⟩)
  rintro _ _ ⟨⟩
  exact hack

/-- A branch of the switch: the event is handled in one stage, and left alone in all others. -/
lemma branch_move {subject : SagaSubject} {envelope : MessageEnvelope} {s : OrderSaga} {stage : Stage}
    {handled : Except CheckoutError PersistedState} (horder : ws.orders = some s)
    (hresults : ws.results = []) (hack : subject.isAck = true → stage = .compensating)
    (hhandled : s.stage = stage → handled = .ok state' →
      SagaMove env (.event subject envelope) ws state'.orders state'.results)
    (h : (if s.stage ≠ stage then .ok ws else handled) = .ok state') :
    SagaMove env (.event subject envelope) ws state'.orders state'.results := by
  by_cases hstage : s.stage = stage
  · rw [if_neg (not_not_intro hstage)] at h
    exact hhandled hstage h
  · rw [if_pos hstage] at h
    cases h
    exact idle_move (fun hsubject => hack hsubject ▸ hstage) horder hresults

/-- The transition of a failed quote or authorization. -/
lemma cancel_move {subject : SagaSubject} {envelope : MessageEnvelope} {s : OrderSaga} {failure : Failure}
    (horder : ws.orders = some s) (hresults : ws.results = []) (hinput : ws.input = some envelope)
    (hstage : s.stage = .waitingQuote ∨ s.stage = .waitingAuthorize)
    (h : cancel env ws s failure = .ok state') :
    SagaMove env (.event subject envelope) ws state'.orders state'.results := by
  obtain ⟨ho, hr⟩ := cancel_eq_ok hinput h
  rw [ho, hr, hresults]
  exact .cancelled rfl horder hstage

/-- The transition of a quote. -/
lemma applyQuote_move {envelope : MessageEnvelope} {s : OrderSaga} {orderId : String} {costUsd : Option Money}
    (horder : ws.orders = some s) (hresults : ws.results = []) (hinput : ws.input = some envelope)
    (hdata : envelope.data = .orderQuoteCalculated orderId costUsd) (hstage : s.stage = .waitingQuote)
    (h : applyQuote env ws s costUsd = .ok state') :
    SagaMove env (.event .orderQuoteCalculated envelope) ws state'.orders state'.results := by
  unfold applyQuote at h
  split at h
  · exact cancel_move horder hresults hinput (.inl hstage) h
  · rename_i shipping hshipping
    split at h
    · cases h
    · rename_i snapshot hsnapshot
      have hq := queueEnvelope_eq_ok h hinput
      subst hq
      simp only [PersistedState.addResult, PersistedState.setOrder, hresults, List.nil_append]
      exact .quoted rfl horder hdata hstage hshipping hsnapshot

/-- The transition of an authorization. -/
lemma applyAuthorized_move {envelope : MessageEnvelope} {s : OrderSaga} {orderId authorizationId : String}
    (horder : ws.orders = some s) (hresults : ws.results = []) (hinput : ws.input = some envelope)
    (hdata : envelope.data = .paymentAuthorized orderId authorizationId)
    (hstage : s.stage = .waitingAuthorize) (h : applyAuthorized env ws s authorizationId = .ok state') :
    SagaMove env (.event .paymentAuthorized envelope) ws state'.orders state'.results := by
  unfold applyAuthorized at h
  split at h
  · cases h
  · rename_i snapshot hsnapshot
    have hq := queueEnvelope_eq_ok h hinput
    subst hq
    simp only [PersistedState.addResult, PersistedState.setOrder, hresults, List.nil_append]
    exact .authorized rfl horder hdata hstage hsnapshot

/-- The transition of a shipment. -/
lemma applyShipmentCreated_move {envelope : MessageEnvelope} {s : OrderSaga}
    {orderId shipmentId trackingId : String} (horder : ws.orders = some s) (hresults : ws.results = [])
    (hinput : ws.input = some envelope)
    (hdata : envelope.data = .shipmentCreated orderId shipmentId trackingId)
    (hstage : s.stage = .waitingShipment)
    (h : applyShipmentCreated env ws s shipmentId trackingId = .ok state') :
    SagaMove env (.event .shipmentCreated envelope) ws state'.orders state'.results := by
  unfold applyShipmentCreated at h
  split at h
  · cases h
  · rename_i snapshot hsnapshot
    have hq := queueEnvelope_eq_ok h hinput
    subst hq
    simp only [PersistedState.addResult, PersistedState.setOrder, hresults, List.nil_append]
    exact .shipped rfl horder hdata hstage hsnapshot

/-- The transition of a captured payment. -/
lemma applyCaptured_move {envelope : MessageEnvelope} {s : OrderSaga} (horder : ws.orders = some s)
    (hresults : ws.results = []) (hinput : ws.input = some envelope) (hstage : s.stage = .waitingCapture)
    (h : applyCaptured env ws s envelope.messageId = .ok state') :
    SagaMove env (.event .paymentCaptured envelope) ws state'.orders state'.results := by
  unfold applyCaptured at h
  obtain ⟨s1, h1, h⟩ := bind_eq_ok.mp h
  have hs1 := queueEnvelope_eq_ok h1 hinput
  have hs2 := queueEnvelope_eq_ok h (by rw [hs1]; exact hinput)
  subst hs2 hs1
  simp only [PersistedState.addResult, PersistedState.setOrder, hresults, List.nil_append,
    List.singleton_append]
  exact .completed rfl horder hstage

/-- The transition of a saga event on an open order. -/
lemma sagaEventSwitch_move {subject : SagaSubject} {envelope : MessageEnvelope} {s : OrderSaga}
    (horder : ws.orders = some s) (hresults : ws.results = [])
    (hinput : ws.input = some envelope)
    (h : sagaEventSwitch env ws s subject envelope = .ok state') :
    SagaMove env (.event subject envelope) ws state'.orders state'.results := by
  unfold sagaEventSwitch at h
  cases subject with
  | orderQuoteCalculated =>
    simp only at h
    split at h
    · next hdata =>
      exact branch_move horder hresults (by rintro ⟨⟩) (applyQuote_move horder hresults hinput hdata) h
    · cases h
  | orderQuoteFailed =>
    simp only at h
    split at h
    · refine branch_move horder hresults (by rintro ⟨⟩) (fun hstage h => ?_) h
      exact cancel_move horder hresults hinput (.inl hstage) h
    · cases h
  | paymentAuthorized =>
    simp only at h
    split at h
    · next hdata =>
      exact branch_move horder hresults (by rintro ⟨⟩)
        (applyAuthorized_move horder hresults hinput hdata) h
    · cases h
  | paymentAuthorizationDeclined =>
    simp only at h
    split at h
    · refine branch_move horder hresults (by rintro ⟨⟩) (fun hstage h => ?_) h
      exact cancel_move horder hresults hinput (.inr hstage) h
    · cases h
  | shipmentCreated =>
    simp only at h
    split at h
    · next hdata =>
      exact branch_move horder hresults (by rintro ⟨⟩)
        (applyShipmentCreated_move horder hresults hinput hdata) h
    · cases h
  | shipmentCreationFailed =>
    simp only at h
    split at h
    · refine branch_move horder hresults (by rintro ⟨⟩) (fun hstage h => ?_) h
      obtain ⟨ho, hr⟩ := startCompensation_eq_ok hinput rfl h
      rw [ho, hr, hresults]
      exact @SagaMove.compensating env _ ws s _ envelope _ false rfl horder hstage rfl
    · cases h
  | paymentCaptured =>
    simp only at h
    split at h
    · exact branch_move horder hresults (by rintro ⟨⟩) (applyCaptured_move horder hresults hinput) h
    · cases h
  | paymentCaptureFailed =>
    simp only at h
    split at h
    · refine branch_move horder hresults (by rintro ⟨⟩) (fun hstage h => ?_) h
      obtain ⟨ho, hr⟩ := startCompensation_eq_ok hinput rfl h
      rw [ho, hr, hresults]
      exact @SagaMove.compensating env _ ws s _ envelope _ true rfl horder hstage rfl
    · cases h
  | authorizationReleased | shipmentCancelled =>
    simp only at h
    split at h
    · exact branch_move horder hresults (fun _ => rfl)
        (fun hstage h => acknowledge_move rfl horder hresults hinput hstage h) h
    · cases h
  | authorizationReleaseFailed =>
    refine branch_move horder hresults (by rintro ⟨⟩) (fun hstage h => ?_) h
    obtain ⟨ho, hr⟩ := manualReview_eq_ok h hinput
    rw [ho, hr, hresults]
    exact .reviewed rfl (.inl rfl) horder hstage
  | shipmentCancellationFailed =>
    refine branch_move horder hresults (by rintro ⟨⟩) (fun hstage h => ?_) h
    obtain ⟨ho, hr⟩ := manualReview_eq_ok h hinput
    rw [ho, hr, hresults]
    exact .reviewed rfl (.inr rfl) horder hstage
  | other text =>
    cases h
    exact idle_move (by rintro ⟨⟩) horder hresults

/-- A transition does not read the inbox mark that `applySagaEvent` sets first. -/
lemma SagaMove.of_setInbox {input : OrderInput} (messageId : String) (time : Time)
    {after : Option OrderSaga} {results : List ResultMessage}
    (h : SagaMove env input (ws.setInbox messageId time) after results) :
    SagaMove env input ws after results := by
  cases h with
  | absent horder => exact .absent horder
  | idle horder hack hmiss => exact .idle horder hack hmiss
  | rejected hinput horder hfailure => exact .rejected hinput horder hfailure
  | accepted hinput horder hvalid hcart hsnapshot =>
    exact .accepted hinput horder hvalid hcart hsnapshot
  | quoted hinput horder hdata hstage hshipping hsnapshot =>
    exact .quoted hinput horder hdata hstage hshipping hsnapshot
  | cancelled hinput horder hstage => exact .cancelled hinput horder hstage
  | authorized hinput horder hdata hstage hsnapshot =>
    exact .authorized hinput horder hdata hstage hsnapshot
  | shipped hinput horder hdata hstage hsnapshot =>
    exact .shipped hinput horder hdata hstage hsnapshot
  | completed hinput horder hstage => exact .completed hinput horder hstage
  | compensating hinput horder hstage hs' => exact .compensating hinput horder hstage hs'
  | acknowledged hinput hack horder hstage hpending =>
    exact .acknowledged hinput hack horder hstage hpending
  | compensated hinput hack horder hstage hpending =>
    exact .compensated hinput hack horder hstage hpending
  | reviewed hinput hfailed horder hstage => exact .reviewed hinput hfailed horder hstage
  | timedOut hinput horder hversion hdue => exact .timedOut hinput horder hversion hdue

/-- The transition of a saga event. -/
lemma applySagaEvent_move {subject : SagaSubject} {envelope : MessageEnvelope}
    (hresults : ws.results = []) (hinput : ws.input = some envelope)
    (hinbox : ws.inbox envelope.messageId = none)
    (h : applySagaEvent env subject envelope ws = .ok state') :
    SagaMove env (.event subject envelope) ws state'.orders state'.results := by
  unfold applySagaEvent at h
  simp only [hinbox, Option.isSome_none, Bool.false_eq_true, if_false] at h
  apply SagaMove.of_setInbox envelope.messageId ws.transitionTime
  split at h
  · rename_i horder
    cases h
    rw [horder, show (ws.setInbox _ _).results = [] from hresults]
    exact .absent horder
  · rename_i s horder
    split at h
    · rename_i hterminal
      cases h
      rw [horder, show (ws.setInbox _ _).results = [] from hresults]
      refine .idle horder (fun _ _ _ _ hstage => ?_) (by rintro _ _ _ _ ⟨⟩)
      rw [hstage] at hterminal
      cases hterminal
    · exact sagaEventSwitch_move horder hresults hinput h

/-- The transition of a fired deadline. -/
lemma deadlineUpdate_move {orderId : String} {version : ℕ} {due : Time} {inputId : String}
    (hresults : ws.results = [])
    (hinput : ws.input = some (deadlineEnvelope orderId version due inputId))
    (h : deadlineUpdate env orderId version due inputId ws = .ok state') :
    SagaMove env (.deadline orderId version due inputId) ws state'.orders state'.results := by
  unfold deadlineUpdate at h
  split at h
  · rename_i horder
    cases h
    rw [horder, hresults]
    exact .absent horder
  · rename_i s horder
    split at h
    · rename_i hmiss
      cases h
      rw [horder, hresults]
      refine .idle horder (by rintro _ _ ⟨⟩) ?_
      rintro _ _ _ _ ⟨⟩ hversion hdue
      simp [hversion, hdue] at hmiss
    · rename_i hmatch
      simp only [ne_eq, Bool.or_eq_true, decide_eq_true_eq, not_or, not_not] at hmatch
      obtain ⟨s1, h1, h⟩ := bind_eq_ok.mp h
      have hs1 := queueEnvelope_eq_ok h1 hinput
      obtain ⟨ho, hr⟩ := manualReview_eq_ok h (by rw [hs1]; exact hinput)
      rw [ho, hr, hs1]
      simp only [PersistedState.addResult, PersistedState.setOrder, hresults, List.nil_append,
        List.singleton_append]
      exact .timedOut rfl horder hmatch.1 hmatch.2

/-- The moves are complete: whatever a transition does to a freshly loaded workspace is one of
them. -/
theorem OrderInput.update_move {input : OrderInput} (hresults : ws.results = [])
    (hinput : ws.input = some input.envelope) (hinbox : ws.inbox = fun _ => none)
    (h : input.update env ws = .ok state') :
    SagaMove env input ws state'.orders state'.results := by
  cases input with
  | command envelope payload projections =>
    exact orderCommandUpdate_move hresults hinput (by rw [hinbox]) h
  | event subject envelope => exact applySagaEvent_move hresults hinput (by rw [hinbox]) h
  | deadline orderId version due inputId => exact deadlineUpdate_move hresults hinput h

/-! ## What all moves have in common -/

/-- The saga up to the two acknowledgement flags. -/
def OrderSaga.core (saga : OrderSaga) : OrderSaga :=
  { saga with authorizationReleased := false, shipmentCancelled := false }

/-- Sagas with the same core agree on everything that does not depend on the flags. -/
lemma OrderSaga.eq_of_core {β : Type} (f : OrderSaga → β) (hf : ∀ x : OrderSaga, f x.core = f x)
    {s t : OrderSaga} (h : s.core = t.core) : f s = f t := by
  rw [← hf s, ← hf t, h]

/-- Sagas with the same core are at the same stage. -/
lemma OrderSaga.stage_eq_of_core {s t : OrderSaga} (h : s.core = t.core) : s.stage = t.stage :=
  OrderSaga.eq_of_core OrderSaga.stage (fun _ => rfl) h

/-- Acknowledging a compensation changes the flags only. -/
@[simp] lemma OrderSaga.core_acknowledge (s : OrderSaga) (subject : SagaSubject) :
    (s.acknowledge subject).core = s.core := by
  cases subject <;> rfl

/-- A flag is all that an acknowledgement changes. -/
@[simp] lemma OrderSaga.version_acknowledge (s : OrderSaga) (subject : SagaSubject) :
    (s.acknowledge subject).version = s.version := by
  cases subject <;> rfl

section Moves

variable {input : OrderInput} {after : Option OrderSaga} {results : List ResultMessage}

/-- A transition without a saga leaves none, or creates the first version of one. -/
lemma SagaMove.of_none (h : SagaMove env input ws after results) (hnone : ws.orders = none) :
    (after = none ∧ results = []) ∨ ∃ s, after = some s ∧ s.version = 1 := by
  cases h with
  | absent => exact .inl ⟨rfl, rfl⟩
  | rejected => exact .inr ⟨_, rfl, rfl⟩
  | accepted => exact .inr ⟨_, rfl, rfl⟩
  | idle horder | quoted _ horder | cancelled _ horder | authorized _ horder | shipped _ horder
  | completed _ horder | compensating _ horder | acknowledged _ _ horder | compensated _ _ horder
  | reviewed _ _ horder | timedOut _ horder =>
    rw [hnone] at horder
    cases horder

/-- A transition of a saga never lowers the version.  At an unchanged version it queues nothing, and
changes nothing but an acknowledgement flag of a compensating saga. -/
lemma SagaMove.of_some {s : OrderSaga} (h : SagaMove env input ws after results)
    (hsome : ws.orders = some s) :
    ∃ s', after = some s' ∧ s.version ≤ s'.version ∧
      (s'.version = s.version → results = [] ∧
        (s' = s ∨ ∃ subject envelope, input = .event subject envelope ∧ subject.isAck = true ∧
          s.stage = .compensating ∧ s' = s.acknowledge subject ∧
          (s.acknowledge subject).compensationPending = true)) := by
  cases h with
  | absent horder | rejected _ horder | accepted _ horder =>
    rw [hsome] at horder
    cases horder
  | idle horder =>
    obtain rfl := Option.some.inj (hsome.symm.trans horder)
    exact ⟨_, rfl, le_rfl, fun _ => ⟨rfl, .inl rfl⟩⟩
  | acknowledged hinput hack horder hstage hpending =>
    obtain rfl := Option.some.inj (hsome.symm.trans horder)
    exact ⟨_, rfl, by simp, fun _ => ⟨rfl, .inr ⟨_, _, hinput, hack, hstage, rfl, hpending⟩⟩⟩
  | compensating _ horder _ hs' =>
    obtain rfl := Option.some.inj (hsome.symm.trans horder)
    subst hs'
    exact ⟨_, rfl, Nat.le_succ _, fun h => absurd h (Nat.succ_ne_self _)⟩
  | compensated _ _ horder =>
    obtain rfl := Option.some.inj (hsome.symm.trans horder)
    refine ⟨_, rfl, ?_, fun h => absurd h ?_⟩ <;>
      simp only [OrderSaga.close, OrderSaga.version_acknowledge] <;> omega
  | quoted _ horder | cancelled _ horder | authorized _ horder | shipped _ horder
  | completed _ horder | reviewed _ _ horder =>
    obtain rfl := Option.some.inj (hsome.symm.trans horder)
    exact ⟨_, rfl, Nat.le_succ _, fun h => absurd h (Nat.succ_ne_self _)⟩
  | timedOut _ horder =>
    obtain rfl := Option.some.inj (hsome.symm.trans horder)
    refine ⟨_, rfl, ?_, fun h => absurd h ?_⟩ <;>
      simp only [OrderSaga.close] <;> omega

end Moves

end Boutique
