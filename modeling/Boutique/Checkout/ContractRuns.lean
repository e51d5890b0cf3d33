import Boutique.Checkout.Contract

/-!
# The contract over runs

Along every run whose inputs come from the services, the journalled commands have what their handlers
need, and an open order has what its next commands need.
-/

namespace Boutique

open Payment (PaymentEnv Reply processCommand)
open Shipping (ShippingEnv buildShippingOutcome)

variable {env : CheckoutEnv} {orderId : String}

/-! ## Open orders -/

/-- What an open order has for its next commands. -/
structure OpenSaga (saga : OrderSaga) : Prop where
  user : isBlank saga.userId = false
  cart : saga.cartVersion ≠ 0
  snapshot : saga.snapshot.isSome = true
  positive : saga.version ≠ 0
  version : saga.version ≤ stageRank (some saga.stage)
  authorization : 3 ≤ stageRank (some saga.stage) → saga.authorizationId ≠ ""
  shipment : saga.stage = .waitingCapture → saga.shipmentId ≠ ""

/-- The next command of an order that is not at the last stage has a version that handlers take. -/
lemma OpenSaga.next_version {saga : OrderSaga} (h : OpenSaga saga)
    (hrank : stageRank (some saga.stage) ≤ 4) : saga.version + 1 ≠ 0 ∧ saga.version + 1 ≤ 5 :=
  ⟨Nat.succ_ne_zero _, Nat.succ_le_succ (h.version.trans hrank)⟩

/-- The version after a version is not zero. -/
lemma nextVersion_ne_zero {currentVersion next : ℕ}
    (h : CartStore.nextVersion currentVersion = .ok next) : next ≠ 0 := by
  unfold CartStore.nextVersion at h
  split_ifs at h
  cases h
  exact Nat.succ_ne_zero currentVersion

/-- The cart of a served snapshot is not the first one, and its user is not blank. -/
lemma CartServed.facts {userId : String} {cart : CartSnapshot} (h : CartServed userId cart) :
    isBlank userId = false ∧ cart.cartVersion ≠ 0 := by
  obtain ⟨call, stored, version, selected, huser, hvalid, hselected, hcart⟩ := h
  have hblank : ∀ {commandId user messageType : String} {expected : Option ℕ},
      CartStore.validateEnvelope commandId user expected messageType call.envelope = .ok () →
      isBlank user = false := by
    intro commandId user messageType expected hok
    unfold CartStore.validateEnvelope at hok
    split_ifs at hok with hids
    simp only [Bool.or_eq_true, not_or, Bool.not_eq_true] at hids
    exact hids.1.1.2
  subst huser
  unfold CartStore.Call.validate at hvalid
  unfold CartStore.Call.transition at hselected
  cases hcommand : call.command with
  | addItem command =>
    simp only [hcommand] at hvalid hselected
    refine ⟨hblank hvalid, ?_⟩
    simp only [CartStore.addItemTransition] at hselected
    split at hselected
    · cases hselected
      cases hcart
    · split at hselected
      · cases hselected
        cases hcart
      · split at hselected
        · cases hselected
          cases hcart
        · obtain ⟨next, hnext, hselected⟩ := bind_eq_ok.mp hselected
          cases hselected
          obtain rfl := Option.some.inj hcart
          exact nextVersion_ne_zero hnext
  | clear command =>
    simp only [hcommand] at hvalid hselected
    refine ⟨hblank hvalid, ?_⟩
    simp only [CartStore.clearTransition] at hselected
    split at hselected
    · cases hselected
      cases hcart
    · obtain ⟨next, hnext, hselected⟩ := bind_eq_ok.mp hselected
      cases hselected
      obtain rfl := Option.some.inj hcart
      exact nextVersion_ne_zero hnext

/-! ## Replies move an order on -/

section Replies

/-- The workspace of an input whose results pass the checks of `NewResultEnvelope`. -/
structure Ready (ws : PersistedState) (envelope : MessageEnvelope) : Prop where
  input : ws.input = some envelope
  complete : EnvelopeOk envelope
  time : envelope.occurredAt = some ws.transitionTime

variable {ws : PersistedState} {envelope : MessageEnvelope} {saga : OrderSaga}

/-- A workspace stays ready when the order is written. -/
lemma Ready.setOrder (h : Ready ws envelope) (saga : OrderSaga) :
    Ready (ws.setOrder saga) envelope := ⟨h.input, h.complete, h.time⟩

/-- A workspace stays ready when a result is queued. -/
lemma Ready.addResult (h : Ready ws envelope) (result : ResultMessage) :
    Ready (ws.addResult result) envelope := ⟨h.input, h.complete, h.time⟩

/-- The slots of checkout are valid. -/
lemma validSlot_resultSlotForSubject (subject : ResultSubject) :
    validSlot (resultSlotForSubject subject) = true := by
  cases subject <;> decide

/-- The message types of checkout are not blank. -/
lemma isBlank_messageType (subject : ResultSubject) : isBlank subject.messageType = false := by
  cases subject <;> decide

/-- `queueEnvelope` queues in a workspace that is ready. -/
lemma Ready.queueEnvelope (h : Ready ws envelope) {subject : ResultSubject}
    {aggregateType aggregateId : String} {aggregateVersion : ℕ} {payload : Payload}
    (htype : isBlank aggregateType = false) (hid : isBlank aggregateId = false)
    (hversion : aggregateVersion ≠ 0) :
    queueEnvelope env ws subject aggregateType aggregateId aggregateVersion payload =
      .ok (ws.addResult (queuedResult env envelope ws subject aggregateType aggregateId
        aggregateVersion payload)) := by
  obtain ⟨time, htime, hzero, hvalid⟩ := h.complete.occurredAt
  obtain rfl : ws.transitionTime = time := Option.some.inj (h.time.symm.trans htime)
  have hspec : SpecOk (resultSpec ws subject aggregateType aggregateId aggregateVersion payload) := by
    refine ⟨?_, ?_, ?_, htype, hid, hversion, hzero, hvalid⟩
    · exact validSlot_resultSlotForSubject subject
    · exact isBlank_messageType subject
    · exact (by decide : isBlank "checkoutservice/phase5" = false)
  simp only [Boutique.queueEnvelope, h.input, newResultEnvelope_ok h.complete hspec]
  rfl

/-- The result of a transition moves the order on. -/
def Moves (subject : SagaSubject) (saga : OrderSaga) (result : Except CheckoutError PersistedState) :
    Prop :=
  ∃ ws saga', result = .ok ws ∧ ws.orders = some saga' ∧ Progress subject saga saga'

/-- `cancel` ends the order. -/
lemma Ready.cancel (h : Ready ws envelope) (hid : isBlank saga.orderId = false)
    (subject : SagaSubject) (failure : Failure) :
    Moves subject saga (cancel env ws saga failure) := by
  unfold Boutique.cancel
  refine ⟨_, _, (h.setOrder _).queueEnvelope (by decide) hid (Nat.succ_ne_zero _), rfl, .inl ?_⟩
  exact Nat.lt_succ_self _

/-- `manualReview` ends the order. -/
lemma Ready.manualReview (h : Ready ws envelope) (hid : isBlank saga.orderId = false)
    (subject : SagaSubject) (failedCompensation reference : String) :
    Moves subject saga (manualReview env ws saga failedCompensation reference) := by
  unfold Boutique.manualReview
  refine ⟨_, _, (h.setOrder _).queueEnvelope (by decide) hid (Nat.succ_ne_zero _), rfl, .inl ?_⟩
  exact Nat.lt_succ_self _

/-- `startCompensation` moves the order on. -/
lemma Ready.startCompensation (h : Ready ws envelope) (hid : isBlank saga.orderId = false)
    (subject : SagaSubject) (failure : Failure) (withShipment : Bool) :
    Moves subject saga (startCompensation env ws saga failure true withShipment) := by
  unfold Boutique.startCompensation queueStage
  simp only [if_true]
  rw [(h.setOrder _).queueEnvelope (by decide) hid (Nat.succ_ne_zero _)]
  simp only [bind, Except.bind]
  cases withShipment with
  | false =>
    simp only [Bool.false_eq_true, if_false, pure, Except.pure]
    refine ⟨_, _, ((h.setOrder _).addResult _).queueEnvelope (by decide) hid (Nat.succ_ne_zero _),
      rfl, .inl ?_⟩
    exact Nat.lt_succ_self _
  | true =>
    simp only [if_true]
    rw [((h.setOrder _).addResult _).queueEnvelope (by decide) hid (Nat.succ_ne_zero _)]
    simp only
    refine ⟨_, _, (((h.setOrder _).addResult _).addResult _).queueEnvelope (by decide) hid
      (Nat.succ_ne_zero _), rfl, .inl ?_⟩
    exact Nat.lt_succ_self _

/-- `finishCompensation` leaves the order with its new flag, or ends it. -/
lemma Ready.finishCompensation (h : Ready ws envelope) (hid : isBlank saga.orderId = false)
    {subject : SagaSubject} {flagged : OrderSaga} (horder : flagged.orderId = saga.orderId)
    (hversion : flagged.version = saga.version)
    (hflag : Progress subject saga flagged) :
    Moves subject saga (finishCompensation env (ws.setOrder flagged) flagged) := by
  unfold Boutique.finishCompensation
  split_ifs
  · exact ⟨_, flagged, rfl, rfl, hflag⟩
  · exact ⟨_, flagged, rfl, rfl, hflag⟩
  · exact ⟨_, flagged, rfl, rfl, hflag⟩
  · refine ⟨_, _, ((h.setOrder _).setOrder _).queueEnvelope (by decide) ?_ (Nat.succ_ne_zero _), rfl,
      .inl ?_⟩
    · exact horder ▸ hid
    · change saga.version < flagged.version + 1
      omega

/-- The switch of `applySagaEvent` moves an order on with a reply that it waits for. -/
lemma Ready.sagaEventSwitch (h : Ready ws envelope) (hid : isBlank saga.orderId = false)
    (hopen : OpenSaga saga) {reply : Reply} (hstage : reply.subject.stage = some saga.stage)
    (hfields : ReplyFields saga.orderId reply) (hdata : envelope.data = reply.data.data) :
    Moves reply.subject saga (sagaEventSwitch env ws saga reply.subject envelope) := by
  obtain ⟨snapshot, hsnapshot⟩ := Option.isSome_iff_exists.mp hopen.snapshot
  have hadvance : saga.version < saga.version + 1 := Nat.lt_succ_self _
  unfold ReplyFields at hfields
  cases hsubject : reply.subject with
  | orderQuoteCalculated =>
    simp only [hsubject, SagaSubject.stage, Option.some.injEq] at hfields hstage
    obtain ⟨cost, hpayload⟩ := hfields
    simp only [Boutique.sagaEventSwitch, hdata, hpayload, ← hstage, ne_eq, not_true_eq_false,
      if_false, applyQuote]
    split
    · exact h.cancel hid _ _
    · rw [hsnapshot]
      refine ⟨_, _, (h.setOrder _).queueEnvelope (by decide) hid (Nat.succ_ne_zero _), rfl,
        .inl hadvance⟩
  | orderQuoteFailed =>
    simp only [hsubject, SagaSubject.stage, Option.some.injEq] at hfields hstage
    obtain ⟨failure, hpayload⟩ := hfields
    simp only [Boutique.sagaEventSwitch, hdata, hpayload, ← hstage, ne_eq, not_true_eq_false,
      if_false]
    exact h.cancel hid _ _
  | paymentAuthorized =>
    simp only [hsubject, SagaSubject.stage, Option.some.injEq] at hfields hstage
    obtain ⟨authorizationId, hpayload, -⟩ := hfields
    simp only [Boutique.sagaEventSwitch, hdata, hpayload, ← hstage, ne_eq, not_true_eq_false,
      if_false, applyAuthorized, hsnapshot]
    exact ⟨_, _, (h.setOrder _).queueEnvelope (by decide) hid (Nat.succ_ne_zero _), rfl,
      .inl hadvance⟩
  | paymentAuthorizationDeclined =>
    simp only [hsubject, SagaSubject.stage, Option.some.injEq] at hfields hstage
    obtain ⟨category, hpayload⟩ := hfields
    simp only [Boutique.sagaEventSwitch, hdata, hpayload, ← hstage, ne_eq, not_true_eq_false,
      if_false]
    exact h.cancel hid _ _
  | shipmentCreated =>
    simp only [hsubject, SagaSubject.stage, Option.some.injEq] at hfields hstage
    obtain ⟨shipmentId, trackingId, hpayload, -⟩ := hfields
    simp only [Boutique.sagaEventSwitch, hdata, hpayload, ← hstage, ne_eq, not_true_eq_false,
      if_false, applyShipmentCreated, hsnapshot]
    exact ⟨_, _, (h.setOrder _).queueEnvelope (by decide) hid (Nat.succ_ne_zero _), rfl,
      .inl hadvance⟩
  | shipmentCreationFailed =>
    simp only [hsubject, SagaSubject.stage, Option.some.injEq] at hfields hstage
    obtain ⟨failure, hpayload⟩ := hfields
    simp only [Boutique.sagaEventSwitch, hdata, hpayload, ← hstage, ne_eq, not_true_eq_false,
      if_false]
    exact h.startCompensation hid _ _ _
  | paymentCaptured =>
    simp only [hsubject, SagaSubject.stage, Option.some.injEq] at hfields hstage
    obtain ⟨transactionId, hpayload⟩ := hfields
    simp only [Boutique.sagaEventSwitch, hdata, hpayload, ← hstage, ne_eq, not_true_eq_false,
      if_false, applyCaptured]
    rw [(h.setOrder _).queueEnvelope (by decide) hid (Nat.succ_ne_zero _)]
    -- the command to clear the cart goes to the user of the order
    exact ⟨_, _, ((h.setOrder _).addResult _).queueEnvelope (by decide) hopen.user hopen.cart, rfl,
      .inl hadvance⟩
  | paymentCaptureFailed =>
    simp only [hsubject, SagaSubject.stage, Option.some.injEq] at hfields hstage
    obtain ⟨authorizationId, failure, hpayload⟩ := hfields
    simp only [Boutique.sagaEventSwitch, hdata, hpayload, ← hstage, ne_eq, not_true_eq_false,
      if_false]
    exact h.startCompensation hid _ _ _
  | authorizationReleased =>
    simp only [hsubject, SagaSubject.stage, Option.some.injEq] at hfields hstage
    obtain ⟨authorizationId, hpayload⟩ := hfields
    simp only [Boutique.sagaEventSwitch, hdata, hpayload, ← hstage, ne_eq, not_true_eq_false,
      if_false]
    exact h.finishCompensation hid rfl rfl (.inr (.inl ⟨rfl, rfl⟩))
  | shipmentCancelled =>
    simp only [hsubject, SagaSubject.stage, Option.some.injEq] at hfields hstage
    obtain ⟨shipmentId, hpayload⟩ := hfields
    simp only [Boutique.sagaEventSwitch, hdata, hpayload, ← hstage, ne_eq, not_true_eq_false,
      if_false]
    exact h.finishCompensation hid rfl rfl (.inr (.inr ⟨rfl, rfl⟩))
  | authorizationReleaseFailed =>
    simp only [hsubject, SagaSubject.stage, Option.some.injEq] at hstage
    simp only [Boutique.sagaEventSwitch, ← hstage, ne_eq, not_true_eq_false, if_false]
    exact h.manualReview hid _ _ _
  | shipmentCancellationFailed =>
    simp only [hsubject, SagaSubject.stage, Option.some.injEq] at hstage
    simp only [Boutique.sagaEventSwitch, ← hstage, ne_eq, not_true_eq_false, if_false]
    exact h.manualReview hid _ _ _
  | other text =>
    simp only [hsubject] at hfields

/-- `ApplyOrder` moves an order on with a reply that it waits for. -/
lemma prepareCommit_moves {view : OrderView} {reply : Reply} {now : Time}
    (hsaga : view.saga = some saga) (hid : isBlank saga.orderId = false)
    (hopen : OpenSaga saga) (hterminal : saga.stage.terminal = false)
    (hcomplete : EnvelopeOk envelope)
    (hstage : reply.subject.stage = some saga.stage) (hfields : ReplyFields saga.orderId reply)
    (hdata : envelope.data = reply.data.data) :
    ∃ args saga', prepareCommit env orderId (.event reply.subject envelope) now view = .ok args ∧
      args.saga = some saga' ∧ Progress reply.subject saga saga' := by
  obtain ⟨time, htime, -⟩ := id hcomplete.occurredAt
  let input : OrderInput := .event reply.subject envelope
  let loaded := transitionWorkspace input now view
  have hloaded : loaded.orders = some saga := by
    rw [← hsaga]
    exact transitionWorkspace_orders
  have hready : Ready (loaded.setInbox envelope.messageId loaded.transitionTime) envelope := by
    refine ⟨rfl, hcomplete, ?_⟩
    have htransition : loaded.transitionTime = envelope.occurredAt.getD 0 := by
      simp only [loaded, transitionWorkspace, loadOrderWorkspace]
      cases hydratedOrder view <;> rfl
    change envelope.occurredAt = some loaded.transitionTime
    rw [htransition, htime, Option.getD_some]
  have hmoves : Moves reply.subject saga (sagaEventSwitch env
      (loaded.setInbox envelope.messageId loaded.transitionTime) saga reply.subject envelope) :=
    hready.sagaEventSwitch hid hopen hstage hfields hdata
  obtain ⟨ws', saga', hok, horders, hprogress⟩ := hmoves
  have hupdate : input.update env loaded = .ok ws' := by
    have hinbox : loaded.inbox envelope.messageId = none := by
      rw [show loaded.inbox = fun _ => none from transitionWorkspace_inbox]
    have hset : (loaded.setInbox envelope.messageId loaded.transitionTime).orders = some saga :=
      hloaded
    change applySagaEvent env reply.subject envelope loaded = .ok ws'
    simp only [applySagaEvent, hinbox, Option.isSome_none, Bool.false_eq_true, if_false, hset,
      hterminal]
    exact hok
  refine ⟨commitArgs env orderId input view ws', saga', ?_, horders, hprogress⟩
  change input.update env loaded >>= _ = _
  rw [hupdate]
  rfl

end Replies

/-! ## The invariant -/

section Invariant

variable {log : List Commit} {v : OrderView} {e : Commit}

/-- Every commit of the log handled an input from the services. -/
def InputsOk (log : List Commit) : Prop :=
  ∀ pre e, pre ++ [e] <+: log → InputOk pre e.input

/-- The journalled commands have what their handlers need, and an open order has what its next
commands need. -/
structure ContractInv (orderId : String) (log : List Commit) (v : OrderView) : Prop where
  commands : ∀ result ∈ journalledResults log, result.subject.isCommand = true →
    CommandOk orderId result
  saga : ∀ saga, v.saga = some saga → saga.stage.terminal = false → OpenSaga saga

/-- The time of a transition is that of its input. -/
@[simp] lemma transitionWorkspace_transitionTime {input : OrderInput} {now : Time}
    {view : OrderView} : (transitionWorkspace input now view).transitionTime = input.time := by
  unfold transitionWorkspace loadOrderWorkspace
  cases hydratedOrder view <;> cases input.base <;> rfl

/-- A result envelope is made for an input with a complete envelope only. -/
lemma newResultEnvelope_complete {hash : String → String → String} {envelope result : MessageEnvelope}
    {spec : ResultSpec} (h : newResultEnvelope hash envelope spec = .ok result)
    (htime : envelope.occurredAt = some spec.occurredAt) : EnvelopeOk envelope := by
  unfold newResultEnvelope at h
  split_ifs at h with hmessage hcorrelation htype hid hversion hzero hvalid
  · exact ⟨by simpa using hmessage, by simpa using hcorrelation, _, htime, hzero, hvalid⟩
  · split at h <;> cases h

/-- A result is queued for an input with a complete envelope only. -/
lemma queueEnvelope_complete {ws ws' : PersistedState} {envelope : MessageEnvelope}
    {subject : ResultSubject} {aggregateType aggregateId : String} {aggregateVersion : ℕ}
    {payload : Payload}
    (h : queueEnvelope env ws subject aggregateType aggregateId aggregateVersion payload =
      .ok ws') (hinput : ws.input = some envelope)
    (htime : envelope.occurredAt = some ws.transitionTime) : EnvelopeOk envelope := by
  simp only [queueEnvelope, hinput] at h
  split at h
  · cases h
  · next result hresult => exact newResultEnvelope_complete hresult htime

/-- The order command of a commit that accepts an order has a complete envelope. -/
lemma HistoryStep.accepted_complete (h : HistoryStep env orderId log v e)
    {envelope : MessageEnvelope} {payload : OrderSubmitCommand} {projections : PersistedState}
    (hinput : e.input = .command envelope payload projections) (hnone : e.loaded.saga = none)
    (hvalid : validateOrderCommand env (transitionWorkspace e.input e.now e.loaded)
      ((transitionWorkspace e.input e.now e.loaded).carts payload.userId) payload = none) :
    EnvelopeOk envelope := by
  have hprepared := h.valid.prepared
  have haccepted := h.valid.accepted
  rw [hinput] at hprepared hvalid haccepted
  obtain ⟨ws', hupdate, -⟩ := bind_eq_ok.mp hprepared
  have htime : envelope.occurredAt = some (transitionWorkspace (.command envelope payload projections)
      e.now e.loaded).transitionTime := by
    rw [transitionWorkspace_transitionTime]
    simp only [OrderInput.accepted, OrderInput.envelope] at haccepted
    cases hoccurred : envelope.occurredAt with
    | none => simp [hoccurred] at haccepted
    | some time => simp [OrderInput.time, OrderInput.envelope, hoccurred]
  obtain ⟨_, -, hcommand⟩ := bind_eq_ok.mp hupdate
  unfold applyOrderCommand at hcommand
  simp only [transitionWorkspace_inbox, transitionWorkspace_orders, hnone, Option.isSome_none,
    Bool.false_eq_true, if_false, hvalid] at hcommand
  split at hcommand
  · cases hcommand
  · unfold acceptOrder at hcommand
    obtain ⟨snapshot, -, hcommand⟩ := bind_eq_ok.mp hcommand
    obtain ⟨queued, hqueued, -⟩ := bind_eq_ok.mp hcommand
    exact queueEnvelope_complete hqueued rfl htime

/-- The input of a commit that queues commands has a complete envelope. -/
lemma HistoryStep.complete (h : HistoryStep env orderId log v e)
    (hevent : ∀ subject envelope, e.input = .event subject envelope → EnvelopeOk envelope)
    {result : ResultMessage} (hresult : result ∈ e.results)
    (hcommand : result.subject.isCommand = true) : EnvelopeOk e.input.envelope := by
  have hmove := h.move
  cases hinput : e.input with
  | event subject envelope => exact hevent subject envelope hinput
  | deadline id version due inputId =>
    generalize e.after.saga = after at hmove
    generalize e.results = results at hmove hresult
    cases hmove with
    | absent | idle => cases hresult
    | timedOut =>
      rcases List.mem_cons.mp hresult with rfl | hresult
      · cases hcommand
      · obtain rfl := List.mem_singleton.mp hresult
        cases hcommand
    | rejected hi | accepted hi | quoted hi | cancelled hi | authorized hi | shipped hi
    | completed hi | compensating hi | acknowledged hi | compensated hi | reviewed hi =>
      rw [hinput] at hi
      cases hi
  | command envelope payload projections =>
    generalize hafter : e.after.saga = after at hmove
    generalize hresults : e.results = results at hmove
    rw [hresults] at hresult
    cases hmove with
    | absent | idle => cases hresult
    | rejected =>
      obtain rfl := List.mem_singleton.mp hresult
      cases hcommand
    | accepted hi horder hvalid =>
      have hi' := hi
      rw [hinput] at hi'
      cases hi'
      exact h.accepted_complete hinput (by simpa using horder) hvalid
    | quoted hi | cancelled hi | authorized hi | shipped hi | completed hi | compensating hi
    | acknowledged hi | compensated hi | reviewed hi | timedOut hi =>
      rw [hinput] at hi
      cases hi

/-- A queued command has what its handler needs, if its payload has. -/
lemma queuedResult_commandOk {envelope : MessageEnvelope} {ws : PersistedState}
    {subject : ResultSubject} {aggregateType aggregateId : String} {aggregateVersion : ℕ}
    {payload : Payload} (hcomplete : EnvelopeOk envelope)
    (htime : envelope.occurredAt = some ws.transitionTime)
    (haddressed : subject.awaits.isSome = true →
      aggregateId = orderId ∧ aggregateVersion ≠ 0 ∧ aggregateVersion ≤ 5)
    (hfields : CommandFields orderId subject (queuedResult env envelope ws subject aggregateType
      aggregateId aggregateVersion payload).data) :
    CommandOk orderId (queuedResult env envelope ws subject aggregateType aggregateId
      aggregateVersion payload) := by
  obtain ⟨time, htime', hzero, hvalid⟩ := hcomplete.occurredAt
  obtain rfl : ws.transitionTime = time := Option.some.inj (htime.symm.trans htime')
  refine ⟨⟨isBlank_resultId _, hcomplete.correlationId, _, rfl, hzero, hvalid⟩, rfl, rfl, ?_, hfields⟩
  intro hawaits
  obtain ⟨hid, hpositive, hbounded⟩ := haddressed hawaits
  exact ⟨hid, hpositive, hbounded⟩

/-- The commands that a transition queues have what their handlers need. -/
lemma SagaMove.commandOk {input : OrderInput} {ws : PersistedState} {after : Option OrderSaga}
    {results : List ResultMessage} (h : SagaMove env input ws after results)
    (hstable : ∀ parts, env.stableID parts ≠ "")
    (hinput : input.addressed orderId) (hid : ∀ s, ws.orders = some s → s.orderId = orderId)
    (hopen : ∀ s, ws.orders = some s → s.stage.terminal = false → OpenSaga s)
    (htime : input.envelope.occurredAt = some ws.transitionTime) {result : ResultMessage}
    (hresult : result ∈ results) (hcommand : result.subject.isCommand = true)
    (hcomplete : EnvelopeOk input.envelope) : CommandOk orderId result := by
  have hkey : ∀ suffix : String, suffix ≠ "" → orderId ++ suffix ≠ "" := by
    intro suffix hne hempty
    exact hne (String.append_eq_empty_iff.mp hempty).2
  cases h with
  | absent | idle | acknowledged => cases hresult
  | rejected | cancelled | compensated | reviewed =>
    obtain rfl := List.mem_singleton.mp hresult
    cases hcommand
  | timedOut =>
    rcases List.mem_cons.mp hresult with rfl | hresult
    · cases hcommand
    · obtain rfl := List.mem_singleton.mp hresult
      cases hcommand
  | @accepted envelope payload projections cart snapshot hi horder hvalid hcart =>
    subst hi
    obtain ⟨-, rfl⟩ := hinput
    rcases List.mem_cons.mp hresult with rfl | hresult
    · cases hcommand
    · obtain rfl := List.mem_singleton.mp hresult
      exact queuedResult_commandOk hcomplete htime (fun _ => ⟨rfl, by decide, by decide⟩)
        ⟨_, _, _, rfl, hstable _⟩
  | @quoted s envelope _ _ _ _ hi horder _ hstage =>
    subst hi
    obtain rfl := hid s horder
    have hs := hopen s horder (by rw [hstage]; rfl)
    obtain rfl := List.mem_singleton.mp hresult
    exact queuedResult_commandOk hcomplete htime
      (fun _ => ⟨rfl, hs.next_version (by rw [hstage]; decide)⟩)
      ⟨_, _, _, _, rfl, hstable _, hkey _ (by decide)⟩
  | @authorized s envelope _ _ _ hi horder _ hstage =>
    subst hi
    obtain rfl := hid s horder
    have hs := hopen s horder (by rw [hstage]; rfl)
    obtain rfl := List.mem_singleton.mp hresult
    exact queuedResult_commandOk hcomplete htime
      (fun _ => ⟨rfl, hs.next_version (by rw [hstage]; decide)⟩)
      ⟨_, _, _, _, rfl, hstable _, hkey _ (by decide)⟩
  | @shipped s envelope _ _ _ _ hi horder _ hstage =>
    subst hi
    obtain rfl := hid s horder
    have hs := hopen s horder (by rw [hstage]; rfl)
    obtain rfl := List.mem_singleton.mp hresult
    exact queuedResult_commandOk hcomplete htime
      (fun _ => ⟨rfl, hs.next_version (by rw [hstage]; decide)⟩)
      ⟨_, _, _, _, rfl, hstable _, hs.authorization (by rw [hstage]; decide), hkey _ (by decide)⟩
  | @completed s envelope hi horder hstage =>
    subst hi
    have hs := hopen s horder (by rw [hstage]; rfl)
    rcases List.mem_cons.mp hresult with rfl | hresult
    · cases hcommand
    · obtain rfl := List.mem_singleton.mp hresult
      refine queuedResult_commandOk hcomplete htime (by rintro ⟨⟩)
        ⟨s.userId, "order-completed", s.orderId, ?_, rfl, hs.user, rfl⟩
      -- the command ID is the ID that `queueEnvelope` gives to the envelope
      have hmessage : isBlank envelope.messageId = false := hcomplete.messageId
      have hid : envelopeMessageID env .cartClear envelope.messageId =
          "br1_" ++ env.resultHash envelope.messageId (resultSlotForSubject .cartClear) := by
        have hslot := validSlot_resultSlotForSubject .cartClear
        simp [envelopeMessageID, deriveResultMessageID, hmessage, hslot]
      simp only [queuedResult_payload, hid]
      rfl
  | @compensating s s' envelope failure withShipment hi horder hstage hs' =>
    subst hi
    obtain rfl := hid s horder
    have hopenStage : s.stage.terminal = false := by rw [hstage]; cases withShipment <;> rfl
    have hs := hopen s horder hopenStage
    have hversion : s'.version ≠ 0 ∧ s'.version ≤ 5 := by
      subst hs'
      exact hs.next_version (by rw [hstage]; cases withShipment <;> decide)
    have hauthorization : s'.authorizationId ≠ "" := by
      subst hs'
      exact hs.authorization (by rw [hstage]; cases withShipment <;> decide)
    have horderId : s'.orderId = s.orderId := by rw [hs']; rfl
    unfold compensationResults at hresult
    rcases List.mem_append.mp hresult with hresult | hresult
    · rcases List.mem_append.mp hresult with hresult | hresult
      · obtain rfl := List.mem_singleton.mp hresult
        rw [horderId]
        exact queuedResult_commandOk hcomplete htime (fun _ => ⟨rfl, hversion⟩)
          ⟨_, _, _, _, rfl, hstable _, hauthorization, hkey _ (by decide)⟩
      · split_ifs at hresult with hshipment
        · have hcapture : s.stage = .waitingCapture := by
            have hwith : withShipment = true := by rw [hs'] at hshipment; exact hshipment
            rw [hstage, hwith]
            rfl
          have hshipmentId : s'.shipmentId ≠ "" := by
            rw [hs']
            exact hs.shipment hcapture
          obtain rfl := List.mem_singleton.mp hresult
          rw [horderId]
          exact queuedResult_commandOk hcomplete htime (fun _ => ⟨rfl, hversion⟩)
            ⟨_, _, _, _, _, rfl, hstable _, hshipmentId, hkey _ (by decide)⟩
        · cases hresult
    · obtain rfl := List.mem_singleton.mp hresult
      cases hcommand

/-- A valid order has the version of the cart. -/
lemma expectedCartVersion_of_valid {ws : PersistedState} {cart : CartSnapshot}
    {payload : OrderSubmitCommand}
    (h : validateOrderCommand env ws (some cart) payload = none) :
    cart.cartVersion = payload.expectedCartVersion := by
  unfold validateOrderCommand at h
  simp only at h
  split_ifs at h with hitems hversion
  all_goals exact not_not.mp hversion

/-- An order that stays open has what its next commands need. -/
lemma SagaMove.openSaga {input : OrderInput} {ws : PersistedState} {after : Option OrderSaga}
    {results : List ResultMessage} (h : SagaMove env input ws after results)
    (hopen : ∀ s, ws.orders = some s → s.stage.terminal = false → OpenSaga s)
    (hcart : ∀ envelope payload projections cart, input = .command envelope payload projections →
      ws.orders = none → ws.carts payload.userId = some cart → CartServed payload.userId cart)
    (hauthorized : ∀ envelope id authorizationId, input = .event .paymentAuthorized envelope →
      envelope.data = .paymentAuthorized id authorizationId → authorizationId ≠ "")
    (hshipped : ∀ envelope id shipmentId trackingId, input = .event .shipmentCreated envelope →
      envelope.data = .shipmentCreated id shipmentId trackingId → shipmentId ≠ "")
    {s' : OrderSaga} (hafter : after = some s') (hterminal : s'.stage.terminal = false) :
    OpenSaga s' := by
  cases h with
  | absent => cases hafter
  | idle horder =>
    cases hafter
    exact hopen _ horder hterminal
  | rejected | cancelled | completed | compensated | reviewed | timedOut =>
    cases hafter
    cases hterminal
  | @accepted envelope payload projections cart snapshot hi horder hvalid hc =>
    cases hafter
    obtain ⟨huser, hversion⟩ := (hcart envelope payload projections cart hi horder hc).facts
    rw [hc] at hvalid
    rw [expectedCartVersion_of_valid hvalid] at hversion
    exact ⟨huser, hversion, rfl, Nat.one_ne_zero, le_rfl,
      fun hrank => absurd hrank (show ¬3 ≤ 1 by decide), by rintro ⟨⟩⟩
  | @quoted s envelope _ _ _ _ hi horder _ hstage =>
    cases hafter
    have hs := hopen s horder (by rw [hstage]; rfl)
    have hversion := hs.version
    rw [hstage] at hversion
    exact ⟨hs.user, hs.cart, rfl, Nat.succ_ne_zero _, Nat.succ_le_succ hversion,
      fun hrank => absurd hrank (show ¬3 ≤ 2 by decide), by rintro ⟨⟩⟩
  | @authorized s envelope id authorizationId _ hi horder hdata hstage =>
    cases hafter
    have hs := hopen s horder (by rw [hstage]; rfl)
    have hversion := hs.version
    rw [hstage] at hversion
    exact ⟨hs.user, hs.cart, hs.snapshot, Nat.succ_ne_zero _, Nat.succ_le_succ hversion,
      fun _ => hauthorized envelope id authorizationId hi hdata, by rintro ⟨⟩⟩
  | @shipped s envelope id shipmentId trackingId _ hi horder hdata hstage =>
    cases hafter
    have hs := hopen s horder (by rw [hstage]; rfl)
    have hversion := hs.version
    rw [hstage] at hversion
    exact ⟨hs.user, hs.cart, rfl, Nat.succ_ne_zero _, Nat.succ_le_succ hversion,
      fun _ => hs.authorization (by rw [hstage]; decide),
      fun _ => hshipped envelope id shipmentId trackingId hi hdata⟩
  | @compensating s s'' envelope failure withShipment hi horder hstage hs' =>
    cases hafter
    have hs := hopen s horder (by rw [hstage]; cases withShipment <;> rfl)
    have hversion := hs.version
    rw [hstage] at hversion
    have hbounded : s.version ≤ 4 := by
      cases withShipment with
      | false => exact hversion.trans (by decide)
      | true => exact hversion
    subst hs'
    exact ⟨hs.user, hs.cart, hs.snapshot, Nat.succ_ne_zero _, Nat.succ_le_succ hbounded,
      fun _ => hs.authorization (by rw [hstage]; cases withShipment <;> decide), by rintro ⟨⟩⟩
  | @acknowledged s subject _ _ _ horder hstage =>
    cases hafter
    have hs := hopen s horder (by rw [hstage]; rfl)
    cases subject <;>
      exact ⟨hs.user, hs.cart, hs.snapshot, hs.positive, hs.version, hs.authorization, hs.shipment⟩

/-- An order that is committed to has an ID. -/
lemma HistoryStep.orderId_not_blank (h : HistoryStep env orderId log v e) :
    isBlank orderId = false := by
  have haccepted := h.valid.accepted
  simp only [OrderInput.accepted, Bool.and_eq_true, Bool.not_eq_true'] at haccepted
  exact haccepted.1.1

/-- A commit keeps the contract. -/
lemma HistoryStep.contract (h : HistoryStep env orderId log v e)
    (hstable : ∀ parts, env.stableID parts ≠ "") (hinput : InputOk log e.input)
    (hlog : ContractInv orderId log v) (hloaded : ∀ s, e.loaded.saga = some s →
      s.stage.terminal = false → OpenSaga s) :
    ContractInv orderId (log ++ [e]) e.after := by
  have hid := h.orderId_not_blank
  -- what the services have put into the replies
  have hreply : ∀ subject envelope, e.input = .event subject envelope →
      ∃ stage reply, ReplyOk orderId stage reply ∧ reply.subject = subject ∧
        SameMessage reply.data envelope := by
    intro subject envelope hevent
    rw [hevent] at hinput
    obtain ⟨result, hresult, reply, hhandled, hsubject, hsame⟩ := hinput
    have hcommand : result.subject.isCommand = true := by
      cases hhandled with
      | payment env envelope _ hok =>
        have hpayment := isPayment_of_processCommand hok
        cases hs : result.subject <;> simp_all [ResultSubject.isPayment, ResultSubject.isCommand,
          ResultSubject.awaits]
      | shipping env envelope _ hok =>
        have hshipping := isShipping_of_buildShippingOutcome hok
        cases hs : result.subject <;> simp_all [ResultSubject.isShipping, ResultSubject.isCommand,
          ResultSubject.awaits]
    exact ⟨_, reply, (hlog.commands result hresult hcommand).replyOk hid hhandled, hsubject, hsame⟩
  have hevent : ∀ subject envelope, e.input = .event subject envelope → EnvelopeOk envelope := by
    intro subject envelope hi
    obtain ⟨stage, reply, hok, -, hsame⟩ := hreply subject envelope hi
    exact hsame.envelopeOk hok.envelope
  refine ⟨fun result hresult hcommand => ?_, fun s hs hterminal => ?_⟩
  · rw [journalledResults_snoc] at hresult
    rcases List.mem_append.mp hresult with hold | hnew
    · exact hlog.commands result hold hcommand
    · have hcomplete := h.complete hevent hnew hcommand
      have htime : e.input.envelope.occurredAt =
          some (transitionWorkspace e.input e.now e.loaded).transitionTime := by
        obtain ⟨time, htime, -⟩ := hcomplete.occurredAt
        simp [OrderInput.time, htime]
      exact h.move.commandOk hstable h.valid.addressed (by simpa using h.loaded_consistent.order_id)
        (by simpa using hloaded) htime hnew hcommand hcomplete
  · refine h.move.openSaga (by simpa using hloaded) ?_ ?_ ?_ hs hterminal
    · intro envelope payload projections cart hi hnone hcart
      rw [hi] at hinput
      refine hinput payload.userId cart ?_
      have hview : e.loaded.saga = none := by simpa using hnone
      have hhydrated : hydratedOrder e.loaded = none := by
        simp [hydratedOrder, hview, h.loaded_consistent.accepted_none hview]
      rw [← hcart, hi]
      simp [transitionWorkspace, loadOrderWorkspace, hhydrated, PersistedState.withAccepted,
        PersistedState.withProjections, OrderInput.base]
    · intro envelope id authorizationId hi hdata
      obtain ⟨stage, reply, hok, hsubject, _, _, rfl⟩ := hreply _ envelope hi
      have hfields := hok.fields
      unfold ReplyFields at hfields
      rw [hsubject] at hfields
      obtain ⟨authorization, hpayload, hne⟩ := hfields
      cases hdata.symm.trans hpayload
      exact hne
    · intro envelope id shipmentId trackingId hi hdata
      obtain ⟨stage, reply, hok, hsubject, _, _, rfl⟩ := hreply _ envelope hi
      have hfields := hok.fields
      unfold ReplyFields at hfields
      rw [hsubject] at hfields
      obtain ⟨shipment, tracking, hpayload, hne⟩ := hfields
      cases hdata.symm.trans hpayload
      exact hne

/-- The contract holds along every history whose inputs come from the services. -/
theorem OrderHistory.contract (hstable : ∀ parts, env.stableID parts ≠ "")
    (h : OrderHistory env orderId log v) : InputsOk log → ContractInv orderId log v := by
  refine OrderHistory.induction (P := fun log v => InputsOk log → ContractInv orderId log v) ?_ ?_ h
  · intro _
    exact ⟨fun _ hresult => (List.not_mem_nil hresult).elim, fun _ hsaga => by cases hsaga⟩
  · intro log v e pre hstep hlog hpre hloaded hinputs
    have hbefore : InputsOk log := fun pre' e' hpre' => hinputs pre' e' (hpre'.trans
      (List.prefix_append _ _))
    refine hstep.contract hstable (hinputs log e List.prefix_rfl) (hlog hbefore) ?_
    exact (hloaded fun pre' e' hpre' => hbefore pre' e' (hpre'.trans hpre)).saga

/-- An order with a commit has an ID. -/
lemma OrderHistory.orderId_not_blank (h : OrderHistory env orderId log v) :
    log ≠ [] → isBlank orderId = false := by
  refine OrderHistory.induction (P := fun log _ => log ≠ [] → isBlank orderId = false) ?_ ?_ h
  · exact fun hnil => (hnil rfl).elim
  · intro _ _ _ _ hstep _ _ _ _
    exact hstep.orderId_not_blank

/-! ## Runs -/

section Runs

variable {s s' : CheckoutState} {a : Action} {actions : List Action}

/-- An input that comes from the services still does when more has been journalled. -/
lemma InputOk.mono {log log' : List Commit} {input : OrderInput} (h : InputOk log input)
    (hlog : log <+: log') : InputOk log' input := by
  cases input with
  | command => exact h
  | deadline => trivial
  | event subject envelope =>
    obtain ⟨result, hresult, hrest⟩ := h
    obtain ⟨rest, rfl⟩ := hlog
    refine ⟨result, ?_, hrest⟩
    simp only [journalledResults, List.flatMap_append]
    exact List.mem_append_left _ hresult

/-- The inputs of the calls in progress and of the commits come from the services. -/
structure InputsInv (env : CheckoutEnv) (orderId : String) (s : CheckoutState) : Prop where
  history : HistoryInv env orderId s
  calls : ∀ w call scan, s.workers w = .applying call scan → InputOk s.log call.input
  commits : InputsOk s.log

/-- A call in progress was in progress before the step, has a delivered input, or fires a
deadline. -/
lemma step_input {w : ℕ} {call : Call} {scan : Option Scan} (hstep : step env orderId s a = some s')
    (hw : s'.workers w = .applying call scan) :
    (∃ call', s.workers w = .applying call' scan ∧ call.input = call'.input) ∨
      a = .deliver w call.input call.now ∨ InputOk s.log call.input := by
  rcases step_call hstep hw with ⟨call', hcall', hinput, -⟩ | ⟨-, -, rfl | rfl⟩
  · exact .inl ⟨call', hcall', hinput⟩
  · exact .inr (.inl rfl)
  · obtain ⟨record, hrecord⟩ := step_process_input hstep hw
    refine .inr (.inr ?_)
    rw [hrecord]
    trivial

/-- A step whose input comes from the services keeps the inputs. -/
lemma InputsInv.step (h : InputsInv env orderId s) (hservices : FromServices s a)
    (hstep : step env orderId s a = some s') : InputsInv env orderId s' := by
  have hlog : s.log <+: s'.log := by
    rcases step_history h.history hstep with ⟨hlog, -⟩ | ⟨e, hlog, -⟩
    · exact hlog ▸ List.prefix_rfl
    · exact hlog ▸ List.prefix_append _ _
  refine ⟨h.history.step hstep, fun w call scan hw => ?_, fun pre e hpre => ?_⟩
  · rcases step_input hstep hw with ⟨call', hcall', hinput⟩ | rfl | hinput
    · rw [hinput]
      exact (h.calls w call' scan hcall').mono hlog
    · exact InputOk.mono hservices hlog
    · exact hinput.mono hlog
  · rcases step_commits hstep with ⟨hsame, -⟩ | ⟨call, l, args, hcommits, -, hnew, -⟩
    · exact h.commits pre e (hsame ▸ hpre)
    · rw [hnew] at hpre
      rcases List.prefix_concat_iff.mp hpre with heq | hpre
      · obtain ⟨rfl, hlast⟩ := List.append_inj' heq rfl
        obtain rfl := List.singleton_inj.mp hlast
        obtain ⟨w, delivery, -, ⟨scan, hworker⟩, -⟩ := hcommits.action
        exact h.calls w call scan hworker
      · exact h.commits pre e hpre

/-- The inputs of every run whose inputs come from the services. -/
lemma inputsInv_of_run (hservices : StepSystem.Along (step env orderId) FromServices {} actions)
    (hrun : runs env orderId actions = some s) : InputsInv env orderId s := by
  refine StepSystem.run_invariant (fun _ _ _ hinv hok hstep => InputsInv.step hinv hok hstep) ?_
    hservices hrun
  refine ⟨.init, by rintro _ _ _ ⟨⟩, fun pre e hpre => ?_⟩
  simpa using List.prefix_nil.mp hpre

end Runs

/-- The reply is an input of the order, which moves the order on if it still waits for the reply. -/
def Answers (env : CheckoutEnv) (orderId : String) (s : CheckoutState) (subject : ResultSubject)
    (reply : Reply) : Prop :=
  reply.data.aggregateId = orderId ∧ reply.subject.stage = subject.awaits ∧
  ∀ saga envelope now, s.keys.view.saga = some saga → some saga.stage = subject.awaits →
    SameMessage reply.data envelope →
    (OrderInput.event reply.subject envelope).addressed orderId ∧
    (OrderInput.event reply.subject envelope).accepted orderId = true ∧
    ∃ args saga', prepareCommit env orderId (.event reply.subject envelope) now s.keys.view =
        .ok args ∧ args.saga = some saga' ∧ Progress reply.subject saga saga'

/-- The handler of a command accepts it, and its reply answers it. -/
def Understood (env : CheckoutEnv) (orderId : String) (s : CheckoutState) (result : ResultMessage)
    (envelope : MessageEnvelope) : Prop :=
  match result.subject with
  | .cartClear => ∃ commandId userId version reason order,
    envelope.data = .cartClear commandId userId version reason order ∧
    CartStore.validateEnvelope commandId userId (some version) "boutique.cart.Clear.v1" envelope =
      .ok ()
  | .authorize | .capture | .releaseAuthorization => ∀ payment : PaymentEnv, ∃ reply,
    processCommand payment result.subject envelope = .ok reply ∧
    Answers env orderId s result.subject reply
  | .calculateOrderQuote | .createShipment | .cancelShipment => ∀ shipping : ShippingEnv, ∃ reply,
    buildShippingOutcome shipping result.subject envelope = .ok reply ∧
    Answers env orderId s result.subject reply
  | _ => True

section Main

variable {s : CheckoutState} {actions : List Action}

/-- A reply that the order waits for answers its command. -/
lemma ContractInv.answers (h : ContractInv orderId s.log s.keys.view)
    (hconsistent : s.keys.view.Consistent orderId) (hid : isBlank orderId = false)
    {subject : ResultSubject} {reply : Reply} (hreply : ReplyOk orderId subject.awaits reply) :
    Answers env orderId s subject reply := by
  refine ⟨hreply.aggregateId, hreply.stage, fun saga envelope now hsaga hstage hsame => ?_⟩
  have hcomplete := hsame.envelopeOk hreply.envelope
  have horder := hconsistent.order_id saga hsaga
  have hterminal : saga.stage.terminal = false := by
    cases hsubject : subject <;> simp_all [ResultSubject.awaits, Stage.terminal]
  have hopen := h.saga saga hsaga hterminal
  obtain ⟨time, htime, hzero, -⟩ := id hcomplete.occurredAt
  have hmessage := hcomplete.messageId
  refine ⟨?_, ?_, prepareCommit_moves hsaga (horder ▸ hid) hopen hterminal hcomplete
    (hreply.stage.trans hstage.symm) (horder ▸ hreply.fields) ?_⟩
  · obtain ⟨_, _, rfl⟩ := hsame
    exact hreply.aggregateId
  · simp [OrderInput.accepted, OrderInput.messageId, OrderInput.envelope, hid, hmessage, htime, hzero]
  · obtain ⟨_, _, rfl⟩ := hsame
    rfl

/-- Every command that checkout journals, in every run whose events are replies of the services, is
accepted by its handler, and the reply moves the order on if it still waits for it. -/
theorem saga_commands_understood (hstable : ∀ parts, env.stableID parts ≠ "")
    (hservices : StepSystem.Along (step env orderId) FromServices {} actions)
    (hrun : runs env orderId actions = some s) {result : ResultMessage}
    (hresult : result ∈ journalledResults s.log) {envelope : MessageEnvelope}
    (hsame : SameMessage result.data envelope) : Understood env orderId s result envelope := by
  have hinputs := inputsInv_of_run hservices hrun
  have hcontract := hinputs.history.history.contract hstable hinputs.commits
  have hconsistent := hinputs.history.history.consistent
  have hlog : s.log ≠ [] := by
    rintro hnil
    rw [hnil] at hresult
    cases hresult
  have hid := hinputs.history.history.orderId_not_blank hlog
  unfold Understood
  cases hsubject : result.subject with
  | cartClear =>
    exact (hcontract.commands result hresult (by rw [hsubject]; rfl)).cart_accepts hsubject hsame
  | authorize | capture | releaseAuthorization =>
    intro payment
    have hok := hcontract.commands result hresult (by rw [hsubject]; rfl)
    obtain ⟨reply, haccepted, hreply⟩ := hok.payment_accepts payment (ne_empty_of_isBlank hid)
      (by rw [hsubject]; rfl) hsame
    rw [hsubject] at haccepted hreply
    exact ⟨reply, haccepted, hcontract.answers hconsistent hid hreply⟩
  | calculateOrderQuote | createShipment | cancelShipment =>
    intro shipping
    have hok := hcontract.commands result hresult (by rw [hsubject]; rfl)
    obtain ⟨reply, haccepted, hreply⟩ := hok.shipping_accepts shipping hid (by rw [hsubject]; rfl)
      hsame
    rw [hsubject] at haccepted hreply
    exact ⟨reply, haccepted, hcontract.answers hconsistent hid hreply⟩
  | _ => trivial

end Main

end Invariant

/-! ## A sample order -/

namespace Sample

/-- The configuration of the sample, with IDs that are not empty. -/
def contractEnv : CheckoutEnv :=
  { Sample.env with stableID := fun parts => "id-" ++ "/".intercalate parts }

/-- A shipping service. -/
def shippingEnv : ShippingEnv where
  hash := fun _ _ _ => 171
  rejectsShipment := fun _ => false
  trackingID := fun _ => "tracking-1"
  resultHash := fun messageId slot => messageId ++ ":" ++ slot

/-- Two is a quantity. -/
lemma two_lower : -2 ^ 31 ≤ (2 : ℤ) := by decide

lemma two_upper : (2 : ℤ) < 2 ^ 31 := by decide

/-- The command that put the products of the order into the cart. -/
def addItem : CartStore.Call where
  command := .addItem
    { commandId := "add", userId := "user-1", productId := "product-1", quantity := 2
      lower := two_lower, upper := two_upper }
  envelope :=
    { messageId := "add", messageType := "boutique.cart.AddItem.v1", occurredAt := some time
      producer := "frontend", aggregateType := "cart", aggregateId := "user-1"
      correlationId := "add", data := .empty }

/-- The reply of the shipping service to the command that the submitted order journals. -/
def quoteReply : Option Reply :=
  (runs contractEnv Sample.orderId (handle 0 submit)).bind fun s =>
    ((journalledResults s.log).find? fun result => result.subject = .calculateOrderQuote).bind
      fun result => (buildShippingOutcome shippingEnv result.subject result.data).toOption

/-- The order is submitted, and the reply to its command delivered. -/
def quotedRun (reply : Reply) : List Action :=
  handle 0 submit ++ handle 0 (.event reply.subject reply.data)

/-- The cart of the sample is served by the cart service. -/
lemma submit_inputOk (log : List Commit) : InputOk log submit := by
  intro userId cart hcart
  have huser : userId = "user-1" := by
    by_contra hne
    simp [projections, hne] at hcart
  subst huser
  obtain rfl := Option.some.inj hcart
  exact ⟨addItem, { userId := "user-1" }, 0, _, rfl, by decide +kernel, rfl, rfl⟩

/-- The run takes its inputs from the services. -/
lemma quotedRun_fromServices {reply : Reply} (hreply : quoteReply = some reply) :
    StepSystem.Along (step contractEnv Sample.orderId) FromServices {} (quotedRun reply) := by
  refine StepSystem.Along.append (StepSystem.Along.of_forall ?_ _) fun t ht => ?_
  · intro a ha s
    simp only [handle, List.mem_cons, List.not_mem_nil, or_false] at ha
    rcases ha with rfl | rfl | rfl
    · exact submit_inputOk s.log
    · trivial
    · trivial
  · have hrun : runs contractEnv Sample.orderId (handle 0 submit) = some t := ht
    simp only [quoteReply, hrun, Option.bind_some] at hreply
    obtain ⟨result, hfind, hreply⟩ := Option.bind_eq_some_iff.mp hreply
    have hok : buildShippingOutcome shippingEnv result.subject result.data = .ok reply := by
      cases hbuild : buildShippingOutcome shippingEnv result.subject result.data with
      | error text => simp [hbuild, Except.toOption] at hreply
      | ok built =>
        simp only [hbuild, Except.toOption, Option.some.injEq] at hreply
        rw [hreply]
    refine ⟨⟨result, List.mem_of_find?_eq_some hfind, reply, ?_, rfl, ?_⟩, ?_⟩
    · exact .shipping shippingEnv result.data ⟨_, _, rfl⟩ hok
    · exact ⟨_, _, rfl⟩
    · cases step contractEnv Sample.orderId t _ with
      | none => trivial
      | some u =>
        refine StepSystem.Along.of_forall ?_ u
        intro a ha s
        simp only [List.mem_cons, List.not_mem_nil, or_false] at ha
        rcases ha with rfl | rfl <;> trivial

end Sample

/-- The sample order journals the command to authorize the payment after the reply of the shipping
service, and each of its commands is understood. -/
theorem quoted_order_understood :
    ∃ reply s, Sample.quoteReply = some reply ∧
      runs Sample.contractEnv Sample.orderId (Sample.quotedRun reply) = some s ∧
      subjects (journalledResults s.log) =
        [.orderSubmitted, .calculateOrderQuote, .authorize] ∧
      ∀ result ∈ journalledResults s.log,
        Understood Sample.contractEnv Sample.orderId s result result.data := by
  have hrun : (Sample.quoteReply.bind fun reply =>
      (runs Sample.contractEnv Sample.orderId (Sample.quotedRun reply)).map fun s =>
        subjects (journalledResults s.log)) =
      some [.orderSubmitted, .calculateOrderQuote, .authorize] := by
    decide +kernel
  obtain ⟨reply, hreply, hrun⟩ := Option.bind_eq_some_iff.mp hrun
  obtain ⟨s, hs, hsubjects⟩ := Option.map_eq_some_iff.mp hrun
  have hstable : ∀ parts, Sample.contractEnv.stableID parts ≠ "" := by
    intro parts hempty
    simpa [Sample.contractEnv] using congrArg String.length hempty
  refine ⟨reply, s, hreply, hs, hsubjects, fun result hresult => ?_⟩
  exact saga_commands_understood hstable (Sample.quotedRun_fromServices hreply) hs hresult
    ⟨_, _, rfl⟩

end Boutique
