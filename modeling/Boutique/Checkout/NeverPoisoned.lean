import Boutique.Checkout.ContractRuns
import Boutique.Checkout.Projection

/-!
# Accepted orders are never poisoned

A transition that returns an error is redelivered, and would block its order for ever.  In every run
whose submit commands have a user and a projected cart, an order that is stored takes every event with
the payload of its subject, and every deadline: each result that a transition queues passes the checks
of `NewResultEnvelope`, in a slot of its own.
-/

namespace Boutique

variable {env : CheckoutEnv} {orderId : String}

/-! ## Inputs -/

/-- The payload has the type that goes with the subject; its fields are arbitrary. -/
def SagaSubject.Carries (data : Payload) : SagaSubject → Prop
  | .orderQuoteCalculated => ∃ orderId costUsd, data = .orderQuoteCalculated orderId costUsd
  | .orderQuoteFailed => ∃ orderId failure, data = .orderQuoteFailed orderId failure
  | .paymentAuthorized => ∃ orderId authorizationId, data = .paymentAuthorized orderId authorizationId
  | .paymentAuthorizationDeclined =>
    ∃ orderId category, data = .paymentAuthorizationDeclined orderId category
  | .shipmentCreated =>
    ∃ orderId shipmentId trackingId, data = .shipmentCreated orderId shipmentId trackingId
  | .shipmentCreationFailed => ∃ orderId failure, data = .shipmentCreationFailed orderId failure
  | .paymentCaptured => ∃ orderId transactionId, data = .paymentCaptured orderId transactionId
  | .paymentCaptureFailed =>
    ∃ orderId authorizationId failure, data = .paymentCaptureFailed orderId authorizationId failure
  | .authorizationReleased =>
    ∃ orderId authorizationId, data = .authorizationReleased orderId authorizationId
  | .shipmentCancelled => ∃ orderId shipmentId, data = .shipmentCancelled orderId shipmentId
  | .authorizationReleaseFailed => ∃ orderId authorizationId failure,
      data = .authorizationReleaseFailed orderId authorizationId failure
  | .shipmentCancellationFailed => ∃ orderId shipmentId failure,
      data = .shipmentCancellationFailed orderId shipmentId failure
  | .other _ => True

/-- A cart that `applyProjectionScript` has stored. -/
def ProjectedCart (env : CheckoutEnv) (cart : CartSnapshot) : Prop :=
  ∃ (writes : List ProjectionWrite) (base : String),
    ((writes.foldl (ProjectionKeys.apply env) {}).carts base).value = some cart

/-- An input from the services: a submit command of a user with a projected cart, an event with the
payload of its subject, or a deadline. -/
def WellTyped (env : CheckoutEnv) : OrderInput → Prop
  | .command envelope payload projections =>
    EnvelopeOk envelope ∧ isBlank payload.userId = false ∧
      ∀ cart, projections.carts payload.userId = some cart → ProjectedCart env cart
  | .event subject envelope => EnvelopeOk envelope ∧ subject.Carries envelope.data
  | .deadline .. => True

/-- The clock of a worker shows a time after the year 1, from which a step ends before the year
10,000. -/
structure ClockOk (env : CheckoutEnv) (now : Time) : Prop where
  started : now ≠ 0
  after : 0 ≤ now + env.stepTimeout.nanos
  before : now + env.stepTimeout.nanos < timestampEnd

/-- The inputs that a step delivers come from the services, and the clock of its worker works. -/
def ServedAction (env : CheckoutEnv) : Action → Prop
  | .deliver _ input now => WellTyped env input ∧ ClockOk env now
  | .process _ now => ClockOk env now
  | _ => True

/-- The script stores positive versions only. -/
lemma ProjectedCart.version {cart : CartSnapshot} (h : ProjectedCart env cart) :
    cart.cartVersion ≠ 0 := by
  obtain ⟨writes, base, hvalue⟩ := h
  induction writes using List.reverseRecOn with
  | nil => cases hvalue
  | append_singleton writes write ih =>
    rw [List.foldl_append, List.foldl_cons, List.foldl_nil] at hvalue
    cases write with
    | product | catalog | rates => exact ih hvalue
    | cart written =>
      by_cases hbase : base = env.digest written.userId
      · subst hbase
        simp only [ProjectionKeys.apply, Function.update_self, applyProjectionScript] at hvalue
        split_ifs at hvalue with hle
        · exact ih hvalue
        · cases hvalue
          rintro hzero
          rw [hzero, luaNumber_of_lt (by decide)] at hle
          exact hle (Nat.zero_le _)
      · simp only [ProjectionKeys.apply, ne_eq, hbase, not_false_eq_true,
          Function.update_of_ne] at hvalue
        exact ih hvalue

/-! ## Open orders -/

/-- What an open order has for the results of its next transitions. -/
structure SoundSaga (saga : OrderSaga) : Prop where
  user : isBlank saga.userId = false
  cart : saga.cartVersion ≠ 0
  snapshot : saga.snapshot.isSome = true
  deadline : validTimestamp saga.deadline = true

/-- The deadline of a step can be told in an envelope. -/
lemma ClockOk.deadlineAfter {input : OrderInput} {now : Time} {view : OrderView}
    (h : ClockOk env now) :
    validTimestamp ((transitionWorkspace input now view).deadlineAfter env.stepTimeout) = true := by
  have hstart : (transitionWorkspace input now view).deadlineStart = now := rfl
  simp only [PersistedState.deadlineAfter, hstart, h.started, if_false, validTimestamp,
    Bool.and_eq_true, decide_eq_true_eq]
  exact ⟨h.after, h.before⟩

/-- An order that stays open stays sound. -/
lemma SagaMove.soundSaga {input : OrderInput} {ws : PersistedState} {after : Option OrderSaga}
    {results : List ResultMessage} (h : SagaMove env input ws after results)
    (hsound : ∀ s, ws.orders = some s → s.stage.terminal = false → SoundSaga s)
    (hcommand : ∀ envelope payload projections cart, input = .command envelope payload projections →
      ws.orders = none → ws.carts payload.userId = some cart →
      isBlank payload.userId = false ∧ ProjectedCart env cart)
    (hdeadline : validTimestamp (ws.deadlineAfter env.stepTimeout) = true)
    {s' : OrderSaga} (hafter : after = some s') (hterminal : s'.stage.terminal = false) :
    SoundSaga s' := by
  cases h with
  | absent => cases hafter
  | idle horder =>
    cases hafter
    exact hsound _ horder hterminal
  | rejected | cancelled | completed | compensated | reviewed | timedOut =>
    cases hafter
    cases hterminal
  | @accepted envelope payload projections cart snapshot hi horder hvalid hc =>
    cases hafter
    obtain ⟨huser, hcart⟩ := hcommand envelope payload projections cart hi horder hc
    have hversion := hcart.version
    rw [hc] at hvalid
    rw [expectedCartVersion_of_valid hvalid] at hversion
    exact ⟨huser, hversion, rfl, hdeadline⟩
  | @quoted s _ _ _ _ _ _ horder _ hstage | @shipped s _ _ _ _ _ _ horder _ hstage =>
    cases hafter
    have hs := hsound s horder (by rw [hstage]; rfl)
    exact ⟨hs.user, hs.cart, rfl, hdeadline⟩
  | @authorized s _ _ _ _ _ horder _ hstage =>
    cases hafter
    have hs := hsound s horder (by rw [hstage]; rfl)
    exact ⟨hs.user, hs.cart, hs.snapshot, hdeadline⟩
  | @compensating s _ _ _ withShipment _ horder hstage hs' =>
    cases hafter
    have hs := hsound s horder (by rw [hstage]; cases withShipment <;> rfl)
    subst hs'
    exact ⟨hs.user, hs.cart, hs.snapshot, hdeadline⟩
  | @acknowledged s subject _ _ _ horder hstage =>
    cases hafter
    have hs := hsound s horder (by rw [hstage]; rfl)
    cases subject <;> exact ⟨hs.user, hs.cart, hs.snapshot, hs.deadline⟩

/-- The results of a transition are in slots of their own. -/
lemma SagaMove.slots_nodup {input : OrderInput} {ws : PersistedState} {after : Option OrderSaga}
    {results : List ResultMessage} (h : SagaMove env input ws after results) :
    (results.map ResultMessage.slot).Nodup := by
  cases h with
  | absent | idle | acknowledged => exact List.nodup_nil
  | rejected | quoted | cancelled | authorized | shipped | compensated | reviewed =>
    exact List.nodup_singleton _
  | accepted =>
    exact (by decide : [resultSlotForSubject .orderSubmitted,
      resultSlotForSubject .calculateOrderQuote].Nodup)
  | completed =>
    exact (by decide : [resultSlotForSubject .orderCompleted, resultSlotForSubject .cartClear].Nodup)
  | compensating =>
    simp only [compensationResults]
    split_ifs
    · exact (by decide : [resultSlotForSubject .releaseAuthorization,
        resultSlotForSubject .cancelShipment, resultSlotForSubject .orderStageChanged].Nodup)
    · exact (by decide : [resultSlotForSubject .releaseAuthorization,
        resultSlotForSubject .orderStageChanged].Nodup)
  | timedOut =>
    exact (by decide : [resultSlotForSubject .orderStepTimedOut,
      resultSlotForSubject .orderManualReview].Nodup)

/-! ## Transitions -/

section Transitions

variable {ws : PersistedState} {envelope : MessageEnvelope} {saga : OrderSaga}
  {subject : SagaSubject}

/-- A transition that moves an order on returns no error. -/
lemma Moves.ok {result : Except CheckoutError PersistedState} (h : Moves subject saga result) :
    ∃ ws', result = .ok ws' := by
  obtain ⟨ws', -, hok, -⟩ := h
  exact ⟨ws', hok⟩

/-- The switch of `applySagaEvent` returns no error on a sound order, in whatever stage it is. -/
lemma Ready.sagaEventSwitch_ok (h : Ready ws envelope) (hid : isBlank saga.orderId = false)
    (hsound : SoundSaga saga) (hcarries : subject.Carries envelope.data) :
    ∃ ws', Boutique.sagaEventSwitch env ws saga subject envelope = .ok ws' := by
  obtain ⟨snapshot, hsnapshot⟩ := Option.isSome_iff_exists.mp hsound.snapshot
  unfold Boutique.sagaEventSwitch
  cases subject with
  | orderQuoteCalculated =>
    obtain ⟨_, _, hdata⟩ := hcarries
    simp only [hdata]
    split_ifs
    · exact ⟨ws, rfl⟩
    · simp only [applyQuote, hsnapshot]
      split
      · exact (h.cancel hid .orderQuoteCalculated _).ok
      · exact ⟨_, (h.setOrder _).queueEnvelope (by decide) hid (Nat.succ_ne_zero _)⟩
  | orderQuoteFailed =>
    obtain ⟨_, _, hdata⟩ := hcarries
    simp only [hdata]
    split_ifs
    · exact ⟨ws, rfl⟩
    · exact (h.cancel hid .orderQuoteFailed _).ok
  | paymentAuthorized =>
    obtain ⟨_, _, hdata⟩ := hcarries
    simp only [hdata]
    split_ifs
    · exact ⟨ws, rfl⟩
    · simp only [applyAuthorized, hsnapshot]
      exact ⟨_, (h.setOrder _).queueEnvelope (by decide) hid (Nat.succ_ne_zero _)⟩
  | paymentAuthorizationDeclined =>
    obtain ⟨_, _, hdata⟩ := hcarries
    simp only [hdata]
    split_ifs
    · exact ⟨ws, rfl⟩
    · exact (h.cancel hid .paymentAuthorizationDeclined _).ok
  | shipmentCreated =>
    obtain ⟨_, _, _, hdata⟩ := hcarries
    simp only [hdata]
    split_ifs
    · exact ⟨ws, rfl⟩
    · simp only [applyShipmentCreated, hsnapshot]
      exact ⟨_, (h.setOrder _).queueEnvelope (by decide) hid (Nat.succ_ne_zero _)⟩
  | shipmentCreationFailed =>
    obtain ⟨_, _, hdata⟩ := hcarries
    simp only [hdata]
    split_ifs
    · exact ⟨ws, rfl⟩
    · exact (h.startCompensation hid .shipmentCreationFailed _ _).ok
  | paymentCaptured =>
    obtain ⟨_, _, hdata⟩ := hcarries
    simp only [hdata]
    split_ifs
    · exact ⟨ws, rfl⟩
    · simp only [applyCaptured]
      rw [(h.setOrder _).queueEnvelope (by decide) hid (Nat.succ_ne_zero _)]
      -- the command to clear the cart goes to the user of the order, with the version of the cart
      exact ⟨_, ((h.setOrder _).addResult _).queueEnvelope (by decide) hsound.user hsound.cart⟩
  | paymentCaptureFailed =>
    obtain ⟨_, _, _, hdata⟩ := hcarries
    simp only [hdata]
    split_ifs
    · exact ⟨ws, rfl⟩
    · exact (h.startCompensation hid .paymentCaptureFailed _ _).ok
  | authorizationReleased =>
    obtain ⟨_, _, hdata⟩ := hcarries
    simp only [hdata]
    split_ifs
    · exact ⟨ws, rfl⟩
    · have hmoves : Moves .authorizationReleased saga
          (Boutique.finishCompensation env (ws.setOrder { saga with authorizationReleased := true })
            { saga with authorizationReleased := true }) :=
        h.finishCompensation hid rfl rfl (.inr (.inl ⟨rfl, rfl⟩))
      exact hmoves.ok
  | shipmentCancelled =>
    obtain ⟨_, _, hdata⟩ := hcarries
    simp only [hdata]
    split_ifs
    · exact ⟨ws, rfl⟩
    · have hmoves : Moves .shipmentCancelled saga
          (Boutique.finishCompensation env (ws.setOrder { saga with shipmentCancelled := true })
            { saga with shipmentCancelled := true }) :=
        h.finishCompensation hid rfl rfl (.inr (.inr ⟨rfl, rfl⟩))
      exact hmoves.ok
  | authorizationReleaseFailed | shipmentCancellationFailed =>
    simp only
    split_ifs
    · exact ⟨ws, rfl⟩
    · exact (h.manualReview hid (.other "") _ _).ok
  | other text => exact ⟨ws, rfl⟩

/-- `applySagaEvent` returns no error on a stored order. -/
lemma Ready.applySagaEvent_ok (h : Ready ws envelope) (horder : ws.orders = some saga)
    (hid : isBlank saga.orderId = false)
    (hsound : saga.stage.terminal = false → SoundSaga saga)
    (hcarries : subject.Carries envelope.data) :
    ∃ ws', applySagaEvent env subject envelope ws = .ok ws' := by
  unfold applySagaEvent
  split_ifs
  · exact ⟨ws, rfl⟩
  · have hset : (ws.setInbox envelope.messageId ws.transitionTime).orders = some saga := horder
    have hready : Ready (ws.setInbox envelope.messageId ws.transitionTime) envelope :=
      ⟨h.input, h.complete, h.time⟩
    simp only [hset]
    split_ifs with hterminal
    · exact ⟨_, rfl⟩
    · exact hready.sagaEventSwitch_ok hid (hsound (Bool.not_eq_true _ ▸ hterminal)) hcarries

/-- The deadline transition returns no error on a stored order: where it fires, its time is the
deadline of the order. -/
lemma deadlineUpdate_ok {version : ℕ} {due : Time} {inputId : String}
    (hinput : ws.input = some (deadlineEnvelope orderId version due inputId))
    (htime : ws.transitionTime = due) (horder : ws.orders = some saga)
    (hsaga : saga.orderId = orderId) (hid : isBlank orderId = false)
    (hmessage : isBlank inputId = false) (hdue : due ≠ 0)
    (hvalid : saga.deadline = due → validTimestamp due = true) :
    ∃ ws', deadlineUpdate env orderId version due inputId ws = .ok ws' := by
  unfold deadlineUpdate
  simp only [horder]
  split_ifs with hmiss
  · exact ⟨ws, rfl⟩
  · simp only [ne_eq, Bool.or_eq_true, decide_eq_true_eq, not_or, not_not] at hmiss
    have hready : Ready ws (deadlineEnvelope orderId version due inputId) := by
      refine ⟨hinput, ⟨hmessage, hid, due, rfl, hdue, hvalid hmiss.2⟩, ?_⟩
      rw [htime]
      rfl
    rw [(hready.setOrder _).queueEnvelope (by decide) hid (Nat.succ_ne_zero _)]
    exact (((hready.setOrder _).addResult _).manualReview (hsaga.symm ▸ hid) (.other "") _ _).ok

end Transitions

/-! ## Histories -/

section Histories

variable {log : List Commit} {v : OrderView} {e : Commit}

/-- Every commit of the log handled an input from the services, under a clock that works. -/
def Served (env : CheckoutEnv) (log : List Commit) : Prop :=
  ∀ e ∈ log, WellTyped env e.input ∧ ClockOk env e.now

/-- A commit keeps an open order sound. -/
lemma HistoryStep.soundSaga (h : HistoryStep env orderId log v e) (hinput : WellTyped env e.input)
    (hclock : ClockOk env e.now)
    (hloaded : ∀ s, e.loaded.saga = some s → s.stage.terminal = false → SoundSaga s)
    {s : OrderSaga} (hs : e.after.saga = some s) (hterminal : s.stage.terminal = false) :
    SoundSaga s := by
  refine h.move.soundSaga (by simpa using hloaded) ?_ hclock.deadlineAfter hs hterminal
  intro envelope payload projections cart hi hnone hcart
  rw [hi] at hinput
  refine ⟨hinput.2.1, hinput.2.2 cart ?_⟩
  -- a workspace without a saga has the carts of the projections
  have hview : e.loaded.saga = none := by simpa using hnone
  have hhydrated : hydratedOrder e.loaded = none := by
    simp [hydratedOrder, hview, h.loaded_consistent.accepted_none hview]
  rw [← hcart, hi]
  simp [transitionWorkspace, loadOrderWorkspace, hhydrated, PersistedState.withAccepted,
    PersistedState.withProjections, OrderInput.base]

/-- An open order is sound in every history whose inputs come from the services. -/
theorem OrderHistory.soundSaga (h : OrderHistory env orderId log v) :
    Served env log → ∀ s, v.saga = some s → s.stage.terminal = false → SoundSaga s := by
  refine OrderHistory.induction
    (P := fun log v => Served env log → ∀ s, v.saga = some s → s.stage.terminal = false →
      SoundSaga s) ?_ ?_ h
  · intro _ _ hsaga
    cases hsaga
  · intro log v e pre hstep _ hpre hloaded hserved s hs hterminal
    obtain ⟨hinput, hclock⟩ := hserved e (List.mem_append_right _ (List.mem_singleton_self e))
    refine hstep.soundSaga hinput hclock (hloaded fun e' he' => ?_) hs hterminal
    exact hserved e' (List.mem_append_left _ (hpre.subset he'))

end Histories

/-! ## Runs -/

/-- The update of an input returns no error on a stored order. -/
lemma OrderInput.update_ok {view : OrderView} {saga : OrderSaga} {input : OrderInput}
    (hsaga : view.saga = some saga) (hconsistent : view.Consistent orderId)
    (hsound : saga.stage.terminal = false → SoundSaga saga) (hinput : WellTyped env input)
    (haddressed : input.addressed orderId) (haccepted : input.accepted orderId = true) (now : Time) :
    ∃ ws', input.update env (transitionWorkspace input now view) = .ok ws' := by
  have hid : saga.orderId = orderId := hconsistent.order_id saga hsaga
  have hloaded : (transitionWorkspace input now view).orders = some saga := by
    rw [transitionWorkspace_orders, hsaga]
  have hchecks := haccepted
  simp only [OrderInput.accepted, Bool.and_eq_true, Bool.not_eq_true'] at hchecks
  obtain ⟨⟨horder, hmessage⟩, -⟩ := hchecks
  cases input with
  | command envelope payload projections =>
    -- a submit command of a stored order is only marked as received
    refine ⟨(transitionWorkspace (.command envelope payload projections) now view).setInbox
      envelope.messageId
      (transitionWorkspace (.command envelope payload projections) now view).transitionTime, ?_⟩
    simp only [OrderInput.update, orderCommandUpdate, validateOrderProjection, applyOrderCommand,
      transitionWorkspace_inbox, Option.isSome_none, Bool.false_eq_true, if_false, hloaded,
      Option.isSome_some, if_true]
    rfl
  | event subject envelope =>
    obtain ⟨hcomplete, hcarries⟩ := hinput
    obtain ⟨time, htime, -⟩ := id hcomplete.occurredAt
    have hready : Ready (transitionWorkspace (.event subject envelope) now view) envelope := by
      refine ⟨rfl, hcomplete, ?_⟩
      rw [transitionWorkspace_transitionTime, OrderInput.time, OrderInput.envelope, htime]
      rfl
    exact hready.applySagaEvent_ok hloaded (hid ▸ horder) hsound hcarries
  | deadline id version due inputId =>
    obtain rfl : id = orderId := haddressed
    have hdue := due_ne_zero_of_accepted haccepted
    refine deadlineUpdate_ok rfl transitionWorkspace_transitionTime hloaded hid horder hmessage hdue ?_
    intro hdeadline
    cases hterminal : saga.stage.terminal with
    | false => exact hdeadline ▸ (hsound hterminal).deadline
    | true =>
      -- a closed order has no deadline
      exact absurd (hdeadline.symm.trans (hconsistent.closed saga hsaga hterminal)) hdue

/-- The inputs of the calls in progress and of the commits come from the services. -/
structure ServedInv (env : CheckoutEnv) (s : CheckoutState) : Prop where
  calls : ∀ w call scan, s.workers w = .applying call scan →
    WellTyped env call.input ∧ ClockOk env call.now
  commits : Served env s.log

/-- A step keeps the inputs. -/
lemma ServedInv.step {s s' : CheckoutState} {a : Action} (h : ServedInv env s)
    (hserved : ServedAction env a) (hstep : Boutique.step env orderId s a = some s') :
    ServedInv env s' := by
  refine ⟨fun w call scan hw => ?_, ?_⟩
  · rcases step_call hstep hw with ⟨call', hcall', hinput, hnow⟩ | ⟨-, -, rfl | rfl⟩
    · rw [hinput, hnow]
      exact h.calls w call' scan hcall'
    · exact hserved
    · obtain ⟨record, hrecord⟩ := step_process_input hstep hw
      refine ⟨?_, hserved⟩
      rw [hrecord]
      trivial
  · rcases step_commits hstep with ⟨hsame, -⟩ | ⟨call, l, args, hcommits, -, hnew, -⟩
    · rw [hsame]
      exact h.commits
    · obtain ⟨w, delivery, -, ⟨scan, hworker⟩, -⟩ := hcommits.action
      intro e he
      rw [hnew, List.mem_append, List.mem_singleton] at he
      rcases he with hold | rfl
      · exact h.commits e hold
      · exact h.calls w call scan hworker

/-- The inputs of every run whose inputs come from the services. -/
lemma served_of_run {s : CheckoutState} {actions : List Action}
    (hserved : ∀ a ∈ actions, ServedAction env a) (hrun : runs env orderId actions = some s) :
    Served env s.log := by
  have hinv : ServedInv env s := by
    refine StepSystem.run_invariant (fun _ _ _ hinv hok hstep => ServedInv.step hinv hok hstep) ?_
      (StepSystem.Along.of_forall (fun a ha _ => hserved a ha) _) hrun
    exact ⟨by rintro _ _ _ ⟨⟩, by rintro _ ⟨⟩⟩
  exact hinv.commits

/-- In every run whose inputs come from the services, a stored order takes every input that
`ApplyOrder` lets pass, and each result of the transition is in a slot of its own. -/
theorem order_never_poisoned {s : CheckoutState} {actions : List Action} {saga : OrderSaga}
    {input : OrderInput} (hserved : ∀ a ∈ actions, ServedAction env a)
    (hrun : runs env orderId actions = some s) (hsaga : s.keys.view.saga = some saga)
    (hinput : WellTyped env input) (haddressed : input.addressed orderId)
    (haccepted : input.accepted orderId = true) (now : Time) :
    ∃ args, prepareCommit env orderId input now s.keys.view = .ok args ∧
      (args.journal.map ResultMessage.slot).Nodup := by
  have hhistory := (run_history hrun).history
  have hsound := hhistory.soundSaga (served_of_run hserved hrun) saga hsaga
  obtain ⟨ws', hupdate⟩ :=
    OrderInput.update_ok hsaga hhistory.consistent hsound hinput haddressed haccepted now
  have hprepared : prepareCommit env orderId input now s.keys.view =
      .ok (commitArgs env orderId input s.keys.view ws') := by
    change input.update env _ >>= _ = _
    rw [hupdate]
    rfl
  exact ⟨_, hprepared, (prepareCommit_prepared hprepared).move.slots_nodup⟩

namespace Sample

/-- An event without a shipping cost. -/
def costless : OrderInput :=
  .event .orderQuoteCalculated (Sample.envelope "quoted" "boutique.shipping.OrderQuoteCalculated.v1"
    (.orderQuoteCalculated "" none))

/-- The cart of the sample has been projected. -/
lemma submit_wellTyped : WellTyped Sample.env submit := by
  refine ⟨⟨by decide, by decide, time, rfl, by decide, by decide⟩, by decide, ?_⟩
  rintro cart hcart
  exact ⟨[.cart cart], Sample.env.digest cart.userId, by
    obtain rfl := Option.some.inj hcart
    decide +kernel⟩

end Sample

open Sample in
/-- The accepted sample order takes a quote without a cost. -/
theorem costless_quote_taken :
    ∃ s saga args, runs Sample.env Sample.orderId (handle 0 submit) = some s ∧
      s.keys.view.saga = some saga ∧ saga.stage = .waitingQuote ∧
      prepareCommit Sample.env Sample.orderId costless time s.keys.view = .ok args ∧
      (args.journal.map ResultMessage.slot).Nodup := by
  have hstage : ((runs Sample.env Sample.orderId (handle 0 submit)).bind fun s =>
      s.keys.view.saga.map OrderSaga.stage) = some .waitingQuote := by
    decide +kernel
  obtain ⟨s, hrun, hstage⟩ := Option.bind_eq_some_iff.mp hstage
  obtain ⟨saga, hsaga, hstage⟩ := Option.map_eq_some_iff.mp hstage
  have hserved : ∀ a ∈ handle 0 submit, ServedAction Sample.env a := by
    simp only [handle, List.mem_cons, List.not_mem_nil, or_false, forall_eq_or_imp, forall_eq]
    exact ⟨⟨submit_wellTyped, by decide, by decide, by decide⟩, trivial, trivial⟩
  have hcostless : WellTyped Sample.env costless :=
    ⟨⟨by decide, by decide, time, rfl, by decide, by decide⟩, "", none, rfl⟩
  obtain ⟨args, hargs⟩ := order_never_poisoned hserved hrun hsaga hcostless rfl (by decide) time
  exact ⟨s, saga, args, hrun, hsaga, hstage, hargs⟩

end Boutique
