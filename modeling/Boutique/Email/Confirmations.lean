import Boutique.Email.Worker
import Boutique.Checkout.Settlement

/-!
# Confirmations of completed orders

The email workers beside an order among its services.  A worker takes the event of a completed order from
the results of checkout, builds the confirmation, publishes it and acknowledges the event
(`_process_message`); `_process_messages` does so with several messages at a time.  Workers fail at any
point, and each may have its provider fail.
-/

namespace Boutique

open Email (EmailEnv Confirmation Confirms buildOutcome)

variable {env : CheckoutEnv} {orderId : String}

/-! ## The event of a completed order -/

section Event

variable {log : List Commit} {v : OrderView} {e : Commit}

/-- The loop over the cart keeps the order of the snapshot. -/
lemma buildOrderSnapshot_orderId {state : PersistedState} {cart : CartSnapshot}
    {command : OrderSubmitCommand} {snapshot : SanitizedOrderSnapshot}
    (h : buildOrderSnapshot env state cart command = .ok snapshot) : snapshot.orderId = command.orderId := by
  have hline : ∀ (line : CartLine) (start next : SanitizedOrderSnapshot),
      addOrderLine env state command start line = .ok next → next.orderId = start.orderId := by
    intro line start next hnext
    unfold addOrderLine at hnext
    split at hnext
    · cases hnext
    split at hnext
    · cases hnext
    · cases hnext
      rfl
  have hlines : ∀ (lines : List CartLine) (start : SanitizedOrderSnapshot),
      lines.foldlM (addOrderLine env state command) start = .ok snapshot →
        snapshot.orderId = start.orderId := by
    intro lines
    induction lines with
    | nil =>
      intro start hstart
      cases hstart
      rfl
    | cons line lines ih =>
      intro start hstart
      rw [List.foldlM_cons] at hstart
      obtain ⟨next, hnext, hstart⟩ := bind_eq_ok.mp hstart
      exact (ih next hstart).trans (hline line start next hnext)
  exact hlines cart.items _ h

/-- The snapshot of a saga is of the order. -/
def OrderSaga.SnapshotOf (orderId : String) (saga : OrderSaga) : Prop :=
  ∀ snapshot, saga.snapshot = some snapshot → snapshot.orderId = orderId

/-- A transition keeps the order of the snapshot. -/
lemma SagaMove.snapshotOf {input : OrderInput} {ws : PersistedState} {after : Option OrderSaga}
    {results : List ResultMessage} {s' : OrderSaga} (h : SagaMove env input ws after results)
    (haddressed : input.addressed orderId) (hid : ∀ s, ws.orders = some s → s.SnapshotOf orderId)
    (hs' : after = some s') : s'.SnapshotOf orderId := by
  cases h with
  | absent => cases hs'
  | rejected =>
    cases hs'
    rintro _ ⟨⟩
  | accepted hinput _ _ _ hsnapshot =>
    subst hinput
    cases hs'
    rintro _ ⟨⟩
    exact (buildOrderSnapshot_orderId hsnapshot).trans haddressed.2
  | quoted _ horder _ _ _ hsnapshot | shipped _ horder _ _ hsnapshot =>
    have hs := hid _ horder _ hsnapshot
    cases hs'
    rintro _ ⟨⟩
    exact hs
  | idle horder | cancelled _ horder | authorized _ horder | completed _ horder | reviewed _ _ horder
  | timedOut _ horder =>
    have hs := hid _ horder
    cases hs'
    exact hs
  | compensating _ horder _ hcompensating =>
    have hs := hid _ horder
    cases hs'
    subst hcompensating
    exact hs
  | @acknowledged _ subject _ _ _ horder | @compensated _ subject _ _ _ horder =>
    have hs := hid _ horder
    cases hs'
    cases subject <;> exact hs

/-- The snapshot of a stored saga is of the order. -/
lemma OrderHistory.snapshotOf (h : OrderHistory env orderId log v) :
    ∀ saga, v.saga = some saga → saga.SnapshotOf orderId := by
  refine OrderHistory.induction (P := fun _ v => ∀ saga, v.saga = some saga → saga.SnapshotOf orderId)
    (by rintro _ ⟨⟩) ?_ h
  intro log v e pre hstep _ _ ih saga hsaga
  exact hstep.move.snapshotOf hstep.valid.addressed (by simpa using ih) hsaga

/-- The event of a completed order has what the email worker needs. -/
lemma HistoryStep.completedEvent (h : HistoryStep env orderId log v e)
    (hcontract : ContractInv orderId (log ++ [e]) e.after)
    (hopen : ∀ s, e.loaded.saga = some s → s.stage.terminal = false → OpenSaga s)
    (hsnapshot : ∀ s, e.loaded.saga = some s → s.SnapshotOf orderId) {result : ResultMessage}
    (hresult : result ∈ e.results) (hsubject : result.subject = .orderCompleted) :
    Email.Complete result.data ∧ result.data.aggregateId = orderId := by
  have hid := ne_empty_of_isBlank h.orderId_not_blank
  have hcommands : ∀ clear ∈ e.results, clear.subject.isCommand = true → CommandOk orderId clear := by
    intro clear hclear
    refine hcontract.commands clear ?_
    rw [journalledResults_snoc]
    exact List.mem_append_right _ hclear
  have hmove := h.move
  generalize e.results = results at hmove hresult hcommands
  generalize e.after.saga = after at hmove
  cases hmove with
  | absent | idle | acknowledged => cases hresult
  | rejected | cancelled | authorized | quoted | shipped | compensated | reviewed =>
    cases List.mem_singleton.mp hresult
    cases hsubject
  | accepted | timedOut =>
    rcases List.mem_pair.mp hresult with rfl | rfl <;> cases hsubject
  | @compensating _ _ _ _ withShipment _ _ _ hs' =>
    subst hs'
    cases withShipment <;>
      simp [compensationResults, OrderSaga.advance] at hresult <;>
      rcases hresult with rfl | rfl | rfl <;> cases hsubject
  | @completed s envelope hinput horder hstage =>
    have horder : e.loaded.saga = some s := by simpa using horder
    -- the command to clear the cart is made of the same input
    have hclear := (hcommands _ (List.mem_cons_of_mem _ (List.mem_singleton_self _)) rfl).envelope
    obtain ⟨time, htime, -, hvalid⟩ := hclear.occurredAt
    have hs := hopen s horder (by rw [hstage]; rfl)
    obtain ⟨snapshot, hsome⟩ := Option.isSome_iff_exists.mp hs.snapshot
    have horderId := h.loaded_consistent.order_id s horder
    rcases List.mem_pair.mp hresult with rfl | rfl
    · refine ⟨⟨ne_empty_of_isBlank (isBlank_resultId _), ne_empty_of_isBlank hclear.correlationId,
        horderId ▸ hid, Nat.succ_ne_zero _, ⟨time, htime, hvalid⟩, snapshot, ?_, ?_⟩, horderId⟩
      · rw [← hsome]
        rfl
      · exact (hsnapshot s horder snapshot hsome).trans horderId.symm
    · cases hsubject

/-- All events of a completed order have what the email worker needs. -/
lemma OrderHistory.completedEvent (hstable : ∀ parts, env.stableID parts ≠ "")
    (h : OrderHistory env orderId log v) : InputsOk log → ∀ result ∈ journalledResults log,
      result.subject = .orderCompleted → Email.Complete result.data ∧ result.data.aggregateId = orderId := by
  refine OrderHistory.induction (P := fun log _ => InputsOk log → ∀ result ∈ journalledResults log,
    result.subject = .orderCompleted → Email.Complete result.data ∧ result.data.aggregateId = orderId)
    (fun _ _ hresult => (List.not_mem_nil hresult).elim) ?_ h
  intro log v e pre hstep ih _ _ hinputs result hresult hsubject
  rw [journalledResults_snoc] at hresult
  rcases List.mem_append.mp hresult with hold | hnew
  · exact ih (fun pre' e' hpre' => hinputs pre' e' (hpre'.trans (List.prefix_append _ _))) result hold
      hsubject
  · obtain ⟨pre', hpre', hload⟩ := hstep.load
    have hbefore : InputsOk pre' := fun p e' hp =>
      hinputs p e' (hp.trans (hpre'.trans (List.prefix_append _ _)))
    exact hstep.completedEvent (hstep.next.contract hstable hinputs)
      (hload.contract hstable hbefore).saga hload.snapshotOf hnew hsubject

/-- Two members of a list that satisfy what one of it satisfies at most are the same. -/
lemma eq_of_countP_le_one {α : Type} {l : List α} {p : α → Bool} (h : l.countP p ≤ 1) {a b : α}
    (ha : a ∈ l) (hb : b ∈ l) (hpa : p a = true) (hpb : p b = true) : a = b := by
  rw [List.countP_eq_length_filter] at h
  have hfa := List.mem_filter.mpr ⟨ha, hpa⟩
  have hfb := List.mem_filter.mpr ⟨hb, hpb⟩
  match hfilter : l.filter p with
  | [] =>
    rw [hfilter] at hfa
    cases hfa
  | [x] =>
    rw [hfilter] at hfa hfb
    rw [List.mem_singleton.mp hfa, List.mem_singleton.mp hfb]
  | x :: y :: rest =>
    rw [hfilter] at h
    simp at h

/-- An order has one event of its completion. -/
lemma OrderHistory.completed_eq (h : OrderHistory env orderId log v) {a b : ResultMessage}
    (ha : a ∈ journalledResults log) (hb : b ∈ journalledResults log)
    (hsubject : a.subject = .orderCompleted) (hsubject' : b.subject = .orderCompleted) : a = b := by
  have hcount := h.flow.count_add_remaining .decision
  unfold Effect.count subjects at hcount
  rw [List.countP_map] at hcount
  refine eq_of_countP_le_one ((Nat.le_add_right _ _).trans hcount) ha hb ?_ ?_
  · simp [hsubject, ResultSubject.effect]
  · simp [hsubject', ResultSubject.effect]

end Event

/-! ## The system -/

/-- An order among its services, with the notifications that the email workers publish. -/
structure NotifiedOrder where
  path : OrderPath := {}
  mail : Relay.State ℕ Confirmation := {}

/-- The steps: one of the order; an email worker receives the event of a completed order, with its own
failure mode; it publishes the outcome or acknowledges the event, or fails. -/
inductive NotifiedAction where
  | path (action : OrderPathAction)
  | receive (w n : ℕ) (failureMode traceparent tracestate : String)
  | mail (action : Relay.Action)

/-- The configuration of an email worker, with the hash functions of the deployment. -/
def CheckoutEnv.email (env : CheckoutEnv) (failureMode : String) : EmailEnv where
  failureMode := failureMode
  resultHash := env.resultHash
  stableID := env.stableID

/-- One step. -/
def NotifiedOrder.step (env : CheckoutEnv) (orderId : String) (s : NotifiedOrder) :
    NotifiedAction → Option NotifiedOrder
  | .path action => (s.path.step env orderId action).map fun path => { s with path := path }
  | .receive w n failureMode traceparent tracestate =>
    if n ∉ s.mail.acked then
      (s.path.results.events[n]?.filter fun event => event.subject = .orderCompleted).bind fun event =>
        (buildOutcome (env.email failureMode) (event.data.traced traceparent tracestate)).toOption.bind
          fun outcome => (s.mail.start w ⟨n, [outcome]⟩).map fun mail => { s with mail := mail }
    else none
  | .mail action => (s.mail.step Confirmation.messageId action).map fun mail => { s with mail := mail }

/-- The outcome is what a worker makes of the event. -/
def Notifies (env : CheckoutEnv) (event : ResultMessage) (outcome : Confirmation) : Prop :=
  event.subject = .orderCompleted ∧ ∃ failureMode traceparent tracestate,
    buildOutcome (env.email failureMode) (event.data.traced traceparent tracestate) = .ok outcome

/-- The events of a job are an outcome of the event that the job has as its source. -/
def NotifiedOrder.MadeOk (env : CheckoutEnv) (s : NotifiedOrder) (work : Relay.Work ℕ Confirmation) : Prop :=
  ∃ event outcome, s.path.results.events[work.source]? = some event ∧ work.events = [outcome] ∧
    Notifies env event outcome

/-- The invariant. -/
structure NotifiedOrder.Inv (env : CheckoutEnv) (orderId : String) (s : NotifiedOrder) : Prop where
  path : s.path.Inv env orderId
  mail : Relay.Inv Confirmation.messageId s.mail
  made : ∀ work ∈ s.mail.started, s.MadeOk env work

/-- The cart of a submit command is served by the cart service. -/
def NotifiedAction.Served : NotifiedAction → Prop
  | .path action => action.Served
  | _ => True

section System

variable {s s' : NotifiedOrder} {action : NotifiedAction}

/-- Results are only added to the stream. -/
lemma OrderPath.step_results {p p' : OrderPath} {a : OrderPathAction}
    (h : p.step env orderId a = some p') : p.results.events <+: p'.results.events := by
  have hrelayed : ∀ {t t' : OrderPath} {b : Relay.Action}, t.relayed b = some t' →
      t.results.events <+: t'.results.events := by
    intro t t' b hb
    obtain ⟨results, hresults, rfl⟩ := Option.map_eq_some_iff.mp hb
    exact (Relay.State.step_grows hresults).events
  cases a with
  | submit =>
    obtain ⟨-, h⟩ := Option.ite_none_right_eq_some.mp h
    obtain rfl := Option.some.inj h
    exact List.prefix_rfl
  | receive =>
    simp only [OrderPath.step] at h
    obtain ⟨-, h⟩ := Option.ite_none_right_eq_some.mp h
    obtain ⟨input, -, h⟩ := Option.bind_eq_some_iff.mp h
    obtain ⟨checkout, -, rfl⟩ := Option.map_eq_some_iff.mp h
    exact List.prefix_rfl
  | checkout =>
    obtain ⟨-, h⟩ := Option.ite_none_right_eq_some.mp h
    obtain ⟨checkout, -, rfl⟩ := Option.map_eq_some_iff.mp h
    exact List.prefix_rfl
  | commit =>
    obtain ⟨checkout, -, h⟩ := Option.bind_eq_some_iff.mp h
    unfold OrderPath.evaluated at h
    split at h
    · obtain ⟨results, hstart, rfl⟩ := Option.map_eq_some_iff.mp h
      exact (Relay.State.start_grows hstart).events
    · split at h
      all_goals
        obtain rfl := Option.some.inj h
        exact List.prefix_rfl
  | publish => exact hrelayed h
  | ack =>
    obtain ⟨-, h⟩ := Option.ite_none_right_eq_some.mp h
    exact hrelayed h
  | announced =>
    obtain ⟨t, ht, h⟩ := Option.bind_eq_some_iff.mp h
    obtain ⟨checkout, -, rfl⟩ := Option.map_eq_some_iff.mp h
    exact (hrelayed ht : p.results.events <+: t.results.events)
  | fail =>
    simp only [OrderPath.step] at h
    obtain ⟨t, ht, h⟩ := Option.bind_eq_some_iff.mp h
    obtain ⟨checkout, -, rfl⟩ := Option.map_eq_some_iff.mp h
    exact (hrelayed ht : p.results.events <+: t.results.events)
  | serve =>
    obtain ⟨-, h⟩ := Option.ite_none_right_eq_some.mp h
    obtain ⟨command, -, h⟩ := Option.bind_eq_some_iff.mp h
    obtain ⟨reply, -, h⟩ := Option.bind_eq_some_iff.mp h
    obtain ⟨replies, -, rfl⟩ := Option.map_eq_some_iff.mp h
    exact List.prefix_rfl
  | reply =>
    obtain ⟨replies, -, rfl⟩ := Option.map_eq_some_iff.mp h
    exact List.prefix_rfl

/-- A job goes on to have what was made of its event. -/
lemma NotifiedOrder.MadeOk.mono {work : Relay.Work ℕ Confirmation} (h : s.MadeOk env work)
    (hgrows : s.path.results.events <+: s'.path.results.events) : s'.MadeOk env work := by
  obtain ⟨event, outcome, hn, hevents, hnotifies⟩ := h
  exact ⟨event, outcome, Publish.getElem?_of_prefix hgrows hn, hevents, hnotifies⟩

/-- Every step keeps the invariant. -/
lemma NotifiedOrder.Inv.step (hdigest : Function.Injective env.digest) (h : s.Inv env orderId)
    (hserved : action.Served) (hstep : s.step env orderId action = some s') : s'.Inv env orderId := by
  cases action with
  | path action =>
    obtain ⟨path, hpath, rfl⟩ := Option.map_eq_some_iff.mp hstep
    exact ⟨h.path.step hdigest hserved hpath, h.mail,
      fun work hwork => (h.made work hwork).mono (OrderPath.step_results hpath)⟩
  | receive w n failureMode traceparent tracestate =>
    obtain ⟨-, hstep⟩ := Option.ite_none_right_eq_some.mp hstep
    obtain ⟨event, hevent, hstep⟩ := Option.bind_eq_some_iff.mp hstep
    obtain ⟨outcome, houtcome, hstep⟩ := Option.bind_eq_some_iff.mp hstep
    obtain ⟨mail, hstart, rfl⟩ := Option.map_eq_some_iff.mp hstep
    obtain ⟨hn, hsubject⟩ := Option.filter_eq_some_iff.mp hevent
    refine ⟨h.path, h.mail.start hstart, fun work hwork => ?_⟩
    obtain ⟨-, rfl⟩ := Relay.State.start_eq_some hstart
    rcases List.mem_append.mp hwork with hold | hnew
    · exact (h.made work hold).mono List.prefix_rfl
    · obtain rfl := List.mem_singleton.mp hnew
      refine ⟨event, outcome, hn, rfl, of_decide_eq_true hsubject, failureMode, traceparent, tracestate, ?_⟩
      cases hbuild : buildOutcome (env.email failureMode) (event.data.traced traceparent tracestate) with
      | error text =>
        rw [hbuild] at houtcome
        cases houtcome
      | ok made =>
        rw [hbuild] at houtcome
        rw [Option.some.inj houtcome]
  | mail action =>
    obtain ⟨mail, hmail, rfl⟩ := Option.map_eq_some_iff.mp hstep
    refine ⟨h.path, h.mail.step hmail, fun work hwork => ?_⟩
    exact (h.made work (Relay.State.step_started hmail ▸ hwork)).mono List.prefix_rfl

/-- The invariant holds in the beginning. -/
lemma NotifiedOrder.Inv.init : NotifiedOrder.Inv env orderId {} :=
  ⟨.init, .init, fun _ h => (List.not_mem_nil h).elim⟩

/-- The invariant holds in every state that a run reaches. -/
lemma NotifiedOrder.inv_of_run {actions : List NotifiedAction} (hdigest : Function.Injective env.digest)
    (hserved : ∀ action ∈ actions, action.Served)
    (hrun : StepSystem.run (NotifiedOrder.step env orderId) {} actions = some s) : s.Inv env orderId := by
  refine StepSystem.run_invariant (fun t action t' ht hok hstep => ?_) .init
    (StepSystem.Along.of_forall (fun action ha _ => hserved action ha) _) hrun
  exact NotifiedOrder.Inv.step hdigest ht hok hstep

/-! ## Confirmations -/

/-- Every notification is of the event of a completed order. -/
lemma NotifiedOrder.Inv.notified (h : s.Inv env orderId) {outcome : Confirmation}
    (houtcome : outcome ∈ s.mail.events) :
    ∃ event ∈ s.path.results.events, Notifies env event outcome := by
  obtain ⟨work, hwork, hmem⟩ := h.mail.source outcome houtcome
  obtain ⟨event, made, hn, hevents, hnotifies⟩ := h.made work hwork
  rw [hevents] at hmem
  obtain rfl := List.mem_singleton.mp hmem
  exact ⟨event, List.mem_of_getElem? hn, hnotifies⟩

/-- Notifications confirm the order that they are of. -/
lemma Notifies.confirms {event : ResultMessage} {outcome : Confirmation} (h : Notifies env event outcome) :
    ∃ failureMode, Confirms (env.email failureMode) event.data outcome := by
  obtain ⟨-, failureMode, traceparent, tracestate, hbuild⟩ := h
  obtain ⟨hid, hkey, hcausation, horder, hpayload⟩ := Email.confirms_of_buildOutcome hbuild
  exact ⟨failureMode, hid, hkey, hcausation, horder, hpayload⟩

/-- What the streams say about the confirmation of an order. -/
structure NotifiedOrder.Confirmed (env : CheckoutEnv) (orderId : String) (s : NotifiedOrder) : Prop where
  /-- The email workers accept every event of a completed order. -/
  accepted : ∀ event ∈ s.path.results.events, event.subject = .orderCompleted →
    ∀ failureMode traceparent tracestate, ∃ outcome,
      buildOutcome (env.email failureMode) (event.data.traced traceparent tracestate) = .ok outcome
  /-- An acknowledged event has its notification in the stream. -/
  acknowledged : ∀ n ∈ s.mail.acked, ∃ event outcome, s.path.results.events[n]? = some event ∧
    outcome ∈ s.mail.events ∧ Notifies env event outcome
  /-- Notifications are of completed orders, whose payment is captured. -/
  captured : ∀ outcome ∈ s.mail.events, (∃ saga, s.path.checkout.keys.view.saga = some saga ∧
    saga.stage = .completed) ∧ ∃ command reply, s.path.Answered env command reply ∧
      command.subject = .capture ∧ reply.subject = .paymentCaptured
  /-- All notifications have one message ID and one key at the provider, and tell the same. -/
  once : ∀ a ∈ s.mail.events, ∀ b ∈ s.mail.events, a.messageId = b.messageId ∧
    a.providerIdempotencyKey = orderId ++ ":" ++ Email.notificationType ∧
    b.providerIdempotencyKey = a.providerIdempotencyKey ∧
    (a.subject = b.subject → a.data.data = b.data.data)

/-- Notifications of one event that say the same say it in the same words. -/
lemma Notifies.once {event : ResultMessage} {a b : Confirmation} (ha : Notifies env event a)
    (hb : Notifies env event b) : a.messageId = b.messageId ∧
      a.providerIdempotencyKey = event.data.aggregateId ++ ":" ++ Email.notificationType ∧
      b.providerIdempotencyKey = a.providerIdempotencyKey ∧
      (a.subject = b.subject → a.data.data = b.data.data) := by
  obtain ⟨mode, hida, hkeya, -, -, order, hdata, -, hpayload⟩ := ha.confirms
  obtain ⟨mode', hidb, hkeyb, -, -, order', hdata', -, hpayload'⟩ := hb.confirms
  cases hdata.symm.trans hdata'
  refine ⟨hida.trans hidb.symm, hkeya, hkeyb.trans hkeya.symm, fun hsubject => ?_⟩
  rcases hpayload with ⟨hsent, htext⟩ | ⟨hfailed, htext⟩ <;>
    rcases hpayload' with ⟨hsent', htext'⟩ | ⟨hfailed', htext'⟩
  · rw [htext, htext', hkeya, hkeyb]
    rfl
  · exact absurd (hsent.symm.trans (hsubject.trans hfailed')) (by decide)
  · exact absurd (hfailed.symm.trans (hsubject.trans hsent')) (by decide)
  · rw [htext, htext']

/-- Over every run: the email workers accept the event of a completed order; once it is acknowledged its
notification is published; all notifications of an order have one message ID and one key at the provider;
and they are only published when the order is completed and its payment captured. -/
theorem confirmation_follows_capture (hdigest : Function.Injective env.digest)
    (hstable : ∀ parts, env.stableID parts ≠ "") {actions : List NotifiedAction}
    (hserved : ∀ action ∈ actions, action.Served)
    (hrun : StepSystem.run (NotifiedOrder.step env orderId) {} actions = some s) :
    s.Confirmed env orderId := by
  have h := NotifiedOrder.inv_of_run hdigest hserved hrun
  have hhistory := h.path.inputs.history.history
  have hcompleted : ∀ event ∈ s.path.results.events, event.subject = .orderCompleted →
      Email.Complete event.data ∧ event.data.aggregateId = orderId := fun event hevent =>
    hhistory.completedEvent hstable h.path.inputs.commits event (h.path.journalled hevent)
  have heq : ∀ event ∈ s.path.results.events, ∀ event' ∈ s.path.results.events,
      event.subject = .orderCompleted → event'.subject = .orderCompleted → event = event' :=
    fun event hevent event' hevent' =>
      hhistory.completed_eq (h.path.journalled hevent) (h.path.journalled hevent')
  refine ⟨fun event hevent hsubject mode traceparent tracestate => ?_, fun n hn => ?_,
    fun outcome houtcome => ?_, fun a ha b hb => ?_⟩
  · obtain ⟨hcomplete, -⟩ := hcompleted event hevent hsubject
    exact Email.buildOutcome_ok_iff.mpr ⟨hcomplete.messageId, hcomplete.correlationId,
      hcomplete.aggregateId, hcomplete.aggregateVersion, hcomplete.occurredAt, hcomplete.order⟩
  · obtain ⟨work, hwork, rfl, hdelivered⟩ := h.mail.acked n hn
    obtain ⟨event, made, hevent, hevents, hnotifies⟩ := h.made work hwork
    obtain ⟨outcome, hmem, -⟩ := hdelivered made (by rw [hevents]; exact List.mem_singleton_self _)
    obtain ⟨event', hevent', hnotifies'⟩ := h.notified hmem
    obtain rfl := heq event' hevent' event (List.mem_of_getElem? hevent) hnotifies'.1 hnotifies.1
    exact ⟨_, outcome, hevent, hmem, hnotifies'⟩
  · obtain ⟨event, hevent, hnotifies⟩ := h.notified houtcome
    have hallows := hhistory.allows (h.path.journalled hevent)
    rw [hnotifies.1] at hallows
    obtain ⟨saga, hsaga, hstage⟩ := Option.map_eq_some_iff.mp (of_decide_eq_true hallows)
    exact ⟨⟨saga, hsaga, hstage⟩, h.path.captured hsaga hstage⟩
  · obtain ⟨event, hevent, hnotifies⟩ := h.notified ha
    obtain ⟨event', hevent', hnotifies'⟩ := h.notified hb
    obtain rfl := heq event hevent event' hevent' hnotifies.1 hnotifies'.1
    obtain ⟨hid, hkey, hsame, htext⟩ := hnotifies.once hnotifies'
    exact ⟨hid, (hcompleted event hevent hnotifies.1).2 ▸ hkey, hsame, htext⟩

end System

/-! ## A sample order -/

namespace Sample

/-- The sample order is completed.  A worker publishes the confirmation and fails, so that the event is
delivered again; the next worker has no provider, its outcome is a duplicate, and the event acknowledged. -/
def notifiedPath : List NotifiedAction :=
  completedPath.map .path ++ [.receive 0 5 "" "" "", .mail (.publish 0 .stored), .mail (.stop 0),
    .receive 1 5 "failed" "" "", .mail (.publish 1 .duplicate), .mail (.finish 1 true)]

/-- The cart of the sample is served by the cart service. -/
lemma notifiedPath_served : ∀ action ∈ notifiedPath, action.Served := by
  intro action haction
  rcases List.mem_append.mp haction with haction | haction
  · obtain ⟨a, ha, rfl⟩ := List.mem_map.mp haction
    exact completedPath_served a ha
  · simp only [List.mem_cons, List.not_mem_nil, or_false] at haction
    rcases haction with rfl | rfl | rfl | rfl | rfl | rfl <;> trivial

end Sample

/-- The event of the sample order is acknowledged, and its confirmation published once. -/
theorem completed_order_confirmed :
    ∃ s, StepSystem.run (NotifiedOrder.step Sample.servicesEnv Sample.orderId) {} Sample.notifiedPath = some s ∧
      (s.path.results.events[5]?.map ResultMessage.subject) = some .orderCompleted ∧ s.mail.acked = [5] ∧
      s.mail.events.map Confirmation.subject = [Email.sentSubject] ∧
      s.Confirmed Sample.servicesEnv Sample.orderId := by
  have hrun : ((StepSystem.run (NotifiedOrder.step Sample.servicesEnv Sample.orderId) {}
      Sample.notifiedPath).map fun s => (s.path.results.events[5]?.map ResultMessage.subject, s.mail.acked,
        s.mail.events.map Confirmation.subject)) =
      some (some .orderCompleted, [5], [Email.sentSubject]) := by
    decide +kernel
  obtain ⟨s, hs, hfields⟩ := Option.map_eq_some_iff.mp hrun
  obtain ⟨hevent, hmail⟩ := Prod.mk.inj hfields
  obtain ⟨hacked, hsubjects⟩ := Prod.mk.inj hmail
  have hstable : ∀ parts, Sample.servicesEnv.stableID parts ≠ "" := Sample.pathEnv_stable
  exact ⟨s, hs, hevent, hacked, hsubjects,
    confirmation_follows_capture (fun _ _ h => h) hstable Sample.notifiedPath_served hs⟩

end Boutique
