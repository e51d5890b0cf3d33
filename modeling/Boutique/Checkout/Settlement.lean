import Boutique.Checkout.OutstandingWork
import Boutique.Payment.Authorizations

/-!
# Closed orders are settled with the services

What the streams around an order hold when it is closed.  A command to capture a payment is only published
behind the replies that authorized it, for the total of the order, and created the shipment.  The payment of
a completed order has been captured.  The authorization of a cancelled order has been released, and its
shipment cancelled.
-/

namespace Boutique

open Payment (PaymentEnv Reply processCommand)
open Shipping (ShippingEnv buildShippingOutcome)

variable {env : CheckoutEnv} {orderId : String}

/-! ## Compensations -/

/-- The result is a command to release an authorization. -/
def ResultMessage.Releases (result : ResultMessage) (authorizationId : String) : Prop :=
  ∃ commandId id reason key, result.data.data = .releaseAuthorization commandId id authorizationId reason key

/-- The result is a command to cancel a shipment. -/
def ResultMessage.Cancels (result : ResultMessage) (shipmentId : String) : Prop :=
  ∃ commandId id trackingId reason key,
    result.data.data = .cancelShipment commandId id shipmentId trackingId reason key

/-- What the journalled compensations say about the stored saga. -/
structure CompensationFacts (log : List Commit) (v : OrderView) : Prop where
  release : ∀ result ∈ journalledResults log, result.subject = .releaseAuthorization →
    ∃ s, v.saga = some s ∧ result.Releases s.authorizationId
  cancel : ∀ result ∈ journalledResults log, result.subject = .cancelShipment →
    ∃ s, v.saga = some s ∧ result.Cancels s.shipmentId

section Commits

variable {log : List Commit} {v : OrderView} {e : Commit}

/-- The transition that queues a compensation takes what it compensates from the saga. -/
lemma SagaMove.compensations {input : OrderInput} {ws : PersistedState} {after : Option OrderSaga}
    {results : List ResultMessage} (h : SagaMove env input ws after results) {result : ResultMessage}
    (hmem : result ∈ results) :
    (result.subject = .releaseAuthorization → ∃ s, after = some s ∧ result.Releases s.authorizationId) ∧
      (result.subject = .cancelShipment → ∃ s, after = some s ∧ result.Cancels s.shipmentId) := by
  cases h with
  | absent | idle | acknowledged => cases hmem
  | rejected | cancelled | authorized | quoted | shipped | compensated | reviewed =>
    cases List.mem_singleton.mp hmem
    exact ⟨by rintro ⟨⟩, by rintro ⟨⟩⟩
  | accepted | completed | timedOut =>
    rcases List.mem_pair.mp hmem with rfl | rfl <;> exact ⟨by rintro ⟨⟩, by rintro ⟨⟩⟩
  | compensating =>
    simp only [compensationResults, List.mem_append, List.mem_singleton] at hmem
    rcases hmem with (rfl | hmem) | rfl
    · exact ⟨fun _ => ⟨_, rfl, _, _, _, _, rfl⟩, by rintro ⟨⟩⟩
    · split_ifs at hmem
      · cases List.mem_singleton.mp hmem
        exact ⟨by rintro ⟨⟩, fun _ => ⟨_, rfl, _, _, _, _, _, rfl⟩⟩
      · cases hmem
    · exact ⟨by rintro ⟨⟩, by rintro ⟨⟩⟩

/-- A commit keeps what the journalled compensations say. -/
lemma HistoryStep.compensationFacts (h : HistoryStep env orderId log v e)
    (hfacts : CompensationFacts log v) : CompensationFacts (log ++ [e]) e.after := by
  constructor
  all_goals
    intro result hmem hsubject
    rw [journalledResults_snoc] at hmem
    rcases List.mem_append.mp hmem with hmem | hmem
  · obtain ⟨t, ht, hreleases⟩ := hfacts.release result hmem hsubject
    obtain ⟨s', hs', -, hkeep, -⟩ := h.keeps ht
    refine ⟨s', hs', ?_⟩
    rwa [hkeep]
    intro hstage
    have hallows := h.history.allows hmem
    rw [hsubject, ht, stageOf_some, hstage] at hallows
    cases hallows
  · exact (h.move.compensations hmem).1 hsubject
  · obtain ⟨t, ht, hcancels⟩ := hfacts.cancel result hmem hsubject
    obtain ⟨s', hs', -, -, hkeep⟩ := h.keeps ht
    refine ⟨s', hs', ?_⟩
    rwa [hkeep]
    intro hstage
    have hallows := h.history.allows hmem
    rw [hsubject, ht, stageOf_some, hstage] at hallows
    cases hallows
  · exact (h.move.compensations hmem).2 hsubject

/-- The journalled compensations and the stored saga agree. -/
lemma OrderHistory.compensationFacts (h : OrderHistory env orderId log v) : CompensationFacts log v := by
  refine OrderHistory.induction (P := CompensationFacts) ?_ ?_ h
  · constructor <;> simp [journalledResults]
  · exact fun log v e pre hstep ih _ _ => hstep.compensationFacts ih

/-! ## Completion -/

/-- A captured event was committed. -/
def CapturedIn (log : List Commit) : Prop :=
  ∃ e ∈ log, ∃ envelope, e.input = .event .paymentCaptured envelope

/-- An order that a commit leaves completed was so before, or its payment was captured. -/
lemma HistoryStep.completed {s' : OrderSaga} (h : HistoryStep env orderId log v e)
    (hs' : e.after.saga = some s') (hstage : s'.stage = .completed) :
    (∃ t, v.saga = some t ∧ t.stage = .completed) ∨
      ∃ envelope, e.input = .event .paymentCaptured envelope := by
  have hmove := h.move
  rw [hs'] at hmove
  generalize e.results = results at hmove
  cases hmove with
  | idle horder =>
    obtain ⟨t, ht, hcore⟩ := h.core_eq (by simpa using horder)
    exact Or.inl ⟨t, ht, (OrderSaga.stage_eq_of_core hcore).trans hstage⟩
  | completed hinput => exact Or.inr ⟨_, hinput⟩
  | compensating _ _ _ hadvanced =>
    rw [hadvanced] at hstage
    cases hstage
  | @acknowledged s subject _ _ _ _ hsource =>
    rw [(OrderSaga.acknowledge_keeps s subject).1, hsource] at hstage
    cases hstage
  | rejected | accepted | quoted | cancelled | authorized | shipped | compensated | reviewed
  | timedOut => cases hstage

/-- The payment of a completed order was captured. -/
lemma OrderHistory.completed (h : OrderHistory env orderId log v) :
    ∀ saga, v.saga = some saga → saga.stage = .completed → CapturedIn log := by
  refine OrderHistory.induction (P := fun log v => ∀ saga, v.saga = some saga →
    saga.stage = .completed → CapturedIn log) (by rintro _ ⟨⟩) ?_ h
  intro log v e pre hstep ih _ _ saga hsaga hstage
  rcases hstep.completed hsaga hstage with ⟨t, ht, hcompleted⟩ | ⟨envelope, hinput⟩
  · obtain ⟨e', he', hevent⟩ := ih t ht hcompleted
    exact ⟨e', List.mem_append_left _ he', hevent⟩
  · exact ⟨e, List.mem_append_right _ (List.mem_singleton_self _), envelope, hinput⟩

end Commits

/-! ## What a release and a cancellation reply -/

section Replies

variable {command : ResultMessage} {reply : Reply}

/-- A subject is one of a reply to one command only. -/
lemma ResultSubject.eq_of_repliedBy {a b : ResultSubject} {subject : SagaSubject}
    (ha : a.repliedBy subject = true) (hb : b.repliedBy subject = true) : a = b := by
  cases subject <;> cases a <;> first | (cases ha; done) | (cases b <;> first | rfl | cases hb)

/-- The command that a reply is to. -/
lemma Replies.subject_eq (h : Replies env command reply) {subject : SagaSubject}
    (hsubject : reply.subject = subject) {expected : ResultSubject}
    (hreplied : expected.repliedBy subject = true) : command.subject = expected :=
  ResultSubject.eq_of_repliedBy h.repliedBy (hsubject.symm ▸ hreplied)

/-- A service that has released an authorization replies with the one of the command. -/
lemma Replies.released (h : Replies env command reply) (hsubject : reply.subject = .authorizationReleased)
    {authorizationId : String} (hreleases : command.Releases authorizationId) :
    ∃ id, reply.data.data = .authorizationReleased id authorizationId := by
  have hcommand : command.subject = .releaseAuthorization := h.subject_eq hsubject rfl
  obtain ⟨commandId, id, reason, key, hdata⟩ := hreleases
  obtain ⟨service, traceparent, tracestate, hreply⟩ := h
  cases service with
  | shipping shipping =>
    have hshipping := isShipping_of_buildShippingOutcome hreply
    rw [hcommand] at hshipping
    cases hshipping
  | payment payment =>
    change processCommand _ _ _ = _ at hreply
    unfold processCommand at hreply
    split_ifs at hreply
    obtain ⟨time, -, hreply⟩ := bind_eq_ok.mp hreply
    simp only [hcommand, MessageEnvelope.traced, hdata] at hreply
    unfold Payment.processRelease at hreply
    obtain ⟨-, -, hreply⟩ := bind_eq_ok.mp hreply
    split_ifs at hreply
    · rw [(Payment.of_outcome hreply).1] at hsubject
      cases hsubject
    · exact ⟨id, (Payment.of_outcome hreply).2.1⟩

/-- A service that has cancelled a shipment replies with the one of the command. -/
lemma Replies.cancelled (h : Replies env command reply) (hsubject : reply.subject = .shipmentCancelled)
    {shipmentId : String} (hcancels : command.Cancels shipmentId) :
    ∃ id, reply.data.data = .shipmentCancelled id shipmentId := by
  have hcommand : command.subject = .cancelShipment := h.subject_eq hsubject rfl
  obtain ⟨commandId, id, trackingId, reason, key, hdata⟩ := hcancels
  obtain ⟨service, traceparent, tracestate, hreply⟩ := h
  cases service with
  | payment payment =>
    have hpayment := isPayment_of_processCommand hreply
    rw [hcommand] at hpayment
    cases hpayment
  | shipping shipping =>
    change buildShippingOutcome _ _ _ = _ at hreply
    unfold buildShippingOutcome at hreply
    obtain ⟨time, -, hreply⟩ := bind_eq_ok.mp hreply
    simp only [hcommand, MessageEnvelope.traced, hdata] at hreply
    unfold Shipping.buildCancellation at hreply
    split_ifs at hreply
    · rw [(Shipping.of_newShippingOutcome hreply).1] at hsubject
      cases hsubject
    · exact ⟨id, (Shipping.of_newShippingOutcome hreply).2.1⟩

end Replies

/-! ## The streams -/

/-- A command and a reply to it are in the streams. -/
structure OrderPath.Answered (env : CheckoutEnv) (s : OrderPath) (command : ResultMessage)
    (reply : Reply) : Prop where
  command_mem : command ∈ s.results.events
  reply_mem : reply ∈ s.replies.events
  replies : Replies env command reply

/-- The payment service has authorized an amount, and the shipping service has created a shipment. -/
structure OrderPath.Authorized (env : CheckoutEnv) (s : OrderPath) (saga : OrderSaga)
    (amount : Option Money) : Prop where
  total : saga.total = some amount
  payment : ∃ command reply id, s.Answered env command reply ∧ command.AuthorizesAmount amount ∧
    reply.data.data = .paymentAuthorized id saga.authorizationId
  shipment : ∃ command reply id trackingId, s.Answered env command reply ∧
    command.subject = .createShipment ∧
    reply.data.data = .shipmentCreated id saga.shipmentId trackingId

/-- How an order is settled with the services. -/
structure OrderPath.Settled (env : CheckoutEnv) (s : OrderPath) (saga : OrderSaga) : Prop where
  captures : ∀ command ∈ s.results.events, command.subject = .capture → ∃ amount,
    command.CapturesAmount saga.authorizationId amount ∧ s.Authorized env saga amount
  completed : saga.stage = .completed → ∃ command reply, s.Answered env command reply ∧
    command.subject = .capture ∧ reply.subject = .paymentCaptured
  released : saga.stage = .cancelled → saga.authorizationId ≠ "" → ∃ command reply id,
    s.Answered env command reply ∧ command.Releases saga.authorizationId ∧
      reply.data.data = .authorizationReleased id saga.authorizationId
  cancelled : saga.stage = .cancelled → saga.shipmentId ≠ "" → ∃ command reply id,
    s.Answered env command reply ∧ command.Cancels saga.shipmentId ∧
      reply.data.data = .shipmentCancelled id saga.shipmentId

section Streams

variable {s : OrderPath}

/-- A committed event is a reply in the streams. -/
lemma OrderPath.Inv.answered_of_commit (h : s.Inv env orderId) {e : Commit} {subject : SagaSubject}
    {envelope : MessageEnvelope} (he : e ∈ s.checkout.log) (hinput : e.input = .event subject envelope) :
    ∃ command reply, s.Answered env command reply ∧ reply.subject = subject ∧
      reply.data.data = envelope.data := by
  rcases h.commits e he with ⟨source, hnames⟩ | ⟨record, hrecord, -⟩
  · rw [hinput] at hnames
    cases source with
    | submit n =>
      obtain ⟨_, _, _, _, -, -, hcommand⟩ := hnames
      cases hcommand
    | reply n =>
      obtain ⟨reply, delivered, hn, ⟨_, _, rfl⟩, hevent⟩ := hnames
      cases hevent
      obtain ⟨command, hcommand, hreplies⟩ := h.replied (List.mem_of_getElem? hn)
      exact ⟨command, reply, ⟨hcommand, List.mem_of_getElem? hn, hreplies⟩, rfl, rfl⟩
  · cases hinput.symm.trans hrecord

/-- A published command to capture stands behind the authorization of its amount and the shipment. -/
lemma OrderPath.Inv.authorized_of_capture (h : s.Inv env orderId) {saga : OrderSaga}
    (hsaga : s.checkout.keys.view.saga = some saga) {command : ResultMessage}
    (hcommand : command ∈ s.results.events) (hsubject : command.subject = .capture) :
    ∃ amount, command.CapturesAmount saga.authorizationId amount ∧ s.Authorized env saga amount := by
  have hfacts := h.inputs.history.history.commandFacts
  obtain ⟨saga', amount, hsaga', htotal, hcaptures, ⟨e, he, envelope, id, hinput, hdata⟩,
    ⟨e', he', envelope', id', trackingId, hinput', hdata'⟩⟩ :=
    hfacts.capture command (h.journalled hcommand) hsubject
  cases hsaga.symm.trans hsaga'
  refine ⟨amount, hcaptures, htotal, ?_, ?_⟩
  · obtain ⟨authorize, reply, hanswered, hreply, hpayload⟩ := h.answered_of_commit he hinput
    have hauthorize : authorize.subject = .authorize := hanswered.replies.subject_eq hreply rfl
    obtain ⟨saga'', amount', hsaga'', htotal', hamount⟩ :=
      hfacts.authorize authorize (h.journalled hanswered.command_mem) hauthorize
    cases hsaga.symm.trans hsaga''
    cases htotal.symm.trans htotal'
    exact ⟨authorize, reply, id, hanswered, hamount, hpayload.trans hdata⟩
  · obtain ⟨create, reply, hanswered, hreply, hpayload⟩ := h.answered_of_commit he' hinput'
    exact ⟨create, reply, id', trackingId, hanswered, hanswered.replies.subject_eq hreply rfl,
      hpayload.trans hdata'⟩

/-- The payment of a completed order is captured. -/
lemma OrderPath.Inv.captured (h : s.Inv env orderId) {saga : OrderSaga}
    (hsaga : s.checkout.keys.view.saga = some saga) (hstage : saga.stage = .completed) :
    ∃ command reply, s.Answered env command reply ∧ command.subject = .capture ∧
      reply.subject = .paymentCaptured := by
  obtain ⟨e, he, envelope, hinput⟩ := h.inputs.history.history.completed saga hsaga hstage
  obtain ⟨command, reply, hanswered, hreply, -⟩ := h.answered_of_commit he hinput
  exact ⟨command, reply, hanswered, hanswered.replies.subject_eq hreply rfl, hreply⟩

/-- Over every run: a command to capture is only published behind the authorization of its amount, the total
of the order, and behind the shipment; the payment of a completed order has been captured, and what a
cancelled order had is released and cancelled. -/
theorem closed_order_settled (hdigest : Function.Injective env.digest) {actions : List OrderPathAction}
    (hserved : ∀ action ∈ actions, action.Served)
    (hrun : StepSystem.run (OrderPath.step env orderId) {} actions = some s) {saga : OrderSaga}
    (hsaga : s.checkout.keys.view.saga = some saga) : s.Settled env saga := by
  have h := OrderPath.inv_of_run hdigest hserved hrun
  have hhistory := h.inputs.history.history
  have hsagaFacts := hhistory.sagaFacts hsaga
  have hcompensations := hhistory.compensationFacts
  refine ⟨fun command => h.authorized_of_capture hsaga, h.captured hsaga, fun hstage hid => ?_,
    fun hstage hid => ?_⟩
  · obtain ⟨e, he, ⟨envelope, hinput⟩, -⟩ := hsagaFacts.cancelled_released hstage hid
    obtain ⟨command, reply, hanswered, hreply, -⟩ := h.answered_of_commit he hinput
    have hrelease : command.subject = .releaseAuthorization := hanswered.replies.subject_eq hreply rfl
    obtain ⟨saga', hsaga', hreleases⟩ :=
      hcompensations.release command (h.journalled hanswered.command_mem) hrelease
    cases hsaga.symm.trans hsaga'
    obtain ⟨id, hdata⟩ := hanswered.replies.released hreply hreleases
    exact ⟨command, reply, id, hanswered, hreleases, hdata⟩
  · obtain ⟨e, he, ⟨envelope, hinput⟩, -⟩ := hsagaFacts.cancelled_shipment hstage hid
    obtain ⟨command, reply, hanswered, hreply, -⟩ := h.answered_of_commit he hinput
    have hcancel : command.subject = .cancelShipment := hanswered.replies.subject_eq hreply rfl
    obtain ⟨saga', hsaga', hcancels⟩ :=
      hcompensations.cancel command (h.journalled hanswered.command_mem) hcancel
    cases hsaga.symm.trans hsaga'
    obtain ⟨id, hdata⟩ := hanswered.replies.cancelled hreply hcancels
    exact ⟨command, reply, id, hanswered, hcancels, hdata⟩

end Streams

/-! ## Sample orders -/

namespace Sample

/-- A hash that keeps the IDs of results short. -/
def rollingHash (messageId slot : String) : String :=
  toString ((messageId.toList ++ slot.toList).foldl (fun hash c => (31 * hash + c.toNat) % 1000003) 7)

/-- The configuration of the sample with that hash. -/
def servicesEnv : CheckoutEnv := { contractEnv with resultHash := rollingHash }

/-- A map without keys has only valid identifiers. -/
lemma noKeys_valid : ∀ keyID, (((fun _ => none) : String → Option (List UInt8)) keyID).isSome →
    Payment.validKeyID keyID = true := by
  simp

/-- The identifier of the key is valid. -/
lemma keyID_valid : Payment.validKeyID "k1" = true := by decide

/-- The keys of the payment services. -/
def signingKeys : Payment.KeyMap :=
  Payment.KeyMap.set ⟨fun _ => none, noKeys_valid⟩ "k1" (Bytes.getBytes Payment.Sample.secret) keyID_valid

/-- The keyring of the payment services. -/
def keyring : Payment.Keyring where
  activeKeyID := "k1"
  keys := signingKeys.1
  valid := signingKeys.2
  active := by simp [signingKeys, Payment.KeyMap.set]

/-- A payment service with a failure mode. -/
def paymentService (mode : String) : Service :=
  .payment (keyring.paymentEnv (Payment.Sample.crypto "order-1/authorize") mode)

/-- Checkout handles a message and publishes the results. -/
def handled (source : Source) (results : ℕ) : List OrderPathAction :=
  [.receive 0 source time projections "" "", .checkout (.load 0), .commit 0 .delivered] ++
    List.replicate results (.publish 0 .stored) ++ [.ack 0 true]

/-- A service replies to a result of checkout. -/
def replied (n : ℕ) (service : Service) : List OrderPathAction :=
  [.serve 0 n service "" "", .reply (.publish 0 .stored), .reply (.finish 0 true)]

/-- An order with a token is submitted.  Its payment is authorized and its shipment created. -/
def shippedPath : List OrderPathAction :=
  .submit (envelope Sample.orderId "boutique.order.Submit.v1"
      (.orderSubmit { command with paymentToken := Payment.Sample.token })) ::
    handled (.submit 0) 2 ++ replied 1 (.shipping shippingEnv) ++ handled (.reply 0) 1 ++
    replied 2 (paymentService "") ++ handled (.reply 1) 1 ++ replied 3 (.shipping shippingEnv) ++
    handled (.reply 2) 1

/-- Its payment is captured. -/
def completedPath : List OrderPathAction :=
  shippedPath ++ replied 4 (paymentService "") ++ handled (.reply 3) 2

/-- Its payment cannot be captured, so that it is released, and the shipment cancelled. -/
def cancelledPath : List OrderPathAction :=
  shippedPath ++ replied 4 (paymentService "capture_failed") ++ handled (.reply 3) 3 ++
    replied 5 (paymentService "capture_failed") ++ handled (.reply 4) 0 ++
    replied 6 (.shipping shippingEnv) ++ handled (.reply 5) 1

/-- The cart of the sample is served by the cart service. -/
lemma handled_served {source : Source} {results : ℕ} {action : OrderPathAction}
    (h : action ∈ handled source results) : action.Served := by
  simp only [handled, List.mem_append, List.mem_cons, List.not_mem_nil, or_false,
    List.mem_replicate] at h
  rcases h with ((rfl | rfl | rfl) | ⟨-, rfl⟩) | rfl
  all_goals first | trivial | exact submit_inputOk []

lemma replied_served {n : ℕ} {service : Service} {action : OrderPathAction}
    (h : action ∈ replied n service) : action.Served := by
  simp only [replied, List.mem_cons, List.not_mem_nil, or_false] at h
  rcases h with rfl | rfl | rfl <;> trivial

/-- All carts of the orders are served by the cart service. -/
lemma shippedPath_served {action : OrderPathAction} (h : action ∈ shippedPath) : action.Served := by
  simp only [shippedPath, List.cons_append, List.mem_cons, List.mem_append] at h
  rcases h with rfl | (((((h | h) | h) | h) | h) | h) | h
  · trivial
  all_goals first | exact handled_served h | exact replied_served h

lemma completedPath_served : ∀ action ∈ completedPath, action.Served := by
  intro action h
  simp only [completedPath, List.mem_append] at h
  rcases h with (h | h) | h
  · exact shippedPath_served h
  · exact replied_served h
  · exact handled_served h

lemma cancelledPath_served : ∀ action ∈ cancelledPath, action.Served := by
  intro action h
  simp only [cancelledPath, List.mem_append] at h
  rcases h with (((((h | h) | h) | h) | h) | h) | h
  · exact shippedPath_served h
  all_goals first | exact handled_served h | exact replied_served h

end Sample

/-- One sample order is completed, and one is cancelled after its payment was authorized and its shipment
created; both are settled. -/
theorem sample_orders_settled :
    (∃ s saga, StepSystem.run (OrderPath.step Sample.servicesEnv Sample.orderId) {}
        Sample.completedPath = some s ∧ s.checkout.keys.view.saga = some saga ∧
      saga.stage = .completed ∧ s.Settled Sample.servicesEnv saga) ∧
    ∃ s saga, StepSystem.run (OrderPath.step Sample.servicesEnv Sample.orderId) {}
        Sample.cancelledPath = some s ∧ s.checkout.keys.view.saga = some saga ∧
      saga.stage = .cancelled ∧ saga.authorizationId ≠ "" ∧ saga.shipmentId ≠ "" ∧
      s.Settled Sample.servicesEnv saga := by
  constructor
  · have hrun : ((StepSystem.run (OrderPath.step Sample.servicesEnv Sample.orderId) {}
        Sample.completedPath).bind fun s => s.checkout.keys.view.saga.map OrderSaga.stage) =
        some .completed := by
      decide +kernel
    obtain ⟨s, hs, hsaga⟩ := Option.bind_eq_some_iff.mp hrun
    obtain ⟨saga, hsaga, hstage⟩ := Option.map_eq_some_iff.mp hsaga
    exact ⟨s, saga, hs, hsaga, hstage,
      closed_order_settled (fun _ _ h => h) Sample.completedPath_served hs hsaga⟩
  · have hrun : ((StepSystem.run (OrderPath.step Sample.servicesEnv Sample.orderId) {}
        Sample.cancelledPath).bind fun s => s.checkout.keys.view.saga.map fun saga =>
          (saga.stage, decide (saga.authorizationId ≠ ""), decide (saga.shipmentId ≠ ""))) =
        some (.cancelled, true, true) := by
      decide +kernel
    obtain ⟨s, hs, hsaga⟩ := Option.bind_eq_some_iff.mp hrun
    obtain ⟨saga, hsaga, hfields⟩ := Option.map_eq_some_iff.mp hsaga
    obtain ⟨hstage, hids⟩ := Prod.mk.inj hfields
    obtain ⟨hauthorization, hshipment⟩ := Prod.mk.inj hids
    exact ⟨s, saga, hs, hsaga, hstage, of_decide_eq_true hauthorization, of_decide_eq_true hshipment,
      closed_order_settled (fun _ _ h => h) Sample.cancelledPath_served hs hsaga⟩

end Boutique
