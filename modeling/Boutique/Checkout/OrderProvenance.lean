import Boutique.Checkout.OrderPath

/-!
# Where the messages of an order come from

The invariant of the streams around an order: what checkout publishes is journalled by commits, every reply
is one to a published command, every commit handled a message of the streams or a deadline of the order, and
a message that is acknowledged had a commit whose results are in the stream.
-/

namespace Boutique

open Payment (PaymentEnv Reply processCommand)
open Shipping (ShippingEnv buildShippingOutcome)

variable {env : CheckoutEnv} {orderId : String} {s s' : OrderPath}

/-! ## Replies -/

section Replies

variable {command : ResultMessage} {reply : Reply}

/-- A reply of a service is a reply in the contract of the services. -/
lemma Replies.handled (h : Replies env command reply) : Handled command reply := by
  obtain ⟨service, traceparent, tracestate, hreply⟩ := h
  cases service with
  | payment payment => exact .payment _ _ (command.data.traced_same traceparent tracestate) hreply
  | shipping shipping => exact .shipping _ _ (command.data.traced_same traceparent tracestate) hreply

/-- The result ID of a payment outcome. -/
lemma outcome_messageId {payment : PaymentEnv} {cause : MessageEnvelope} {slot messageType : String}
    {subject : SagaSubject} {payload : Payload}
    (h : Payment.outcome payment cause slot subject messageType payload = .ok reply) :
    reply.messageId = reply.data.messageId ∧
      ∃ slot, reply.messageId = "br1_" ++ payment.resultHash cause.messageId slot := by
  unfold Payment.outcome at h
  split_ifs at h
  obtain rfl := Except.ok.inj h
  exact ⟨rfl, _, rfl⟩

/-- The result ID of a payment reply. -/
lemma processCommand_messageId {payment : PaymentEnv} {subject : ResultSubject}
    {envelope : MessageEnvelope} (h : processCommand payment subject envelope = .ok reply) :
    reply.messageId = reply.data.messageId ∧
      ∃ slot, reply.messageId = "br1_" ++ payment.resultHash envelope.messageId slot := by
  unfold processCommand at h
  split_ifs at h
  obtain ⟨time, -, h⟩ := bind_eq_ok.mp h
  split at h
  · unfold Payment.processAuthorize at h
    dsimp only at h
    split at h
    · cases h
    split at h
    · exact outcome_messageId h
    · split at h
      · exact outcome_messageId h
      · obtain ⟨reference, -, h⟩ := bind_eq_ok.mp h
        exact outcome_messageId h
  · unfold Payment.processCapture at h
    obtain ⟨-, -, h⟩ := bind_eq_ok.mp h
    split_ifs at h <;> exact outcome_messageId h
  · unfold Payment.processRelease at h
    obtain ⟨-, -, h⟩ := bind_eq_ok.mp h
    split_ifs at h <;> exact outcome_messageId h
  all_goals cases h

/-- The result ID of a shipping outcome. -/
lemma newShippingOutcome_messageId {shipping : ShippingEnv} {slot messageType id : String}
    {subject : SagaSubject} {cause : MessageEnvelope} {occurredAt : Time} {payload : Payload}
    (h : Shipping.newShippingOutcome shipping slot subject messageType id cause occurredAt payload =
      .ok reply) :
    reply.messageId = reply.data.messageId ∧
      ∃ slot, reply.messageId = "br1_" ++ shipping.resultHash cause.messageId slot := by
  have hdata := (Shipping.of_newShippingOutcome h).2.2.2.1
  obtain ⟨envelope, -, h⟩ := bind_eq_ok.mp h
  obtain rfl := Except.ok.inj h
  exact ⟨rfl, slot, hdata⟩

/-- The result ID of a shipping reply. -/
lemma buildShippingOutcome_messageId {shipping : ShippingEnv} {subject : ResultSubject}
    {envelope : MessageEnvelope} (h : buildShippingOutcome shipping subject envelope = .ok reply) :
    reply.messageId = reply.data.messageId ∧
      ∃ slot, reply.messageId = "br1_" ++ shipping.resultHash envelope.messageId slot := by
  obtain ⟨time, -, h⟩ := bind_eq_ok.mp h
  split at h
  · unfold Shipping.buildOrderQuote at h
    split_ifs at h <;> exact newShippingOutcome_messageId h
  · unfold Shipping.buildShipment at h
    split_ifs at h <;> exact newShippingOutcome_messageId h
  · unfold Shipping.buildCancellation at h
    split_ifs at h <;> exact newShippingOutcome_messageId h
  all_goals cases h

/-- A reply has a result ID for its command. -/
lemma Replies.messageId (h : Replies env command reply) :
    reply.messageId = reply.data.messageId ∧
      ∃ slot, reply.messageId = "br1_" ++ env.resultHash command.data.messageId slot := by
  obtain ⟨service, traceparent, tracestate, hreply⟩ := h
  cases service with
  | payment payment => exact processCommand_messageId hreply
  | shipping shipping => exact buildShippingOutcome_messageId hreply

/-- The subjects of the replies to a command. -/
def ResultSubject.repliedBy : ResultSubject → SagaSubject → Bool
  | .calculateOrderQuote, .orderQuoteCalculated | .calculateOrderQuote, .orderQuoteFailed
  | .authorize, .paymentAuthorized | .authorize, .paymentAuthorizationDeclined
  | .createShipment, .shipmentCreated | .createShipment, .shipmentCreationFailed
  | .capture, .paymentCaptured | .capture, .paymentCaptureFailed
  | .releaseAuthorization, .authorizationReleased
  | .releaseAuthorization, .authorizationReleaseFailed
  | .cancelShipment, .shipmentCancelled | .cancelShipment, .shipmentCancellationFailed => true
  | _, _ => false

/-- The payment service replies on the subjects of the command. -/
lemma processCommand_repliedBy {payment : PaymentEnv} {subject : ResultSubject}
    {envelope : MessageEnvelope} (h : processCommand payment subject envelope = .ok reply) :
    subject.repliedBy reply.subject = true := by
  unfold processCommand at h
  split_ifs at h
  obtain ⟨time, -, h⟩ := bind_eq_ok.mp h
  split at h
  · unfold Payment.processAuthorize at h
    dsimp only at h
    split at h
    · cases h
    split at h
    · rw [(Payment.of_outcome h).1]
      rfl
    · split at h
      · rw [(Payment.of_outcome h).1]
        rfl
      · obtain ⟨reference, -, h⟩ := bind_eq_ok.mp h
        rw [(Payment.of_outcome h).1]
        rfl
  · unfold Payment.processCapture at h
    obtain ⟨-, -, h⟩ := bind_eq_ok.mp h
    split_ifs at h <;> rw [(Payment.of_outcome h).1] <;> rfl
  · unfold Payment.processRelease at h
    obtain ⟨-, -, h⟩ := bind_eq_ok.mp h
    split_ifs at h <;> rw [(Payment.of_outcome h).1] <;> rfl
  all_goals cases h

/-- The shipping service replies on the subjects of the command. -/
lemma buildShippingOutcome_repliedBy {shipping : ShippingEnv} {subject : ResultSubject}
    {envelope : MessageEnvelope} (h : buildShippingOutcome shipping subject envelope = .ok reply) :
    subject.repliedBy reply.subject = true := by
  obtain ⟨time, -, h⟩ := bind_eq_ok.mp h
  split at h
  · unfold Shipping.buildOrderQuote at h
    split_ifs at h <;> rw [(Shipping.of_newShippingOutcome h).1] <;> rfl
  · unfold Shipping.buildShipment at h
    split_ifs at h <;> rw [(Shipping.of_newShippingOutcome h).1] <;> rfl
  · unfold Shipping.buildCancellation at h
    split_ifs at h <;> rw [(Shipping.of_newShippingOutcome h).1] <;> rfl
  all_goals cases h

/-- The services reply on the subjects of the command. -/
lemma Replies.repliedBy (h : Replies env command reply) :
    command.subject.repliedBy reply.subject = true := by
  obtain ⟨service, traceparent, tracestate, hreply⟩ := h
  cases service with
  | payment payment => exact processCommand_repliedBy hreply
  | shipping shipping => exact buildShippingOutcome_repliedBy hreply

end Replies

/-! ## The invariant -/

/-- The input of a call is made of a message of the streams. -/
def OrderPath.Names (s : OrderPath) (source : Source) (input : OrderInput) : Prop :=
  match source with
  | .submit n => ∃ envelope delivered payload projections, s.submits[n]? = some envelope ∧
    SameMessage envelope delivered ∧ input = .command delivered payload projections
  | .reply n => ∃ reply delivered, s.replies.events[n]? = some reply ∧
    SameMessage reply.data delivered ∧ input = .event reply.subject delivered

/-- A commit handled a message of the streams or a deadline of the order. -/
def OrderPath.Handles (s : OrderPath) (env : CheckoutEnv) (orderId : String) (input : OrderInput) : Prop :=
  (∃ source, s.Names source input) ∨
    ∃ record : DeadlineRecord, input = record.input orderId ∧ record.Named env

/-- The results of a job are those of a commit, for the message that the job has as its source. -/
def OrderPath.WorkOk (s : OrderPath) (work : Relay.Work (Option Source) ResultMessage) : Prop :=
  ∃ e ∈ s.checkout.log, work.events = e.results ∧ ∀ source, work.source = some source →
    ∃ input, s.Names source input ∧ input.messageId = e.messageId

/-- The events of a job of a service are a reply to the command that the job has as its source. -/
def OrderPath.ServedOk (s : OrderPath) (env : CheckoutEnv) (work : Relay.Work ℕ Reply) : Prop :=
  ∃ command reply, s.results.events[work.source]? = some command ∧ work.events = [reply] ∧
    Replies env command reply

/-- The invariant of the streams. -/
structure OrderPath.Inv (env : CheckoutEnv) (orderId : String) (s : OrderPath) : Prop where
  inputs : InputsInv env orderId s.checkout
  journal : JournalInv env s.checkout
  unexpired : s.checkout.epoch = 0
  records : RecordsOk env orderId s.checkout
  results : Relay.Inv ResultMessage.messageId s.results
  replies : Relay.Inv Reply.messageId s.replies
  submits : ∀ envelope ∈ s.submits, envelope.messageId = orderId
  handled : ∀ w source, s.handling w = some source →
    ∃ call, s.checkout.workers w = .applying call none ∧ s.Names source call.input
  calls : ∀ w call, s.checkout.workers w = .applying call none → ∃ source, s.handling w = some source
  commits : ∀ e ∈ s.checkout.log, s.Handles env orderId e.input
  works : ∀ work ∈ s.results.started, s.WorkOk work
  served : ∀ work ∈ s.replies.started, s.ServedOk env work

/-- What a step keeps: the streams and the log only grow. -/
structure OrderPath.Grows (s s' : OrderPath) : Prop where
  submits : s.submits <+: s'.submits
  log : s.checkout.log <+: s'.checkout.log
  results : s.results.events <+: s'.results.events
  replies : s.replies.events <+: s'.replies.events

section Growth

variable (hgrows : OrderPath.Grows s s')

include hgrows

/-- A message keeps its number. -/
lemma OrderPath.Names.mono {source : Source} {input : OrderInput} (h : s.Names source input) :
    s'.Names source input := by
  cases source with
  | submit n =>
    obtain ⟨envelope, delivered, payload, projections, hn, hsame, hinput⟩ := h
    exact ⟨envelope, delivered, payload, projections,
      Publish.getElem?_of_prefix hgrows.submits hn, hsame, hinput⟩
  | reply n =>
    obtain ⟨reply, delivered, hn, hsame, hinput⟩ := h
    exact ⟨reply, delivered, Publish.getElem?_of_prefix hgrows.replies hn, hsame, hinput⟩

/-- A handled input goes on to come from there. -/
lemma OrderPath.Handles.mono {input : OrderInput} (h : s.Handles env orderId input) :
    s'.Handles env orderId input := by
  rcases h with ⟨source, hnames⟩ | hrecord
  · exact Or.inl ⟨source, hnames.mono hgrows⟩
  · exact Or.inr hrecord

/-- The results of a job go on to be those of a commit. -/
lemma OrderPath.WorkOk.mono {work : Relay.Work (Option Source) ResultMessage} (h : s.WorkOk work) :
    s'.WorkOk work := by
  obtain ⟨e, he, hevents, hsource⟩ := h
  refine ⟨e, hgrows.log.subset he, hevents, fun source hs => ?_⟩
  obtain ⟨input, hnames, hid⟩ := hsource source hs
  exact ⟨input, hnames.mono hgrows, hid⟩

/-- The reply of a job goes on to be one to its command. -/
lemma OrderPath.ServedOk.mono {work : Relay.Work ℕ Reply} (h : s.ServedOk env work) :
    s'.ServedOk env work := by
  obtain ⟨command, reply, hn, hevents, hreply⟩ := h
  exact ⟨command, reply, Publish.getElem?_of_prefix hgrows.results hn, hevents, hreply⟩

end Growth

/-! ## What the invariant says about the streams -/

section Streams

/-- What checkout has published is journalled. -/
lemma OrderPath.Inv.journalled (h : s.Inv env orderId) {result : ResultMessage}
    (hresult : result ∈ s.results.events) : result ∈ journalledResults s.checkout.log := by
  obtain ⟨work, hwork, hmem⟩ := h.results.source result hresult
  obtain ⟨e, he, hevents, -⟩ := h.works work hwork
  exact List.mem_flatMap.mpr ⟨e, he, hevents ▸ hmem⟩

/-- Every reply is one to a published command. -/
lemma OrderPath.Inv.replied (h : s.Inv env orderId) {reply : Reply} (hreply : reply ∈ s.replies.events) :
    ∃ command ∈ s.results.events, Replies env command reply := by
  obtain ⟨work, hwork, hmem⟩ := h.replies.source reply hreply
  obtain ⟨command, reply', hn, hevents, hreplies⟩ := h.served work hwork
  rw [hevents] at hmem
  obtain rfl := List.mem_singleton.mp hmem
  exact ⟨command, List.mem_of_getElem? hn, hreplies⟩

/-- A reply is an input from the services. -/
lemma OrderPath.Inv.inputOk (h : s.Inv env orderId) {reply : Reply} {delivered : MessageEnvelope}
    (hreply : reply ∈ s.replies.events) (hsame : SameMessage reply.data delivered) :
    InputOk s.checkout.log (.event reply.subject delivered) := by
  obtain ⟨command, hcommand, hreplies⟩ := h.replied hreply
  exact ⟨command, h.journalled hcommand, reply, hreplies.handled, rfl, hsame⟩

end Streams

/-! ## Steps -/

/-- The cart of a submit command is served by the cart service. -/
def OrderPathAction.Served : OrderPathAction → Prop
  | .receive _ _ _ projections _ _ =>
    ∀ userId cart, projections.carts userId = some cart → CartServed userId cart
  | _ => True

section Steps

variable {w : ℕ} {action : OrderPathAction}

/-- A step that leaves the checkout system alone, with the calls of its workers. -/
lemma OrderPath.Inv.of_streams (h : s.Inv env orderId) (hgrows : s.Grows s')
    (hcheckout : s'.checkout = s.checkout) (hhandling : s'.handling = s.handling)
    (hresults : Relay.Inv ResultMessage.messageId s'.results)
    (hstarted : s'.results.started = s.results.started)
    (hreplies : Relay.Inv Reply.messageId s'.replies)
    (hsubmits : ∀ envelope ∈ s'.submits, envelope.messageId = orderId)
    (hserved : ∀ work ∈ s'.replies.started, s'.ServedOk env work) : s'.Inv env orderId where
  inputs := hcheckout ▸ h.inputs
  journal := hcheckout ▸ h.journal
  unexpired := hcheckout ▸ h.unexpired
  records := hcheckout ▸ h.records
  results := hresults
  replies := hreplies
  submits := hsubmits
  handled := by
    intro w source hw
    rw [hhandling] at hw
    obtain ⟨call, hcall, hnames⟩ := h.handled w source hw
    exact ⟨call, hcheckout ▸ hcall, hnames.mono hgrows⟩
  calls := by
    rw [hcheckout, hhandling]
    exact h.calls
  commits := by
    rw [hcheckout]
    exact fun e he => (h.commits e he).mono hgrows
  works := by
    rw [hstarted]
    exact fun work hwork => (h.works work hwork).mono hgrows
  served := hserved

/-- Publishing results keeps the invariant. -/
lemma OrderPath.Inv.relayed {action : Relay.Action} (h : s.Inv env orderId)
    (hstep : s.relayed action = some s') : s'.Inv env orderId := by
  obtain ⟨results, hresults, rfl⟩ := Option.map_eq_some_iff.mp hstep
  have hgrows : s.Grows { s with results := results } :=
    ⟨List.prefix_rfl, List.prefix_rfl, (Relay.State.step_grows hresults).events, List.prefix_rfl⟩
  exact h.of_streams hgrows rfl rfl (h.results.step hresults) (Relay.State.step_started hresults)
    h.replies h.submits fun work hwork => (h.served work hwork).mono hgrows

/-- What an action of the checkout system keeps, whatever it does to the calls. -/
lemma OrderPath.Inv.of_checkout {a : Action} {checkout : CheckoutState} (h : s.Inv env orderId)
    (hstep : Boutique.step env orderId s.checkout a = some checkout) (hservices : FromServices s.checkout a)
    (hexpire : a ≠ .expireJournal) :
    InputsInv env orderId checkout ∧ JournalInv env checkout ∧ checkout.epoch = 0 ∧
      RecordsOk env orderId checkout :=
  ⟨h.inputs.step hservices hstep, h.journal.step hstep, (step_epoch hexpire hstep).trans h.unexpired,
    h.records.step hstep⟩

/-- An action of the checkout system that commits nothing. -/
lemma OrderPath.Inv.checkout {a : Action} {checkout : CheckoutState} (handling : ℕ → Option Source)
    (h : s.Inv env orderId) (hstep : Boutique.step env orderId s.checkout a = some checkout)
    (hservices : FromServices s.checkout a) (hexpire : a ≠ .expireJournal)
    (hcommit : ∀ w d, a ≠ .commit w d)
    (hhandled : ∀ w source, handling w = some source →
      ∃ call, checkout.workers w = .applying call none ∧ s.Names source call.input)
    (hcalls : ∀ w call, checkout.workers w = .applying call none → ∃ source, handling w = some source) :
    OrderPath.Inv env orderId { s with checkout := checkout, handling := handling } := by
  obtain ⟨hinputs, hjournal, hepoch, hrecords⟩ := h.of_checkout hstep hservices hexpire
  obtain ⟨hlog, -⟩ := step_keeps hcommit hstep
  have hgrows : s.Grows { s with checkout := checkout, handling := handling } :=
    ⟨List.prefix_rfl, hlog ▸ List.prefix_rfl, List.prefix_rfl, List.prefix_rfl⟩
  exact { inputs := hinputs, journal := hjournal, unexpired := hepoch, records := hrecords
          results := h.results, replies := h.replies, submits := h.submits
          handled := fun w source hw => by
            obtain ⟨call, hcall, hnames⟩ := hhandled w source hw
            exact ⟨call, hcall, hnames.mono hgrows⟩
          calls := hcalls
          commits := fun e he => (h.commits e (hlog ▸ he)).mono hgrows
          works := fun work hwork => (h.works work hwork).mono hgrows
          served := fun work hwork => (h.served work hwork).mono hgrows }

/-- An action that starts and ends no call for a message keeps the invariant. -/
lemma OrderPath.Inv.keepsCalls {a : Action} {checkout : CheckoutState} (h : s.Inv env orderId)
    (hkeeps : a.keepsCalls = true) (hstep : Boutique.step env orderId s.checkout a = some checkout) :
    OrderPath.Inv env orderId { s with checkout := checkout } := by
  have hadvances := step_advances hkeeps hstep
  refine h.checkout s.handling hstep ?_ ?_ ?_ (fun w source hw => ?_) (fun w call hw => ?_)
  · cases a with
    | deliver => cases hkeeps
    | _ => trivial
  · rintro rfl
    cases hkeeps
  · rintro w d rfl
    cases hkeeps
  · obtain ⟨call, hcall, hnames⟩ := h.handled w source hw
    have hw' := hadvances w
    rw [hcall] at hw'
    generalize checkout.workers w = worker' at hw'
    cases hw' with
    | same => exact ⟨call, rfl, hnames⟩
    | loaded hinput => exact ⟨_, rfl, hinput ▸ hnames⟩
    | scans hnot => exact (hnot _ _ rfl).elim
  · have hw' := hadvances w
    rw [hw] at hw'
    generalize hworker : s.checkout.workers w = worker at hw'
    cases hw' with
    | same => exact h.calls w _ hworker
    | loaded => exact h.calls w _ hworker
    | scans _ hnot => exact (hnot _ rfl).elim

/-- Handling after a change of one worker: the call of the worker has the new source. -/
lemma OrderPath.Inv.handled_update {source : Option Source} {worker : Worker}
    {workers : ℕ → Worker} (h : s.Inv env orderId)
    (hworkers : workers = Function.update s.checkout.workers w worker)
    (hsource : ∀ src, source = some src → ∃ call, worker = .applying call none ∧ s.Names src call.input)
    (hcall : ∀ call, worker = .applying call none → ∃ src, source = some src) :
    (∀ v src, Function.update s.handling w source v = some src →
      ∃ call, workers v = .applying call none ∧ s.Names src call.input) ∧
    ∀ v call, workers v = .applying call none →
      ∃ src, Function.update s.handling w source v = some src := by
  rw [hworkers]
  refine ⟨fun v src hv => ?_, fun v call hv => ?_⟩
  · by_cases heq : v = w
    · rw [heq, Function.update_self] at hv ⊢
      exact hsource src hv
    · rw [Function.update_of_ne heq] at hv ⊢
      exact h.handled v src hv
  · by_cases heq : v = w
    · rw [heq, Function.update_self] at hv ⊢
      exact hcall call hv
    · rw [Function.update_of_ne heq] at hv ⊢
      exact h.calls v call hv

/-- The input of a message is made of it. -/
lemma OrderPath.names_of_input {source : Source} {projections : PersistedState}
    {traceparent tracestate : String} {input : OrderInput}
    (h : s.input source projections traceparent tracestate = some input) : s.Names source input := by
  cases source with
  | submit n =>
    obtain ⟨envelope, hn, h⟩ := Option.bind_eq_some_iff.mp h
    obtain ⟨payload, -, rfl⟩ := Option.map_eq_some_iff.mp h
    exact ⟨envelope, _, payload, projections, hn, envelope.traced_same _ _, rfl⟩
  | reply n =>
    obtain ⟨reply, hn, rfl⟩ := Option.map_eq_some_iff.mp h
    exact ⟨reply, _, hn, reply.data.traced_same _ _, rfl⟩

/-- The input of a message comes from the services. -/
lemma OrderPath.Inv.inputOk_of_input {source : Source} {projections : PersistedState}
    {traceparent tracestate : String} {input : OrderInput} (h : s.Inv env orderId)
    (hserved : ∀ userId cart, projections.carts userId = some cart → CartServed userId cart)
    (hinput : s.input source projections traceparent tracestate = some input) :
    InputOk s.checkout.log input := by
  cases source with
  | submit n =>
    obtain ⟨envelope, hn, hinput⟩ := Option.bind_eq_some_iff.mp hinput
    obtain ⟨payload, -, rfl⟩ := Option.map_eq_some_iff.mp hinput
    exact hserved
  | reply n =>
    obtain ⟨reply, hn, rfl⟩ := Option.map_eq_some_iff.mp hinput
    exact h.inputOk (List.mem_of_getElem? hn) (reply.data.traced_same _ _)

/-- A worker of checkout receives a message. -/
lemma OrderPath.Inv.receive {source : Source} {now : Time} {projections : PersistedState}
    {traceparent tracestate : String} (h : s.Inv env orderId)
    (hserved : ∀ userId cart, projections.carts userId = some cart → CartServed userId cart)
    (hstep : s.step env orderId (.receive w source now projections traceparent tracestate) = some s') :
    s'.Inv env orderId := by
  simp only [OrderPath.step] at hstep
  obtain ⟨-, hstep⟩ := Option.ite_none_right_eq_some.mp hstep
  obtain ⟨input, hinput, hstep⟩ := Option.bind_eq_some_iff.mp hstep
  obtain ⟨checkout, hcheckout, rfl⟩ := Option.map_eq_some_iff.mp hstep
  have hworkers : checkout.workers = Function.update s.checkout.workers w
      (.applying { serial := s.checkout.calls, input := input, now := now } none) := by
    rw [step_deliver hcheckout]
    rfl
  have hnames := names_of_input hinput
  obtain ⟨hhandled, hcalls⟩ := @OrderPath.Inv.handled_update _ _ _ _ (some source) _ _ h hworkers
    (by rintro _ ⟨⟩; exact ⟨_, rfl, hnames⟩) (fun _ _ => ⟨source, rfl⟩)
  exact h.checkout _ hcheckout (h.inputOk_of_input hserved hinput) (by rintro ⟨⟩) (by rintro _ _ ⟨⟩)
    hhandled hcalls

/-- The input of a call comes from a message that its worker handles, or from a deadline. -/
lemma OrderPath.Inv.handles (h : s.Inv env orderId) {call : Call} {scan : Option Scan}
    (hworker : s.checkout.workers w = .applying call scan) : s.Handles env orderId call.input := by
  cases scan with
  | none =>
    obtain ⟨source, hsource⟩ := h.calls w call hworker
    obtain ⟨call', hcall', hnames⟩ := h.handled w source hsource
    cases hworker.symm.trans hcall'
    exact Or.inl ⟨source, hnames⟩
  | some scan =>
    refine Or.inr ⟨scan.record, h.records.calls w call scan hworker, ?_⟩
    exact h.records.workers w scan.record (by rw [hworker]; rfl)

/-- The results of a call that returns are those of the commit of its message. -/
lemma OrderPath.Inv.returned_workOk {call : Call} {scan : Option Scan} {ret : Return}
    (h : s.Inv env orderId) (hdigest : Function.Injective env.digest)
    (hworker : s.checkout.workers w = .applying call scan) {checkout : CheckoutState}
    (hjournal : JournalInv env checkout) (hret : ret ∈ checkout.returns)
    (hid : ret.messageId = call.input.messageId) (s' : OrderPath) (hcheckout : s'.checkout = checkout)
    (hgrows : s.Grows s') : s'.WorkOk ⟨s.handling w, ret.outcome.results⟩ := by
  obtain ⟨e, he, -, hsame, hresults, -⟩ := hjournal.returned ret hret
  refine ⟨e, hcheckout ▸ he, hresults, fun source hsource => ?_⟩
  obtain ⟨call', hcall', hnames⟩ := h.handled w source hsource
  cases hworker.symm.trans hcall'
  exact ⟨call.input, hnames.mono hgrows, hid.symm.trans (hdigest hsame).symm⟩

/-- The call of a worker comes to an `Eval`. -/
lemma OrderPath.Inv.commit {delivery : Delivery} (h : s.Inv env orderId)
    (hdigest : Function.Injective env.digest)
    (hstep : s.step env orderId (.commit w delivery) = some s') : s'.Inv env orderId := by
  obtain ⟨checkout, hcheckout, hstep⟩ := Option.bind_eq_some_iff.mp hstep
  obtain ⟨call, scan, hworker, hlog, hends⟩ := step_evaluated hcheckout
  obtain ⟨hinputs, hjournal, hepoch, hrecords⟩ := h.of_checkout hcheckout trivial (by rintro ⟨⟩)
  have hprefix : s.checkout.log <+: checkout.log := by
    rcases hlog with hlog | ⟨e, hlog, -⟩
    · exact hlog ▸ List.prefix_rfl
    · exact hlog ▸ List.prefix_append _ _
  have hcommits : ∀ e ∈ checkout.log, s.Handles env orderId e.input := by
    intro e he
    rcases hlog with hlog | ⟨e', hlog, hinput⟩
    · exact h.commits e (hlog ▸ he)
    · rcases List.mem_append.mp (hlog ▸ he) with hold | hnew
      · exact h.commits e hold
      · obtain rfl := List.mem_singleton.mp hnew
        exact hinput ▸ h.handles hworker
  unfold OrderPath.evaluated at hstep
  rcases hends with ⟨hreturns, worker, hnext, hworkers⟩ | ⟨ret, hreturns, hid, hworkers⟩
  · -- the call is abandoned: the message is handled on, or given up
    rw [hreturns, List.drop_length] at hstep
    have hw : checkout.workers w = worker := by rw [hworkers, Function.update_self]
    have hstays : ∀ handling, (∀ v src, handling v = some src →
        ∃ call, checkout.workers v = .applying call none ∧ s.Names src call.input) →
        (∀ v call, checkout.workers v = .applying call none → ∃ src, handling v = some src) →
        OrderPath.Inv env orderId { s with checkout := checkout, handling := handling } := by
      intro handling hhandled hcalls
      have hgrows : s.Grows { s with checkout := checkout, handling := handling } :=
        ⟨List.prefix_rfl, hprefix, List.prefix_rfl, List.prefix_rfl⟩
      exact { inputs := hinputs, journal := hjournal, unexpired := hepoch, records := hrecords
              results := h.results, replies := h.replies, submits := h.submits
              handled := fun v src hv => by
                obtain ⟨call, hcall, hnames⟩ := hhandled v src hv
                exact ⟨call, hcall, hnames.mono hgrows⟩
              calls := hcalls
              commits := fun e he => (hcommits e he).mono hgrows
              works := fun work hwork => (h.works work hwork).mono hgrows
              served := fun work hwork => (h.served work hwork).mono hgrows }
    cases hnext with
    | idle =>
      simp only [hw] at hstep
      obtain rfl := Option.some.inj hstep
      obtain ⟨hhandled, hcalls⟩ := @OrderPath.Inv.handled_update _ _ _ _ none _ _ h hworkers
        (by rintro _ ⟨⟩) (by rintro _ ⟨⟩)
      exact hstays _ hhandled hcalls
    | next =>
      simp only [hw] at hstep
      obtain rfl := Option.some.inj hstep
      obtain ⟨hhandled, hcalls⟩ := @OrderPath.Inv.handled_update _ _ _ _ (s.handling w) _ _ h hworkers
        (fun src hsrc => by
          obtain ⟨call', hcall', hnames⟩ := h.handled w src hsrc
          cases hworker.symm.trans hcall'
          exact ⟨_, rfl, hnames⟩)
        (fun call' hcall' => by
          cases hcall'
          exact h.calls w call hworker)
      rw [Function.update_eq_self] at hhandled hcalls
      exact hstays _ hhandled hcalls
  · -- the call returns, and its results are published
    rw [hreturns, List.drop_left] at hstep
    obtain ⟨results, hstart, rfl⟩ := Option.map_eq_some_iff.mp hstep
    have hgrows : s.Grows { s with checkout := checkout, results := results
                                   handling := Function.update s.handling w none } :=
      ⟨List.prefix_rfl, hprefix, (Relay.State.start_grows hstart).events, List.prefix_rfl⟩
    obtain ⟨hhandled, hcalls⟩ := @OrderPath.Inv.handled_update _ _ _ _ none _ _ h hworkers
      (by rintro _ ⟨⟩) (by cases scan <;> rintro _ ⟨⟩)
    have hnew : ret ∈ checkout.returns := hreturns ▸ List.mem_append_right _ (List.mem_singleton_self _)
    have hwork := h.returned_workOk hdigest hworker hjournal hnew hid _ rfl hgrows
    exact { inputs := hinputs, journal := hjournal, unexpired := hepoch, records := hrecords
            results := h.results.start hstart, replies := h.replies, submits := h.submits
            handled := fun v src hv => by
              obtain ⟨call, hcall, hnames⟩ := hhandled v src hv
              exact ⟨call, hcall, hnames.mono hgrows⟩
            calls := hcalls
            commits := fun e he => (hcommits e he).mono hgrows
            works := fun work hmem => by
              obtain ⟨-, rfl⟩ := Relay.State.start_eq_some hstart
              rcases List.mem_append.mp hmem with hold | hlast
              · exact (h.works work hold).mono hgrows
              · exact List.mem_singleton.mp hlast ▸ hwork
            served := fun work hwork => (h.served work hwork).mono hgrows }

/-- A service receives a command. -/
lemma OrderPath.Inv.serve {n : ℕ} {service : Service} {traceparent tracestate : String}
    (h : s.Inv env orderId)
    (hstep : s.step env orderId (.serve w n service traceparent tracestate) = some s') :
    s'.Inv env orderId := by
  obtain ⟨-, hstep⟩ := Option.ite_none_right_eq_some.mp hstep
  obtain ⟨command, hn, hstep⟩ := Option.bind_eq_some_iff.mp hstep
  obtain ⟨reply, hreply, hstep⟩ := Option.bind_eq_some_iff.mp hstep
  obtain ⟨replies, hstart, rfl⟩ := Option.map_eq_some_iff.mp hstep
  have hreplies : Replies env command reply := by
    refine ⟨service, traceparent, tracestate, ?_⟩
    cases hservice : service.reply env.resultHash command.subject
        (command.data.traced traceparent tracestate) with
    | error text =>
      rw [hservice] at hreply
      cases hreply
    | ok reply' =>
      rw [hservice] at hreply
      rw [Option.some.inj hreply]
  have hgrows : s.Grows { s with replies := replies } :=
    ⟨List.prefix_rfl, List.prefix_rfl, List.prefix_rfl, (Relay.State.start_grows hstart).events⟩
  refine h.of_streams hgrows rfl rfl h.results rfl (h.replies.start hstart) h.submits
    fun work hwork => ?_
  obtain ⟨-, rfl⟩ := Relay.State.start_eq_some hstart
  rcases List.mem_append.mp hwork with hold | hnew
  · exact (h.served work hold).mono hgrows
  · obtain rfl := List.mem_singleton.mp hnew
    exact ⟨command, reply, hn, rfl, hreplies⟩

/-- Every step keeps the invariant. -/
lemma OrderPath.Inv.step (hdigest : Function.Injective env.digest) (h : s.Inv env orderId)
    (hserved : action.Served) (hstep : s.step env orderId action = some s') : s'.Inv env orderId := by
  cases action with
  | submit envelope =>
    obtain ⟨hid, hstep⟩ := Option.ite_none_right_eq_some.mp hstep
    obtain rfl := Option.some.inj hstep
    have hgrows : s.Grows { s with submits := s.submits ++ [envelope] } :=
      ⟨List.prefix_append _ _, List.prefix_rfl, List.prefix_rfl, List.prefix_rfl⟩
    refine h.of_streams hgrows rfl rfl h.results rfl h.replies (fun e he => ?_)
      fun work hwork => (h.served work hwork).mono hgrows
    rcases List.mem_append.mp he with hold | hnew
    · exact h.submits e hold
    · exact List.mem_singleton.mp hnew ▸ hid
  | receive => exact h.receive hserved hstep
  | checkout a =>
    obtain ⟨⟨hinternal, -⟩, hstep⟩ := Option.ite_none_right_eq_some.mp hstep
    obtain ⟨checkout, hcheckout, rfl⟩ := Option.map_eq_some_iff.mp hstep
    exact h.keepsCalls (Action.keepsCalls_of_isInternal hinternal) hcheckout
  | commit => exact h.commit hdigest hstep
  | publish => exact h.relayed hstep
  | ack =>
    obtain ⟨-, hstep⟩ := Option.ite_none_right_eq_some.mp hstep
    exact h.relayed hstep
  | announced w =>
    obtain ⟨t, ht, hstep⟩ := Option.bind_eq_some_iff.mp hstep
    obtain ⟨checkout, hcheckout, rfl⟩ := Option.map_eq_some_iff.mp hstep
    have hsame : t.checkout = s.checkout := by
      obtain ⟨results, -, rfl⟩ := Option.map_eq_some_iff.mp ht
      rfl
    exact (h.relayed ht).keepsCalls rfl (hsame ▸ hcheckout)
  | fail w =>
    simp only [OrderPath.step] at hstep
    obtain ⟨t, ht, hstep⟩ := Option.bind_eq_some_iff.mp hstep
    obtain ⟨checkout, hcheckout, rfl⟩ := Option.map_eq_some_iff.mp hstep
    obtain ⟨results, -, rfl⟩ := Option.map_eq_some_iff.mp ht
    have hinv := h.relayed ht
    have hworkers : checkout.workers = Function.update s.checkout.workers w .idle := by
      cases hcheckout
      rfl
    obtain ⟨hhandled, hcalls⟩ := @OrderPath.Inv.handled_update _ _ _ _ none _ _ hinv hworkers
      (by rintro _ ⟨⟩) (by rintro _ ⟨⟩)
    exact hinv.checkout _ hcheckout trivial (by rintro ⟨⟩) (by rintro _ _ ⟨⟩) hhandled hcalls
  | serve => exact h.serve hstep
  | reply a =>
    obtain ⟨replies, hreplies, rfl⟩ := Option.map_eq_some_iff.mp hstep
    have hgrows : s.Grows { s with replies := replies } :=
      ⟨List.prefix_rfl, List.prefix_rfl, List.prefix_rfl, (Relay.State.step_grows hreplies).events⟩
    refine h.of_streams hgrows rfl rfl h.results rfl (h.replies.step hreplies) h.submits
      fun work hwork => ?_
    exact (h.served work (Relay.State.step_started hreplies ▸ hwork)).mono hgrows

/-- The invariant holds in the beginning. -/
lemma OrderPath.Inv.init : OrderPath.Inv env orderId {} where
  inputs := ⟨.init, by rintro _ _ _ ⟨⟩, fun pre e hpre => by simpa using List.prefix_nil.mp hpre⟩
  journal := .init
  unexpired := rfl
  records := .init
  results := .init
  replies := .init
  submits := fun _ h => (List.not_mem_nil h).elim
  handled := by rintro _ _ ⟨⟩
  calls := by rintro _ _ ⟨⟩
  commits := fun _ h => (List.not_mem_nil h).elim
  works := fun _ h => (List.not_mem_nil h).elim
  served := fun _ h => (List.not_mem_nil h).elim

/-- The invariant holds in every state that a run reaches. -/
lemma OrderPath.inv_of_run {actions : List OrderPathAction} (hdigest : Function.Injective env.digest)
    (hserved : ∀ action ∈ actions, action.Served)
    (hrun : StepSystem.run (OrderPath.step env orderId) {} actions = some s) : s.Inv env orderId := by
  refine StepSystem.run_invariant (fun t action t' ht hok hstep => ?_) .init
    (StepSystem.Along.of_forall (fun action ha _ => hserved action ha) _) hrun
  exact OrderPath.Inv.step hdigest ht hok hstep

end Steps

end Boutique
