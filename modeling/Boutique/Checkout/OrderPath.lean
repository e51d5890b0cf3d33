import Boutique.Lib.Relay
import Boutique.Checkout.Compensation
import Boutique.Checkout.ContractRuns
import Boutique.Checkout.Replay

/-!
# An order among its services

The checkout system around one order, with the streams that connect it to the frontend and to the payment
and shipping services: the submit commands, the results that checkout publishes, and the replies of the
services.  A message is delivered until it is acknowledged.  Checkout passes it to `ApplyOrder`, publishes
the results that the call returns, and acknowledges it if all of them were acknowledged (`processMessage`,
`finishTransition`, `publishResults`); `claimDeadline` publishes in the same way.  A service replies to a
command, publishes the reply and acknowledges the command.  Workers fail at any point, publications are
lost, repeated and deduplicated, and each reply may come from another configuration of its service.

The results journal of the order does not expire during a run.
-/

namespace Boutique

open Payment (PaymentEnv Reply processCommand)
open Shipping (ShippingEnv buildShippingOutcome)

/-! ## The services -/

/-- A service that replies to commands, in some configuration. -/
inductive Service where
  | payment (env : PaymentEnv)
  | shipping (env : ShippingEnv)

/-- The reply of a service: `processCommand` of the payment service, `buildShippingOutcome` of the shipping
service.  All services of a deployment make result IDs with one hash. -/
def Service.reply (resultHash : String → String → String) (service : Service) (subject : ResultSubject)
    (envelope : MessageEnvelope) : Except String Reply :=
  match service with
  | .payment env => processCommand { env with resultHash := resultHash } subject envelope
  | .shipping env => buildShippingOutcome { env with resultHash := resultHash } subject envelope

/-- A message as it is delivered, with another trace context. -/
def MessageEnvelope.traced (envelope : MessageEnvelope) (traceparent tracestate : String) :
    MessageEnvelope :=
  { envelope with traceparent := traceparent, tracestate := tracestate }

/-- A delivered message is the one that was sent. -/
lemma MessageEnvelope.traced_same (envelope : MessageEnvelope) (traceparent tracestate : String) :
    SameMessage envelope (envelope.traced traceparent tracestate) := ⟨_, _, rfl⟩

/-- The reply is one of a service to a command. -/
def Replies (env : CheckoutEnv) (command : ResultMessage) (reply : Reply) : Prop :=
  ∃ (service : Service) (traceparent tracestate : String), service.reply env.resultHash command.subject
    (command.data.traced traceparent tracestate) = .ok reply

/-! ## The system -/

/-- A message of the consumers of checkout, by its number in its stream. -/
inductive Source where
  | submit (n : ℕ)
  | reply (n : ℕ)
  deriving DecidableEq

/-- The checkout system, the messages that its calls handle, the submit commands, the results that checkout
publishes and the replies to them.  Results without a source are those of a fired deadline. -/
structure OrderPath where
  checkout : CheckoutState := {}
  handling : ℕ → Option Source := fun _ => none
  submits : List MessageEnvelope := []
  results : Relay.State (Option Source) ResultMessage := {}
  replies : Relay.State ℕ Reply := {}

/-- The steps: the frontend submits the order; a worker of checkout receives a message; its call goes on or
ends; it publishes results or acknowledges the message; `claimDeadline` has published; a worker fails; a
service receives a command, publishes a reply or acknowledges the command. -/
inductive OrderPathAction where
  | submit (envelope : MessageEnvelope)
  | receive (w : ℕ) (source : Source) (now : Time) (projections : PersistedState)
      (traceparent tracestate : String)
  | checkout (action : Action)
  | commit (w : ℕ) (delivery : Delivery)
  | publish (w : ℕ) (outcome : Publish.Outcome)
  | ack (w : ℕ) (arrives : Bool)
  | announced (w : ℕ)
  | fail (w : ℕ)
  | serve (w n : ℕ) (service : Service) (traceparent tracestate : String)
  | reply (action : Relay.Action)

/-- The actions of the checkout system that the streams have no part in. -/
def Action.isInternal : Action → Bool
  | .load _ | .scan _ _ | .loadDeadline _ | .removeOrphan _ | .acquire _ | .process _ _
  | .completeLease _ _ | .completeDeadline _ | .expireLease _ => true
  | .deliver _ _ _ | .commit _ _ | .publish _ | .fail _ | .expireJournal => false

/-- The worker that the action belongs to has nothing to publish. -/
def OrderPath.free (s : OrderPath) : Action → Bool
  | .scan w _ => (s.results.jobs w).isNone
  | _ => true

/-- The input that a message is for `ApplyOrder`.  A submit command that cannot be decoded is none. -/
def OrderPath.input (s : OrderPath) (source : Source) (projections : PersistedState)
    (traceparent tracestate : String) : Option OrderInput :=
  match source with
  | .submit n => s.submits[n]?.bind fun envelope =>
    (decodeOrderCommand (envelope.traced traceparent tracestate)).toOption.map fun payload =>
      .command (envelope.traced traceparent tracestate) payload projections
  | .reply n => s.replies.events[n]?.map fun reply =>
    .event reply.subject (reply.data.traced traceparent tracestate)

/-- What a worker does when its `Eval` has ended: it starts to publish the results that its call returns,
goes on with the next attempt, or gives up. -/
def OrderPath.evaluated (s : OrderPath) (w : ℕ) (checkout : CheckoutState) : Option OrderPath :=
  match checkout.returns.drop s.checkout.returns.length with
  | ret :: _ =>
    (s.results.start w ⟨s.handling w, ret.outcome.results⟩).map fun results =>
      { s with checkout := checkout, results := results
               handling := Function.update s.handling w none }
  | [] =>
    match checkout.workers w with
    | .applying _ _ => some { s with checkout := checkout }
    | _ => some { s with checkout := checkout, handling := Function.update s.handling w none }

/-- A step of the relay of the results. -/
def OrderPath.relayed (s : OrderPath) (action : Relay.Action) : Option OrderPath :=
  (s.results.step ResultMessage.messageId action).map fun results => { s with results := results }

/-- One step. -/
def OrderPath.step (env : CheckoutEnv) (orderId : String) (s : OrderPath) :
    OrderPathAction → Option OrderPath
  | .submit envelope =>
    if envelope.messageId = orderId then some { s with submits := s.submits ++ [envelope] } else none
  | .receive w source now projections traceparent tracestate =>
    if some source ∉ s.results.acked ∧ (s.results.jobs w).isNone then
      (s.input source projections traceparent tracestate).bind fun input =>
        (Boutique.step env orderId s.checkout (.deliver w input now)).map fun checkout =>
          { s with checkout := checkout, handling := Function.update s.handling w (some source) }
    else none
  | .checkout action =>
    if action.isInternal ∧ s.free action then
      (Boutique.step env orderId s.checkout action).map fun checkout => { s with checkout := checkout }
    else none
  | .commit w delivery =>
    (Boutique.step env orderId s.checkout (.commit w delivery)).bind (s.evaluated w)
  | .publish w outcome => s.relayed (.publish w outcome)
  | .ack w arrives =>
    if (s.results.jobs w).any (fun job => job.work.source.isSome) then s.relayed (.finish w arrives)
    else none
  | .announced w =>
    (s.relayed (.finish w true)).bind fun s' =>
      (Boutique.step env orderId s.checkout (.publish w)).map fun checkout =>
        { s' with checkout := checkout }
  | .fail w =>
    (s.relayed (.stop w)).bind fun s' =>
      (Boutique.step env orderId s.checkout (.fail w)).map fun checkout =>
        { s' with checkout := checkout, handling := Function.update s.handling w none }
  | .serve w n service traceparent tracestate =>
    if n ∉ s.replies.acked then
      s.results.events[n]?.bind fun command =>
        (service.reply env.resultHash command.subject
          (command.data.traced traceparent tracestate)).toOption.bind fun reply =>
            (s.replies.start w ⟨n, [reply]⟩).map fun replies => { s with replies := replies }
    else none
  | .reply action =>
    (s.replies.step Reply.messageId action).map fun replies => { s with replies := replies }

/-! ## Steps of the checkout system -/

section Checkout

variable {env : CheckoutEnv} {orderId : String} {c c' : CheckoutState} {w : ℕ}

/-- What an internal action does to a worker: nothing, or it loads, or `claimDeadline` goes on. -/
inductive Worker.Advances : Worker → Worker → Prop where
  | same (worker : Worker) : Advances worker worker
  | loaded {call call' : Call} {scan : Option Scan} (hinput : call'.input = call.input) :
      Advances (.applying call scan) (.applying call' scan)
  | scans {worker worker' : Worker} (h : ∀ call scan, worker ≠ .applying call scan)
      (h' : ∀ call, worker' ≠ .applying call none) : Advances worker worker'

/-- A change of one worker advances all of them if it advances this one. -/
lemma Worker.Advances.update {worker : Worker} (h : (c.workers w).Advances worker) (v : ℕ) :
    (c.workers v).Advances (Function.update c.workers w worker v) := by
  by_cases hv : v = w
  · rw [hv, Function.update_self]
    exact h
  · rw [Function.update_of_ne hv]
    exact .same _

/-- A worker outside of a call stays outside of the calls for messages. -/
lemma Worker.Advances.of_eq {worker worker' : Worker} (hworker : c.workers w = worker)
    (h : ∀ call scan, worker ≠ .applying call scan) (h' : ∀ call, worker' ≠ .applying call none) :
    (c.workers w).Advances worker' :=
  .scans (hworker ▸ h) h'

/-- The actions that start and end no call for a message. -/
def Action.keepsCalls : Action → Bool
  | .deliver _ _ _ | .commit _ _ | .fail _ | .expireJournal => false
  | .load _ | .scan _ _ | .loadDeadline _ | .removeOrphan _ | .acquire _ | .process _ _ | .publish _
  | .completeLease _ _ | .completeDeadline _ | .expireLease _ => true

/-- Internal actions are such. -/
lemma Action.keepsCalls_of_isInternal {action : Action} (h : action.isInternal = true) :
    action.keepsCalls = true := by
  cases action <;> first | rfl | cases h

/-- What such an action does to the workers. -/
lemma step_advances {action : Action} (hkeeps : action.keepsCalls = true)
    (hstep : step env orderId c action = some c') (v : ℕ) :
    (c.workers v).Advances (c'.workers v) := by
  cases action with
  | deliver | commit | fail | expireJournal => cases hkeeps
  | publish w =>
    simp only [step] at hstep
    split at hstep
    · next hworker =>
      cases hstep
      exact Worker.Advances.update (.of_eq hworker (by rintro _ _ ⟨⟩) (by rintro _ ⟨⟩)) v
    · cases hstep
  | expireLease workId =>
    cases hstep
    exact .same _
  | load w =>
    simp only [step] at hstep
    split at hstep
    · next call scan hworker =>
      split at hstep
      · cases hstep
        exact Worker.Advances.update (hworker ▸ .loaded rfl) v
      · cases hstep
    · cases hstep
  | scan w now =>
    simp only [step] at hstep
    split at hstep
    · next hworker _ =>
      split_ifs at hstep
      cases hstep
      exact Worker.Advances.update (.of_eq hworker (by rintro _ _ ⟨⟩) (by rintro _ ⟨⟩)) v
    · cases hstep
  | loadDeadline w =>
    simp only [step] at hstep
    split at hstep
    · next hworker =>
      split at hstep
      all_goals
        cases hstep
        exact Worker.Advances.update (.of_eq hworker (by rintro _ _ ⟨⟩) (by rintro _ ⟨⟩)) v
    · cases hstep
  | removeOrphan w =>
    simp only [step] at hstep
    split at hstep
    · next hworker =>
      cases hstep
      exact Worker.Advances.update (.of_eq hworker (by rintro _ _ ⟨⟩) (by rintro _ ⟨⟩)) v
    · cases hstep
  | acquire w =>
    simp only [step] at hstep
    split at hstep
    · next hworker =>
      split at hstep
      all_goals
        cases hstep
        exact Worker.Advances.update (.of_eq hworker (by rintro _ _ ⟨⟩) (by rintro _ ⟨⟩)) v
    · cases hstep
  | process w now =>
    simp only [step] at hstep
    split at hstep
    · next hworker =>
      split_ifs at hstep
      all_goals
        cases hstep
        exact Worker.Advances.update (.of_eq hworker (by rintro _ _ ⟨⟩) (by rintro _ ⟨⟩)) v
    · cases hstep
  | completeLease w now =>
    simp only [step] at hstep
    split at hstep
    · next hworker =>
      split at hstep
      all_goals
        cases hstep
        exact Worker.Advances.update (.of_eq hworker (by rintro _ _ ⟨⟩) (by rintro _ ⟨⟩)) v
    · cases hstep
  | completeDeadline w =>
    simp only [step] at hstep
    split at hstep
    · next hworker =>
      cases hstep
      exact Worker.Advances.update (.of_eq hworker (by rintro _ _ ⟨⟩) (by rintro _ ⟨⟩)) v
    · cases hstep

/-- A delivered input starts a call of an idle worker. -/
lemma step_deliver {input : OrderInput} {now : Time}
    (hstep : step env orderId c (.deliver w input now) = some c') :
    c' = c.startCall w input now none := by
  simp only [step] at hstep
  split at hstep
  · split_ifs at hstep
    exact (Option.some.inj hstep).symm
  · cases hstep

/-- An action other than a commit keeps the log and the returned calls. -/
lemma step_keeps {action : Action} (hcommit : ∀ w d, action ≠ .commit w d)
    (hstep : step env orderId c action = some c') : c'.log = c.log ∧ c'.returns = c.returns := by
  cases step_cases hstep with
  | abandoned w | committedLost w | committed w | replayed w => exact (hcommit _ _ rfl).elim
  | _ => exact ⟨rfl, rfl⟩

/-- An action other than the expiry of the journal keeps its epoch. -/
lemma step_epoch {action : Action} (hexpire : action ≠ .expireJournal)
    (hstep : step env orderId c action = some c') : c'.epoch = c.epoch := by
  cases step_cases hstep with
  | journalExpired => exact (hexpire rfl).elim
  | _ => rfl

/-- What an `Eval` does: a call of the worker is abandoned or returns, and the input of the call may be
committed. -/
structure Evaluated (c c' : CheckoutState) (w : ℕ) (call : Call) (scan : Option Scan) : Prop where
  worker : c.workers w = .applying call scan
  log : c'.log = c.log ∨ ∃ e, c'.log = c.log ++ [e] ∧ e.input = call.input
  ends : (c'.returns = c.returns ∧ ∃ worker, Abandoned call scan worker ∧
      c'.workers = Function.update c.workers w worker) ∨
    ∃ ret, c'.returns = c.returns ++ [ret] ∧ ret.messageId = call.input.messageId ∧
      c'.workers = Function.update c.workers w (Worker.returned scan ret.outcome.results)

/-- Every commit action is such an `Eval`. -/
lemma step_evaluated {delivery : Delivery} (hstep : step env orderId c (.commit w delivery) = some c') :
    ∃ call scan, Evaluated c c' w call scan := by
  cases step_cases hstep with
  | stopped _ hcommit => exact (hcommit _ _ rfl).elim
  | abandoned _ hworker hnext =>
    exact ⟨_, _, hworker, Or.inl rfl, Or.inl ⟨rfl, _, hnext, rfl⟩⟩
  | committedLost _ hworker _ _ _ _ _ hnext =>
    exact ⟨_, _, hworker, Or.inr ⟨_, rfl, rfl⟩, Or.inl ⟨rfl, _, hnext, rfl⟩⟩
  | committed _ hworker =>
    exact ⟨_, _, hworker, Or.inr ⟨_, rfl, rfl⟩, Or.inr ⟨_, rfl, rfl, rfl⟩⟩
  | replayed _ hworker =>
    exact ⟨_, _, hworker, Or.inl rfl, Or.inr ⟨_, rfl, rfl, rfl⟩⟩

/-! ### Deadline records -/

/-- The deadline record of a worker. -/
def Worker.record : Worker → Option DeadlineRecord
  | .applying _ scan => scan.map Scan.record
  | .found _ record | .completing record => some record
  | .acquired scan | .published scan => some scan.record
  | .publishing scan _ => some scan.record
  | .idle | .due _ | .orphan => none

/-- The work ID of the record is made by `stableID`. -/
def DeadlineRecord.Named (env : CheckoutEnv) (record : DeadlineRecord) : Prop :=
  ∃ parts, record.workId = env.stableID parts

/-- The records of the index and of the workers are named so, and a call for a deadline has the input of
its record. -/
structure RecordsOk (env : CheckoutEnv) (orderId : String) (c : CheckoutState) : Prop where
  index : ∀ record, c.keys.deadline = some record → record.Named env
  workers : ∀ w record, (c.workers w).record = some record → record.Named env
  calls : ∀ w call scan, c.workers w = .applying call (some scan) →
    call.input = scan.record.input orderId

/-- A step that changes one worker keeps the records if it does for this worker. -/
lemma RecordsOk.of_worker (h : RecordsOk env orderId c) (worker : Worker)
    (hworkers : c'.workers = Function.update c.workers w worker)
    (hindex : ∀ record, c'.keys.deadline = some record → record.Named env)
    (hrecord : ∀ record, worker.record = some record → record.Named env)
    (hcall : ∀ call scan, worker = .applying call (some scan) → call.input = scan.record.input orderId) :
    RecordsOk env orderId c' where
  index := hindex
  workers := by
    intro v record hv
    rw [hworkers] at hv
    by_cases heq : v = w
    · rw [heq, Function.update_self] at hv
      exact hrecord record hv
    · rw [Function.update_of_ne heq] at hv
      exact h.workers v record hv
  calls := by
    intro v call scan hv
    rw [hworkers] at hv
    by_cases heq : v = w
    · rw [heq, Function.update_self] at hv
      exact hcall call scan hv
    · rw [Function.update_of_ne heq] at hv
      exact h.calls v call scan hv

/-- The record in the index after a commit is the old one or one of `newDeadlineRecord`. -/
lemma named_of_write {keys : OrderKeys} {input : OrderInput} {now : Time} {view : OrderView}
    {args : CommitArgs} (hargs : prepareCommit env orderId input now view = .ok args)
    (hindex : ∀ record, keys.deadline = some record → record.Named env) :
    ∀ record, (keys.write args).deadline = some record → record.Named env := by
  intro record hrecord
  have hmode := (prepareCommit_prepared hargs).deadline
  simp only [OrderKeys.write] at hrecord
  split at hrecord
  · next hset =>
    cases hrecord
    rw [hset] at hmode
    unfold deadlineMode at hmode
    split_ifs at hmode
    split at hmode
    · cases hmode
    · split_ifs at hmode
      cases hmode
      exact ⟨_, rfl⟩
  · cases hrecord
  · exact hindex record hrecord

/-- Every step keeps the records. -/
lemma RecordsOk.step {action : Action} (h : RecordsOk env orderId c)
    (hstep : step env orderId c action = some c') : RecordsOk env orderId c' := by
  cases step_cases hstep with
  | stopped | scanned | orphaned =>
    exact h.of_worker _ rfl h.index (by rintro _ ⟨⟩) (by rintro _ _ ⟨⟩)
  | started w input now =>
    exact h.of_worker (.applying { serial := c.calls, input := input, now := now } none) rfl h.index
      (by rintro _ ⟨⟩) (by rintro _ _ ⟨⟩)
  | @loaded w call scan hworker =>
    refine h.of_worker _ rfl h.index (fun record hrecord => ?_) (fun call' scan' hcall => ?_)
    · exact h.workers w record (by rw [hworker]; exact hrecord)
    · cases hcall
      exact h.calls w call scan' hworker
  | @abandoned w call scan _ _ hworker hnext =>
    cases hnext with
    | idle => exact h.of_worker _ rfl h.index (by rintro _ ⟨⟩) (by rintro _ _ ⟨⟩)
    | next =>
      refine h.of_worker _ rfl h.index (fun record hrecord => ?_) (fun call' scan' hcall => ?_)
      · exact h.workers w record (by rw [hworker]; exact hrecord)
      · cases hcall
        exact h.calls w call scan' hworker
  | @committedLost w call scan _ _ _ _ hworker _ hargs _ _ _ hnext =>
    have hindex := named_of_write hargs h.index
    cases hnext with
    | idle => exact h.of_worker _ rfl hindex (by rintro _ ⟨⟩) (by rintro _ _ ⟨⟩)
    | next =>
      refine h.of_worker _ rfl hindex (fun record hrecord => ?_) (fun call' scan' hcall => ?_)
      · exact h.workers w record (by rw [hworker]; exact hrecord)
      · cases hcall
        exact h.calls w call scan' hworker
  | @committed w call scan _ args _ hworker _ hargs =>
    refine h.of_worker (Worker.returned scan args.journal) rfl (named_of_write hargs h.index)
      (fun record hrecord => ?_) (by cases scan <;> rintro _ _ ⟨⟩)
    cases scan with
    | none => cases hrecord
    | some scan => exact h.workers w record (by rw [hworker]; exact hrecord)
  | @replayed w call scan _ _ _ stored hworker =>
    refine h.of_worker (Worker.returned scan stored) rfl h.index
      (fun record hrecord => ?_) (by cases scan <;> rintro _ _ ⟨⟩)
    cases scan with
    | none => cases hrecord
    | some scan => exact h.workers w record (by rw [hworker]; exact hrecord)
  | found w hrecord =>
    refine h.of_worker _ rfl h.index ?_ (by rintro _ _ ⟨⟩)
    rintro _ ⟨⟩
    exact h.index _ hrecord
  | orphanRemoved w =>
    refine h.of_worker .idle rfl (fun record hrecord => ?_) (by rintro _ ⟨⟩) (by rintro _ _ ⟨⟩)
    refine h.index record ?_
    change (removeOrphanDeadlineScript c.keys).deadline = some record at hrecord
    unfold removeOrphanDeadlineScript at hrecord
    split_ifs at hrecord <;> exact hrecord
  | acquired w hworker | leaseFoundComplete w hworker =>
    refine h.of_worker _ rfl h.index ?_ (by rintro _ _ ⟨⟩)
    rintro _ ⟨⟩
    exact h.workers w _ (by rw [hworker]; rfl)
  | @processed w now scan hworker =>
    refine h.of_worker _ rfl h.index ?_ ?_
    · rintro _ ⟨⟩
      exact h.workers w _ (by rw [hworker]; rfl)
    · rintro _ _ ⟨⟩
      rfl
  | published w hworker | leaseCompleted w hworker =>
    refine h.of_worker _ rfl h.index ?_ (by rintro _ _ ⟨⟩)
    rintro _ ⟨⟩
    exact h.workers w _ (by rw [hworker]; rfl)
  | @deadlineCompleted w record hworker =>
    refine h.of_worker .idle rfl (fun r hr => ?_) (by rintro _ ⟨⟩) (by rintro _ _ ⟨⟩)
    refine h.index r ?_
    change (completeDeadlineScript c.keys record).deadline = some r at hr
    unfold completeDeadlineScript at hr
    split_ifs at hr
    exact hr
  | journalExpired => exact ⟨h.index, h.workers, h.calls⟩
  | leaseExpired => exact ⟨h.index, h.workers, h.calls⟩

/-- There are no records in the beginning. -/
lemma RecordsOk.init : RecordsOk env orderId {} :=
  ⟨by rintro _ ⟨⟩, by rintro _ _ ⟨⟩, by rintro _ _ _ ⟨⟩⟩

end Checkout

end Boutique
