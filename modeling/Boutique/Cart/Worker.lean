import Boutique.Cart.Aggregate
import Boutique.Lib.Publish

/-!
# The cart command worker

`ConsumeCommandsAsync`, `ProcessCommandAsync` and `PublishResultAsync` of
`cartservice/src/messaging/NatsCartCommandWorker.cs` with `HandleAsync` of `CartCommandProcessor.cs`, over
the aggregate of one user.  A command stays in its stream until it is acknowledged and is delivered any
number of times, to any replicas.  A delivery handles the command in the store, publishes the result and
acknowledges the command; it may end after every step, and the replies of a publish and of an
acknowledgement may be lost.

The invariant of a delivery says where it is: a result that is published is one that a commit wrote, and
what is acknowledged is published.
-/

namespace Boutique.CartStore

/-! ## Messages -/

/-- What the `Any` of a command unpacks to. -/
inductive CommandPayload where
  | addItem (command : CartAddItemCommand)
  | clear (command : CartClearCommand)
  | other

/-- A message of the stream `BOUTIQUE_COMMANDS`, with the payload of its envelope. -/
structure CommandMessage where
  subject : String
  envelope : MessageEnvelope
  payload : CommandPayload

/-- The aggregate ID under which `ConsumeCommandsAsync` queues a command. -/
def CommandMessage.aggregateId (message : CommandMessage) : String :=
  if isBlank message.envelope.aggregateId then message.envelope.messageId
  else message.envelope.aggregateId

/-- The call that `ProcessCommandAsync` makes for a command.  `contains` is what the product catalog
answers to it. -/
def CommandMessage.call (message : CommandMessage) (contains : Bool) : Except CartError Call :=
  if isBlank message.aggregateId then
    .error (.invalidOperation "Cart command aggregate identity is missing.")
  else if message.subject = "boutique.cmd.cart.add-item.v1" then
    match message.payload with
    | .addItem command =>
      .ok { command := .addItem command, envelope := message.envelope, contains := contains }
    | _ => .error (.invalidOperation "Cart add-item payload type is invalid.")
  else if message.subject = "boutique.cmd.cart.clear.v1" then
    match message.payload with
    | .clear command =>
      .ok { command := .clear command, envelope := message.envelope, contains := contains }
    | _ => .error (.invalidOperation "Cart clear payload type is invalid.")
  else
    .error (.invalidOperation ("Unsupported cart command subject " ++ message.subject ++ "."))

/-- A message of the stream `BOUTIQUE_EVENTS` that `PublishResultAsync` has sent. -/
structure ResultEvent where
  subject : String
  messageId : String
  envelope : ResultEnvelope
  deriving DecidableEq

/-- `CartTelemetry.Inject`: the trace of the activity, if there is one. -/
def ResultEnvelope.inject (envelope : ResultEnvelope) : Option (String × String) → ResultEnvelope
  | none => envelope
  | some trace => { envelope with traceparent := trace.1, tracestate := trace.2 }

/-- What `PublishResultAsync` sends for a result. -/
def CartStoredResult.event (result : CartStoredResult) (trace : Option (String × String)) :
    ResultEvent where
  subject := result.subject
  messageId := result.messageId
  envelope := result.envelope.inject trace

/-! ## Steps -/

/-- Where a delivery is; the number is that of its message. -/
inductive Delivery where
  | unused
  | handling (n : ℕ)
  | published (n : ℕ)
  | settled

/-- The two streams, the messages that are acknowledged, the aggregate and the deliveries. -/
structure Worker where
  stream : List CommandMessage := []
  events : List ResultEvent := []
  acked : List ℕ := []
  store : State ℕ := {}
  delivery : ℕ → Delivery := fun _ => .unused

/-- The steps: a producer's message is stored; a message is delivered; a call for it runs a script, or
the commit of one arrives; its result is published; the message is acknowledged, and the acknowledgement
arrives or not; a delivery ends before. -/
inductive WorkerAction where
  | enqueue (message : CommandMessage)
  | deliver (c n : ℕ) (contains : Bool)
  | script (action : Action ℕ)
  | publish (c : ℕ) (trace : Option (String × String)) (outcome : Publish.Outcome)
  | ack (c : ℕ) (arrives : Bool)
  | abandon (c : ℕ)

/-- The scripts of calls that have started. -/
def Action.continues {κ : Type*} : Action κ → Bool
  | .start _ _ => false
  | _ => true

/-- The worker with another place of a delivery. -/
def Worker.setDelivery (s : Worker) (c : ℕ) (delivery : Delivery) : Worker :=
  { s with delivery := Function.update s.delivery c delivery }

/-- The publish of an event: what is not acknowledged ends the delivery. -/
def Worker.publish (s : Worker) (c n : ℕ) (event : ResultEvent) (outcome : Publish.Outcome) :
    Option Worker :=
  (Publish.publish ResultEvent.messageId s.events event outcome).map fun (events, acknowledged) =>
    { s with events := events }.setDelivery c (if acknowledged then .published n else .settled)

variable (env : CartEnv) (userId : String)

/-- One step. -/
def Worker.step (s : Worker) : WorkerAction → Option Worker
  | .enqueue message => some { s with stream := s.stream ++ [message] }
  | .deliver c n contains =>
    match s.delivery c, s.stream[n]? with
    | .unused, some message =>
      if n ∈ s.acked then none
      else
        match message.call contains with
        | .ok call =>
          (s.store.step env userId (.start c call)).map fun store =>
            { s with store := store }.setDelivery c (.handling n)
        | .error _ => some (s.setDelivery c .settled)
    | _, _ => none
  | .script action =>
    if action.continues then
      (s.store.step env userId action).map fun store => { s with store := store }
    else none
  | .publish c trace outcome =>
    match s.delivery c, s.store.phase c with
    | .handling n, .returned _ commit => s.publish c n (commit.result.event trace) outcome
    | _, _ => none
  | .ack c arrives =>
    match s.delivery c with
    | .published n =>
      some ({ s with acked := if arrives then s.acked ++ [n] else s.acked }.setDelivery c .settled)
    | _ => none
  | .abandon c => some (s.setDelivery c .settled)

/-! ## Where calls come from -/

section Sources

variable {κ : Type*} {env : CartEnv} {userId : String} {s s' : State κ} {attempt : Attempt}
  {known : Call → Prop}

/-- The bytes of a result are those of its envelope. -/
def CartStoredResult.Built (env : CartEnv) (result : CartStoredResult) : Prop :=
  result.data = env.envelopeBytes result.envelope

/-- The envelope of a result is the one that its bytes decode to. -/
def CartStoredResult.Decoded (env : CartEnv) (result : CartStoredResult) : Prop :=
  env.parseEnvelope result.data = some result.envelope

/-- An attempt of a known call. -/
def Attempt.From (env : CartEnv) (known : Call → Prop) (attempt : Attempt) : Prop :=
  known attempt.call ∧ attempt.result.Built env

/-- The call of a phase. -/
def Phase.call? : Phase → Option Call
  | .idle => none
  | .load call _ => some call
  | .commit attempt _ => some attempt.call
  | .returned call _ => some call
  | .failed call => some call

/-- What is known of a call in a phase. -/
def Phase.From (env : CartEnv) (known : Call → Prop) (log : List Attempt) : Phase → Prop
  | .load call _ => known call
  | .commit attempt _ => attempt.From env known
  | .returned _ done => (∃ a ∈ log, done.result = a.result) ∨ done.result.Decoded env
  | _ => True

/-- All calls and attempts are those of known calls. -/
structure State.From (env : CartEnv) (known : Call → Prop) (s : State κ) : Prop where
  phases : ∀ c, (s.phase c).From env known s.log
  flying : ∀ a ∈ s.flying, a.From env known
  log : ∀ a ∈ s.log, a.From env known

/-- The call and the result of an attempt. -/
lemma parts_of_prepare {call : Call} {snapshot : ℕ × Option Cart}
    (h : prepare env userId call snapshot = .ok attempt) :
    attempt.call = call ∧ attempt.result.Built env := by
  simp only [prepare, bind_eq_ok] at h
  obtain ⟨cart, -, selected, -, result, hresult, journal, -, hattempt⟩ := h
  obtain rfl := Except.ok.inj hattempt
  simp only [buildResult, bind_eq_ok] at hresult
  obtain ⟨-, -, messageId, -, hresult⟩ := hresult
  obtain rfl := Except.ok.inj hresult
  exact ⟨rfl, rfl⟩

/-- An attempt for a known call is one of a known call. -/
lemma from_of_prepare {call : Call} {snapshot : ℕ × Option Cart} (hknown : known call)
    (h : prepare env userId call snapshot = .ok attempt) : attempt.From env known := by
  obtain ⟨rfl, hbuilt⟩ := parts_of_prepare h
  exact ⟨hknown, hbuilt⟩

/-- What is known of a phase stays known. -/
lemma Phase.From.mono {phase : Phase} {known' : Call → Prop} {log log' : List Attempt}
    (h : phase.From env known log) (hknown : ∀ call, known call → known' call)
    (hlog : log <+: log') : phase.From env known' log' := by
  cases phase with
  | load call _ => exact hknown _ h
  | commit attempt _ => exact ⟨hknown _ h.1, h.2⟩
  | returned call commit =>
    rcases h with ⟨a, ha, hresult⟩ | hdecoded
    · exact Or.inl ⟨a, hlog.subset ha, hresult⟩
    · exact Or.inr hdecoded
  | idle => trivial
  | failed => trivial

/-- Where calls come from, when more of them are known. -/
lemma State.From.mono {known' : Call → Prop} (h : s.From env known)
    (hknown : ∀ call, known call → known' call) : s.From env known' where
  phases := fun c => (h.phases c).mono hknown List.prefix_rfl
  flying := fun a ha => ⟨hknown _ (h.flying a ha).1, (h.flying a ha).2⟩
  log := fun a ha => ⟨hknown _ (h.log a ha).1, (h.log a ha).2⟩

/-- A call that retries is known. -/
lemma from_retryPhase {call : Call} {retries : Retries} {log : List Attempt} (h : known call) :
    (retryPhase call retries).From env known log := by
  unfold retryPhase
  split_ifs
  · exact h
  · trivial

/-- What `parse` returns is decoded. -/
lemma decoded_of_parse {journal : List UInt8} {result : CartStoredResult}
    (h : parse env journal = .ok result) : result.Decoded env := by
  unfold parse at h
  split at h
  · simp only [bind_eq_ok] at h
    obtain ⟨_, -, _, -, _, -, h⟩ := h
    split_ifs at h
    split at h
    · next hparse =>
      obtain rfl := Except.ok.inj h
      exact hparse
    · cases h
  · cases h

/-- A commit is of a known call. -/
lemma State.From.execute (h : s.From env known) (hattempt : attempt.From env known) :
    (s.execute attempt).From env known := by
  rcases s.execute_cases attempt with ⟨heq, -⟩ | ⟨-, -, -, heq⟩
  · rwa [heq]
  · rw [heq]
    refine ⟨fun c => (h.phases c).mono (fun _ => id) (List.prefix_append _ _), h.flying, fun a ha => ?_⟩
    rcases List.mem_append.mp ha with hold | hnew
    · exact h.log a hold
    · obtain rfl := List.mem_singleton.mp hnew
      exact hattempt

/-- The reply to a commit is a result of the log, or one that a journal holds. -/
lemma from_replyPhase (hattempt : attempt.From env known) {retries : Retries} :
    (replyPhase env attempt retries (commitScript s.keys attempt.request).2).From env known
      (s.execute attempt).log := by
  rcases s.execute_cases attempt with ⟨-, ⟨version, journal, hreply, -⟩ | ⟨version, hreply⟩⟩ |
    ⟨-, -, ⟨version, journal, hreply⟩, heq⟩
  · rw [hreply]
    simp only [replyPhase]
    cases hparse : parse env journal with
    | error => trivial
    | ok result => exact Or.inr (decoded_of_parse hparse)
  · rw [hreply]
    exact from_retryPhase hattempt.1
  · rw [heq, hreply]
    exact Or.inl ⟨attempt, List.mem_append_right _ (List.mem_singleton_self _), rfl⟩

variable [DecidableEq κ] {action : Action κ}

/-- A call moves on. -/
lemma State.From.setPhase (h : s.From env known) {c : κ} {phase : Phase}
    (hphase : phase.From env known s.log) : (s.setPhase c phase).From env known := by
  refine ⟨fun c' => ?_, h.flying, h.log⟩
  by_cases hc : c' = c
  · have hnew : (s.setPhase c phase).phase c' = phase := by simp [State.setPhase, hc]
    rwa [hnew]
  · have hold : (s.setPhase c phase).phase c' = s.phase c' := by simp [State.setPhase, hc]
    rw [hold]
    exact h.phases c'

/-- A step makes attempts of known calls only. -/
lemma State.From.step (h : s.From env known) (hstep : s.step env userId action = some s')
    (hstart : ∀ c call, action = .start c call → known call) : s'.From env known := by
  cases action with
  | start c call =>
    simp only [State.step] at hstep
    split at hstep
    · split_ifs at hstep
      split at hstep
      · cases hstep
        exact h.setPhase (hstart c call rfl)
      · cases hstep
        exact h.setPhase trivial
    · cases hstep
  | load c =>
    simp only [State.step] at hstep
    split at hstep
    · next call retries hphase =>
      have hcall : known call := by
        have hfrom := h.phases c
        rwa [hphase] at hfrom
      split at hstep
      · next attempt hprepare =>
        cases hstep
        exact h.setPhase (from_of_prepare hcall hprepare)
      · cases hstep
        exact h.setPhase trivial
    · cases hstep
  | loadLost c =>
    simp only [State.step] at hstep
    split at hstep
    · next call retries hphase =>
      have hcall := h.phases c
      rw [hphase] at hcall
      cases hstep
      exact h.setPhase (from_retryPhase hcall)
    · cases hstep
  | commit c =>
    simp only [State.step] at hstep
    split at hstep
    · next attempt retries hphase =>
      have hattempt := h.phases c
      rw [hphase] at hattempt
      cases hstep
      exact (h.execute hattempt).setPhase (from_replyPhase hattempt)
    · cases hstep
  | commitLost c =>
    simp only [State.step] at hstep
    split at hstep
    · next attempt retries hphase =>
      have hattempt := h.phases c
      rw [hphase] at hattempt
      cases hstep
      have hflying : State.From env known { s with flying := s.flying ++ [attempt] } := by
        refine { h with flying := fun a ha => ?_ }
        rcases List.mem_append.mp ha with hold | hnew
        · exact h.flying a hold
        · obtain rfl := List.mem_singleton.mp hnew
          exact hattempt
      exact hflying.setPhase (from_retryPhase hattempt.1)
    · cases hstep
  | arrive n =>
    simp only [State.step] at hstep
    split at hstep
    · next attempt hfound =>
      cases hstep
      have hexecuted := h.execute (h.flying attempt (List.mem_of_getElem? hfound))
      exact { hexecuted with
        flying := fun a ha => hexecuted.flying a (List.mem_of_mem_eraseIdx ha) }
    · cases hstep
  | cancel c =>
    simp only [State.step] at hstep
    split at hstep
    · cases hstep
      exact h.setPhase trivial
    · cases hstep
      exact h.setPhase trivial
    · cases hstep

/-- The call of a phase stays the same. -/
lemma State.step_call? (hstep : s.step env userId action = some s') {c : κ} {call : Call}
    (h : (s.phase c).call? = some call) : (s'.phase c).call? = some call := by
  have hset : ∀ {t : State κ} {c' : κ} {phase : Phase}, t.phase = s.phase →
      (∀ call, (s.phase c').call? = some call → phase.call? = some call) →
      ((t.setPhase c' phase).phase c).call? = some call := by
    intro t c' phase ht hphase
    simp only [State.setPhase, ht]
    by_cases hc : c = c'
    · subst hc
      rw [Function.update_self]
      exact hphase call h
    · rwa [Function.update_of_ne hc]
  have hretry : ∀ (call : Call) (retries : Retries), (retryPhase call retries).call? = some call := by
    intro call retries
    unfold retryPhase
    split_ifs <;> rfl
  cases action with
  | start c' call' =>
    simp only [State.step] at hstep
    split at hstep
    · next hphase =>
      have hidle : ∀ call, (s.phase c').call? = some call → False := by
        intro call hcall
        rw [hphase] at hcall
        cases hcall
      split_ifs at hstep
      split at hstep
      all_goals
        cases hstep
        exact hset rfl fun call hcall => (hidle call hcall).elim
    · cases hstep
  | load c' =>
    simp only [State.step] at hstep
    split at hstep
    · next call' retries hphase =>
      split at hstep
      · next attempt hprepare =>
        cases hstep
        refine hset rfl fun call hcall => ?_
        rw [hphase] at hcall
        have hsame := (parts_of_prepare hprepare).1
        rw [← hcall]
        exact congrArg some hsame
      · cases hstep
        refine hset rfl fun call hcall => ?_
        rwa [hphase] at hcall
    · cases hstep
  | loadLost c' =>
    simp only [State.step] at hstep
    split at hstep
    · next call' retries hphase =>
      cases hstep
      refine hset rfl fun call hcall => ?_
      rw [hphase] at hcall
      rw [hretry, ← hcall]
      rfl
    · cases hstep
  | commit c' =>
    simp only [State.step] at hstep
    split at hstep
    · next attempt retries hphase =>
      cases hstep
      refine hset rfl fun call hcall => ?_
      rw [hphase] at hcall
      rw [← hcall]
      cases (commitScript s.keys attempt.request).2 with
      | committed version journal => rfl
      | duplicate version journal =>
        simp only [replyPhase]
        split <;> rfl
      | conflict version => exact hretry _ _
    · cases hstep
  | commitLost c' =>
    simp only [State.step] at hstep
    split at hstep
    · next attempt retries hphase =>
      cases hstep
      refine hset rfl fun call hcall => ?_
      rw [hphase] at hcall
      rw [hretry, ← hcall]
      rfl
    · cases hstep
  | arrive n =>
    simp only [State.step] at hstep
    split at hstep
    · cases hstep
      exact h
    · cases hstep
  | cancel c' =>
    simp only [State.step] at hstep
    split at hstep
    · next call' retries hphase =>
      cases hstep
      refine hset rfl fun call hcall => ?_
      rwa [hphase] at hcall
    · next call' result request retries hphase =>
      cases hstep
      refine hset rfl fun call hcall => ?_
      rwa [hphase] at hcall
    · cases hstep

end Sources

/-! ## The invariant -/

section Invariant

variable {env : CartEnv} {userId : String} {s s' : Worker} {action : WorkerAction}

/-- A message of the stream asks for the call. -/
def Worker.Asked (s : Worker) (call : Call) : Prop :=
  ∃ message ∈ s.stream, ∃ contains, message.call contains = .ok call

/-- A commit of the message's ID is in the log, and the event stream has its result. -/
def Worker.Done (env : CartEnv) (s : Worker) (n : ℕ) : Prop :=
  ∃ message a, s.stream[n]? = some message ∧ a ∈ s.store.log ∧
    a.request.inbox = env.digest message.envelope.messageId ∧
      ∃ event ∈ s.events, event.messageId = a.result.messageId

/-- What holds at a place of a delivery. -/
def Worker.DeliveryOk (env : CartEnv) (s : Worker) (c : ℕ) : Delivery → Prop
  | .handling n => ∃ message contains call, s.stream[n]? = some message ∧
      message.call contains = .ok call ∧ (s.store.phase c).call? = some call
  | .published n => s.Done env n
  | _ => True

/-- The versions are below the bound of the scripts, and the envelopes of the committed results decode. -/
structure Worker.Regular (env : CartEnv) (s : Worker) : Prop where
  bound : s.store.accepted.length < 10 ^ 14
  codec : ∀ a ∈ s.store.log, env.parseEnvelope (env.envelopeBytes a.result.envelope) =
    some a.result.envelope

/-- The invariant of the worker. -/
structure Worker.Inv (env : CartEnv) (userId : String) (s : Worker) : Prop where
  store : CartStore.Inv env userId s.store
  sources : s.store.From env s.Asked
  deliveries : ∀ c, s.DeliveryOk env c (s.delivery c)
  acked : ∀ n ∈ s.acked, s.Done env n
  events : ∀ event ∈ s.events, ∃ a ∈ s.store.log, ∃ trace, event = a.result.event trace

/-- What a call returns is the result of a commit of its message ID. -/
lemma Worker.Inv.returned (h : s.Inv env userId) (hregular : s.Regular env) {c : ℕ} {call : Call}
    {done : CartCommandCommit} (hphase : s.store.phase c = .returned call done) :
    ∃ a ∈ s.store.log, a.request.inbox = env.digest call.envelope.messageId ∧
      done.result = a.result := by
  have hlogged : ∀ a ∈ s.store.log, a.result.Decoded env := by
    intro a ha
    rw [CartStoredResult.Decoded, (h.sources.log a ha).2]
    exact hregular.codec a ha
  have hdecoded : done.result.Decoded env := by
    have hfrom := h.sources.phases c
    rw [hphase] at hfrom
    rcases hfrom with ⟨a, ha, hresult⟩ | hdecoded
    · rw [hresult]
      exact hlogged a ha
    · exact hdecoded
  obtain ⟨a, ha, hinbox, hsubject, hid, hdata⟩ : Recorded env s.store call.envelope.messageId
    done.result := h.store.of_phase hphase
  refine ⟨a, ha, hinbox, ?_⟩
  have henvelope : done.result.envelope = a.result.envelope := by
    have ha := hlogged a ha
    rw [CartStoredResult.Decoded, ← hdata, hdecoded] at ha
    exact Option.some.inj ha
  cases hresult : done.result
  cases hlog : a.result
  simp_all

/-- What is done stays done. -/
lemma Worker.Done.mono {n : ℕ} (h : s.Done env n) (hstream : s.stream <+: s'.stream)
    (hlog : s.store.log <+: s'.store.log) (hevents : s.events <+: s'.events) : s'.Done env n := by
  obtain ⟨message, a, hmessage, ha, hinbox, event, hevent, hid⟩ := h
  exact ⟨message, a, Publish.getElem?_of_prefix hstream hmessage, hlog.subset ha, hinbox, event,
    hevents.subset hevent, hid⟩

/-- What is asked for stays asked for. -/
lemma Worker.Asked.mono {call : Call} (h : s.Asked call) (hstream : s.stream <+: s'.stream) :
    s'.Asked call := by
  obtain ⟨message, hmessage, hcall⟩ := h
  exact ⟨message, hstream.subset hmessage, hcall⟩

/-- What holds at a place of a delivery goes on to hold. -/
lemma Worker.DeliveryOk.mono {c : ℕ} {delivery : Delivery} (h : s.DeliveryOk env c delivery)
    (hstream : s.stream <+: s'.stream) (hlog : s.store.log <+: s'.store.log)
    (hevents : s.events <+: s'.events)
    (hcall : ∀ call, (s.store.phase c).call? = some call → (s'.store.phase c).call? = some call) :
    s'.DeliveryOk env c delivery := by
  cases delivery with
  | handling n =>
    obtain ⟨message, contains, call, hmessage, hasked, hphase⟩ := h
    exact ⟨message, contains, call, Publish.getElem?_of_prefix hstream hmessage, hasked, hcall call hphase⟩
  | published n => exact Worker.Done.mono h hstream hlog hevents
  | unused => trivial
  | settled => trivial

/-- The initial state. -/
lemma Worker.Inv.init : Worker.Inv env userId {} where
  store := CartStore.Inv.init
  sources := ⟨fun _ => trivial, fun _ h => (List.not_mem_nil h).elim,
    fun _ h => (List.not_mem_nil h).elim⟩
  deliveries := fun _ => trivial
  acked := fun _ h => (List.not_mem_nil h).elim
  events := fun _ h => (List.not_mem_nil h).elim

/-- A delivery goes on to another place. -/
lemma Worker.Inv.setDelivery (h : s.Inv env userId) {c : ℕ} {delivery : Delivery}
    (hdelivery : s.DeliveryOk env c delivery) : (s.setDelivery c delivery).Inv env userId := by
  refine { h with deliveries := fun c' => ?_ }
  have hsame : ∀ d, s.DeliveryOk env c' d → (s.setDelivery c delivery).DeliveryOk env c' d :=
    fun d hd => Worker.DeliveryOk.mono hd List.prefix_rfl List.prefix_rfl List.prefix_rfl
      fun _ => id
  by_cases hc : c' = c
  · subst hc
    have hnew : (s.setDelivery c' delivery).delivery c' = delivery := by
      simp [Worker.setDelivery]
    rw [hnew]
    exact hsame _ hdelivery
  · have hold : (s.setDelivery c delivery).delivery c' = s.delivery c' := by
      simp [Worker.setDelivery, hc]
    rw [hold]
    exact hsame _ (h.deliveries c')

/-- A message that is stored changes nothing else. -/
lemma Worker.Inv.enqueue (h : s.Inv env userId) (message : CommandMessage) :
    Worker.Inv env userId { s with stream := s.stream ++ [message] } := by
  have hstream : s.stream <+: s.stream ++ [message] := List.prefix_append _ _
  refine { store := h.store, sources := ?_, deliveries := fun c => ?_, acked := ?_
           events := h.events }
  · exact h.sources.mono fun call hcall => Worker.Asked.mono hcall hstream
  · exact Worker.DeliveryOk.mono (h.deliveries c) hstream List.prefix_rfl List.prefix_rfl
      fun _ => id
  · exact fun n hn => (h.acked n hn).mono hstream List.prefix_rfl List.prefix_rfl

/-- A step of the aggregate keeps the invariant of the worker. -/
lemma Worker.Inv.script (h : s.Inv env userId) {action : CartStore.Action ℕ} {store : State ℕ}
    (hstep : s.store.step env userId action = some store) (hbound : store.accepted.length < 10 ^ 14)
    (hstart : ∀ c call, action = .start c call → s.Asked call) :
    Worker.Inv env userId { s with store := store } := by
  have hlog : s.store.log <+: store.log := State.step_log hstep
  refine { store := h.store.step hstep hbound, sources := h.sources.step hstep hstart
           deliveries := fun c => ?_, acked := ?_, events := ?_ }
  · exact Worker.DeliveryOk.mono (h.deliveries c) List.prefix_rfl hlog List.prefix_rfl
      fun call hcall => State.step_call? hstep hcall
  · exact fun n hn => (h.acked n hn).mono List.prefix_rfl hlog List.prefix_rfl
  · intro event hevent
    obtain ⟨a, ha, hresult⟩ := h.events event hevent
    exact ⟨a, hlog.subset ha, hresult⟩

/-- The stream of events grows by results of commits. -/
lemma Worker.Inv.store_events (h : s.Inv env userId) {events : List ResultEvent}
    (hgrows : s.events <+: events)
    (hevents : ∀ e ∈ events, ∃ a ∈ s.store.log, ∃ trace, e = a.result.event trace) :
    Worker.Inv env userId { s with events := events } where
  store := h.store
  sources := h.sources
  deliveries := fun c =>
    Worker.DeliveryOk.mono (h.deliveries c) List.prefix_rfl List.prefix_rfl hgrows fun _ => id
  acked := fun n hn => (h.acked n hn).mono List.prefix_rfl List.prefix_rfl hgrows
  events := hevents

/-- The envelope of a call is that of its message. -/
lemma CommandMessage.call_envelope {message : CommandMessage} {contains : Bool} {call : Call}
    (h : message.call contains = .ok call) : call.envelope = message.envelope := by
  unfold CommandMessage.call at h
  split_ifs at h
  · split at h
    · cases h
      rfl
    · cases h
  · split at h
    · cases h
      rfl
    · cases h

/-- A publish keeps the invariant: what it publishes is the result of a commit of its message. -/
lemma Worker.Inv.publish (h : s.Inv env userId) (hregular : s.Regular env) {c n : ℕ} {call : Call}
    {done : CartCommandCommit} {trace : Option (String × String)} {outcome : Publish.Outcome}
    (hdelivery : s.delivery c = .handling n) (hphase : s.store.phase c = .returned call done)
    (hstep : s.publish c n (done.result.event trace) outcome = some s') : s'.Inv env userId := by
  obtain ⟨a, ha, hinbox, hresult⟩ := h.returned hregular hphase
  obtain ⟨message, contains, call', hmessage, hasked, hcall⟩ :
      s.DeliveryOk env c (.handling n) := hdelivery ▸ h.deliveries c
  have henvelope : call.envelope = message.envelope := by
    rw [hphase] at hcall
    obtain rfl : call = call' := Option.some.inj hcall
    exact CommandMessage.call_envelope hasked
  obtain ⟨⟨events, acknowledged⟩, hpublish, rfl⟩ := Option.map_eq_some_iff.mp hstep
  have hpublished := Publish.published_of_publish hpublish
  have hstored := h.store_events hpublished.grows
    (hpublished.forall_mem h.events ⟨a, ha, trace, by rw [hresult]⟩)
  refine hstored.setDelivery ?_
  cases acknowledged with
  | false => trivial
  | true =>
    obtain ⟨event, hmem, hid⟩ := hpublished.stored rfl
    refine ⟨message, a, hmessage, ha, ?_, event, hmem, ?_⟩
    · rw [hinbox, henvelope]
    · rw [hid, hresult]
      rfl

/-- A step that is not one of a producer. -/
def WorkerAction.consumes : WorkerAction → Bool
  | .enqueue _ => false
  | _ => true

/-- Only producers add to the stream of commands. -/
lemma Worker.step_stream (hconsumes : action.consumes = true)
    (hstep : s.step env userId action = some s') : s'.stream = s.stream := by
  cases action with
  | enqueue message => cases hconsumes
  | deliver c n contains =>
    simp only [Worker.step] at hstep
    split at hstep
    · split_ifs at hstep
      split at hstep
      · obtain ⟨store, -, rfl⟩ := Option.map_eq_some_iff.mp hstep
        rfl
      · cases hstep
        rfl
    · cases hstep
  | script act =>
    simp only [Worker.step] at hstep
    split_ifs at hstep
    obtain ⟨store, -, rfl⟩ := Option.map_eq_some_iff.mp hstep
    rfl
  | publish c trace outcome =>
    simp only [Worker.step] at hstep
    split at hstep
    · obtain ⟨_, -, rfl⟩ := Option.map_eq_some_iff.mp hstep
      rfl
    · cases hstep
  | ack c arrives =>
    simp only [Worker.step] at hstep
    split at hstep
    · cases hstep
      rfl
    · cases hstep
  | abandon c =>
    cases hstep
    rfl

/-- The streams and the log of commits only grow. -/
structure Worker.Grows (s s' : Worker) : Prop where
  stream : s.stream <+: s'.stream
  events : s.events <+: s'.events
  log : s.store.log <+: s'.store.log

/-- A step only adds to the streams and to the log of commits. -/
lemma Worker.step_grows (hstep : s.step env userId action = some s') : s.Grows s' := by
  have hsame : ∀ t : Worker, t.stream = s.stream → t.events = s.events → t.store = s.store →
      s.Grows t := by
    intro t hstream hevents hstore
    exact ⟨hstream ▸ List.prefix_rfl, hevents ▸ List.prefix_rfl, hstore ▸ List.prefix_rfl⟩
  cases action with
  | enqueue message =>
    cases hstep
    exact ⟨List.prefix_append _ _, List.prefix_rfl, List.prefix_rfl⟩
  | deliver c n contains =>
    simp only [Worker.step] at hstep
    split at hstep
    · split_ifs at hstep
      split at hstep
      · obtain ⟨store, hstore, rfl⟩ := Option.map_eq_some_iff.mp hstep
        exact ⟨List.prefix_rfl, List.prefix_rfl, State.step_log hstore⟩
      · cases hstep
        exact hsame _ rfl rfl rfl
    · cases hstep
  | script action =>
    simp only [Worker.step] at hstep
    split_ifs at hstep
    obtain ⟨store, hstore, rfl⟩ := Option.map_eq_some_iff.mp hstep
    exact ⟨List.prefix_rfl, List.prefix_rfl, State.step_log hstore⟩
  | publish c trace outcome =>
    simp only [Worker.step] at hstep
    split at hstep
    · obtain ⟨_, hpublish, rfl⟩ := Option.map_eq_some_iff.mp hstep
      exact ⟨List.prefix_rfl, (Publish.published_of_publish hpublish).grows, List.prefix_rfl⟩
    · cases hstep
  | ack c arrives =>
    simp only [Worker.step] at hstep
    split at hstep
    · cases hstep
      exact hsame _ rfl rfl rfl
    · cases hstep
  | abandon c =>
    cases hstep
    exact hsame _ rfl rfl rfl

/-- What is regular was regular before. -/
lemma Worker.Regular.of_grows (h : s'.Regular env) (hgrows : s.Grows s') : s.Regular env where
  bound := lt_of_le_of_lt (accepted_mono hgrows.log).length_le h.bound
  codec := fun a ha => h.codec a (hgrows.log.subset ha)

/-- A step keeps the invariant. -/
lemma Worker.Inv.step (h : s.Inv env userId) (hstep : s.step env userId action = some s')
    (hregular : s'.Regular env) : s'.Inv env userId := by
  have hbefore := hregular.of_grows (Worker.step_grows hstep)
  cases action with
  | enqueue message =>
    cases hstep
    exact h.enqueue message
  | deliver c n contains =>
    simp only [Worker.step] at hstep
    split at hstep
    · next message hunused hmessage =>
      split_ifs at hstep
      split at hstep
      · next call hcall =>
        obtain ⟨store, hstore, rfl⟩ := Option.map_eq_some_iff.mp hstep
        have hasked : s.Asked call := ⟨message, List.mem_of_getElem? hmessage, contains, hcall⟩
        have hscript := h.script hstore hregular.bound (by
          rintro c' call' heq
          cases heq
          exact hasked)
        refine hscript.setDelivery ⟨message, contains, call, hmessage, hcall, ?_⟩
        simp only [State.step] at hstore
        split at hstore
        · split_ifs at hstore
          split at hstore
          all_goals
            cases hstore
            simp [State.setPhase, Phase.call?]
        · cases hstore
      · cases hstep
        exact h.setDelivery trivial
    · cases hstep
  | script action =>
    simp only [Worker.step] at hstep
    split_ifs at hstep with hcontinues
    obtain ⟨store, hstore, rfl⟩ := Option.map_eq_some_iff.mp hstep
    refine h.script hstore hregular.bound ?_
    rintro c call rfl
    cases hcontinues
  | publish c trace outcome =>
    simp only [Worker.step] at hstep
    split at hstep
    · next hdelivery hphase => exact h.publish hbefore hdelivery hphase hstep
    · cases hstep
  | ack c arrives =>
    simp only [Worker.step] at hstep
    split at hstep
    · next n hdelivery =>
      have hdone : s.Done env n := by
        have hok := h.deliveries c
        rwa [hdelivery] at hok
      cases hstep
      refine Worker.Inv.setDelivery (s := { s with acked := _ }) ?_ trivial
      refine { h with acked := fun m hm => ?_ }
      split_ifs at hm
      · rcases List.mem_append.mp hm with hold | hnew
        · exact h.acked m hold
        · obtain rfl := List.mem_singleton.mp hnew
          exact hdone
      · exact h.acked m hm
    · cases hstep
  | abandon c =>
    cases hstep
    exact h.setDelivery trivial

/-- The invariant holds in every regular state that a run reaches. -/
lemma Worker.inv_of_run {acts : List WorkerAction}
    (hrun : StepSystem.run (Worker.step env userId) {} acts = some s) (hregular : s.Regular env) :
    s.Inv env userId := by
  refine StepSystem.run_invariant_of_step (I := fun s => s.Regular env → s.Inv env userId) ?_
    (fun _ => Worker.Inv.init) hrun hregular
  intro t action t' ht hstep hregular
  exact (ht (hregular.of_grows (Worker.step_grows hstep))).step hstep hregular

/-! ## The law -/

/-- Every acknowledged command is decided: its message ID has a commit, and the result of that commit is
in the event stream.  The event stream has nothing but results of commits.  Commits are made for messages
of the command stream, at most one for each message ID, and the cart is the fold of the accepted ones. -/
structure Worker.Law (env : CartEnv) (s : Worker) : Prop where
  acknowledged : ∀ n ∈ s.acked, s.Done env n
  events : ∀ event ∈ s.events, ∃ a ∈ s.store.log, ∃ trace, event = a.result.event trace
  commits : ∀ a ∈ s.store.log, s.Asked a.call
  once : (s.store.log.map fun a => a.call.envelope.messageId).Nodup
  fold : s.store.items = itemsAfter (s.store.accepted.map Call.change)

/-- The law follows from the invariant. -/
lemma Worker.Inv.law (h : s.Inv env userId) : s.Law env := by
  refine { acknowledged := h.acked, events := h.events, commits := fun a ha => (h.sources.log a ha).1
           once := ?_, fold := ?_ }
  · have hinbox : (s.store.log.map fun a => a.request.inbox) =
        (s.store.log.map fun a => a.call.envelope.messageId).map env.digest := by
      rw [List.map_map]
      exact List.map_congr_left fun a ha => (h.store.log a ha).1
    exact (hinbox ▸ h.store.once).of_map _
  · rw [State.items, h.store.state, items_cartAfter]

/-- Whatever is delivered again, lost or cut off, the worker acknowledges only what it has decided and
published. -/
theorem acknowledged_commands_decided {acts : List WorkerAction}
    (hrun : StepSystem.run (Worker.step env userId) {} acts = some s) (hregular : s.Regular env) :
    s.Law env :=
  (Worker.inv_of_run hrun hregular).law

end Invariant

/-! ## A sample run -/

/-- The message of the command to add two mugs. -/
def sampleMessage : CommandMessage where
  subject := "boutique.cmd.cart.add-item.v1"
  envelope := sampleAdd.envelope
  payload :=
    match sampleAdd.command with
    | .addItem command => .addItem command
    | .clear command => .clear command

/-- A command is delivered twice before it is acknowledged; the first delivery loses the reply of its
commit.  The acknowledgement of the second is lost, and a third delivery finds the event in the stream. -/
def sampleWorkerActions : List WorkerAction :=
  [.enqueue sampleMessage, .deliver 0 0 true, .script (.load 0), .deliver 1 0 true,
    .script (.load 1), .script (.commitLost 0), .script (.arrive 0), .script (.commit 1),
    .publish 1 none .stored, .ack 1 false, .abandon 0, .deliver 2 0 true, .script (.load 2),
    .script (.commit 2), .publish 2 (some ("trace", "")) .duplicate, .ack 2 true]

/-- What is acknowledged and published after a run, the numbers of accepted commands and of commits, and
whether the envelopes of the committed results decode. -/
def Worker.outcome (s : Worker) : List ℕ × List String × ℕ × ℕ × Bool :=
  (s.acked, s.events.map ResultEvent.messageId, s.store.accepted.length, s.store.log.length,
    s.store.log.all fun a =>
      sampleEnv.parseEnvelope (sampleEnv.envelopeBytes a.result.envelope) = some a.result.envelope)

/-- The command is acknowledged once it is decided, and its result is published once. -/
theorem redelivered_command_published_once :
    ∃ s : Worker, StepSystem.run (Worker.step sampleEnv "user") {} sampleWorkerActions = some s ∧
      s.acked = [0] ∧ s.events.map ResultEvent.messageId = ["br1_add"] ∧ s.Law sampleEnv := by
  have houtcome : (StepSystem.run (Worker.step sampleEnv "user") {} sampleWorkerActions).map
      Worker.outcome = some ([0], ["br1_add"], 1, 1, true) := by
    decide +kernel
  obtain ⟨s, hs, hleft⟩ := Option.map_eq_some_iff.mp houtcome
  simp only [Worker.outcome, Prod.mk.injEq, List.all_eq_true, decide_eq_true_eq] at hleft
  obtain ⟨hacked, hevents, haccepted, -, hcodec⟩ := hleft
  exact ⟨s, hs, hacked, hevents,
    acknowledged_commands_decided hs ⟨by rw [haccepted]; decide, hcodec⟩⟩

end Boutique.CartStore
