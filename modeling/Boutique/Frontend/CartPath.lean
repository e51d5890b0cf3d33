import Boutique.Frontend.CartCommands

/-!
# From a request to the cart

The handlers of the frontend in front of the cart command worker.  A client posts changes of carts, with
or without an `Idempotency-Key`, and repeats them as often as it likes; `publishEnvelope` may lose its
reply, find a message with the operation ID in the stream, or fail.  Other services publish commands too.

An accepted request is in the stream under its operation ID, and whatever is repeated, one operation ID
changes the cart at most once.
-/

namespace Boutique.Frontend

open CartStore

/-! ## Steps -/

/-- A request whose command a handler has published, and whether its answer was a success. -/
structure Posted where
  request : CartRequest
  body : CartPost
  message : CommandMessage
  accepted : Bool

/-- The worker with its streams, what the handlers have published, and what others have. -/
structure CartPath where
  worker : CartStore.Worker := {}
  posts : List Posted := []
  others : List CommandMessage := []

/-- The steps: a request is handled; another service publishes a command; the worker takes a step. -/
inductive CartPathAction where
  | post (request : CartRequest) (body : CartPost) (outcome : Publish.Outcome)
  | other (message : CommandMessage)
  | worker (action : WorkerAction)

/-- `publishEnvelope` for a command, with the answer of the handler. -/
def CartPath.publish (s : CartPath) (request : CartRequest) (body : CartPost)
    (message : CommandMessage) (outcome : Publish.Outcome) : Option CartPath :=
  (Publish.publish (fun m => m.envelope.messageId) s.worker.stream message outcome).map
    fun (stream, acknowledged) =>
      { s with worker := { s.worker with stream := stream }
               posts := s.posts ++ [⟨request, body, message, acknowledged⟩] }

variable (env : CartEnv) (ids : OperationEnv) (userId : String)

/-- One step. -/
def CartPath.step (s : CartPath) : CartPathAction → Option CartPath
  | .post request body outcome =>
    match body.message ids request with
    | .ok message => s.publish request body message outcome
    | .error _ => some s
  | .other message =>
    some { s with worker := { s.worker with stream := s.worker.stream ++ [message] }
                  others := s.others ++ [message] }
  | .worker action =>
    if action.consumes then
      (s.worker.step env userId action).map fun worker => { s with worker := worker }
    else none

/-! ## The invariant -/

section Invariant

variable {env : CartEnv} {ids : OperationEnv} {userId : String} {s s' : CartPath}
  {action : CartPathAction}

/-- The stream has a message with the operation ID of the request. -/
def CartPath.Stored (s : CartPath) (p : Posted) : Prop :=
  ∃ message ∈ s.worker.stream, message.envelope.messageId = p.message.envelope.messageId

/-- The messages of the stream are those that were published, and what was accepted is there. -/
structure CartPath.Inv (ids : OperationEnv) (s : CartPath) : Prop where
  source : ∀ message ∈ s.worker.stream, (∃ p ∈ s.posts, p.message = message) ∨ message ∈ s.others
  posts : ∀ p ∈ s.posts, p.body.message ids p.request = .ok p.message
  accepted : ∀ p ∈ s.posts, p.accepted = true → s.Stored p

/-- The worker takes a step, or none. -/
lemma CartPath.step_worker (hstep : s.step env ids userId action = some s') :
    s'.worker = s.worker ∨ ∃ act, s.worker.step env userId act = some s'.worker := by
  cases action with
  | post request body outcome =>
    simp only [CartPath.step] at hstep
    split at hstep
    · next message hmessage =>
      obtain ⟨⟨stream, acknowledged⟩, hpublish, rfl⟩ := Option.map_eq_some_iff.mp hstep
      rcases Publish.publish_cases hpublish with rfl | rfl
      · exact Or.inl rfl
      · exact Or.inr ⟨.enqueue message, rfl⟩
    · cases hstep
      exact Or.inl rfl
  | other message =>
    cases hstep
    exact Or.inr ⟨.enqueue message, rfl⟩
  | worker act =>
    simp only [CartPath.step] at hstep
    split_ifs at hstep
    obtain ⟨worker, hworker, rfl⟩ := Option.map_eq_some_iff.mp hstep
    exact Or.inr ⟨act, hworker⟩

/-- The steps of the worker in a run of the system are a run of the worker. -/
lemma CartPath.worker_run {acts : List CartPathAction} {t : CartStore.Worker} (wacts : List WorkerAction)
    (hbefore : StepSystem.run (CartStore.Worker.step env userId) t wacts = some s.worker)
    (hrun : StepSystem.run (CartPath.step env ids userId) s acts = some s') :
    ∃ wacts', StepSystem.run (CartStore.Worker.step env userId) t wacts' = some s'.worker := by
  induction acts generalizing s wacts with
  | nil =>
    obtain rfl := Option.some.inj hrun
    exact ⟨wacts, hbefore⟩
  | cons act acts ih =>
    obtain ⟨mid, hstep, hrest⟩ := StepSystem.run_cons.mp hrun
    rcases CartPath.step_worker hstep with hsame | ⟨wact, hwact⟩
    · exact ih wacts (hsame ▸ hbefore) hrest
    · refine ih (wacts ++ [wact]) ?_ hrest
      refine StepSystem.run_append.mpr ⟨_, hbefore, ?_⟩
      exact StepSystem.run_cons.mpr ⟨mid.worker, hwact, rfl⟩

/-- What is stored stays stored. -/
lemma CartPath.Stored.mono {p : Posted} (h : s.Stored p)
    (hstream : s.worker.stream <+: s'.worker.stream) : s'.Stored p := by
  obtain ⟨message, hmessage, hid⟩ := h
  exact ⟨message, hstream.subset hmessage, hid⟩

/-- A handled request is added to the posts. -/
lemma CartPath.Inv.post (h : s.Inv ids) {p : Posted} {stream : List CommandMessage}
    (hmessage : p.body.message ids p.request = .ok p.message)
    (hpublished : Publish.Published (fun m => m.envelope.messageId) s.worker.stream p.message
      (stream, p.accepted)) :
    CartPath.Inv ids
      { s with worker := { s.worker with stream := stream }, posts := s.posts ++ [p] } where
  source := by
    intro m hm
    rcases hpublished.members m hm with hold | rfl
    · rcases h.source m hold with ⟨q, hq, hsame⟩ | hother
      · exact Or.inl ⟨q, List.mem_append_left _ hq, hsame⟩
      · exact Or.inr hother
    · exact Or.inl ⟨p, List.mem_append_right _ (List.mem_singleton_self _), rfl⟩
  posts := by
    intro q hq
    rcases List.mem_append.mp hq with hold | hlast
    · exact h.posts q hold
    · obtain rfl := List.mem_singleton.mp hlast
      exact hmessage
  accepted := by
    intro q hq hgood
    rcases List.mem_append.mp hq with hold | hlast
    · exact (h.accepted q hold hgood).mono hpublished.grows
    · obtain rfl := List.mem_singleton.mp hlast
      exact hpublished.stored hgood

/-- A step keeps the invariant. -/
lemma CartPath.Inv.step (h : s.Inv ids) (hstep : s.step env ids userId action = some s') :
    s'.Inv ids := by
  cases action with
  | post request body outcome =>
    simp only [CartPath.step] at hstep
    split at hstep
    · next message hmessage =>
      obtain ⟨⟨stream, acknowledged⟩, hpublish, rfl⟩ := Option.map_eq_some_iff.mp hstep
      exact h.post (p := ⟨request, body, message, acknowledged⟩) hmessage
        (Publish.published_of_publish hpublish)
    · cases hstep
      exact h
  | other message =>
    cases hstep
    refine { source := fun m hm => ?_, posts := h.posts, accepted := fun p hp hgood => ?_ }
    · rcases List.mem_append.mp hm with hold | hnew
      · rcases h.source m hold with hpost | hother
        · exact Or.inl hpost
        · exact Or.inr (List.mem_append_left _ hother)
      · exact Or.inr (List.mem_append_right _ hnew)
    · exact (h.accepted p hp hgood).mono (List.prefix_append _ _)
  | worker act =>
    simp only [CartPath.step] at hstep
    split_ifs at hstep with hconsumes
    obtain ⟨worker, hworker, rfl⟩ := Option.map_eq_some_iff.mp hstep
    have hstream := CartStore.Worker.step_stream hconsumes hworker
    refine { source := fun m hm => h.source m (hstream ▸ hm), posts := h.posts
             accepted := fun p hp hgood => ?_ }
    have hgrows : s.worker.stream <+: ({ s with worker := worker } : CartPath).worker.stream :=
      hstream ▸ List.prefix_rfl
    exact (h.accepted p hp hgood).mono hgrows

/-! ## The law -/

/-- A request repeats another one: the same session, kind and `Idempotency-Key`. -/
structure Posted.Repeats (p q : Posted) : Prop where
  session : p.request.sessionId = q.request.sessionId
  kind : p.body.kind = q.body.kind
  key : p.request.key = q.request.key
  keyed : p.request.key ≠ ""

/-- The name that the operation ID of a keyed request is the hash of. -/
def Posted.operationName (p : Posted) : String :=
  cartOperationName p.body.kind p.request.sessionId p.request.key

/-- What the path from the requests to the cart of a user promises.  An accepted request is in the stream
under its operation ID, and decided once that message is acknowledged.  The cart service understands
every command of the handlers.  All commits are for messages that a handler or another service has
published, and requests that repeat one another make at most one of them.  Requests with one operation ID
repeat one another, unless the hash collides. -/
structure CartPath.Law (env : CartEnv) (ids : OperationEnv) (s : CartPath) : Prop where
  accepted : ∀ p ∈ s.posts, p.accepted = true → ∃ n message, s.worker.stream[n]? = some message ∧
    message.envelope.messageId = p.message.envelope.messageId ∧
      (n ∈ s.worker.acked → s.worker.Done env n)
  understood : ∀ p ∈ s.posts, ∃ id, p.body.operationID ids p.request = .ok id ∧
    Understood p.message p.request.sessionId id
  source : ∀ a ∈ s.worker.store.log, ∃ message contains, message.call contains = .ok a.call ∧
    ((∃ p ∈ s.posts, p.message = message) ∨ message ∈ s.others)
  repeated : ∀ p ∈ s.posts, ∀ q ∈ s.posts, p.Repeats q → ∀ a ∈ s.worker.store.log,
    ∀ b ∈ s.worker.store.log, a.call.envelope.messageId = p.message.envelope.messageId →
      b.call.envelope.messageId = q.message.envelope.messageId → a = b
  distinct : ∀ p ∈ s.posts, ∀ q ∈ s.posts, p.request.key ≠ "" → q.request.key ≠ "" →
    '/' ∉ p.request.sessionId.toList → '/' ∉ q.request.sessionId.toList →
    p.message.envelope.messageId = q.message.envelope.messageId →
      p.Repeats q ∨ p.operationName ≠ q.operationName ∧
        ids.newSHA1 p.operationName = ids.newSHA1 q.operationName
  fold : s.worker.store.items = itemsAfter (s.worker.store.accepted.map CartStore.Call.change)

/-- The operation ID of a request with a key is the hash of its name. -/
lemma Posted.messageId_of_key {p : Posted} (h : p.body.message ids p.request = .ok p.message)
    (hkey : p.request.key ≠ "") :
    p.message.envelope.messageId = ids.newSHA1 p.operationName := by
  obtain ⟨id, hid, hunderstood⟩ := CartPost.message_understood h
  unfold CartPost.operationID cartOperationID at hid
  rw [if_neg hkey] at hid
  split_ifs at hid
  cases hid
  exact hunderstood.messageId

/-- Requests that repeat one another have one operation name. -/
lemma Posted.Repeats.operationName_eq {p q : Posted} (h : p.Repeats q) :
    p.operationName = q.operationName := by
  rw [Posted.operationName, Posted.operationName, h.session, h.kind, h.key]

/-- However often requests are repeated and messages delivered, lost or cut off, each accepted request is
kept and takes effect at most once. -/
theorem posted_commands_applied_at_most_once {acts : List CartPathAction}
    (hrun : StepSystem.run (CartPath.step env ids userId) {} acts = some s)
    (hregular : s.worker.Regular env) : s.Law env ids := by
  have hinv : s.Inv ids := by
    refine StepSystem.run_invariant_of_step (fun t action t' ht hstep => ht.step hstep) ?_ hrun
    exact ⟨fun _ h => (List.not_mem_nil h).elim, fun _ h => (List.not_mem_nil h).elim,
      fun _ h => (List.not_mem_nil h).elim⟩
  obtain ⟨wacts, hworker⟩ := CartPath.worker_run [] (t := {}) rfl hrun
  have hlaw : s.worker.Law env := (CartStore.Worker.inv_of_run hworker hregular).law
  refine { accepted := ?_, understood := ?_, source := ?_, repeated := ?_, distinct := ?_
           fold := hlaw.fold }
  · intro p hp hgood
    obtain ⟨message, hmem, hid⟩ := hinv.accepted p hp hgood
    obtain ⟨n, hn⟩ := List.mem_iff_getElem?.mp hmem
    exact ⟨n, message, hn, hid, hlaw.acknowledged n⟩
  · exact fun p hp => CartPost.message_understood (hinv.posts p hp)
  · intro a ha
    obtain ⟨message, hmem, contains, hcall⟩ := hlaw.commits a ha
    exact ⟨message, contains, hcall, hinv.source message hmem⟩
  · intro p hp q hq hrepeats a ha b hb hpa hqb
    have hid : p.message.envelope.messageId = q.message.envelope.messageId := by
      rw [Posted.messageId_of_key (hinv.posts p hp) hrepeats.keyed,
        Posted.messageId_of_key (hinv.posts q hq) (hrepeats.key ▸ hrepeats.keyed),
        hrepeats.operationName_eq]
    exact List.inj_on_of_nodup_map hlaw.once ha hb (by rw [hpa, hqb, hid])
  · intro p hp q hq hpkey hqkey hpslash hqslash hid
    rw [Posted.messageId_of_key (hinv.posts p hp) hpkey,
      Posted.messageId_of_key (hinv.posts q hq) hqkey] at hid
    by_cases hname : p.operationName = q.operationName
    · obtain ⟨hkind, hsession, hkey⟩ := cartOperationName_injective hpslash hqslash hname
      exact Or.inl ⟨hsession, hkind, hkey, hpkey⟩
    · exact Or.inr ⟨hname, hid⟩

end Invariant

/-! ## A sample run -/

/-- The hash of the one name that the sample asks for. -/
def sampleIds : OperationEnv where
  newSHA1 := fun name => if name = "boutique/cart/add-item/user/retry" then "add" else "other"
  nonblank := by
    intro name
    split_ifs <;> decide

/-- The environment of the cart service, for commands that a request without a trace has caused. -/
def samplePathEnv : CartEnv :=
  { sampleEnv with
    parseEnvelope := fun bytes =>
      (sampleEnv.parseEnvelope bytes).map fun envelope => { envelope with correlationId := "add" } }

/-- A request to change a cart under a key. -/
def sampleRequest : CartRequest where
  sessionId := "user"
  requestId := "request"
  idempotencyKey := " retry "
  now := unixEpoch
  session := by decide
  request := by decide
  clock := by decide

/-- Two mugs are put into the cart, but the reply of the publish is lost.  When the command is decided
the client repeats its request, and the stream no longer knows the operation ID. -/
def samplePathActions : List CartPathAction :=
  [.post sampleRequest (.add "2" "mug") .lost, .worker (.deliver 0 0 true), .worker (.script (.load 0)),
    .worker (.script (.commit 0)), .worker (.publish 0 none .stored), .worker (.ack 0 true),
    .post sampleRequest (.add "2" "mug") .stored, .worker (.deliver 1 1 true),
    .worker (.script (.load 1)), .worker (.script (.commit 1)), .worker (.publish 1 none .duplicate),
    .worker (.ack 1 true)]

/-- What is accepted, what is acknowledged and the items after a run, with the number of accepted
commands and whether the envelopes of the committed results decode. -/
def CartPath.outcome (s : CartPath) : List Bool × List ℕ × List CartItem × ℕ × Bool :=
  (s.posts.map Posted.accepted, s.worker.acked, s.worker.store.items, s.worker.store.accepted.length,
    s.worker.store.log.all fun a =>
      samplePathEnv.parseEnvelope (samplePathEnv.envelopeBytes a.result.envelope) =
        some a.result.envelope)

/-- The repeated request is accepted, and the cart holds two mugs. -/
theorem repeated_request_applied_once :
    ∃ s : CartPath, StepSystem.run (CartPath.step samplePathEnv sampleIds "user") {}
      samplePathActions = some s ∧ s.posts.map Posted.accepted = [false, true] ∧
        s.worker.acked = [0, 1] ∧ s.worker.store.items = [{ productId := "mug", quantity := 2 }] ∧
          s.Law samplePathEnv sampleIds := by
  have houtcome : (StepSystem.run (CartPath.step samplePathEnv sampleIds "user") {}
      samplePathActions).map CartPath.outcome =
        some ([false, true], [0, 1], [{ productId := "mug", quantity := 2 }], 1, true) := by
    decide +kernel
  obtain ⟨s, hs, hleft⟩ := Option.map_eq_some_iff.mp houtcome
  simp only [CartPath.outcome, Prod.mk.injEq, List.all_eq_true, decide_eq_true_eq] at hleft
  obtain ⟨hposts, hacked, hitems, haccepted, hcodec⟩ := hleft
  exact ⟨s, hs, hposts, hacked, hitems,
    posted_commands_applied_at_most_once hs ⟨by rw [haccepted]; decide, hcodec⟩⟩

end Boutique.Frontend
