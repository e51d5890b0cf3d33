import Boutique.Catalog.Publisher
import Boutique.Stateless.LeaseFencing
import Boutique.Lib.Publish

/-!
# The catalog bootstrap of many replicas

`publishBootstrap`, `publish` and `renewBootstrapClaim` of `productcatalogservice/nats_events.go`, step by
step.  Any number of replicas, with any catalogs, start, wait for a bootstrap claim, publish, lose
replies, lose their claim to another replica and stop at any point.  The claims are documents of a
`KVLeaseStore`, one for each revision, under all interleavings of the calls of the replicas.

The snapshot event of a revision is a barrier: all products of the revision are stored before it, and a
replica that finds or makes a claim complete relies on that.
-/

namespace Boutique.Catalog

open CasLoop

/-! ## Steps -/

/-- Where a replica is.  `n` is the number of events that it has published, and `call` a call on the
claim of its revision. -/
inductive Replica where
  | idle
  | waiting (identity : CatalogIdentity)
  | acquiring (identity : CatalogIdentity) (call : ℕ)
  | publishing (identity : CatalogIdentity) (occurredAt : Time) (lease : Lease) (n attempt : ℕ)
  | renewing (identity : CatalogIdentity) (occurredAt : Time) (lease : Lease) (n : ℕ)
  | renewed (identity : CatalogIdentity) (occurredAt : Time) (n call : ℕ)
  | finishing (identity : CatalogIdentity) (lease : Lease)
  | completing (identity : CatalogIdentity) (call : ℕ)
  | returned (identity : CatalogIdentity)
  | failed

/-- The calls on one claim. -/
abbrev ClaimCalls := CasLoop.State ℕ Unit LeaseCall (LeaseRecord ℤ) LeaseResult

/-- The claims by work ID, the event stream and the replicas. -/
structure Bootstrap where
  claims : String → ClaimCalls := fun _ => {}
  stream : List PublishedEvent := []
  replica : ℕ → Replica := fun _ => .idle

/-- The steps: a replica reads its catalog; calls `Acquire`; gets the result of it, at a time that its
events carry; tries to publish its next event; renews its claim, or has time left; gets the result of
that; calls `Complete`; gets the result of that; stops.  A call on a claim takes a step. -/
inductive BootstrapAction where
  | start (r : ℕ) (products : List Product)
  | acquire (r call : ℕ) (now : Time)
  | acquired (r : ℕ) (occurredAt : Time)
  | publish (r : ℕ) (outcome : Publish.Outcome)
  | renew (r call : ℕ) (now : Time)
  | renewed (r : ℕ)
  | complete (r call : ℕ) (now : Time)
  | completed (r : ℕ)
  | stop (r : ℕ)
  | claim (workId : String) (action : CasLoop.Action ℕ Unit LeaseCall)

/-- The parameters of the publishers: `BOOTSTRAP_CLAIM_TTL` and the worker IDs. -/
structure BootstrapConfig where
  claimDuration : Duration
  workerId : ℕ → String

/-- The message ID of an event. -/
def PublishedEvent.messageId (event : PublishedEvent) : String := event.envelope.messageId

/-- The steps of calls that have been made. -/
def continuesCall : CasLoop.Action ℕ Unit LeaseCall → Bool
  | .start _ _ => false
  | _ => true

/-- The work ID of a catalog. -/
def CatalogIdentity.workId (identity : CatalogIdentity) : String := bootstrapWorkId identity.revision

/-- The state with another place of a replica. -/
def Bootstrap.setReplica (s : Bootstrap) (r : ℕ) (replica : Replica) : Bootstrap :=
  { s with replica := Function.update s.replica r replica }

/-- A step of a call on a claim. -/
def Bootstrap.stepClaim (s : Bootstrap) (workId : String) (action : CasLoop.Action ℕ Unit LeaseCall) :
    Option Bootstrap :=
  (CasLoop.step kvLeaseLoop (.plain ℕ) (s.claims workId) action).map fun calls =>
    { s with claims := Function.update s.claims workId calls }

/-- The result of a call that has returned, or `none`; the call may have ended with an error of the
store. -/
def Bootstrap.result? (s : Bootstrap) (identity : CatalogIdentity) (call : ℕ) :
    Option (Option LeaseResult) :=
  match (s.claims identity.workId).phase call with
  | .returned _ result => some result
  | _ => none

/-- What a replica does with the result of `Acquire`. -/
def Replica.ofAcquire (identity : CatalogIdentity) (occurredAt : Time) : Option LeaseResult → Replica
  | some (.acquired lease) => .publishing identity occurredAt lease 0 0
  | some (.completeError _) => .returned identity
  | some (.heldError _ _) => .waiting identity
  | _ => .failed

/-- What a replica does with the result of `Renew`. -/
def Replica.ofRenew (identity : CatalogIdentity) (occurredAt : Time) (n : ℕ) :
    Option LeaseResult → Replica
  | some (.acquired lease) => .publishing identity occurredAt lease n 0
  | _ => .failed

/-- What a replica does with the result of `Complete`. -/
def Replica.ofComplete (identity : CatalogIdentity) : Option LeaseResult → Replica
  | some .completed => .returned identity
  | _ => .failed

/-- What a replica does after an attempt to publish an event: three attempts, and the claim may have to
be renewed after each product. -/
def Replica.afterPublish (identity : CatalogIdentity) (occurredAt : Time) (lease : Lease)
    (n attempt : ℕ) (acknowledged : Bool) : Replica :=
  if acknowledged then
    if n < identity.products.length then .renewing identity occurredAt lease (n + 1)
    else .finishing identity lease
  else if attempt + 1 < 3 then .publishing identity occurredAt lease n (attempt + 1)
  else .failed

variable (env : CatalogEnv) (config : BootstrapConfig)

/-- One step. -/
def Bootstrap.step (s : Bootstrap) : BootstrapAction → Option Bootstrap
  | .start r products =>
    match s.replica r with
    | .idle =>
      match identifyCatalog env products with
      | .ok identity => some (s.setReplica r (.waiting identity))
      | .error _ => some (s.setReplica r .failed)
    | _ => none
  | .acquire r call now =>
    match s.replica r with
    | .waiting identity =>
      (s.stepClaim identity.workId
        (.start call (.acquire identity.workId (config.workerId r) now config.claimDuration))).map
          fun s => s.setReplica r (.acquiring identity call)
    | _ => none
  | .acquired r occurredAt =>
    match s.replica r with
    | .acquiring identity call =>
      (s.result? identity call).map fun result =>
        s.setReplica r (.ofAcquire identity occurredAt result)
    | _ => none
  | .publish r outcome =>
    match s.replica r with
    | .publishing identity occurredAt lease n attempt =>
      match (bootstrapEvents env occurredAt identity)[n]? with
      | some event =>
        (Publish.publish PublishedEvent.messageId s.stream event outcome).map
          fun (stream, acknowledged) => { s with stream := stream }.setReplica r
            (.afterPublish identity occurredAt lease n attempt acknowledged)
      | none => none
    | _ => none
  | .renew r call now =>
    match s.replica r with
    | .renewing identity occurredAt lease n =>
      if config.claimDuration.nanos.tdiv 2 < lease.leaseUntil - now then
        some (s.setReplica r (.publishing identity occurredAt lease n 0))
      else
        (s.stepClaim identity.workId (.start call (.renew lease now config.claimDuration))).map
          fun s => s.setReplica r (.renewed identity occurredAt n call)
    | _ => none
  | .renewed r =>
    match s.replica r with
    | .renewed identity occurredAt n call =>
      (s.result? identity call).map fun result =>
        s.setReplica r (.ofRenew identity occurredAt n result)
    | _ => none
  | .complete r call now =>
    match s.replica r with
    | .finishing identity lease =>
      (s.stepClaim identity.workId (.start call (.complete lease now))).map
        fun s => s.setReplica r (.completing identity call)
    | _ => none
  | .completed r =>
    match s.replica r with
    | .completing identity call =>
      (s.result? identity call).map fun result => s.setReplica r (.ofComplete identity result)
    | _ => none
  | .stop r => some (s.setReplica r .failed)
  | .claim workId action => if continuesCall action then s.stepClaim workId action else none

/-! ## The invariant -/

section Invariant

variable {env : CatalogEnv} {config : BootstrapConfig} {s s' : Bootstrap} {identity : CatalogIdentity}
  {stream stream' : List PublishedEvent} {n : ℕ} {r : ℕ}

/-- The message IDs of the events of a catalog, in publish order. -/
def eventIds (env : CatalogEnv) (identity : CatalogIdentity) : List String :=
  (bootstrapEvents env 0 identity).map PublishedEvent.messageId

/-- The message IDs do not depend on the time of the events. -/
lemma map_messageId_bootstrapEvents (occurredAt : Time) :
    (bootstrapEvents env occurredAt identity).map PublishedEvent.messageId = eventIds env identity := by
  rw [eventIds, bootstrapEvents, bootstrapEvents, List.map_append, List.map_append, List.map_map,
    List.map_map]
  rfl

/-- All products and the snapshot have an event. -/
lemma length_eventIds : (eventIds env identity).length = identity.products.length + 1 := by
  simp [eventIds, bootstrapEvents]

/-- The message ID of an event of a catalog. -/
lemma getElem?_eventIds {occurredAt : Time} {event : PublishedEvent}
    (h : (bootstrapEvents env occurredAt identity)[n]? = some event) :
    (eventIds env identity)[n]? = some event.messageId := by
  rw [← map_messageId_bootstrapEvents occurredAt, List.getElem?_map, h]
  rfl

/-- The identity is that of a catalog. -/
def Identified (env : CatalogEnv) (identity : CatalogIdentity) : Prop :=
  ∃ products, identifyCatalog env products = .ok identity

/-- The stream has the first `n` events of a catalog, by their message IDs. -/
def UpTo (env : CatalogEnv) (stream : List PublishedEvent) (identity : CatalogIdentity) (n : ℕ) :
    Prop :=
  ∀ id ∈ (eventIds env identity).take n, ∃ e ∈ stream, e.messageId = id

/-- The stream has all events of some catalog with the work ID. -/
def WholeRevision (env : CatalogEnv) (stream : List PublishedEvent) (workId : String) : Prop :=
  ∃ identity, identity.workId = workId ∧ Identified env identity ∧
    UpTo env stream identity (identity.products.length + 1)

/-- Every event is one of a catalog, and all earlier events of the catalog are before it. -/
def Barrier (env : CatalogEnv) (stream : List PublishedEvent) : Prop :=
  ∀ before event after, stream = before ++ event :: after → ∃ identity occurredAt n,
    Identified env identity ∧ (bootstrapEvents env occurredAt identity)[n]? = some event ∧
      UpTo env before identity n

/-- What is stored stays stored. -/
lemma UpTo.mono (h : UpTo env stream identity n) (hgrows : stream <+: stream') :
    UpTo env stream' identity n := by
  intro id hid
  obtain ⟨e, he, heq⟩ := h id hid
  exact ⟨e, hgrows.subset he, heq⟩

/-- One more event is stored. -/
lemma UpTo.succ {id : String} (h : UpTo env stream identity n)
    (hid : (eventIds env identity)[n]? = some id) (hstored : ∃ e ∈ stream, e.messageId = id) :
    UpTo env stream identity (n + 1) := by
  intro id' hmem
  rw [List.take_add_one, hid] at hmem
  rcases List.mem_append.mp hmem with hold | hnew
  · exact h id' hold
  · obtain rfl := List.mem_singleton.mp hnew
    exact hstored

/-- A revision that is stored as a whole stays so. -/
lemma WholeRevision.mono {workId : String} (h : WholeRevision env stream workId)
    (hgrows : stream <+: stream') : WholeRevision env stream' workId := by
  obtain ⟨identity, hwork, hidentified, hall⟩ := h
  exact ⟨identity, hwork, hidentified, hall.mono hgrows⟩

/-- An event whose predecessors are stored keeps the barrier. -/
lemma Barrier.append {occurredAt : Time} {event : PublishedEvent} (h : Barrier env stream)
    (hidentified : Identified env identity)
    (hevent : (bootstrapEvents env occurredAt identity)[n]? = some event)
    (hbefore : UpTo env stream identity n) : Barrier env (stream ++ [event]) := by
  intro before e after heq
  rcases List.eq_nil_or_concat after with rfl | ⟨rest, last, rfl⟩
  · obtain ⟨rfl, hlast⟩ := List.append_inj' heq rfl
    obtain rfl := List.singleton_inj.mp hlast
    exact ⟨identity, occurredAt, n, hidentified, hevent, hbefore⟩
  · have hcut : stream ++ [event] = (before ++ e :: rest) ++ [last] := by
      rw [heq]
      simp
    obtain ⟨rfl, -⟩ := List.append_inj' hcut rfl
    exact h before e rest rfl

/-- A publish of the next event keeps the barrier. -/
lemma Barrier.publish {occurredAt : Time} {event : PublishedEvent} {outcome : Publish.Outcome}
    {result : List PublishedEvent × Bool} (h : Barrier env stream)
    (hidentified : Identified env identity)
    (hevent : (bootstrapEvents env occurredAt identity)[n]? = some event)
    (hbefore : UpTo env stream identity n)
    (hpublish : Publish.publish PublishedEvent.messageId stream event outcome = some result) :
    Barrier env result.1 := by
  rcases Publish.publish_cases hpublish with hsame | hnew
  · rw [hsame]
    exact h
  · rw [hnew]
    exact h.append hidentified hevent hbefore

/-! ### Claims -/

/-- A `Complete` of a claim is called when all events of its revision are stored. -/
def CompletesWhole (env : CatalogEnv) (stream : List PublishedEvent) (workId : String)
    (input : LeaseCall) : Prop :=
  ∀ lease now, input = .complete lease now → WholeRevision env stream workId

/-- The calls on a claim: they obey the rules of the update loop, and complete what is stored. -/
structure ClaimOk (env : CatalogEnv) (stream : List PublishedEvent) (workId : String)
    (calls : ClaimCalls) : Prop where
  sound : Sound kvLeaseLoop calls
  inputs : Inputs (fun _ => CompletesWhole env stream workId) calls

/-- An attempt that is refused goes on with the same call. -/
lemma kvLeaseLoop_next {call next : LeaseCall} {current : Option (LeaseRecord ℤ)}
    {value : LeaseRecord ℤ} {result : LeaseResult}
    (h : kvLeaseLoop.decide call current = .write next value result) : next = call := by
  cases call with
  | acquire workId workerId now duration => exact (kvAcquireLease_write h).1
  | renew lease now duration => exact (kvRenewLease_write h).1
  | complete lease now => exact (kvCompleteLease_write h).1

/-- `Acquire` and `Renew` write claims that are not completed. -/
lemma kvLeaseLoop_completed {call next : LeaseCall} {current : Option (LeaseRecord ℤ)}
    {value : LeaseRecord ℤ} {result : LeaseResult}
    (h : kvLeaseLoop.decide call current = .write next value result)
    (hcompleted : value.completed = true) : ∃ lease now, call = .complete lease now := by
  cases call with
  | acquire workId workerId now duration =>
    obtain ⟨-, -, -, hclaims⟩ := kvAcquireLease_write h
    rw [hclaims.completed] at hcompleted
    cases hcompleted
  | renew lease now duration =>
    obtain ⟨-, -, record, -, hopen, -, rfl⟩ := kvRenewLease_write h
    rw [hopen] at hcompleted
    cases hcompleted
  | complete lease now => exact ⟨lease, now, rfl⟩

/-- `ErrLeaseComplete` is returned for a completed claim that was read. -/
lemma kvLeaseLoop_completeError {call : LeaseCall} {current : Option (LeaseRecord ℤ)}
    {lease : Option Lease} :
    (∀ next value, kvLeaseLoop.decide call current ≠ .write next value (.completeError lease)) ∧
    (kvLeaseLoop.decide call current = .finish (.completeError lease) →
      ∃ record, current = some record ∧ record.completed = true) := by
  refine ⟨fun next value h => ?_, fun h => ?_⟩
  · cases call with
    | acquire workId workerId now duration =>
      obtain ⟨-, hresult, -⟩ := kvAcquireLease_write h
      cases hresult
    | renew lease now duration =>
      obtain ⟨-, hresult, -⟩ := kvRenewLease_write h
      cases hresult
    | complete lease now =>
      obtain ⟨-, hresult, -⟩ := kvCompleteLease_write h
      cases hresult
  · cases call with
    | acquire workId workerId now duration =>
      simp only [kvLeaseLoop, kvAcquireLease] at h
      split_ifs at h
      · cases h
      · cases h
      · cases current with
        | none => cases h
        | some record =>
          dsimp only at h
          split_ifs at h with _ hcompleted <;> cases h
          exact ⟨record, rfl, hcompleted⟩
    | renew lease now duration =>
      simp only [kvLeaseLoop, kvRenewLease] at h
      split_ifs at h
      · cases h
      · cases h
      · cases current with
        | none => cases h
        | some record =>
          dsimp only at h
          split_ifs at h with _ hcompleted <;> cases h
          exact ⟨record, rfl, hcompleted⟩
    | complete lease now =>
      simp only [kvLeaseLoop, kvCompleteLease] at h
      split_ifs at h
      · cases h
      · cases h
      · cases current with
        | none => cases h
        | some record =>
          dsimp only at h
          split_ifs at h with _ hcompleted <;> cases h
          exact ⟨record, rfl, hcompleted⟩

/-- A completed claim that was ever written stands for a revision that is stored as a whole. -/
lemma ClaimOk.whole {workId : String} {calls : ClaimCalls} (h : ClaimOk env stream workId calls)
    {w : Write ℕ LeaseCall (LeaseRecord ℤ)} (hw : w ∈ calls.log)
    (hcompleted : w.value.completed = true) : WholeRevision env stream workId := by
  refine h.sound.written.forall_value
    (Q := fun value => value.completed = true → WholeRevision env stream workId) ?_ w hw hcompleted
  intro w hw v next result _ hdecide hcompleted
  obtain ⟨lease, now, hcall⟩ := kvLeaseLoop_completed hdecide hcompleted
  exact h.inputs.log w hw lease now hcall

/-- A call that returns `ErrLeaseComplete` has read a completed claim. -/
lemma ClaimOk.whole_of_completeError {workId : String} {calls : ClaimCalls}
    (h : ClaimOk env stream workId calls) {call : ℕ} {input : LeaseCall} {lease : Option Lease}
    (hphase : calls.phase call = .returned input (some (.completeError lease))) :
    WholeRevision env stream workId := by
  rcases h.sound.of_phase hphase with ⟨pre, value, post, next, -, hdecide⟩ |
    ⟨revision, -, hdecide⟩
  · exact (kvLeaseLoop_completeError.1 _ _ hdecide).elim
  · obtain ⟨record, hrecord, hcompleted⟩ := kvLeaseLoop_completeError.2 hdecide
    obtain ⟨w, hw, rfl⟩ := valueAt_mem hrecord
    exact h.whole hw hcompleted

/-- A claim when more events are stored. -/
lemma ClaimOk.mono {workId : String} {calls : ClaimCalls} (h : ClaimOk env stream workId calls)
    (hgrows : stream <+: stream') : ClaimOk env stream' workId calls := by
  have hmono : ∀ input, CompletesWhole env stream workId input →
      CompletesWhole env stream' workId input :=
    fun input hinput lease now heq => (hinput lease now heq).mono hgrows
  refine ⟨h.sound, fun c => ?_, fun w hw => hmono _ (h.inputs.log w hw)⟩
  have hphase := h.inputs.phases c
  revert hphase
  cases calls.phase c with
  | idle => exact id
  | write => exact fun hphase => ⟨hmono _ hphase.1, hmono _ hphase.2⟩
  | lookup | fetch | keep | wrote | refused | returned => exact hmono _

/-- A step of a call keeps the claim in order. -/
lemma ClaimOk.step {workId : String} {calls calls' : ClaimCalls}
    {action : CasLoop.Action ℕ Unit LeaseCall} (h : ClaimOk env stream workId calls)
    (hstep : CasLoop.step kvLeaseLoop (.plain ℕ) calls action = some calls')
    (hstart : ∀ c input, action = .start c input → CompletesWhole env stream workId input) :
    ClaimOk env stream workId calls' where
  sound := h.sound.step (step_move hstep)
  inputs := by
    refine h.inputs.step (fun _ input v next value result hinput hdecide => ?_) hstart
      (step_move hstep)
    rwa [kvLeaseLoop_next hdecide]

/-! ### Replicas -/

/-- What holds where a replica is. -/
def ReplicaOk (env : CatalogEnv) (stream : List PublishedEvent) : Replica → Prop
  | .waiting identity | .acquiring identity _ => Identified env identity
  | .publishing identity _ _ n _ | .renewing identity _ _ n | .renewed identity _ n _ =>
    Identified env identity ∧ UpTo env stream identity n
  | .finishing identity _ | .completing identity _ => WholeRevision env stream identity.workId
  | .returned identity => WholeRevision env stream identity.workId
  | .idle | .failed => True

/-- The invariant of the bootstrap. -/
structure Bootstrap.Inv (env : CatalogEnv) (s : Bootstrap) : Prop where
  barrier : Barrier env s.stream
  claims : ∀ workId, ClaimOk env s.stream workId (s.claims workId)
  replicas : ∀ r, ReplicaOk env s.stream (s.replica r)

/-- What holds of a replica holds when more events are stored. -/
lemma ReplicaOk.mono {replica : Replica} (h : ReplicaOk env stream replica)
    (hgrows : stream <+: stream') : ReplicaOk env stream' replica := by
  cases replica with
  | publishing | renewing | renewed => exact ⟨h.1, UpTo.mono h.2 hgrows⟩
  | finishing | completing | returned => exact WholeRevision.mono h hgrows
  | waiting | acquiring => exact h
  | idle | failed => trivial

/-- A replica goes on to another place. -/
lemma Bootstrap.Inv.setReplica (h : s.Inv env) {replica : Replica}
    (hreplica : ReplicaOk env s.stream replica) : (s.setReplica r replica).Inv env := by
  refine ⟨h.barrier, h.claims, fun r' => ?_⟩
  by_cases hr : r' = r
  · subst hr
    have hnew : (s.setReplica r' replica).replica r' = replica := by simp [Bootstrap.setReplica]
    rw [hnew]
    exact hreplica
  · have hold : (s.setReplica r replica).replica r' = s.replica r' := by
      simp [Bootstrap.setReplica, hr]
    rw [hold]
    exact h.replicas r'

/-- A call on a claim takes a step. -/
lemma Bootstrap.Inv.stepClaim (h : s.Inv env) {workId : String}
    {action : CasLoop.Action ℕ Unit LeaseCall} (hstep : s.stepClaim workId action = some s')
    (hstart : ∀ c input, action = .start c input → CompletesWhole env s.stream workId input) :
    s'.Inv env ∧ s'.stream = s.stream := by
  obtain ⟨calls, hcalls, rfl⟩ := Option.map_eq_some_iff.mp hstep
  refine ⟨⟨h.barrier, fun workId' => ?_, h.replicas⟩, rfl⟩
  by_cases hw : workId' = workId
  · subst hw
    simp only [Function.update_self]
    exact (h.claims workId').step hcalls hstart
  · simp only [Function.update_of_ne hw]
    exact h.claims workId'

/-- A replica makes a call on its claim. -/
lemma Bootstrap.Inv.call (h : s.Inv env) {workId : String} {call : ℕ} {input : LeaseCall}
    {replica : Replica}
    (hstep : (s.stepClaim workId (.start call input)).map (fun s => s.setReplica r replica) = some s')
    (hinput : CompletesWhole env s.stream workId input)
    (hreplica : ReplicaOk env s.stream replica) : s'.Inv env := by
  obtain ⟨t, ht, rfl⟩ := Option.map_eq_some_iff.mp hstep
  obtain ⟨hinv, hstream⟩ := h.stepClaim ht (by
    rintro c input' heq
    cases heq
    exact hinput)
  exact hinv.setReplica (hstream ▸ hreplica)

/-- The call whose result is there has returned. -/
lemma Bootstrap.result?_eq_some {call : ℕ} {result : Option LeaseResult}
    (h : s.result? identity call = some result) :
    ∃ input, (s.claims identity.workId).phase call = .returned input result := by
  unfold Bootstrap.result? at h
  split at h
  · next input result' hphase =>
    obtain rfl := Option.some.inj h
    exact ⟨input, hphase⟩
  · cases h

/-- A replica publishes its next event. -/
lemma Bootstrap.Inv.stepPublish (h : s.Inv env) {r : ℕ} {outcome : Publish.Outcome}
    (hstep : s.step env config (.publish r outcome) = some s') : s'.Inv env := by
  have hreplica := h.replicas
  simp only [Bootstrap.step] at hstep
  split at hstep
  · next identity occurredAt lease n attempt hr =>
    have hok := hreplica r
    rw [hr] at hok
    obtain ⟨hidentified, hupto⟩ := hok
    split at hstep
    · next event hevent =>
      obtain ⟨⟨stream, acknowledged⟩, hpublish, rfl⟩ := Option.map_eq_some_iff.mp hstep
      have hpublished := Publish.published_of_publish hpublish
      have hbarrier : Barrier env stream := h.barrier.publish hidentified hevent hupto hpublish
      have hinv : Bootstrap.Inv env { s with stream := stream } :=
        ⟨hbarrier, fun workId => (h.claims workId).mono hpublished.grows,
          fun r => ReplicaOk.mono (hreplica r) hpublished.grows⟩
      refine hinv.setReplica ?_
      have hkept : UpTo env stream identity n := hupto.mono hpublished.grows
      unfold Replica.afterPublish
      split_ifs with hacknowledged hn hattempt
      · exact ⟨hidentified, hkept.succ (getElem?_eventIds hevent) (hpublished.stored hacknowledged)⟩
      · have hlast : n = identity.products.length := by
          have hlt := (List.getElem?_eq_some_iff.mp (getElem?_eventIds hevent)).1
          rw [length_eventIds] at hlt
          omega
        refine ⟨identity, rfl, hidentified, ?_⟩
        rw [← hlast]
        exact hkept.succ (getElem?_eventIds hevent) (hpublished.stored hacknowledged)
      · exact ⟨hidentified, hkept⟩
      · trivial
    · cases hstep
  · cases hstep

/-- A step keeps the invariant. -/
lemma Bootstrap.Inv.step (h : s.Inv env) {action : BootstrapAction}
    (hstep : s.step env config action = some s') : s'.Inv env := by
  have hreplica := h.replicas
  cases action with
  | start r products =>
    simp only [Bootstrap.step] at hstep
    split at hstep
    · split at hstep
      · next identity hidentity =>
        cases hstep
        exact h.setReplica ⟨products, hidentity⟩
      · cases hstep
        exact h.setReplica trivial
    · cases hstep
  | acquire r call now =>
    simp only [Bootstrap.step] at hstep
    split at hstep
    · next identity hr =>
      have hidentified : Identified env identity := by simpa [hr, ReplicaOk] using hreplica r
      exact h.call hstep (by rintro lease now ⟨⟩) hidentified
    · cases hstep
  | acquired r occurredAt =>
    simp only [Bootstrap.step] at hstep
    split at hstep
    · next identity call hr =>
      have hidentified : Identified env identity := by simpa [hr, ReplicaOk] using hreplica r
      obtain ⟨result, hresult, rfl⟩ := Option.map_eq_some_iff.mp hstep
      obtain ⟨input, hphase⟩ := Bootstrap.result?_eq_some hresult
      refine h.setReplica ?_
      unfold Replica.ofAcquire
      split
      · exact ⟨hidentified, by simp [UpTo]⟩
      · exact (h.claims identity.workId).whole_of_completeError hphase
      · exact hidentified
      · trivial
    · cases hstep
  | publish r outcome => exact h.stepPublish hstep
  | renew r call now =>
    simp only [Bootstrap.step] at hstep
    split at hstep
    · next identity occurredAt lease n hr =>
      have hok := hreplica r
      rw [hr] at hok
      split_ifs at hstep
      · cases hstep
        exact h.setReplica hok
      · exact h.call hstep (by rintro lease now ⟨⟩) hok
    · cases hstep
  | renewed r =>
    simp only [Bootstrap.step] at hstep
    split at hstep
    · next identity occurredAt n call hr =>
      have hok := hreplica r
      rw [hr] at hok
      obtain ⟨result, -, rfl⟩ := Option.map_eq_some_iff.mp hstep
      refine h.setReplica ?_
      unfold Replica.ofRenew
      split
      · exact hok
      · trivial
    · cases hstep
  | complete r call now =>
    simp only [Bootstrap.step] at hstep
    split at hstep
    · next identity lease hr =>
      have hok := hreplica r
      rw [hr] at hok
      exact h.call hstep (fun _ _ _ => hok) hok
    · cases hstep
  | completed r =>
    simp only [Bootstrap.step] at hstep
    split at hstep
    · next identity call hr =>
      have hok := hreplica r
      rw [hr] at hok
      obtain ⟨result, -, rfl⟩ := Option.map_eq_some_iff.mp hstep
      refine h.setReplica ?_
      unfold Replica.ofComplete
      split
      · exact hok
      · trivial
    · cases hstep
  | stop r =>
    cases hstep
    exact h.setReplica trivial
  | claim workId action =>
    simp only [Bootstrap.step] at hstep
    split_ifs at hstep with hcontinues
    refine (h.stepClaim hstep ?_).1
    rintro c input rfl
    cases hcontinues

/-- A step of a call on a claim does not publish. -/
lemma Bootstrap.stepClaim_stream {workId : String} {action : CasLoop.Action ℕ Unit LeaseCall}
    (hstep : s.stepClaim workId action = some s') : s'.stream = s.stream := by
  obtain ⟨calls, -, rfl⟩ := Option.map_eq_some_iff.mp hstep
  rfl

/-- The stream only grows. -/
lemma Bootstrap.step_grows {action : BootstrapAction}
    (hstep : s.step env config action = some s') : s.stream <+: s'.stream := by
  have hcall : ∀ {workId : String} {call : ℕ} {input : LeaseCall} {r : ℕ} {replica : Replica},
      (s.stepClaim workId (.start call input)).map (fun s => s.setReplica r replica) = some s' →
        s.stream <+: s'.stream := by
    intro workId call input r replica h
    obtain ⟨t, ht, rfl⟩ := Option.map_eq_some_iff.mp h
    exact Bootstrap.stepClaim_stream ht ▸ List.prefix_rfl
  cases action with
  | start r products =>
    simp only [Bootstrap.step] at hstep
    split at hstep
    · split at hstep <;> cases hstep <;> exact List.prefix_rfl
    · cases hstep
  | acquire r call now =>
    simp only [Bootstrap.step] at hstep
    split at hstep
    · exact hcall hstep
    · cases hstep
  | acquired r occurredAt =>
    simp only [Bootstrap.step] at hstep
    split at hstep
    · obtain ⟨result, -, rfl⟩ := Option.map_eq_some_iff.mp hstep
      exact List.prefix_rfl
    · cases hstep
  | publish r outcome =>
    simp only [Bootstrap.step] at hstep
    split at hstep
    · split at hstep
      · obtain ⟨result, hpublish, rfl⟩ := Option.map_eq_some_iff.mp hstep
        exact (Publish.published_of_publish hpublish).grows
      · cases hstep
    · cases hstep
  | renew r call now =>
    simp only [Bootstrap.step] at hstep
    split at hstep
    · split_ifs at hstep
      · cases hstep
        exact List.prefix_rfl
      · exact hcall hstep
    · cases hstep
  | renewed r =>
    simp only [Bootstrap.step] at hstep
    split at hstep
    · obtain ⟨result, -, rfl⟩ := Option.map_eq_some_iff.mp hstep
      exact List.prefix_rfl
    · cases hstep
  | complete r call now =>
    simp only [Bootstrap.step] at hstep
    split at hstep
    · exact hcall hstep
    · cases hstep
  | completed r =>
    simp only [Bootstrap.step] at hstep
    split at hstep
    · obtain ⟨result, -, rfl⟩ := Option.map_eq_some_iff.mp hstep
      exact List.prefix_rfl
    · cases hstep
  | stop r =>
    cases hstep
    exact List.prefix_rfl
  | claim workId action =>
    simp only [Bootstrap.step] at hstep
    split_ifs at hstep
    exact Bootstrap.stepClaim_stream hstep ▸ List.prefix_rfl

/-- The invariant holds before the first step. -/
lemma Bootstrap.Inv.init : Bootstrap.Inv env {} where
  barrier := by
    intro before event after heq
    simp at heq
  claims := fun workId => ⟨.init, fun c => trivial, fun _ hw => (List.not_mem_nil hw).elim⟩
  replicas := fun r => trivial

/-- The invariant holds in every state that a run reaches. -/
lemma Bootstrap.inv_of_run {acts : List BootstrapAction}
    (hrun : StepSystem.run (Bootstrap.step env config) {} acts = some s) : s.Inv env :=
  StepSystem.run_invariant_of_step (fun _ _ _ ht hstep => ht.step hstep) .init hrun

/-! ## The law -/

/-- What the bootstrap promises.  Every event is one of a catalog and stands behind all earlier events of
that catalog.  All events of a revision are stored when its claim is complete, and when a replica
returns without an error. -/
structure Bootstrap.Law (env : CatalogEnv) (s : Bootstrap) : Prop where
  barrier : Barrier env s.stream
  completed : ∀ workId record, current (s.claims workId).log = some record →
    record.completed = true → WholeRevision env s.stream workId
  returned : ∀ r identity, s.replica r = .returned identity →
    WholeRevision env s.stream identity.workId

/-- Whatever replicas publish which catalogs, lose claims or replies and stop, a snapshot event stands
behind all products of its revision, and a completed claim has its snapshot. -/
theorem snapshot_follows_products {acts : List BootstrapAction}
    (hrun : StepSystem.run (Bootstrap.step env config) {} acts = some s) : s.Law env := by
  have h := Bootstrap.inv_of_run hrun
  refine ⟨h.barrier, fun workId record hcurrent hcompleted => ?_, fun r identity hr => ?_⟩
  · obtain ⟨w, hw, rfl⟩ := Option.map_eq_some_iff.mp hcurrent
    exact (h.claims workId).whole (List.mem_of_getLast? hw) hcompleted
  · have hok := h.replicas r
    rwa [hr] at hok

end Invariant

/-! ## A sample run -/

/-- Hash functions that keep the length. -/
def sampleHashes : CatalogEnv where
  sha256 := fun bytes => List.replicate 7 0 ++ [UInt8.ofNat bytes.length]
  marshal := fun snapshot => List.replicate (3 + snapshot.productVersion) 0
  deterministicMessageID := fun parts => String.intercalate "/" parts

/-- Thirty seconds, and worker IDs. -/
def sampleConfig : BootstrapConfig where
  claimDuration := { nanos := 30 * 1000000000, lower := by decide, upper := by decide }
  workerId := fun r => "worker-" ++ toString r

/-- A catalog of one product. -/
def sampleCatalog : List Product := [{ id := "mug", priceUsd := some { currencyCode := "USD" } }]

/-- The steps of a call that reads and writes the claim. -/
def sampleWrite (call : ℕ) : List BootstrapAction :=
  [.claim "catalog:8" (.lookup call), .claim "catalog:8" (.fetch call),
    .claim "catalog:8" (.write call), .claim "catalog:8" (.store call)]

/-- The first replica publishes the product, loses the reply and stops.  The second takes over the claim
when it has expired, finds the product in the stream and publishes the snapshot at its second attempt.
The third finds the claim complete. -/
def sampleBootstrap : List BootstrapAction :=
  [.start 0 sampleCatalog, .acquire 0 0 unixEpoch] ++ sampleWrite 0 ++
  [.acquired 0 unixEpoch, .publish 0 .lost, .stop 0, .start 1 sampleCatalog,
    .acquire 1 1 (unixEpoch + 31 * 1000000000)] ++ sampleWrite 1 ++
  [.acquired 1 unixEpoch, .publish 1 .duplicate, .renew 1 2 (unixEpoch + 31 * 1000000000),
    .publish 1 .failed, .publish 1 .stored, .complete 1 2 (unixEpoch + 32 * 1000000000)] ++
  sampleWrite 2 ++
  [.completed 1, .start 2 sampleCatalog, .acquire 2 3 (unixEpoch + 33 * 1000000000),
    .claim "catalog:8" (.lookup 3), .claim "catalog:8" (.fetch 3), .acquired 2 unixEpoch]

/-- The revision with which a replica has returned. -/
def Replica.returned? : Replica → Option ℕ
  | .returned identity => some identity.revision
  | _ => none

/-- The IDs in the stream and the revisions with which three replicas have returned. -/
def Bootstrap.outcome (s : Bootstrap) : List String × List (Option ℕ) :=
  (s.stream.map PublishedEvent.messageId, [0, 1, 2].map fun r => (s.replica r).returned?)

/-- The product and the snapshot are stored once, and two replicas return. -/
theorem taken_over_bootstrap_completes :
    ∃ s : Bootstrap, StepSystem.run (Bootstrap.step sampleHashes sampleConfig) {} sampleBootstrap =
      some s ∧ s.outcome = (["boutique.evt.catalog.product-upserted.v1/8/mug",
        "boutique.evt.catalog.snapshot-completed.v1/8/000000000000000e"], [none, some 8, some 8]) ∧
        s.Law sampleHashes := by
  have houtcome : (StepSystem.run (Bootstrap.step sampleHashes sampleConfig) {}
      sampleBootstrap).map Bootstrap.outcome =
        some (["boutique.evt.catalog.product-upserted.v1/8/mug",
          "boutique.evt.catalog.snapshot-completed.v1/8/000000000000000e"],
          [none, some 8, some 8]) := by
    decide +kernel
  obtain ⟨s, hs, hleft⟩ := Option.map_eq_some_iff.mp houtcome
  exact ⟨s, hs, hleft, snapshot_follows_products hs⟩

end Boutique.Catalog
