import Boutique.Catalog.Bootstrap
import Boutique.Catalog.LastPublished
import Boutique.Cart.CatalogProjection

/-!
# When the cart service is ready

`ConsumeCatalogAsync` and the start of the command consumer in
`cartservice/src/messaging/NatsCartCommandWorker.cs` with `WaitUntilReadyAsync` of
`RedisCatalogProjection.cs`, behind the bootstrap of the product catalog.  All replicas share one durable
consumer that has one event in flight and delivers it up to ten times; a delivery may end at any point,
apply an event late, and lose its acknowledgement.

A process takes commands when the projection has a snapshot.  By then it has all products of a published
catalog, but for those whose events were given up.
-/

namespace Boutique.CartCatalog

open Catalog

/-! ## Steps -/

/-- Where a delivery of `ConsumeCatalogAsync` is; the number is that of its event in the stream. -/
inductive CatalogDelivery where
  | unused
  | received (k : ℕ)
  | applied (k : ℕ)

/-- The catalog publishers, the projection, the consumer `cart-catalog-v1` with its position in the
stream, the deliveries of the event there and the events it gave up, and the processes that take
commands. -/
structure Readiness where
  bootstrap : Bootstrap := {}
  keys : CatalogKeys := {}
  position : ℕ := 0
  deliveries : ℕ := 0
  skipped : List ℕ := []
  delivery : ℕ → CatalogDelivery := fun _ => .unused
  started : ℕ → Bool := fun _ => false

/-- The steps: of the publishers; an event is delivered; it is applied, or refused with an error; the
acknowledgement arrives; a delivery ends without one; the event is given up; a process finds the
projection ready. -/
inductive ReadinessAction where
  | bootstrap (action : BootstrapAction)
  | deliver (c : ℕ)
  | apply (c : ℕ)
  | ack (c : ℕ)
  | abandon (c : ℕ)
  | giveUp
  | start (p : ℕ)

/-- `MaxDeliver`. -/
def maxDeliver : ℕ := 10

/-- The test of `WaitUntilReadyAsync`. -/
def CatalogKeys.ready (keys : CatalogKeys) : Bool := keys.snapshot.any fun revision => 0 < revision

/-- The state with another place of a delivery. -/
def Readiness.setDelivery (s : Readiness) (c : ℕ) (delivery : CatalogDelivery) : Readiness :=
  { s with delivery := Function.update s.delivery c delivery }

variable (env : CatalogEnv) (config : BootstrapConfig) (digest : String → String)

/-- One step. -/
def Readiness.step (s : Readiness) : ReadinessAction → Option Readiness
  | .bootstrap action =>
    (s.bootstrap.step env config action).map fun bootstrap => { s with bootstrap := bootstrap }
  | .deliver c =>
    match s.delivery c with
    | .unused =>
      if s.position < s.bootstrap.stream.length ∧ s.deliveries < maxDeliver then
        some ({ s with deliveries := s.deliveries + 1 }.setDelivery c (.received s.position))
      else none
    | _ => none
  | .apply c =>
    match s.delivery c with
    | .received k =>
      match s.bootstrap.stream[k]? with
      | some event =>
        match applyAsync digest s.keys event.subject event.envelope with
        | .ok keys => some ({ s with keys := keys }.setDelivery c (.applied k))
        | .error _ => some (s.setDelivery c .unused)
      | none => none
    | _ => none
  | .ack c =>
    match s.delivery c with
    | .applied k =>
      if k = s.position then
        some ({ s with position := s.position + 1, deliveries := 0 }.setDelivery c .unused)
      else some (s.setDelivery c .unused)
    | _ => none
  | .abandon c => some (s.setDelivery c .unused)
  | .giveUp =>
    if s.deliveries = maxDeliver then
      some { s with skipped := s.skipped ++ [s.position], position := s.position + 1, deliveries := 0 }
    else none
  | .start p =>
    if s.keys.ready then some { s with started := Function.update s.started p true } else none

/-! ## The events of the bootstrap -/

section Events

variable {env : CatalogEnv} {config : BootstrapConfig} {digest : String → String}
  {keys keys' : CatalogKeys} {event : PublishedEvent} {identity : CatalogIdentity} {occurredAt : Time}

/-- All products of the projection are active. -/
def CatalogKeys.Active (keys : CatalogKeys) : Prop :=
  ∀ key fields, keys.products key = some fields → fields.active = true

/-- The product of an event is in the projection. -/
def Held (digest : String → String) (keys : CatalogKeys) (event : PublishedEvent) : Prop :=
  ∀ product revision, event.envelope.data = .catalogProductUpserted (some product) revision →
    containsAsync digest keys product.productId = true

/-- What applying an event of a bootstrap does. -/
structure Applied (digest : String → String) (keys keys' : CatalogKeys) (event : PublishedEvent) :
    Prop where
  active : keys'.Active
  held : Held digest keys' event
  kept : ∀ productId, containsAsync digest keys productId = true →
    containsAsync digest keys' productId = true
  snapshot : keys'.snapshot = keys.snapshot ∨ event.subject = .catalogSnapshotCompleted
  ready : keys.ready = true → keys'.ready = true

/-- The product script stores an active product under its key. -/
lemma applied_product (productId : String) {fields : ProductFields} (hactive : keys.Active)
    (hversion : 0 < fields.version) (hfields : fields.active = true) :
    let keys' := applyProductAsync digest keys productId fields
    keys'.Active ∧ containsAsync digest keys' productId = true ∧
      ∀ id, containsAsync digest keys id = true → containsAsync digest keys' id = true := by
  have hstored : ∃ stored, applyProductScript (keys.products (digest productId)) fields =
      some stored ∧ stored.active = true := by
    unfold applyProductScript
    cases hold : keys.products (digest productId) with
    | none =>
      have hreply : applyProductReply none fields = true := by
        have hzero : luaNumber 0 = 0 := luaNumber_of_lt (by decide)
        have hpos := luaNumber_pos hversion
        simp only [applyProductReply, luaStored, Option.map_none, Option.getD_none, hzero]
        simp [hpos.ne']
      rw [if_pos hreply]
      exact ⟨fields, rfl, hfields⟩
    | some stored =>
      split_ifs
      · exact ⟨fields, rfl, hfields⟩
      · exact ⟨stored, rfl, hactive _ _ hold⟩
  obtain ⟨stored, hscript, hgood⟩ := hstored
  refine ⟨fun key fields' hkey => ?_, ?_, fun id hid => ?_⟩
  · by_cases hk : key = digest productId
    · subst hk
      simp only [applyProductAsync, Function.update_self, hscript] at hkey
      obtain rfl := Option.some.inj hkey
      exact hgood
    · simp only [applyProductAsync, Function.update_of_ne hk] at hkey
      exact hactive key fields' hkey
  · simp [containsAsync, applyProductAsync, hscript, hgood]
  · by_cases hk : digest id = digest productId
    · simp [containsAsync, applyProductAsync, hk, hscript, hgood]
    · simpa [containsAsync, applyProductAsync, Function.update_of_ne hk] using hid

/-- The snapshot script keeps a ready projection ready. -/
lemma ready_applySnapshotScript {revision : ℕ} (hrevision : 0 < revision)
    (h : keys.ready = true) :
    CatalogKeys.ready { keys with snapshot := applySnapshotScript keys.snapshot revision } = true := by
  unfold applySnapshotScript
  split_ifs
  · simpa [CatalogKeys.ready] using hrevision
  · exact h

/-- What `ApplyAsync` stores. -/
lemma applyAsync_cases {subject : EventSubject} {envelope : MessageEnvelope}
    (h : applyAsync digest keys subject envelope = .ok keys') :
    (∃ product revision, envelope.data = .catalogProductUpserted (some product) revision ∧
      0 < product.productVersion ∧ keys' = applyProductAsync digest keys product.productId
        { version := product.productVersion, active := true
          sourceEventId := envelope.messageId, catalogRevision := revision }) ∨
    subject = .catalogProductRemoved ∨
    subject = .catalogSnapshotCompleted ∧ ∃ revision, 0 < revision ∧
      keys' = { keys with snapshot := applySnapshotScript keys.snapshot revision } := by
  unfold applyAsync at h
  split at h
  · cases h
  cases subject with
  | catalogProductUpserted =>
    left
    dsimp only at h
    split at h
    · next product revision hdata =>
      split at h
      · cases h
      · next hvalid =>
        obtain rfl := Except.ok.inj h
        simp only [Bool.or_eq_true, decide_eq_true_eq, not_or] at hvalid
        exact ⟨product, revision, hdata, Nat.pos_of_ne_zero hvalid.2, rfl⟩
    · cases h
  | catalogProductRemoved => exact Or.inr (Or.inl rfl)
  | catalogSnapshotCompleted =>
    right
    right
    dsimp only at h
    split at h
    · next revision count checksum hdata =>
      split at h
      · cases h
      · next hrevision =>
        obtain rfl := Except.ok.inj h
        exact ⟨rfl, revision, Nat.pos_of_ne_zero hrevision, rfl⟩
    · cases h
  | _ => cases h

/-- An event of a bootstrap is applied. -/
lemma applied_of_applyAsync {n : ℕ} (hactive : keys.Active)
    (hevent : (bootstrapEvents env occurredAt identity)[n]? = some event)
    (happly : applyAsync digest keys event.subject event.envelope = .ok keys') :
    Applied digest keys keys' event := by
  have hmem := List.mem_of_getElem? hevent
  rw [bootstrapEvents, List.mem_append, List.mem_map, List.mem_singleton] at hmem
  rcases applyAsync_cases happly with ⟨product, revision, hdata, hversion, rfl⟩ | hremoved |
    ⟨hsubject, revision, hrevision, rfl⟩
  · obtain ⟨hstill, hnew, hkept⟩ := @applied_product digest keys product.productId
      { version := product.productVersion, active := true
        sourceEventId := event.envelope.messageId, catalogRevision := revision }
      hactive hversion rfl
    refine { active := hstill, held := ?_, kept := hkept, snapshot := Or.inl rfl, ready := id }
    intro product' revision' hdata'
    rw [hdata] at hdata'
    cases hdata'
    exact hnew
  · rcases hmem with ⟨product, -, rfl⟩ | rfl
    · cases hremoved
    · cases hremoved
  · refine { active := hactive, held := ?_, kept := fun _ => id, snapshot := Or.inr hsubject
             ready := ready_applySnapshotScript hrevision }
    rcases hmem with ⟨product, -, rfl⟩ | rfl
    · cases hsubject
    · rintro product revision heq
      simp [completedEvent, bootstrapEnvelope] at heq

/-- What is held stays held. -/
lemma Applied.held_mono {event' : PublishedEvent} (h : Applied digest keys keys' event)
    (hheld : Held digest keys event') : Held digest keys' event' :=
  fun product revision hdata => h.kept _ (hheld product revision hdata)

end Events

/-! ## The invariant -/

section Invariant

variable {env : CatalogEnv} {config : BootstrapConfig} {digest : String → String}
  {s s' : Readiness} {action : ReadinessAction} {c k : ℕ}

/-- The event with the number is stored and its product is in the projection. -/
def Readiness.Has (digest : String → String) (s : Readiness) (k : ℕ) : Prop :=
  ∃ event, s.bootstrap.stream[k]? = some event ∧ Held digest s.keys event

/-- What holds where a delivery is. -/
def Readiness.DeliveryOk (digest : String → String) (s : Readiness) : CatalogDelivery → Prop
  | .unused => True
  | .received k => k ≤ s.position
  | .applied k => k ≤ s.position ∧ s.Has digest k

/-- The invariant: what the consumer has passed is in the projection or was given up, and a projection
with a snapshot has got it from an event that the consumer has reached. -/
structure Readiness.Inv (env : CatalogEnv) (digest : String → String) (s : Readiness) : Prop where
  bootstrap : s.bootstrap.Inv env
  active : s.keys.Active
  passed : ∀ k < s.position, k ∈ s.skipped ∨ s.Has digest k
  deliveries : ∀ c, s.DeliveryOk digest (s.delivery c)
  snapshot : s.keys.snapshot ≠ none → ∃ k ≤ s.position, ∃ event,
    s.bootstrap.stream[k]? = some event ∧ event.subject = .catalogSnapshotCompleted
  started : ∀ p, s.started p = true → s.keys.ready = true

/-- What the projection has, it has after more events. -/
lemma Readiness.Has.mono (h : s.Has digest k)
    (hstream : s.bootstrap.stream <+: s'.bootstrap.stream)
    (hheld : ∀ event, Held digest s.keys event → Held digest s'.keys event) : s'.Has digest k := by
  obtain ⟨event, hevent, hhas⟩ := h
  exact ⟨event, Publish.getElem?_of_prefix hstream hevent, hheld event hhas⟩

/-- What holds of a delivery holds when the consumer goes on. -/
lemma Readiness.DeliveryOk.mono {delivery : CatalogDelivery} (h : s.DeliveryOk digest delivery)
    (hposition : s.position ≤ s'.position) (hhas : ∀ k, s.Has digest k → s'.Has digest k) :
    s'.DeliveryOk digest delivery := by
  cases delivery with
  | unused => trivial
  | received k => exact le_trans h hposition
  | applied k => exact ⟨h.1.trans hposition, hhas k h.2⟩

/-- A delivery goes on to another place. -/
lemma Readiness.Inv.setDelivery (h : s.Inv env digest) {delivery : CatalogDelivery}
    (hdelivery : s.DeliveryOk digest delivery) : (s.setDelivery c delivery).Inv env digest := by
  refine { bootstrap := h.bootstrap, active := h.active, passed := h.passed, deliveries := ?_
           snapshot := h.snapshot, started := h.started }
  intro c'
  have hsame : ∀ d, s.DeliveryOk digest d → (s.setDelivery c delivery).DeliveryOk digest d :=
    fun d hd => Readiness.DeliveryOk.mono hd le_rfl fun _ => id
  by_cases hc : c' = c
  · subst hc
    have hnew : (s.setDelivery c' delivery).delivery c' = delivery := by
      simp [Readiness.setDelivery]
    rw [hnew]
    exact hsame _ hdelivery
  · have hold : (s.setDelivery c delivery).delivery c' = s.delivery c' := by
      simp [Readiness.setDelivery, hc]
    rw [hold]
    exact hsame _ (h.deliveries c')

/-- The consumer passes the event at its position, which is in the projection or given up. -/
lemma Readiness.Inv.advance (h : s.Inv env digest) {skipped : List ℕ}
    (hskipped : s.skipped ⊆ skipped) (hpassed : s.position ∈ skipped ∨ s.Has digest s.position) :
    Readiness.Inv env digest
      { s with skipped := skipped, position := s.position + 1, deliveries := 0 } where
  bootstrap := h.bootstrap
  active := h.active
  passed := by
    intro k hk
    rcases Nat.lt_succ_iff_lt_or_eq.mp hk with hlt | rfl
    · exact (h.passed k hlt).imp_left fun hmem => hskipped hmem
    · exact hpassed
  deliveries := fun c => Readiness.DeliveryOk.mono (h.deliveries c) (Nat.le_succ _) fun _ => id
  snapshot := by
    intro hsnapshot
    obtain ⟨k, hk, event, hevent, hsubject⟩ := h.snapshot hsnapshot
    exact ⟨k, hk.trans (Nat.le_succ _), event, hevent, hsubject⟩
  started := h.started

/-- An event of the stream is one of a bootstrap. -/
lemma Readiness.Inv.event (h : s.Inv env digest) {event : PublishedEvent}
    (hevent : s.bootstrap.stream[k]? = some event) : ∃ identity occurredAt n,
      Identified env identity ∧ (bootstrapEvents env occurredAt identity)[n]? = some event ∧
        UpTo env (s.bootstrap.stream.take k) identity n := by
  obtain ⟨hlt, rfl⟩ := List.getElem?_eq_some_iff.mp hevent
  exact h.bootstrap.barrier _ _ (s.bootstrap.stream.drop (k + 1)) (by simp)

/-- A step keeps the invariant. -/
lemma Readiness.Inv.step (h : s.Inv env digest)
    (hstep : s.step env config digest action = some s') : s'.Inv env digest := by
  cases action with
  | bootstrap action =>
    obtain ⟨bootstrap, hbootstrap, rfl⟩ := Option.map_eq_some_iff.mp hstep
    have hstream := Bootstrap.step_grows hbootstrap
    have hhas : ∀ k, s.Has digest k → Readiness.Has digest { s with bootstrap := bootstrap } k :=
      fun k hk => Readiness.Has.mono hk hstream fun _ => id
    refine { bootstrap := h.bootstrap.step hbootstrap, active := h.active
             passed := fun k hk => (h.passed k hk).imp_right (hhas k)
             deliveries := fun c => Readiness.DeliveryOk.mono (h.deliveries c) le_rfl hhas
             snapshot := fun hsnapshot => ?_, started := h.started }
    obtain ⟨k, hk, event, hevent, hsubject⟩ := h.snapshot hsnapshot
    exact ⟨k, hk, event, Publish.getElem?_of_prefix hstream hevent, hsubject⟩
  | deliver c =>
    simp only [Readiness.step] at hstep
    split at hstep
    · split_ifs at hstep
      cases hstep
      have hcounted : Readiness.Inv env digest { s with deliveries := s.deliveries + 1 } :=
        ⟨h.bootstrap, h.active, h.passed,
          fun c => Readiness.DeliveryOk.mono (h.deliveries c) le_rfl fun _ => id, h.snapshot,
          h.started⟩
      exact hcounted.setDelivery (le_refl s.position)
    · cases hstep
  | apply c =>
    simp only [Readiness.step] at hstep
    split at hstep
    · next k hreceived =>
      have hposition : k ≤ s.position := by
        have hok := h.deliveries c
        rwa [hreceived] at hok
      split at hstep
      · next event hevent =>
        split at hstep
        · next keys happly =>
          cases hstep
          obtain ⟨identity, occurredAt, n, -, hbootstrap, -⟩ := h.event hevent
          have hdone := applied_of_applyAsync h.active hbootstrap happly
          have hhas : ∀ k, s.Has digest k → Readiness.Has digest { s with keys := keys } k :=
            fun k hk => Readiness.Has.mono hk List.prefix_rfl fun _ => hdone.held_mono
          have hinv : Readiness.Inv env digest { s with keys := keys } := by
            refine { bootstrap := h.bootstrap, active := hdone.active
                     passed := fun k hk => (h.passed k hk).imp_right (hhas k)
                     deliveries := fun c => Readiness.DeliveryOk.mono (h.deliveries c) le_rfl hhas
                     snapshot := fun hsnapshot => ?_
                     started := fun p hp => hdone.ready (h.started p hp) }
            rcases hdone.snapshot with hsame | hsubject
            · exact h.snapshot (hsame ▸ hsnapshot)
            · exact ⟨k, hposition, event, hevent, hsubject⟩
          exact hinv.setDelivery ⟨hposition, event, hevent, hdone.held⟩
        · cases hstep
          exact h.setDelivery trivial
      · cases hstep
    · cases hstep
  | ack c =>
    simp only [Readiness.step] at hstep
    split at hstep
    · next k happlied =>
      have hok := h.deliveries c
      rw [happlied] at hok
      split_ifs at hstep with hk
      · cases hstep
        exact (h.advance (List.Subset.refl _) (Or.inr (hk ▸ hok.2))).setDelivery trivial
      · cases hstep
        exact h.setDelivery trivial
    · cases hstep
  | abandon c =>
    cases hstep
    exact h.setDelivery trivial
  | giveUp =>
    simp only [Readiness.step] at hstep
    split_ifs at hstep
    cases hstep
    exact h.advance (List.subset_append_left _ _)
      (Or.inl (List.mem_append_right _ (List.mem_singleton_self _)))
  | start p =>
    simp only [Readiness.step] at hstep
    split_ifs at hstep with hready
    cases hstep
    refine { h with
      deliveries := fun c => Readiness.DeliveryOk.mono (h.deliveries c) le_rfl fun _ => id
      started := fun _ _ => hready }

/-- The invariant holds in every state that a run reaches. -/
lemma Readiness.inv_of_run {acts : List ReadinessAction}
    (hrun : StepSystem.run (Readiness.step env config digest) {} acts = some s) :
    s.Inv env digest := by
  refine StepSystem.run_invariant_of_step (fun _ _ _ ht hstep => ht.step hstep) ?_ hrun
  exact { bootstrap := .init, active := by rintro _ _ ⟨⟩, passed := by rintro _ ⟨⟩
          deliveries := fun _ => trivial, snapshot := fun hnone => (hnone rfl).elim
          started := by rintro _ ⟨⟩ }

/-! ## The law -/

/-- The event of a product of a catalog has been given up. -/
def Readiness.GaveUp (env : CatalogEnv) (s : Readiness) (identity : CatalogIdentity)
    (product : ProductSnapshot) : Prop :=
  ∃ k ∈ s.skipped, ∃ event, s.bootstrap.stream[k]? = some event ∧
    event.messageId = (upsertedEvent env 0 identity product).messageId

/-- What `ContainsAsync` promises to the commands: every process that takes them has all products of a
published catalog, but for those whose events were given up. -/
def Readiness.Law (env : CatalogEnv) (digest : String → String) (s : Readiness) : Prop :=
  ∀ p, s.started p = true → ∃ identity, Identified env identity ∧
    (∃ event ∈ s.bootstrap.stream, event.messageId = (completedEvent env 0 identity).messageId) ∧
    ∀ product ∈ identity.products, s.GaveUp env identity product ∨
      containsAsync digest s.keys product.productId = true

/-- The event of a bootstrap that ends it is the last. -/
lemma snapshot_last {event : PublishedEvent} {identity : CatalogIdentity} {occurredAt : Time} {n : ℕ}
    (hevent : (bootstrapEvents env occurredAt identity)[n]? = some event)
    (hsubject : event.subject = .catalogSnapshotCompleted) :
    n = identity.products.length ∧ event = completedEvent env occurredAt identity := by
  rw [bootstrapEvents, List.getElem?_append] at hevent
  split_ifs at hevent with hn
  · obtain ⟨product, -, rfl⟩ := List.mem_map.mp (List.mem_of_getElem? hevent)
    cases hsubject
  · rw [List.length_map] at hn hevent
    obtain ⟨hlt, rfl⟩ := List.getElem?_eq_some_iff.mp hevent
    rw [List.length_singleton] at hlt
    refine ⟨by omega, ?_⟩
    rw [List.getElem_singleton]

/-- The ID of a product is among the first ones of its catalog. -/
lemma messageId_mem_eventIds {identity : CatalogIdentity} {product : ProductSnapshot}
    (h : product ∈ identity.products) : (upsertedEvent env 0 identity product).messageId ∈
      (eventIds env identity).take identity.products.length := by
  have hlength : ((identity.products.map (upsertedEvent env 0 identity)).map
      PublishedEvent.messageId).length = identity.products.length := by
    rw [List.length_map, List.length_map]
  rw [eventIds, bootstrapEvents, List.map_append, ← hlength, List.take_left']
  · exact List.mem_map_of_mem (List.mem_map_of_mem h)
  · rfl

/-- An event under the ID of a product is one of that product. -/
lemma product_of_messageId (hids : MessageIds env) {event : PublishedEvent}
    {identity identity' : CatalogIdentity} {occurredAt : Time} {n : ℕ} {product : ProductSnapshot}
    (hevent : (bootstrapEvents env occurredAt identity')[n]? = some event)
    (hid : event.messageId = (upsertedEvent env 0 identity product).messageId) :
    ∃ product' revision, event.envelope.data = .catalogProductUpserted (some product') revision ∧
      product'.productId = product.productId := by
  have hmem := List.mem_of_getElem? hevent
  rw [bootstrapEvents, List.mem_append, List.mem_map, List.mem_singleton] at hmem
  rcases hmem with ⟨product', -, rfl⟩ | rfl
  · have hparts := hids.injective hid
    simp only [List.cons.injEq, and_true, true_and] at hparts
    exact ⟨product', identity'.revision, rfl, hparts.2⟩
  · have hparts := hids.injective hid
    simp only [List.cons.injEq] at hparts
    exact absurd hparts.1 (by decide)

/-- Whatever publishers and deliveries lose, repeat or leave behind, no process takes commands before the
projection has the products of a whole catalog. -/
theorem commands_wait_for_catalog (hids : MessageIds env) {acts : List ReadinessAction}
    (hrun : StepSystem.run (Readiness.step env config digest) {} acts = some s) :
    s.Law env digest := by
  have h := Readiness.inv_of_run hrun
  intro p hp
  have hsnapshot : s.keys.snapshot ≠ none := by
    intro hnone
    have hready := h.started p hp
    rw [CatalogKeys.ready, hnone] at hready
    cases hready
  obtain ⟨k, hk, event, hevent, hsubject⟩ := h.snapshot hsnapshot
  obtain ⟨identity, occurredAt, n, hidentified, hbootstrap, hupto⟩ := h.event hevent
  obtain ⟨rfl, rfl⟩ := snapshot_last hbootstrap hsubject
  refine ⟨identity, hidentified, ⟨_, List.mem_of_getElem? hevent, rfl⟩, fun product hproduct => ?_⟩
  obtain ⟨e, he, hid⟩ := hupto _ (messageId_mem_eventIds hproduct)
  obtain ⟨j, hj⟩ := List.mem_iff_getElem?.mp he
  obtain ⟨hlt, hj⟩ : j < k ∧ s.bootstrap.stream[j]? = some e := by
    rw [List.getElem?_take] at hj
    split_ifs at hj with hlt
    exact ⟨hlt, hj⟩
  rcases h.passed j (hlt.trans_le hk) with hskipped | ⟨e', he', hheld⟩
  · exact Or.inl ⟨j, hskipped, e, hj, hid⟩
  · obtain rfl : e = e' := Option.some.inj (hj.symm.trans he')
    obtain ⟨identity', occurredAt', n', -, hbootstrap', -⟩ := h.event hj
    obtain ⟨product', revision, hdata, hsame⟩ := product_of_messageId hids hbootstrap' hid
    exact Or.inr (hsame ▸ hheld product' revision hdata)

end Invariant

/-! ## A sample run -/

/-- A bootstrap of the sample catalog by one replica. -/
def sampleBootstrap : List BootstrapAction :=
  let calls := fun call => [.claim "catalog:11" (.lookup call), .claim "catalog:11" (.fetch call),
    .claim "catalog:11" (.write call), .claim "catalog:11" (.store call)]
  [.start 0 (Catalog.Sample.deployment 3).products, .acquire 0 0 unixEpoch] ++ calls 0 ++
    [.acquired 0 unixEpoch, .publish 0 .stored, .renew 0 1 unixEpoch, .publish 0 .stored]

/-- The event of the product is delivered twice: the first delivery is late and applies it when the
consumer has gone on.  A process starts when the snapshot is applied, before that is acknowledged. -/
def sampleReadiness : List ReadinessAction :=
  sampleBootstrap.map .bootstrap ++
    [.deliver 0, .deliver 1, .apply 1, .ack 1, .deliver 2, .apply 0, .ack 0, .apply 2, .start 7]

/-- What is left of a run: whether the process has started and the product is there, and the events that
were given up. -/
def Readiness.outcome (s : Readiness) : Bool × Bool × List ℕ :=
  (s.started 7, containsAsync id s.keys "product-1", s.skipped)

/-- The process takes commands with the product in the projection. -/
theorem ready_process_has_products : ∃ s : Readiness,
    StepSystem.run (Readiness.step Catalog.Sample.hashes Catalog.sampleConfig id) {} sampleReadiness =
      some s ∧ s.outcome = (true, true, []) ∧ s.Law Catalog.Sample.hashes id := by
  have houtcome : (StepSystem.run (Readiness.step Catalog.Sample.hashes Catalog.sampleConfig id) {}
      sampleReadiness).map Readiness.outcome = some (true, true, []) := by
    decide +kernel
  obtain ⟨s, hs, hleft⟩ := Option.map_eq_some_iff.mp houtcome
  exact ⟨s, hs, hleft, commands_wait_for_catalog Catalog.Sample.messageIds hs⟩

end Boutique.CartCatalog
