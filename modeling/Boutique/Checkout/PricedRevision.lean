import Boutique.Lib.Run
import Boutique.Checkout.OrderTotal
import Boutique.Checkout.Projection

/-!
# The prices of a catalog revision

A submit command names a catalog revision, and checkout prices the order from the products that it has
read when its catalog marker showed that revision.  The marker and the products are separate keys.  The
deliveries of the catalog events write them one after the other, the marker already with the first event
of a revision, and the two batches of `LoadOrderProjections` read them at any time in between.
-/

namespace Boutique

/-! ## Catalog histories -/

/-- A change of a product. -/
inductive ProductChange where
  | upserted (product : ProductSnapshot)
  | removed (productId : String) (version : ℕ)
  deriving DecidableEq

namespace ProductChange

/-- The product that changes. -/
def productId : ProductChange → String
  | .upserted product => product.productId
  | .removed productId _ => productId

/-- The product after the change, unless it is gone. -/
def product : ProductChange → Option ProductSnapshot
  | .upserted product => some product
  | .removed _ _ => none

/-- The version of a change. -/
def version : ProductChange → ℕ
  | .upserted product => product.productVersion
  | .removed _ version => version

/-- The value that checkout keeps of a change. -/
def projection : ProductChange → ProductProjection
  | .upserted product => { product := some product }
  | .removed _ _ => { removed := true }

/-- The subject and the payload of the event that reports a change. -/
def event (revision : ℕ) : ProductChange → EventSubject × Payload
  | .upserted product =>
    (.catalogProductUpserted, .catalogProductUpserted (some product) revision)
  | .removed productId version =>
    (.catalogProductRemoved, .catalogProductRemoved productId version revision)

end ProductChange

/-- A catalog revision: what it changes, and what its completed snapshot reports. -/
structure CatalogRevision where
  revision : ℕ
  changes : List ProductChange
  productCount : ℕ
  checksum : String

/-- The events of a revision. -/
def CatalogRevision.events (r : CatalogRevision) : List (EventSubject × Payload) :=
  r.changes.map (ProductChange.event r.revision) ++
    [(.catalogSnapshotCompleted, .catalogSnapshotCompleted r.revision r.productCount r.checksum)]

/-- The revisions of a catalog, the oldest first.  Their numbers are distinct. -/
structure CatalogHistory where
  revisions : List CatalogRevision
  distinct : (revisions.map CatalogRevision.revision).Nodup

namespace CatalogHistory

variable (history : CatalogHistory)

/-- The events of all revisions. -/
def events : List (EventSubject × Payload) := history.revisions.flatMap CatalogRevision.events

/-- The changes of the revisions up to the one with a number, the newest first. -/
def changesUpTo (revision : ℕ) : List ProductChange :=
  (history.revisions.reverse.dropWhile fun r => r.revision ≠ revision).flatMap fun r =>
    r.changes.reverse

/-- The last change of a product up to a revision. -/
def changeAt (revision : ℕ) (productId : String) : Option ProductChange :=
  (history.changesUpTo revision).find? fun change => change.productId = productId

/-- The product in a revision. -/
def productAt (revision : ℕ) (productId : String) : Option ProductSnapshot :=
  (history.changeAt revision productId).bind ProductChange.product

/-- In a revision the product has the price that a snapshot of it shows. -/
def HasPrice (revision : ℕ) (productId : String) (product : ProductSnapshot) : Prop :=
  ∃ named ∈ history.productAt revision productId, named.priceUsd = product.priceUsd

instance (revision : ℕ) (productId : String) (product : ProductSnapshot) :
    Decidable (history.HasPrice revision productId product) :=
  inferInstanceAs (Decidable (∃ named ∈ history.productAt revision productId, _))

end CatalogHistory

/-! ## Deliveries and loads -/

/-- The batches of `LoadOrderProjections`. -/
inductive LoadBatch where
  | markers | products
  deriving DecidableEq, Repr

/-- A call of `LoadOrderProjections`, with the `GET`s of its batch that are not done. -/
structure OrderLoad where
  envelope : MessageEnvelope
  payload : OrderSubmitCommand
  state : PersistedState
  batch : LoadBatch
  reads : List ProjectionRead

/-- The call has returned. -/
def OrderLoad.Returned (load : OrderLoad) : Prop := load.batch = .products ∧ load.reads = []

/-- The Redis keys, the writes that made them, what each delivery has left to write, and the calls of
`LoadOrderProjections`. -/
structure PricingState where
  keys : ProjectionKeys := {}
  written : List ProjectionWrite := []
  pending : ℕ → List ProjectionWrite := fun _ => []
  loads : ℕ → Option OrderLoad := fun _ => none

/-- One action: a worker gets an event, executes the next script of `ApplyProjection` or stops before
it; a call of `LoadOrderProjections` starts, or executes its next `GET`. -/
inductive PricingAction where
  | deliver (worker : ℕ) (subject : EventSubject) (data : Payload)
  | write (worker : ℕ)
  | stop (worker : ℕ)
  | start (call : ℕ) (envelope : MessageEnvelope)
  | read (call : ℕ)

/-- The subject of a catalog event. -/
def EventSubject.ofCatalog : EventSubject → Bool
  | .catalogProductUpserted | .catalogProductRemoved | .catalogSnapshotCompleted => true
  | _ => false

section System

variable (env : CheckoutEnv) (history : CatalogHistory)

/-- The start of `LoadOrderProjections`. -/
def OrderLoad.start (envelope : MessageEnvelope) (payload : OrderSubmitCommand) : OrderLoad where
  envelope := envelope
  payload := payload
  state := PersistedState.new (envelope.occurredAt.getD unixEpoch)
  batch := .markers
  reads := markerReads

/-- The next step of `LoadOrderProjections`.  The second batch is known when the first one is read. -/
def OrderLoad.next (keys : ProjectionKeys) (load : OrderLoad) : Option OrderLoad :=
  match load.reads with
  | read :: rest =>
    some { load with state := read.store env keys load.payload load.state, reads := rest }
  | [] =>
    match load.batch with
    | .markers =>
      some { load with batch := .products, reads := productReads load.state load.payload }
    | .products => none

/-- The step function.  Catalog events are those of the history, in any order and any number of times;
what the events of other subjects report is not restricted. -/
def pricingStep (s : PricingState) : PricingAction → Option PricingState
  | .deliver worker subject data =>
    if s.pending worker = [] ∧ (subject.ofCatalog = true → (subject, data) ∈ history.events) then
      match projectionWrites subject data with
      | .error _ => some s
      | .ok writes => some { s with pending := Function.update s.pending worker writes }
    else none
  | .write worker =>
    match s.pending worker with
    | [] => none
    | write :: rest =>
      some { s with
        keys := s.keys.apply env write
        written := s.written ++ [write]
        pending := Function.update s.pending worker rest }
  | .stop worker => some { s with pending := Function.update s.pending worker [] }
  | .start call envelope =>
    match decodeOrderCommand envelope with
    | .error _ => some s
    | .ok payload =>
      some { s with loads := Function.update s.loads call (some (.start envelope payload)) }
  | .read call =>
    match (s.loads call).bind (OrderLoad.next env s.keys) with
    | none => none
    | some load => some { s with loads := Function.update s.loads call (some load) }

/-- The snapshot of the order that `applyOrderCommand` makes of the loaded projections, if it accepts
it.  The order has no keys yet. -/
def OrderLoad.accepted (load : OrderLoad) (now : Time) : Option SanitizedOrderSnapshot :=
  let input := OrderInput.command load.envelope load.payload load.state
  match orderCommandUpdate env load.envelope load.payload (transitionWorkspace input now {}) with
  | .ok next => next.orders.bind OrderSaga.snapshot
  | .error _ => none

/-- The call has returned, and `applyOrderCommand` accepts the order. -/
def OrderLoad.Accepts (load : OrderLoad) (now : Time) (snapshot : SanitizedOrderSnapshot) : Prop :=
  load.Returned ∧ load.accepted env now = some snapshot

/-- Each unit cost is the converted price that the product has in the named revision. -/
def OrderLoad.PricedAtRevision (load : OrderLoad) (snapshot : SanitizedOrderSnapshot) : Prop :=
  ∀ line ∈ snapshot.items, ∃ product,
    history.productAt load.payload.expectedCatalogRevision line.item.productId = some product ∧
    convertMoney env.round64 load.state.rates product.priceUsd load.payload.currencyCode =
      some line.unitCost

/-- The writes have brought the key of a product to a revision: a write of another price than the product
has in the revision has a smaller version, as a Lua number, than the change of the product that is in
force at the revision, and that change is written too. -/
def RevisionWritten (written : List ProjectionWrite) (revision : ℕ) (productId : String) : Prop :=
  ∀ offer ∈ written.filterMap (ProjectionWrite.productOffer env (env.digest productId)),
    0 < offer.1 → (∃ product ∈ offer.2.product, ¬ history.HasPrice revision productId product) →
    ∃ change ∈ history.changeAt revision productId,
      .product productId change.version change.projection ∈ written ∧
        luaVersion offer < luaNumber change.version

instance (written : List ProjectionWrite) (revision : ℕ) (productId : String) :
    Decidable (RevisionWritten env history written revision productId) :=
  inferInstanceAs (Decidable (∀ offer ∈ written.filterMap
      (ProjectionWrite.productOffer env (env.digest productId)), _))

/-- The product that a call reads next. -/
def OrderLoad.nextProduct (load : OrderLoad) : Option String :=
  match load.reads with
  | .product productId :: _ => some productId
  | _ => none

/-- A call that has found the revision it names reads a product after the writes have brought its key to
that revision. -/
def ReadsNamedRevision (s : PricingState) : PricingAction → Prop
  | .read call => ∀ load ∈ s.loads call, ∀ productId ∈ load.nextProduct,
      load.state.catalogRevision = load.payload.expectedCatalogRevision →
      RevisionWritten env history s.written load.payload.expectedCatalogRevision productId
  | _ => True

instance (s : PricingState) : ∀ action, Decidable (ReadsNamedRevision env history s action)
  | .read call =>
    inferInstanceAs (Decidable (∀ load ∈ s.loads call, ∀ productId ∈ load.nextProduct,
      load.state.catalogRevision = load.payload.expectedCatalogRevision →
      RevisionWritten env history s.written load.payload.expectedCatalogRevision productId))
  | .deliver _ _ _ | .write _ | .stop _ | .start _ _ => inferInstanceAs (Decidable True)

/-- What holds of a call: its products are those of the second batch, and if it has found the revision
that it names, they have the prices of that revision. -/
structure OrderLoad.Inv (load : OrderLoad) : Prop where
  markers : load.batch = .markers →
    (∀ productId, load.state.products productId = none) ∧
      ∀ read ∈ load.reads, ∀ productId, read ≠ .product productId
  products : load.batch = .products → ∀ read ∈ load.reads, ∃ productId, read = .product productId
  priced : load.state.catalogRevision = load.payload.expectedCatalogRevision →
    ∀ productId product, load.state.products productId = some product →
      history.HasPrice load.payload.expectedCatalogRevision productId product

/-- What holds in every state: the keys are what the writes made of them, and every call has the
prices of its revision. -/
structure PricingInv (s : PricingState) : Prop where
  keys : s.keys = s.written.foldl (ProjectionKeys.apply env) {}
  loads : ∀ call load, s.loads call = some load → load.Inv history

end System

variable {env : CheckoutEnv} {history : CatalogHistory}

/-! ## Accepted orders -/

section Accepted

variable {ws next : PersistedState} {envelope : MessageEnvelope} {payload : OrderSubmitCommand}

/-- The unit cost of a line is the converted price of the loaded product. -/
def PersistedState.Prices (env : CheckoutEnv) (ws : PersistedState) (currencyCode : String)
    (line : OrderLine) : Prop :=
  ∃ product, ws.products line.item.productId = some product ∧
    convertMoney env.round64 ws.rates product.priceUsd currencyCode = some line.unitCost

/-- One iteration adds a priced line. -/
lemma addOrderLine_prices {snapshot snapshot' : SanitizedOrderSnapshot} {line : CartLine}
    (h : addOrderLine env ws payload snapshot line = .ok snapshot') :
    ∃ added, snapshot'.items = snapshot.items ++ [added] ∧
      ws.Prices env payload.currencyCode added := by
  unfold addOrderLine at h
  split at h
  · cases h
  next product hproduct =>
    split at h
    · cases h
    next cost hcost =>
      cases h
      exact ⟨{ item := line, unitCost := cost }, rfl, product, hproduct, hcost⟩

/-- The loop adds priced lines. -/
lemma addOrderLines_prices {lines : List CartLine} {start last : SanitizedOrderSnapshot}
    (hloop : lines.foldlM (addOrderLine env ws payload) start = .ok last)
    (hstart : ∀ line ∈ start.items, ws.Prices env payload.currencyCode line) :
    ∀ line ∈ last.items, ws.Prices env payload.currencyCode line := by
  induction lines generalizing start with
  | nil =>
    cases hloop
    exact hstart
  | cons line lines ih =>
    rw [List.foldlM_cons] at hloop
    obtain ⟨middle, hmiddle, hrest⟩ := bind_eq_ok.mp hloop
    obtain ⟨added, hitems, hadded⟩ := addOrderLine_prices hmiddle
    refine ih hrest ?_
    rw [hitems]
    intro other hother
    rcases List.mem_append.mp hother with hother | hother
    · exact hstart other hother
    · rw [List.mem_singleton.mp hother]
      exact hadded

/-- Every line of the snapshot of an order is priced from the loaded products. -/
lemma buildOrderSnapshot_prices {cart : CartSnapshot} {snapshot : SanitizedOrderSnapshot}
    (h : buildOrderSnapshot env ws cart payload = .ok snapshot) :
    ∀ line ∈ snapshot.items, ws.Prices env payload.currencyCode line :=
  addOrderLines_prices h fun line hline => by cases hline

/-- A command that passes the tests names the loaded catalog revision. -/
lemma validateOrderCommand_revision {cart : Option CartSnapshot}
    (h : validateOrderCommand env ws cart payload = none) :
    ws.catalogRevision = payload.expectedCatalogRevision := by
  unfold validateOrderCommand at h
  split at h
  · cases h
  · split at h
    · cases h
    split at h
    · cases h
    split at h
    · cases h
    next hrevision => exact not_not.mp hrevision

/-- A new order that has a snapshot was accepted: it names the loaded revision, and the snapshot was
built from the workspace. -/
lemma applyOrderCommand_snapshot {saga : OrderSaga} {snapshot : SanitizedOrderSnapshot}
    (hinbox : ws.inbox envelope.messageId = none) (horders : ws.orders = none)
    (h : applyOrderCommand env ws envelope payload = .ok next) (hsaga : next.orders = some saga)
    (hsnapshot : saga.snapshot = some snapshot) :
    ws.catalogRevision = payload.expectedCatalogRevision ∧
      ∃ cart, buildOrderSnapshot env ws cart payload = .ok snapshot := by
  unfold applyOrderCommand at h
  rw [hinbox, horders] at h
  simp only [Option.isSome_none, Bool.false_eq_true, if_false] at h
  split at h
  next failure _ =>
    -- a rejected order has no snapshot
    obtain ⟨queued, hqueued, hnext⟩ := bind_eq_ok.mp h
    cases hnext
    have hrejected : some (rejectedSaga payload) = some saga :=
      (queueEnvelope_orders hqueued).symm.trans hsaga
    cases hrejected
    cases hsnapshot
  next hvalid =>
    refine ⟨validateOrderCommand_revision hvalid, ?_⟩
    split at h
    · cases h
    next cart _ =>
      obtain ⟨built, hbuilt, h⟩ := bind_eq_ok.mp h
      obtain ⟨submitted, hsubmitted, h⟩ := bind_eq_ok.mp h
      obtain ⟨quoted, hquoted, hnext⟩ := bind_eq_ok.mp h
      cases hnext
      have haccepted : some (acceptedSaga env ws payload built) = some saga :=
        ((queueEnvelope_orders hquoted).trans (queueEnvelope_orders hsubmitted)).symm.trans hsaga
      cases haccepted
      cases hsnapshot
      exact ⟨cart, hbuilt⟩

/-- An accepted order names the revision that the call has found, and its lines are priced from the
products that the call has read. -/
lemma OrderLoad.Accepts.prices {load : OrderLoad} {now : Time} {snapshot : SanitizedOrderSnapshot}
    (h : load.Accepts env now snapshot) :
    load.state.catalogRevision = load.payload.expectedCatalogRevision ∧
      ∀ line ∈ snapshot.items, load.state.Prices env load.payload.currencyCode line := by
  have haccepted := h.2
  simp only [OrderLoad.accepted] at haccepted
  split at haccepted
  next next hupdate =>
    obtain ⟨saga, hsaga, hsnapshot⟩ := Option.bind_eq_some_iff.mp haccepted
    obtain ⟨_, -, happly⟩ := bind_eq_ok.mp hupdate
    obtain ⟨hrevision, cart, hbuild⟩ := applyOrderCommand_snapshot rfl rfl happly hsaga hsnapshot
    exact ⟨hrevision, buildOrderSnapshot_prices hbuild⟩
  next => cases haccepted

end Accepted

/-! ## What a step preserves -/

/-- Only the `GET` of a product changes the loaded products. -/
lemma ProjectionRead.store_products {keys : ProjectionKeys} {payload : OrderSubmitCommand}
    {ws : PersistedState} {read : ProjectionRead} (h : ∀ productId, read ≠ .product productId) :
    (read.store env keys payload ws).products = ws.products := by
  cases read with
  | catalog => rfl
  | rates =>
    simp only [ProjectionRead.store]
    split
    · split_ifs <;> rfl
    · rfl
  | cart =>
    simp only [ProjectionRead.store]
    split
    · split_ifs <;> rfl
    · rfl
  | product productId => exact absurd rfl (h productId)

/-- The `GET` of a product loads what its key holds, and the catalog revision stays. -/
lemma ProjectionRead.store_product {keys : ProjectionKeys} (payload : OrderSubmitCommand)
    {ws : PersistedState} {productId other : String} {product : ProductSnapshot}
    (h : ((ProjectionRead.product productId).store env keys payload ws).products other =
      some product) :
    ws.products other = some product ∨
      other = productId ∧
        ∃ value, (keys.products (env.digest productId)).value = some value ∧
          value.product = some product := by
  simp only [ProjectionRead.store] at h
  split at h
  next value hvalue =>
    by_cases hsome : value.product.isSome = true
    · simp only [if_pos hsome] at h
      by_cases hother : other = productId
      · subst hother
        rw [Function.update_self] at h
        exact .inr ⟨rfl, value, hvalue, h⟩
      · rw [Function.update_of_ne hother] at h
        exact .inl h
    · simp only [if_neg hsome] at h
      exact .inl h
  next => exact .inl h

/-- The catalog revision of a call stays in the second batch. -/
lemma ProjectionRead.store_product_revision (keys : ProjectionKeys) (payload : OrderSubmitCommand)
    (ws : PersistedState) (productId : String) :
    ((ProjectionRead.product productId).store env keys payload ws).catalogRevision =
      ws.catalogRevision := by
  simp only [ProjectionRead.store]
  split <;> rfl

/-- A call starts without products. -/
lemma OrderLoad.start_inv (history : CatalogHistory) (envelope : MessageEnvelope)
    (payload : OrderSubmitCommand) : (OrderLoad.start envelope payload).Inv history where
  markers _ := by
    refine ⟨fun _ => rfl, fun read hread productId => ?_⟩
    rintro rfl
    simp [OrderLoad.start, markerReads] at hread
  products h := by cases h
  priced _ productId product h := by cases h

/-- A key that the writes have brought to a revision holds the price that the product has in it. -/
lemma RevisionWritten.hasPrice {written : List ProjectionWrite} {revision : ℕ} {productId : String}
    (h : RevisionWritten env history written revision productId) {value : ProductProjection}
    (hvalue : ((written.foldl (ProjectionKeys.apply env) {}).products
      (env.digest productId)).value = some value)
    {product : ProductSnapshot} (hproduct : value.product = some product) :
    history.HasPrice revision productId product := by
  rw [ProjectionKeys.foldl_products, ProjectionCell.offered_value_iff] at hvalue
  obtain ⟨version, hpos, hmax⟩ := hvalue
  by_contra hprice
  obtain ⟨change, -, hwritten, hlt⟩ := h _ hmax.mem hpos ⟨product, hproduct, hprice⟩
  -- the change is among the writes to the key, and a key keeps a largest version
  have hoffer : (change.version, change.projection) ∈
      written.filterMap (ProjectionWrite.productOffer env (env.digest productId)) :=
    List.mem_filterMap.mpr ⟨_, hwritten, if_pos rfl⟩
  exact absurd (hmax.le hoffer) (not_le.mpr hlt)

/-- The step lemma of a call. -/
lemma OrderLoad.Inv.next {written : List ProjectionWrite} {load load' : OrderLoad}
    (h : load.Inv history)
    (hreads : ∀ productId ∈ load.nextProduct,
      load.state.catalogRevision = load.payload.expectedCatalogRevision →
      RevisionWritten env history written load.payload.expectedCatalogRevision productId)
    (hnext : load.next env (written.foldl (ProjectionKeys.apply env) {}) = some load') :
    load'.Inv history := by
  unfold OrderLoad.next at hnext
  split at hnext
  next read rest hread =>
    cases hnext
    have hmem : read ∈ load.reads := hread ▸ List.mem_cons_self
    have hrest : ∀ other ∈ rest, other ∈ load.reads := fun other hother =>
      hread ▸ List.mem_cons_of_mem _ hother
    cases hbatch : load.batch with
    | markers =>
      obtain ⟨hnone, hmarkers⟩ := h.markers hbatch
      have hproducts : (read.store env (written.foldl (ProjectionKeys.apply env) {}) load.payload
          load.state).products = load.state.products :=
        ProjectionRead.store_products (hmarkers read hmem)
      refine ⟨fun _ => ⟨fun productId => ?_, fun other hother => hmarkers other (hrest other hother)⟩,
        fun hproductsBatch => ?_, fun _ productId product hproduct => ?_⟩
      · exact (congrFun hproducts productId).trans (hnone productId)
      · cases hproductsBatch
      · rw [show _ = load.state.products productId from congrFun hproducts productId,
          hnone productId] at hproduct
        cases hproduct
    | products =>
      obtain ⟨productId, rfl⟩ := h.products hbatch read hmem
      refine ⟨fun hmarkers => ?_, fun _ other hother => h.products hbatch other (hrest other hother),
        fun hrevision other product hproduct => ?_⟩
      · cases hmarkers
      · have hloaded : load.state.catalogRevision = load.payload.expectedCatalogRevision :=
          (ProjectionRead.store_product_revision _ load.payload _ _).symm.trans hrevision
        rcases ProjectionRead.store_product load.payload hproduct with
          hbefore | ⟨rfl, value, hvalue, hvalueProduct⟩
        · exact h.priced hloaded other product hbefore
        · have hbrought := hreads other (by rw [OrderLoad.nextProduct, hread]; rfl) hloaded
          exact hbrought.hasPrice hvalue hvalueProduct
  next =>
    split at hnext
    next hbatch =>
      cases hnext
      refine ⟨fun hmarkers => ?_, fun _ read hread => ?_, h.priced⟩
      · cases hmarkers
      · simp only [productReads] at hread
        split at hread
        · obtain ⟨productId, -, rfl⟩ := List.mem_map.mp hread
          exact ⟨productId, rfl⟩
        · cases hread
    next => cases hnext

/-- The step lemma. -/
lemma PricingInv.step {s s' : PricingState} {action : PricingAction} (h : PricingInv env history s)
    (hreads : ReadsNamedRevision env history s action)
    (hstep : pricingStep env history s action = some s') : PricingInv env history s' := by
  cases action with
  | deliver worker subject data =>
    simp only [pricingStep] at hstep
    split_ifs at hstep
    split at hstep
    · cases hstep
      exact h
    · cases hstep
      exact ⟨h.keys, h.loads⟩
  | write worker =>
    simp only [pricingStep] at hstep
    split at hstep
    · cases hstep
    · cases hstep
      refine ⟨?_, h.loads⟩
      simp only [List.foldl_append, List.foldl_cons, List.foldl_nil, h.keys]
  | stop worker =>
    cases hstep
    exact ⟨h.keys, h.loads⟩
  | start call envelope =>
    simp only [pricingStep] at hstep
    split at hstep
    · cases hstep
      exact h
    next payload _ =>
      cases hstep
      refine ⟨h.keys, fun other load hload => ?_⟩
      by_cases hother : other = call
      · subst hother
        simp only [Function.update_self, Option.some.injEq] at hload
        subst hload
        exact OrderLoad.start_inv history envelope payload
      · simp only [Function.update_of_ne hother] at hload
        exact h.loads other load hload
  | read call =>
    simp only [pricingStep] at hstep
    split at hstep
    · cases hstep
    next load' hread =>
      cases hstep
      obtain ⟨load, hload, hnext⟩ := Option.bind_eq_some_iff.mp hread
      rw [h.keys] at hnext
      refine ⟨h.keys, fun other found hfound => ?_⟩
      by_cases hother : other = call
      · subst hother
        simp only [Function.update_self, Option.some.injEq] at hfound
        subst hfound
        exact (h.loads other load hload).next (hreads load hload) hnext
      · simp only [Function.update_of_ne hother] at hfound
        exact h.loads other found hfound

/-- Nothing is written or loaded at the start. -/
lemma pricingInv_empty (env : CheckoutEnv) (history : CatalogHistory) : PricingInv env history {} where
  keys := rfl
  loads call load h := by cases h

/-- In every run in which the calls read the products after the changes of the named revision are written
and before those of a newer one, an accepted order is priced at the revision that it names. -/
theorem accepted_order_priced_at_revision (env : CheckoutEnv) (history : CatalogHistory)
    {actions : List PricingAction} {s : PricingState}
    (hreads : StepSystem.Along (pricingStep env history) (ReadsNamedRevision env history) {} actions)
    (hrun : StepSystem.run (pricingStep env history) {} actions = some s) {call : ℕ} {load : OrderLoad}
    (hload : s.loads call = some load) {now : Time} {snapshot : SanitizedOrderSnapshot}
    (haccepts : load.Accepts env now snapshot) : load.PricedAtRevision env history snapshot := by
  have hinv : PricingInv env history s := StepSystem.run_invariant
    (fun _ _ _ hinv hreads hstep => hinv.step hreads hstep) (pricingInv_empty env history) hreads hrun
  obtain ⟨hrevision, hprices⟩ := haccepts.prices
  intro line hline
  obtain ⟨product, hproduct, hcost⟩ := hprices line hline
  obtain ⟨named, hnamed, hprice⟩ :=
    (hinv.loads call load hload).priced hrevision line.item.productId product hproduct
  exact ⟨named, hnamed, hprice ▸ hcost⟩

namespace Sample

/-- A product at a price in dollars. -/
def priced (productId : String) (units : ℤ) (version : ℕ) : ProductSnapshot where
  productId := productId
  priceUsd := some { currencyCode := "USD", units := units }
  productVersion := version

/-- Two revisions, of which the second raises both prices. -/
def catalog : CatalogHistory where
  revisions :=
    [{ revision := 1, productCount := 2, checksum := "first"
       changes := [.upserted (priced "product-1" 5 1), .upserted (priced "product-2" 10 1)] },
     { revision := 2, productCount := 2, checksum := "second"
       changes := [.upserted (priced "product-1" 6 2), .upserted (priced "product-2" 12 2)] }]
  distinct := by decide

/-- The rate of the dollar. -/
def dollarRate : CurrencyRatesUpdatedEvent where
  baseCurrencyCode := "USD"
  rateRevision := 1
  rates := [{ currencyCode := "USD", unitsPerBase := 1 }]

/-- The cart and the rates of the order. -/
def facts : List (EventSubject × Payload) :=
  [(.cartItemAdded, .cartItemAdded "add" "user-1"
     (some { userId := "user-1", items := [{ productId := "product-2", quantity := 1 }],
             cartVersion := 1 })),
   (.currencyRatesUpdated, .currencyRatesUpdated dollarRate)]

/-- The command that names the second revision. -/
def secondCommand : OrderSubmitCommand := { command with expectedCatalogRevision := 2 }

/-- A worker gets an event and executes all its scripts. -/
def project (event : EventSubject × Payload) : List PricingAction :=
  .deliver 0 event.1 event.2 ::
    ((projectionWrites event.1 event.2).toOption.getD []).map fun _ => .write 0

/-- The projections of the command are loaded after some of the catalog events. -/
def loadAfter (events : List (EventSubject × Payload)) : List PricingAction :=
  (facts ++ events).flatMap project ++
    .start 0 (envelope "submit" "boutique.order.Submit.v1" (.orderSubmit secondCommand)) ::
      List.replicate 5 (.read 0)

/-- The snapshot of the order at a price in dollars. -/
def pricedOrder (units : ℤ) : SanitizedOrderSnapshot :=
  { emptySnapshot secondCommand with
    items := [{ item := { productId := "product-2", quantity := 1 }
                unitCost := { currencyCode := "USD", units := units } }]
    total := some { currencyCode := "USD", units := units } }

/-- The run ends with a call that accepts the order at a price. -/
def acceptsAt (events : List (EventSubject × Payload)) (units : ℤ) : Bool :=
  match (StepSystem.run (pricingStep Sample.env catalog) {} (loadAfter events)).bind fun s =>
      s.loads 0 with
  | some load => load.batch = .products ∧ load.reads = [] ∧
      load.accepted Sample.env time = some (pricedOrder units) ∧
      load.payload = secondCommand ∧ load.state.rates = some dollarRate
  | none => false

/-- The state and the call of such a run. -/
lemma exists_of_acceptsAt {events : List (EventSubject × Payload)} {units : ℤ}
    (h : acceptsAt events units = true) : ∃ s load,
      StepSystem.run (pricingStep Sample.env catalog) {} (loadAfter events) = some s ∧
      s.loads 0 = some load ∧ load.Accepts Sample.env time (pricedOrder units) ∧
      load.payload = secondCommand ∧ load.state.rates = some dollarRate := by
  unfold acceptsAt at h
  split at h
  next load hload =>
    obtain ⟨s, hrun, hcall⟩ := Option.bind_eq_some_iff.mp hload
    obtain ⟨hbatch, hdone, haccepted, hloaded⟩ := of_decide_eq_true h
    exact ⟨s, load, hrun, hcall, ⟨⟨hbatch, hdone⟩, haccepted⟩, hloaded⟩
  next => cases h

end Sample

open Sample in
/-- After all events of both revisions the order has the price of the second one. -/
theorem projected_revision_priced : ∃ s load,
    StepSystem.run (pricingStep Sample.env catalog) {} (loadAfter catalog.events) = some s ∧
    s.loads 0 = some load ∧ load.Accepts Sample.env time (pricedOrder 12) ∧
    load.PricedAtRevision Sample.env catalog (pricedOrder 12) := by
  have haccepts : acceptsAt catalog.events 12 = true := by decide +kernel
  have hreads : StepSystem.Along (pricingStep Sample.env catalog)
      (ReadsNamedRevision Sample.env catalog) {} (loadAfter catalog.events) := by decide +kernel
  obtain ⟨s, load, hrun, hload, haccepts, -⟩ := exists_of_acceptsAt haccepts
  exact ⟨s, load, hrun, hload, haccepts,
    accepted_order_priced_at_revision Sample.env catalog hreads hrun hload haccepts⟩

open Sample in
/-- After the first event of the second revision the marker shows it, and the order is accepted with
the price that its product had in the first one. -/
theorem half_projected_revision_priced : ∃ s load,
    StepSystem.run (pricingStep Sample.env catalog) {} (loadAfter (catalog.events.take 4)) = some s ∧
    s.loads 0 = some load ∧ load.Accepts Sample.env time (pricedOrder 10) ∧
    load.payload.expectedCatalogRevision = 2 ∧
    ¬ load.PricedAtRevision Sample.env catalog (pricedOrder 10) := by
  have haccepts : acceptsAt (catalog.events.take 4) 10 = true := by decide +kernel
  obtain ⟨s, load, hrun, hload, haccepts, hpayload, hrates⟩ := exists_of_acceptsAt haccepts
  refine ⟨s, load, hrun, hload, haccepts, by rw [hpayload]; rfl, fun hpriced => ?_⟩
  obtain ⟨product, hproduct, hcost⟩ := hpriced _ (List.mem_singleton.mpr rfl)
  rw [hpayload] at hproduct hcost
  rw [hrates] at hcost
  have hnamed : catalog.productAt 2 "product-2" = some (priced "product-2" 12 2) := rfl
  obtain rfl : priced "product-2" 12 2 = product := Option.some.inj (hnamed.symm.trans hproduct)
  revert hcost
  decide +kernel

end Boutique
