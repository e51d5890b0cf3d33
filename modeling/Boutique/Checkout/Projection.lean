import Boutique.Lib.LuaNumber
import Boutique.Lib.VersionGate
import Boutique.Common.Subject
import Boutique.Checkout.Saga

/-!
# Checkout's projections

`ApplyProjection` and `LoadOrderProjections` of `checkoutservice/redis_store.go`: the catalog
revision, the rates, the carts and the products that checkout keeps of the facts of other services.

Every value and every marker is a pair of Redis keys that one script writes, so an event is a list
of writes and a load is a list of reads, between which other clients may act.
-/

namespace Boutique

/-! ## Values and markers -/

/-- `productProjection`. -/
structure ProductProjection where
  product : Option ProductSnapshot := none
  removed : Bool := false
  deriving DecidableEq, Repr

/-- The keys `:value` and `:version` of a projection.  The version is the Lua number that the script
wrote, 0 when the key is absent. -/
structure ProjectionCell (α : Type) where
  version : ℕ := 0
  value : Option α := none
  deriving DecidableEq

/-- `applyProjectionScript`. -/
def applyProjectionScript {α : Type} (cell : ProjectionCell α) (version : ℕ) (value : α) :
    ProjectionCell α :=
  let incoming := luaNumber version
  if incoming ≤ cell.version then cell else { version := incoming, value := some value }

/-- The projections of checkout.  Products and carts are stored under the digest of their ID. -/
structure ProjectionKeys where
  catalog : ProjectionCell ℕ := {}
  rates : ProjectionCell CurrencyRatesUpdatedEvent := {}
  carts : String → ProjectionCell CartSnapshot := fun _ => {}
  products : String → ProjectionCell ProductProjection := fun _ => {}

/-! ## Applying events -/

/-- A call of `applyProjectionValue`. -/
inductive ProjectionWrite where
  | product (productId : String) (version : ℕ) (value : ProductProjection)
  | catalog (revision : ℕ)
  | rates (rates : CurrencyRatesUpdatedEvent)
  | cart (cart : CartSnapshot)
  deriving DecidableEq

variable (env : CheckoutEnv)

/-- The keys after a write. -/
def ProjectionKeys.apply (keys : ProjectionKeys) : ProjectionWrite → ProjectionKeys
  | .product productId version value =>
    let base := env.digest productId
    let cell := applyProjectionScript (keys.products base) version value
    { keys with products := Function.update keys.products base cell }
  | .catalog revision =>
    { keys with catalog := applyProjectionScript keys.catalog revision revision }
  | .rates rates =>
    { keys with rates := applyProjectionScript keys.rates rates.rateRevision rates }
  | .cart cart =>
    let base := env.digest cart.userId
    let cell := applyProjectionScript (keys.carts base) cart.cartVersion cart
    { keys with carts := Function.update keys.carts base cell }

/-- The writes of `ApplyProjection`, in order. -/
def projectionWrites (subject : EventSubject) (data : Payload) :
    Except CheckoutError (List ProjectionWrite) :=
  match subject with
  | .catalogProductUpserted =>
    match data with
    | .catalogProductUpserted product revision =>
      match product with
      | some product =>
        .ok [.product product.productId product.productVersion { product := some product },
          .catalog revision]
      | none => .ok [.catalog revision]
    | _ => .error .payloadType
  | .catalogProductRemoved =>
    match data with
    | .catalogProductRemoved productId version revision =>
      .ok [.product productId version { removed := true }, .catalog revision]
    | _ => .error .payloadType
  | .catalogSnapshotCompleted =>
    match data with
    | .catalogSnapshotCompleted revision _ _ => .ok [.catalog revision]
    | _ => .error .payloadType
  | .currencyRatesUpdated =>
    match data with
    | .currencyRatesUpdated rates => .ok [.rates rates]
    | _ => .error .payloadType
  | .cartItemAdded =>
    match data with
    | .cartItemAdded _ _ cart => .ok (cart.toList.map .cart)
    | _ => .error .payloadType
  | .cartCleared =>
    match data with
    | .cartCleared _ _ cart _ => .ok (cart.toList.map .cart)
    | _ => .error .payloadType
  | _ => .ok []

/-- `ApplyProjection`. -/
def applyProjection (keys : ProjectionKeys) (subject : EventSubject) (envelope : MessageEnvelope) :
    Except CheckoutError ProjectionKeys := do
  let writes ← projectionWrites subject envelope.data
  return writes.foldl (ProjectionKeys.apply env) keys

/-! ## Loading -/

/-- A `GET` of `LoadOrderProjections`. -/
inductive ProjectionRead where
  | catalog | rates | cart
  | product (productId : String)
  deriving DecidableEq, Repr

/-- What `LoadOrderProjections` does with the reply to a `GET`. -/
def ProjectionRead.store (keys : ProjectionKeys) (command : OrderSubmitCommand)
    (state : PersistedState) : ProjectionRead → PersistedState
  | .catalog => { state with catalogRevision := keys.catalog.value.getD 0 }
  | .rates =>
    match keys.rates.value with
    | some loaded => if 0 < loaded.rateRevision then { state with rates := some loaded } else state
    | none => state
  | .cart =>
    match (keys.carts (env.digest command.userId)).value with
    | some loaded =>
      if loaded.userId ≠ "" then
        { state with carts := Function.update state.carts command.userId (some loaded) }
      else state
    | none => state
  | .product productId =>
    match (keys.products (env.digest productId)).value with
    | some projection =>
      { state with
        products := if projection.product.isSome then
            Function.update state.products productId projection.product
          else state.products
        removedProducts := if projection.removed then
            Function.update state.removedProducts productId true
          else state.removedProducts }
    | none => state

/-- The first batch. -/
def markerReads : List ProjectionRead := [.catalog, .rates, .cart]

/-- The second batch: one `GET` for each product of the loaded cart. -/
def productReads (state : PersistedState) (command : OrderSubmitCommand) : List ProjectionRead :=
  match state.carts command.userId with
  | some cart => (cart.items.map CartLine.productId).eraseDups.map .product
  | none => []

/-- `LoadOrderProjections` without other clients in between. -/
def loadOrderProjections (keys : ProjectionKeys) (command : OrderSubmitCommand) (time : Time) :
    PersistedState :=
  let state := markerReads.foldl (ProjectionRead.store env keys command) (PersistedState.new time)
  (productReads state command).foldl (ProjectionRead.store env keys command) state

/-! ## The gates -/

section Gates

variable {α β : Type}

/-- The versions and values that were offered to a projection, as one cell. -/
def ProjectionCell.offered (offers : List (ℕ × α)) : ProjectionCell α :=
  offers.foldl (fun cell offer => applyProjectionScript cell offer.1 offer.2) {}

/-- The Lua number of an offered version. -/
def luaVersion (offer : ℕ × α) : ℕ := luaNumber offer.1

/-- A projection holds the value and the Lua number of the offer that wins the gate. -/
lemma ProjectionCell.offered_eq (offers : List (ℕ × α)) :
    ProjectionCell.offered offers =
      { version := (VersionGate.winner luaVersion 0 offers).elim 0 luaVersion
        value := (VersionGate.winner luaVersion 0 offers).map Prod.snd } := by
  induction offers using List.reverseRecOn with
  | nil => rfl
  | append_singleton offers offer ih =>
    rw [ProjectionCell.offered, List.foldl_append, List.foldl_cons, List.foldl_nil,
      VersionGate.winner_concat]
    have hcell := ih
    rw [ProjectionCell.offered] at hcell
    rw [hcell, applyProjectionScript, VersionGate.offer]
    by_cases hle : luaNumber offer.1 ≤ (VersionGate.winner luaVersion 0 offers).elim 0 luaVersion
    · have hkey : luaVersion offer ≤ (VersionGate.winner luaVersion 0 offers).elim 0 luaVersion := hle
      simp only [hle, hkey, if_true]
    · have hkey : ¬ luaVersion offer ≤ (VersionGate.winner luaVersion 0 offers).elim 0 luaVersion :=
        hle
      simp only [hle, hkey, if_false]
      rfl

/-- What a projection holds after the offers. -/
lemma ProjectionCell.offered_value_iff {offers : List (ℕ × α)} {value : α} :
    (ProjectionCell.offered offers).value = some value ↔
      ∃ version, 0 < version ∧ VersionGate.FirstMax luaVersion offers (version, value) := by
  rw [ProjectionCell.offered_eq]
  simp only [Option.map_eq_some_iff, VersionGate.winner_eq_some_iff]
  constructor
  · rintro ⟨⟨version, value⟩, ⟨hpos, hmax⟩, rfl⟩
    refine ⟨version, Nat.pos_of_ne_zero ?_, hmax⟩
    rintro rfl
    change 0 < luaNumber 0 at hpos
    rw [luaNumber_of_lt (by decide)] at hpos
    exact lt_irrefl 0 hpos
  · rintro ⟨version, hpos, hmax⟩
    exact ⟨_, ⟨luaNumber_pos hpos, hmax⟩, rfl⟩

/-- One more offer. -/
lemma ProjectionCell.offered_concat (offers : List (ℕ × α)) (offer : ℕ × α) :
    ProjectionCell.offered (offers ++ [offer]) =
      applyProjectionScript (ProjectionCell.offered offers) offer.1 offer.2 := by
  rw [ProjectionCell.offered, List.foldl_append]
  rfl

end Gates

/-- What a write offers to the product that is stored under `base`. -/
def ProjectionWrite.productOffer (base : String) :
    ProjectionWrite → Option (ℕ × ProductProjection)
  | .product productId version value =>
    if env.digest productId = base then some (version, value) else none
  | _ => none

/-- What a write offers to the catalog marker. -/
def ProjectionWrite.catalogOffer : ProjectionWrite → Option (ℕ × ℕ)
  | .catalog revision => some (revision, revision)
  | _ => none

variable {env}

/-- The product stored under `base` is the one that wins among the writes to it. -/
lemma ProjectionKeys.foldl_products (writes : List ProjectionWrite) (base : String) :
    (writes.foldl (ProjectionKeys.apply env) {}).products base =
      ProjectionCell.offered (writes.filterMap (ProjectionWrite.productOffer env base)) := by
  induction writes using List.reverseRecOn with
  | nil => rfl
  | append_singleton writes write ih =>
    rw [List.foldl_append, List.foldl_cons, List.foldl_nil, List.filterMap_append]
    cases write with
    | product productId version value =>
      by_cases hbase : env.digest productId = base
      · subst hbase
        simp only [ProjectionKeys.apply, Function.update_self, ih, ProjectionWrite.productOffer,
          if_true, List.filterMap_cons, List.filterMap_nil, ProjectionCell.offered_concat]
      · simp only [ProjectionKeys.apply, ne_eq, Ne.symm hbase, not_false_eq_true,
          Function.update_of_ne, ih, ProjectionWrite.productOffer, hbase, if_false,
          List.filterMap_cons, List.filterMap_nil, List.append_nil]
    | catalog | rates | cart =>
      simp only [ProjectionKeys.apply, ih, ProjectionWrite.productOffer, List.filterMap_cons,
        List.filterMap_nil, List.append_nil]

/-- The catalog marker is the one that wins among the writes to it. -/
lemma ProjectionKeys.foldl_catalog (writes : List ProjectionWrite) :
    (writes.foldl (ProjectionKeys.apply env) {}).catalog =
      ProjectionCell.offered (writes.filterMap ProjectionWrite.catalogOffer) := by
  induction writes using List.reverseRecOn with
  | nil => rfl
  | append_singleton writes write ih =>
    rw [List.foldl_append, List.foldl_cons, List.foldl_nil, List.filterMap_append]
    cases write with
    | catalog revision =>
      simp only [ProjectionKeys.apply, ih, ProjectionWrite.catalogOffer, List.filterMap_cons,
        List.filterMap_nil, ProjectionCell.offered_concat]
    | product | rates | cart =>
      simp only [ProjectionKeys.apply, ih, ProjectionWrite.catalogOffer, List.filterMap_cons,
        List.filterMap_nil, List.append_nil]

end Boutique
