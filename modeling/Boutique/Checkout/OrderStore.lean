import Boutique.Checkout.Transition

/-!
# The order store

The part of `checkoutservice/redis_store.go` that keeps one order: `loadOrderWorkspace`, the body of
one attempt of `ApplyOrder`, `commitOrderScript` and the two scripts of the deadline index.  A Lua
script runs atomically, so it is a function on the Redis keys of the order.

Redis values are kept decoded: `encodeRedisJSON` and `decodeRedisJSON` round trip, so that two
encoded values are equal exactly when the values are.
-/

namespace Boutique

/-! ## Stored records -/

/-- `acceptedOrderRecord`. -/
structure AcceptedOrderRecord where
  orderId : String
  cart : Option CartSnapshot := none
  products : List ProductSnapshot := []
  rates : Option CurrencyRatesUpdatedEvent
  catalogRevision : ℕ
  rateRevision : ℕ
  order : Option SanitizedOrderSnapshot := none
  deriving DecidableEq

/-- `deadlineRecord`. -/
structure DeadlineRecord where
  orderId : String
  version : ℕ
  deadline : Time
  workId : String
  deriving DecidableEq

/-- What the `MGET` of `loadOrderWorkspace` reads: the keys `:version`, `:saga` and `:accepted`. -/
structure OrderView where
  version : ℕ := 0
  saga : Option OrderSaga := none
  accepted : Option AcceptedOrderRecord := none
  deriving DecidableEq

/-- The Redis keys of one order.  `score` is the order's score in the deadline sorted set of its
shard and `deadline` its `:deadline` record. -/
structure OrderKeys where
  view : OrderView := {}
  results : String → Option (List ResultMessage) := fun _ => none
  score : Option ℤ := none
  deadline : Option DeadlineRecord := none

variable (env : CheckoutEnv) (orderId : String)

/-- The work ID of a deadline. -/
def deadlineWorkId (version : ℕ) (millis : ℤ) : String :=
  env.stableID ["checkout-deadline", orderId, toString version, toString millis]

/-- `newDeadlineRecord`. -/
def newDeadlineRecord (saga : OrderSaga) : DeadlineRecord where
  orderId := saga.orderId
  version := saga.version
  deadline := saga.deadline
  workId := deadlineWorkId env saga.orderId saga.version (unixMilli saga.deadline)

/-! ## Loading the workspace -/

namespace PersistedState

/-- The projections that `loadOrderWorkspace` copies from its base. -/
def withProjections (state : PersistedState) : Option PersistedState → PersistedState
  | none => state
  | some base =>
    { state with
      catalogRevision := base.catalogRevision, rates := base.rates, carts := base.carts
      products := base.products, removedProducts := base.removedProducts }

/-- The projections that `loadOrderWorkspace` restores from the accepted order. -/
def withAccepted (state : PersistedState) : Option AcceptedOrderRecord → PersistedState
  | none => state
  | some accepted =>
    { state with
      rates := accepted.rates
      catalogRevision := accepted.catalogRevision
      carts := match accepted.cart with
        | none => state.carts
        | some cart => Function.update state.carts cart.userId (some cart)
      products := accepted.products.foldl
        (fun products product => Function.update products product.productId (some product))
        state.products }

end PersistedState

/-- The accepted order that `loadOrderWorkspace` decodes: only for an order that waits for its quote
or has no saga yet. -/
def hydratedOrder (view : OrderView) : Option AcceptedOrderRecord :=
  match view.saga with
  | none => view.accepted
  | some saga => if saga.stage = .waitingQuote then view.accepted else none

/-- `loadOrderWorkspace`, with the saga and the accepted order of `view`. -/
def loadOrderWorkspace (time : Time) (base : Option PersistedState) (view : OrderView) :
    PersistedState :=
  PersistedState.withAccepted
    { PersistedState.withProjections (PersistedState.new time) base with orders := view.saga }
    (hydratedOrder view)

/-- `acceptedFromState`. -/
def acceptedFromState (state : PersistedState) (saga : OrderSaga) : AcceptedOrderRecord where
  orderId := orderId
  cart := state.carts saga.userId
  products := match state.carts saga.userId with
    | none => []
    | some cart => cart.items.filterMap fun line => state.products line.productId
  rates := state.rates
  catalogRevision := saga.catalogRevision
  rateRevision := saga.rateRevision
  order := saga.snapshot

/-! ## One attempt of `ApplyOrder` -/

/-- The `deadlineMode` argument of `commitOrderScript`, with the score and the record it uses. -/
inductive DeadlineMode where
  | set (millis : ℤ) (record : DeadlineRecord)
  | remove
  | keep
  deriving DecidableEq

/-- The arguments of `commitOrderScript`. -/
structure CommitArgs where
  inputKey : String
  expected : ℕ
  nextVersion : ℕ
  saga : Option OrderSaga
  accepted : Option AcceptedOrderRecord
  journal : List ResultMessage
  deadline : DeadlineMode
  deriving DecidableEq

/-- The deadline mode that `ApplyOrder` chooses. -/
def deadlineMode (input : OrderInput) (saga : Option OrderSaga) : DeadlineMode :=
  -- the due member remains discoverable until its stored results are published
  if input.envelope.messageType = deadlineMessageType then .keep
  else
    match saga with
    | none => .remove
    | some saga =>
      if saga.deadline = 0 then .remove
      else .set (unixMilli saga.deadline) (newDeadlineRecord env saga)

/-- The time of an input. -/
def OrderInput.time (input : OrderInput) : Time := input.envelope.occurredAt.getD 0

/-- The workspace on which `ApplyOrder` runs the update of an input. -/
def transitionWorkspace (input : OrderInput) (now : Time) (view : OrderView) : PersistedState :=
  { loadOrderWorkspace input.time input.base view with
    deadlineStart := now, input := some input.envelope }

/-- The arguments that `ApplyOrder` computes from the updated workspace. -/
def commitArgs (input : OrderInput) (view : OrderView) (state : PersistedState) : CommitArgs where
  inputKey := env.digest input.messageId
  expected := view.version
  nextVersion := (state.orders.map OrderSaga.version).getD view.version
  saga := state.orders
  accepted :=
    if (hydratedOrder view).isNone && view.version = 0 then
      state.orders.map (acceptedFromState orderId state)
    else none
  journal := state.results
  deadline := deadlineMode env input state.orders

/-- One attempt of `ApplyOrder`, from the loaded view to the arguments of its `Eval`. -/
def prepareCommit (input : OrderInput) (now : Time) (view : OrderView) :
    Except CheckoutError CommitArgs := do
  let state ← input.update env (transitionWorkspace input now view)
  return commitArgs env orderId input view state

/-- The checks with which `ApplyOrder` starts. -/
def OrderInput.accepted (input : OrderInput) : Bool :=
  !isBlank orderId && !isBlank input.messageId &&
    match input.envelope.occurredAt with
    | none => false
    | some time => time ≠ 0

/-- The order that a handler passes to `ApplyOrder` with an input. -/
def OrderInput.addressed : OrderInput → Prop
  | .command envelope payload _ =>
    decodeOrderCommand envelope = .ok payload ∧ payload.orderId = orderId
  | .event _ envelope => envelope.aggregateId = orderId
  | .deadline id _ _ _ => id = orderId

instance OrderInput.decidableAddressed : ∀ input : OrderInput, Decidable (input.addressed orderId)
  | .command envelope payload _ =>
    inferInstanceAs (Decidable (decodeOrderCommand envelope = .ok payload ∧ _))
  | .event _ envelope => inferInstanceAs (Decidable (envelope.aggregateId = orderId))
  | .deadline id _ _ _ => inferInstanceAs (Decidable (id = orderId))

/-! ## The scripts -/

/-- The replies of `commitOrderScript`: status 0, 1 and 2. -/
inductive CommitReply where
  | committed (version : ℕ)
  | duplicate (version : ℕ) (stored : List ResultMessage)
  | conflict (version : ℕ)
  deriving DecidableEq

/-- The keys `:version`, `:saga` and `:accepted` after a commit. -/
def OrderView.write (view : OrderView) (args : CommitArgs) : OrderView where
  version := if args.saga.isSome then args.nextVersion else view.version
  saga := args.saga <|> view.saga
  accepted := view.accepted <|> args.accepted

/-- The keys after a commit with status 0. -/
def OrderKeys.write (keys : OrderKeys) (args : CommitArgs) : OrderKeys where
  view := keys.view.write args
  results := Function.update keys.results args.inputKey (some args.journal)
  score := match args.deadline with
    | .set millis _ => some millis
    | .remove => none
    | .keep => keys.score
  deadline := match args.deadline with
    | .set _ record => some record
    | .remove => none
    | .keep => keys.deadline

/-- `commitOrderScript`. -/
def commitOrderScript (keys : OrderKeys) (args : CommitArgs) : OrderKeys × CommitReply :=
  match keys.results args.inputKey with
  | some existing => (keys, .duplicate keys.view.version existing)
  | none =>
    if keys.view.version ≠ args.expected then (keys, .conflict keys.view.version)
    else (keys.write args, .committed args.nextVersion)

/-- `completeDeadlineScript`. -/
def completeDeadlineScript (keys : OrderKeys) (expected : DeadlineRecord) : OrderKeys :=
  if keys.deadline = some expected then { keys with score := none, deadline := none } else keys

/-- `removeOrphanDeadlineScript`. -/
def removeOrphanDeadlineScript (keys : OrderKeys) : OrderKeys :=
  if keys.deadline.isNone then { keys with score := none } else keys

/-- `redisTransactionRetries`. -/
def redisTransactionRetries : ℕ := 16

end Boutique
