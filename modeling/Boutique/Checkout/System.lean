import Boutique.Lib.Run
import Boutique.Stateless.Lease
import Boutique.Checkout.OrderStore

/-!
# The checkout system around one order

Any number of workers handle the inputs of one order.  A worker is a goroutine of some replica: it
is idle, in a call of `ApplyOrder`, or at some point of `claimDeadline`.  One action of the system
is one Redis command or script, one publication, or the failure of a worker; between two actions of
a worker any actions of other workers may happen.

The state also records what happened: the commits with status 0, the calls that returned and the
results that `claimDeadline` published.  No action reads these records.
-/

namespace Boutique

/-! ## Calls and workers -/

/-- A loaded view, and how many commits had happened when it was read. -/
structure LoadedView where
  view : OrderView
  seen : ℕ

/-- A call of `ApplyOrder`: its input, the clock reading it started with, the number of the current
attempt and what that attempt has loaded. -/
structure Call where
  serial : ℕ
  input : OrderInput
  now : Time
  attempt : ℕ := 0
  loaded : Option LoadedView := none

/-- The call at the start of its next attempt. -/
def Call.next (call : Call) : Call := { call with attempt := call.attempt + 1, loaded := none }

/-- What `claimDeadline` holds once it has the lease. -/
structure Scan where
  record : DeadlineRecord
  lease : Lease

/-- The states of a worker. -/
inductive Worker where
  | idle
  | applying (call : Call) (scan : Option Scan)
  | due (now : Time)
  | orphan
  | found (now : Time) (record : DeadlineRecord)
  | acquired (scan : Scan)
  | publishing (scan : Scan) (results : List ResultMessage)
  | published (scan : Scan)
  | completing (record : DeadlineRecord)

/-- The state of a worker whose call has returned: `claimDeadline` goes on to publish. -/
def Worker.returned (scan : Option Scan) (results : List ResultMessage) : Worker :=
  match scan with
  | none => .idle
  | some scan => .publishing scan results

/-! ## Records of what happened -/

/-- A commit with status 0: the call, the view it had loaded, the view it replaced and the arguments
of the script. -/
structure Commit where
  epoch : ℕ
  serial : ℕ
  input : OrderInput
  now : Time
  loaded : OrderView
  seen : ℕ
  before : OrderView
  args : CommitArgs

/-- The view that a commit leaves. -/
def Commit.after (commit : Commit) : OrderView := commit.before.write commit.args

/-- The message ID of the committed input. -/
def Commit.messageId (commit : Commit) : String := commit.input.messageId

/-- The journalled results of a commit. -/
def Commit.results (commit : Commit) : List ResultMessage := commit.args.journal

/-- `transitionOutcome`. -/
structure Outcome where
  results : List ResultMessage
  duplicate : Bool
  version : ℕ
  deriving DecidableEq

/-- A call of `ApplyOrder` that returned without error. -/
structure Return where
  epoch : ℕ
  serial : ℕ
  messageId : String
  outcome : Outcome

/-- The state of the system.  `epoch` counts the expirations of the results journal. -/
structure CheckoutState where
  keys : OrderKeys := {}
  leases : String → LeaseHash := fun _ => {}
  workers : ℕ → Worker := fun _ => .idle
  calls : ℕ := 0
  epoch : ℕ := 0
  log : List Commit := []
  returns : List Return := []
  published : List (DeadlineRecord × List ResultMessage) := []

/-! ## Actions -/

/-- How an `Eval` of the commit script ends: with a reply, with an error after the script ran, or
with an error although it did not run.  `retry` says whether `ClassifyRetry` finds the error to be a
dependency failure. -/
inductive Delivery where
  | delivered
  | lost (retry : Bool)
  | refused (retry : Bool)
  deriving DecidableEq

/-- The actions of the system. -/
inductive Action where
  -- ApplyOrder
  | deliver (w : ℕ) (input : OrderInput) (now : Time)
  | load (w : ℕ)
  | commit (w : ℕ) (delivery : Delivery)
  -- claimDeadline
  | scan (w : ℕ) (now : Time)
  | loadDeadline (w : ℕ)
  | removeOrphan (w : ℕ)
  | acquire (w : ℕ)
  | process (w : ℕ) (now : Time)
  | publish (w : ℕ)
  | completeLease (w : ℕ) (now : Time)
  | completeDeadline (w : ℕ)
  -- failures and expirations
  | fail (w : ℕ)
  | expireJournal
  | expireLease (workId : String)

namespace CheckoutState

variable (s : CheckoutState)

/-- The state with another state of worker `w`. -/
def setWorker (w : ℕ) (worker : Worker) : CheckoutState :=
  { s with workers := Function.update s.workers w worker }

/-- The start of a call of `ApplyOrder`, by `claimDeadline` when there is a `scan`. -/
def startCall (w : ℕ) (input : OrderInput) (now : Time) (scan : Option Scan) : CheckoutState :=
  { s.setWorker w (.applying { serial := s.calls, input := input, now := now } scan) with
    calls := s.calls + 1 }

/-- The record of a commit with status 0. -/
def commitRecord (call : Call) (loaded : LoadedView) (args : CommitArgs) : Commit where
  epoch := s.epoch
  serial := call.serial
  input := call.input
  now := call.now
  loaded := loaded.view
  seen := loaded.seen
  before := s.keys.view
  args := args

/-- The state after a commit with status 0. -/
def committed (call : Call) (loaded : LoadedView) (args : CommitArgs) : CheckoutState :=
  { s with keys := s.keys.write args, log := s.log ++ [s.commitRecord call loaded args] }

/-- The end of a call that returns without error. -/
def finish (w : ℕ) (call : Call) (scan : Option Scan) (outcome : Outcome) : CheckoutState :=
  { s.setWorker w (.returned scan outcome.results) with
    returns := s.returns ++ [{ epoch := s.epoch, serial := call.serial,
                               messageId := call.input.messageId, outcome := outcome }] }

/-- A failed `Eval`: the next attempt, or the end of the call with an error. -/
def retryOrFail (w : ℕ) (call : Call) (scan : Option Scan) (retry : Bool) : CheckoutState :=
  if retry && call.attempt + 1 < redisTransactionRetries then
    s.setWorker w (.applying call.next scan)
  else s.setWorker w .idle

/-- The `Eval` of the commit script and what the call does with the reply. -/
def evalCommit (w : ℕ) (call : Call) (scan : Option Scan) (loaded : LoadedView)
    (args : CommitArgs) (delivery : Delivery) : CheckoutState :=
  match delivery with
  | .refused retry => s.retryOrFail w call scan retry
  | .lost retry =>
    match (commitOrderScript s.keys args).2 with
    | .committed _ => (s.committed call loaded args).retryOrFail w call scan retry
    | _ => s.retryOrFail w call scan retry
  | .delivered =>
    match (commitOrderScript s.keys args).2 with
    | .committed version =>
      (s.committed call loaded args).finish w call scan
        { results := args.journal, duplicate := false, version := version }
    | .duplicate version stored =>
      s.finish w call scan { results := stored, duplicate := true, version := version }
    | .conflict _ =>
      if call.attempt + 1 = redisTransactionRetries then s.setWorker w .idle
      else s.setWorker w (.applying call.next scan)

end CheckoutState

/-! ## The step function -/

section Step

variable (env : CheckoutEnv) (orderId : String)

/-- The input that `processDeadline` makes of a deadline record. -/
def DeadlineRecord.input (record : DeadlineRecord) : OrderInput :=
  .deadline orderId record.version record.deadline record.workId

/-- One action of the system, or `none` when the worker is not at the point it belongs to. -/
def step (s : CheckoutState) : Action → Option CheckoutState
  | .deliver w input now =>
    match s.workers w with
    | .idle =>
      if input.addressed orderId ∧ input.accepted orderId = true then
        some (s.startCall w input now none)
      else none
    | _ => none
  | .load w =>
    match s.workers w with
    | .applying call scan =>
      match call.loaded with
      | none =>
        some (s.setWorker w (.applying
          { call with loaded := some { view := s.keys.view, seen := s.log.length } } scan))
      | some _ => none
    | _ => none
  | .commit w delivery =>
    match s.workers w with
    | .applying call scan =>
      match call.loaded with
      | some loaded =>
        match prepareCommit env orderId call.input call.now loaded.view with
        | .error _ => some (s.setWorker w .idle)
        | .ok args => some (s.evalCommit w call scan loaded args delivery)
      | none => none
    | _ => none
  | .scan w now =>
    match s.workers w, s.keys.score with
    | .idle, some score => if score ≤ unixMilli now then some (s.setWorker w (.due now)) else none
    | _, _ => none
  | .loadDeadline w =>
    match s.workers w with
    | .due now =>
      match s.keys.deadline with
      | none => some (s.setWorker w .orphan)
      | some record => some (s.setWorker w (.found now record))
    | _ => none
  | .removeOrphan w =>
    match s.workers w with
    | .orphan => some { s.setWorker w .idle with keys := removeOrphanDeadlineScript s.keys }
    | _ => none
  | .acquire w =>
    match s.workers w with
    | .found now record =>
      let key := env.digest record.workId
      match acquireLease (s.leases key) record.workId (env.workerId w) now env.leaseDuration with
      | (hash, .acquired lease) =>
        some { s.setWorker w (.acquired { record := record, lease := lease }) with
               leases := Function.update s.leases key hash }
      | (_, .completeError _) => some (s.setWorker w (.completing record))
      | _ => some (s.setWorker w .idle)
    | _ => none
  | .process w now =>
    match s.workers w with
    | .acquired scan =>
      if (scan.record.input orderId).accepted orderId then
        some (s.startCall w (scan.record.input orderId) now (some scan))
      else some (s.setWorker w .idle)
    | _ => none
  | .publish w =>
    match s.workers w with
    | .publishing scan results =>
      some { s.setWorker w (.published scan) with
             published := s.published ++ [(scan.record, results)] }
    | _ => none
  | .completeLease w now =>
    match s.workers w with
    | .published scan =>
      let key := env.digest scan.lease.workId
      match completeLease (s.leases key) scan.lease now with
      | (hash, .completed) | (hash, .completeError _) =>
        some { s.setWorker w (.completing scan.record) with
               leases := Function.update s.leases key hash }
      | _ => some (s.setWorker w .idle)
    | _ => none
  | .completeDeadline w =>
    match s.workers w with
    | .completing record =>
      some { s.setWorker w .idle with keys := completeDeadlineScript s.keys record }
    | _ => none
  | .fail w => some (s.setWorker w .idle)
  | .expireJournal =>
    some { s with keys := { s.keys with results := fun _ => none }, epoch := s.epoch + 1 }
  | .expireLease workId =>
    some { s with leases := Function.update s.leases (env.digest workId) {} }

/-- The state after a run from the empty store. -/
def runs (actions : List Action) : Option CheckoutState :=
  StepSystem.run (step env orderId) {} actions

end Step

/-! ## A sample order

One order with the messages that the other services answer, on which the statements about runs are
evaluated.  The hash functions keep their inputs readable. -/

namespace Sample

/-- The configuration of the sample. -/
def env : CheckoutEnv where
  digest := id
  stableID := String.intercalate "/"
  resultHash := fun messageId slot => messageId ++ ":" ++ slot
  round64 := id
  stepTimeout := { nanos := 30000000000, lower := by decide, upper := by decide }
  leaseDuration := { nanos := 15000000000, lower := by decide, upper := by decide }
  workerId := fun w => "checkoutservice-" ++ toString w

/-- The order. -/
def orderId : String := "order-1"

/-- The time at which everything happens. -/
def time : Time := unixEpoch + 1700000000 * 1000000000

/-- An envelope for the order. -/
def envelope (messageId messageType : String) (data : Payload) : MessageEnvelope where
  messageId := messageId
  messageType := messageType
  occurredAt := some time
  producer := "sample"
  aggregateType := "order"
  aggregateId := orderId
  aggregateVersion := 1
  correlationId := orderId
  data := data

/-- The command that submits the order. -/
def command : OrderSubmitCommand where
  commandId := "command-1"
  operationId := "operation-1"
  orderId := orderId
  userId := "user-1"
  expectedCartVersion := 1
  expectedCatalogRevision := 1
  expectedRateRevision := 1
  currencyCode := "USD"
  shippingAddress := some { streetAddress := "1600 Amphitheatre Parkway", city := "Mountain View",
                            country := "USA" }
  email := "someone@example.com"
  paymentToken := "token-1"

/-- The projections with which the order is accepted: one product at five dollars, two of it in the
cart. -/
def projections : PersistedState :=
  { PersistedState.new time with
    products := fun id =>
      if id = "product-1" then
        some { productId := id, priceUsd := some { currencyCode := "USD", units := 5 } }
      else none
    carts := fun id =>
      if id = "user-1" then
        some { userId := id, items := [{ productId := "product-1", quantity := 2 }],
               cartVersion := 1 }
      else none
    rates := some { baseCurrencyCode := "USD", rateRevision := 1
                    rates := [{ currencyCode := "USD", unitsPerBase := 1 }] }
    catalogRevision := 1 }

/-- The submitted order. -/
def submit : OrderInput :=
  .command (envelope "submit" "boutique.order.Submit.v1" (.orderSubmit command)) command
    projections

/-- The quote of the shipping service. -/
def quoted : OrderInput :=
  .event .orderQuoteCalculated (envelope "quoted" "boutique.shipping.OrderQuoteCalculated.v1"
    (.orderQuoteCalculated orderId (some { currencyCode := "USD", units := 3 })))

/-- The authorized payment. -/
def authorized : OrderInput :=
  .event .paymentAuthorized (envelope "authorized" "boutique.payment.Authorized.v1"
    (.paymentAuthorized orderId "authorization-1"))

/-- The created shipment. -/
def shipped : OrderInput :=
  .event .shipmentCreated (envelope "shipped" "boutique.shipping.ShipmentCreated.v1"
    (.shipmentCreated orderId "shipment-1" "tracking-1"))

/-- The captured payment. -/
def captured : OrderInput :=
  .event .paymentCaptured (envelope "captured" "boutique.payment.Captured.v1"
    (.paymentCaptured orderId "transaction-1"))

/-- The failed capture. -/
def captureFailed : OrderInput :=
  .event .paymentCaptureFailed (envelope "capture-failed" "boutique.payment.CaptureFailed.v1"
    (.paymentCaptureFailed orderId "authorization-1" none))

/-- The released authorization. -/
def released : OrderInput :=
  .event .authorizationReleased (envelope "released" "boutique.payment.AuthorizationReleased.v1"
    (.authorizationReleased orderId "authorization-1"))

/-- The cancelled shipment. -/
def shipmentCancelled : OrderInput :=
  .event .shipmentCancelled
    (envelope "shipment-cancelled" "boutique.shipping.ShipmentCancelled.v1"
      (.shipmentCancelled orderId "shipment-1"))

/-- A worker handles an input without interruption. -/
def handle (w : ℕ) (input : OrderInput) : List Action :=
  [.deliver w input time, .load w, .commit w .delivered]

/-- The run of an order until it compensates a failed capture. -/
def compensatingRun : List Action :=
  handle 0 submit ++ handle 0 quoted ++ handle 0 authorized ++ handle 0 shipped ++
    handle 0 captureFailed

/-- The run of an order that compensates and is cancelled. -/
def cancelledRun : List Action :=
  compensatingRun ++ handle 0 released ++ handle 1 shipmentCancelled

/-- Two workers handle the two acknowledgements of a compensating order at the same time. -/
def interleavedRun : List Action :=
  compensatingRun ++
    [.deliver 0 released time, .deliver 1 shipmentCancelled time, .load 0, .load 1,
     .commit 0 .delivered, .commit 1 .delivered]

/-- The reply to the first commit is lost and the call retried; another worker gets the input again. -/
def redeliveredRun : List Action :=
  [.deliver 0 submit time, .load 0, .commit 0 (.lost true), .load 0, .commit 0 .delivered] ++
    handle 1 submit

/-- The run of an order that completes. -/
def completedRun : List Action :=
  handle 0 submit ++ handle 0 quoted ++ handle 0 authorized ++ handle 0 shipped ++
    handle 0 captured

end Sample

end Boutique
