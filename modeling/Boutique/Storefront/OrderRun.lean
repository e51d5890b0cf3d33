import Boutique.Storefront.OrderStory

/-!
# The events that one run of the producers emits for an order

The frontend accepts the operation, the checkout takes the order on and ends it, the customer is
notified and the cart is cleared.  Each of these events, delivered to the projector at any time, is
applied without error and makes a call of the order's story.
-/

namespace Boutique.Storefront

/-! ## The events of an order -/

/-- An event on its subject, with the time at which it was published. -/
structure Fact where
  subject : EventSubject
  envelope : MessageEnvelope
  publishedAt : Time
  deriving DecidableEq

/-- What every producer sets. -/
structure Fact.Formed (f : Fact) : Prop where
  schemaVersion : f.envelope.schemaVersion = 1
  messageId : isBlank f.envelope.messageId = false
  occurredAt : f.envelope.occurredAt.isSome = true
  publishedAt : f.publishedAt ≠ 0

/-- The part that a fact plays for the order. -/
def Fact.role (f : Fact) : Role :=
  match f.subject with
  | .operationAccepted => .accepted
  | .orderSubmitted => .submitted
  | .orderProcessingStageChanged | .orderStepTimedOut => .progress
  | .orderRejected | .orderCompleted | .orderCancelled | .orderManualReviewRequired => .outcome
  | .orderConfirmationSent | .orderConfirmationFailed => .notified
  | _ => .settled

/-- How a run of the checkout ends. -/
inductive Ending where
  | rejected | completed | cancelled | manualReview
  deriving DecidableEq

/-- The status of an ending. -/
def Ending.status : Ending → OrderStatus
  | .rejected => .rejected
  | .completed => .completed
  | .cancelled => .cancelled
  | .manualReview => .manualReview

/-- The events that are emitted for an order. -/
structure OrderRun where
  orderId : String
  userId : String
  accepted : Fact
  submitted : Option Fact := none
  progress : List Fact := []
  outcome : Fact
  notification : Option Fact := none
  settlement : Option Fact := none

namespace OrderRun

variable (run : OrderRun)

/-- All of them. -/
def facts : List Fact :=
  run.accepted :: run.outcome :: (run.submitted.toList ++ run.progress ++ run.notification.toList ++
    run.settlement.toList)

/-- The events of the checkout in the order in which it emits them. -/
def saga : List Fact := run.submitted.toList ++ run.progress ++ [run.outcome]

/-- The frontend accepts the operation, whose ID is the order's. -/
def IsAccepted (f : Fact) : Prop :=
  f.subject = .operationAccepted ∧ ∃ commandId status, commandId ≠ "" ∧
    f.envelope.data = .operationAccepted run.orderId commandId "order.submit" status run.userId

/-- The checkout takes the order on, with version 1. -/
def IsSubmitted (f : Fact) : Prop :=
  f.subject = .orderSubmitted ∧ f.envelope.aggregateVersion = 1 ∧
    ∃ operationId order cartVersion catalogRevision rateRevision,
      f.envelope.data = .orderSubmitted operationId (some order) cartVersion catalogRevision
        rateRevision ∧ order.orderId = run.orderId ∧ order.userId = run.userId

/-- The checkout starts to compensate, or a step has timed out. -/
def IsProgress (f : Fact) : Prop :=
  (f.subject = .orderProcessingStageChanged ∧ ∃ changedAt,
    f.envelope.data = .orderProcessingStageChanged run.orderId "COMPENSATING" changedAt) ∨
  (f.subject = .orderStepTimedOut ∧ ∃ waitingStage deadline lastCommandId chosenAction,
    f.envelope.data = .orderStepTimedOut run.orderId waitingStage deadline lastCommandId chosenAction)

/-- The checkout ends; its failures have codes. -/
def IsOutcome (f : Fact) : Ending → Prop
  | .rejected => f.subject = .orderRejected ∧ ∃ failure, failure.code ≠ "" ∧
    f.envelope.data = .orderRejected run.orderId run.orderId (some failure)
  | .completed => f.subject = .orderCompleted ∧ ∃ order, f.envelope.data = .orderCompleted (some order) ∧
    order.orderId = run.orderId ∧ order.userId = run.userId
  | .cancelled => f.subject = .orderCancelled ∧ ∃ failure compensations, failure.code ≠ "" ∧
    f.envelope.data = .orderCancelled run.orderId (some failure) compensations
  | .manualReview => f.subject = .orderManualReviewRequired ∧
    ∃ failedStep failedCompensation references, failedCompensation ≠ "" ∧
      f.envelope.data = .orderManualReviewRequired run.orderId failedStep failedCompensation references

/-- The customer is notified, with the version of the event that caused it. -/
def IsNotification (f : Fact) : Prop :=
  f.envelope.aggregateVersion = run.outcome.envelope.aggregateVersion ∧
    ((f.subject = .orderConfirmationSent ∧ f.envelope.data = .orderConfirmationSent run.orderId) ∨
      (f.subject = .orderConfirmationFailed ∧ ∃ failure,
        f.envelope.data = .orderConfirmationFailed run.orderId failure))

/-- The cart is cleared for the order, or cannot be. -/
def IsSettlement (f : Fact) : Prop :=
  (f.subject = .cartCleared ∧ ∃ commandId cart, commandId ≠ "" ∧ cart.userId ≠ "" ∧
    f.envelope.data = .cartCleared commandId run.userId (some cart) run.orderId) ∨
  (f.subject = .cartCommandRejected ∧ f.envelope.correlationId = run.orderId ∧
    ∃ commandId failure cartVersion, commandId ≠ "" ∧ run.orderId ≠ commandId ∧
      f.envelope.data = .cartCommandRejected commandId run.userId failure cartVersion)

/-- The events are those of one run of the producers. -/
structure Emitted (ending : Ending) : Prop where
  orderId : run.orderId ≠ ""
  userId : run.userId ≠ ""
  formed : ∀ f ∈ run.facts, f.Formed
  ids : ∀ f ∈ run.facts, ∀ g ∈ run.facts, f.envelope.messageId = g.envelope.messageId → f = g
  accepted : run.IsAccepted run.accepted
  submitted : ∀ f, run.submitted = some f → run.IsSubmitted f
  progress : ∀ f ∈ run.progress, run.IsProgress f
  outcome : run.IsOutcome run.outcome ending
  versions : (run.saga.map fun f => f.envelope.aggregateVersion).Pairwise (· < ·)
  rejected : ending = .rejected ↔ run.submitted = none
  straight : ending = .rejected ∨ ending = .completed → run.progress = []
  positive : 0 < run.outcome.envelope.aggregateVersion
  notification : ∀ f, run.notification = some f → ending = .completed ∧ run.IsNotification f
  settlement : ∀ f, run.settlement = some f → ending = .completed ∧ run.IsSettlement f

end OrderRun

/-- `applyEnvelope` for a delivery. -/
def deliver (buckets : Buckets) (d : Time × Fact) : Except ProjectionError Buckets :=
  applyEnvelope d.1 buckets d.2.subject d.2.envelope d.2.publishedAt

/-! ## The story of a run -/

namespace OrderRun

variable (run : OrderRun)

/-- The view that the outcome asks for. -/
def outcomeView : OrderView :=
  match orderEvent {} run.outcome.envelope 0 run.outcome.publishedAt run.outcome.subject
    run.outcome.envelope.data with
  | .ok (some view) => view
  | _ => { orderId := run.orderId, updatedAt := 0 }

/-- The snapshot of the submission. -/
def submittedSnapshot : Option SanitizedOrderSnapshot :=
  run.submitted.bind fun f =>
    match f.envelope.data with
    | .orderSubmitted _ order _ _ _ => order
    | _ => none

/-- The status that the notification brings. -/
def notificationStatus : NotificationStatus :=
  match run.notification.map Fact.subject with
  | some .orderConfirmationSent => .sent
  | some .orderConfirmationFailed => .failed
  | _ => .unset

/-- What the settlement brings. -/
def cartClear : CartClearStatus × String :=
  match run.settlement with
  | none => (.unset, "")
  | some f =>
    match f.envelope.data with
    | .cartCommandRejected _ _ failure _ => (.rejected, (failure.map Failure.code).getD "")
    | _ => (.succeeded, "")

/-- The story that the events tell. -/
def story : OrderStory where
  userId := run.userId
  version := run.outcome.envelope.aggregateVersion
  submitted := run.submittedSnapshot
  status := run.outcomeView.status
  stage := run.outcomeView.stage
  snapshot := run.outcomeView.snapshot
  failureCode := run.outcomeView.failureCode
  retryable := run.outcomeView.retryable
  safeMessage := run.outcomeView.safeMessage
  outcomeAt := run.outcomeView.outcomeAt.getD 0
  notificationStatus := run.notificationStatus
  cartClearStatus := run.cartClear.1
  cartClearFailureCode := run.cartClear.2

variable {run} {ending : Ending}

/-- The story is complete. -/
lemma Emitted.complete (h : run.Emitted ending) : run.story.Complete := by
  have houtcome := h.outcome
  cases ending with
  | rejected =>
    obtain ⟨hsubject, failure, hcode, hdata⟩ := houtcome
    constructor
    · simp [story, outcomeView, orderEvent, hsubject, hdata, applyOrderFailure, terminalView,
        OrderStatus.terminal]
    · simp [story, outcomeView, orderEvent, hsubject, hdata, applyOrderFailure, terminalView,
        OrderStatus.text]
    · simp [story, outcomeView, orderEvent, hsubject, hdata, applyOrderFailure, hcode]
  | completed =>
    obtain ⟨hsubject, order, hdata, -⟩ := houtcome
    constructor
    · simp [story, outcomeView, orderEvent, hsubject, hdata, terminalView, OrderStatus.terminal]
    · simp [story, outcomeView, orderEvent, hsubject, hdata, terminalView, OrderStatus.text]
    · simp [story, outcomeView, orderEvent, hsubject, hdata, terminalView, orderEventView]
  | cancelled =>
    obtain ⟨hsubject, failure, _, hcode, hdata⟩ := houtcome
    constructor
    · simp [story, outcomeView, orderEvent, hsubject, hdata, applyOrderFailure, terminalView,
        OrderStatus.terminal]
    · simp [story, outcomeView, orderEvent, hsubject, hdata, applyOrderFailure, terminalView,
        OrderStatus.text]
    · simp [story, outcomeView, orderEvent, hsubject, hdata, applyOrderFailure, hcode]
  | manualReview =>
    obtain ⟨hsubject, _, failedCompensation, _, hcode, hdata⟩ := houtcome
    constructor
    · simp [story, outcomeView, orderEvent, hsubject, hdata, terminalView, OrderStatus.terminal]
    · simp [story, outcomeView, orderEvent, hsubject, hdata, terminalView, OrderStatus.text]
    · simp [story, outcomeView, orderEvent, hsubject, hdata, hcode]

/-- The versions of the checkout's events. -/
lemma Emitted.version_lt (h : run.Emitted ending) {f : Fact}
    (hf : run.submitted = some f ∨ f ∈ run.progress) :
    f.envelope.aggregateVersion < run.outcome.envelope.aggregateVersion := by
  have hversions := h.versions
  rw [List.pairwise_map, saga, List.pairwise_append] at hversions
  refine hversions.2.2 f ?_ run.outcome (List.mem_singleton_self _)
  rcases hf with hf | hf
  · simp [hf]
  · exact List.mem_append_right _ hf

/-- The submission is the first of them. -/
lemma Emitted.one_lt (h : run.Emitted ending) (hending : ending ≠ .rejected) {f : Fact}
    (hf : f ∈ run.progress ∨ f = run.outcome) : 1 < f.envelope.aggregateVersion := by
  obtain ⟨g, hg⟩ := Option.ne_none_iff_exists'.mp (fun hnone => hending (h.rejected.mpr hnone))
  have hone := (h.submitted g hg).2.1
  have hversions := h.versions
  rw [List.pairwise_map, saga, hg, Option.toList_some, List.append_assoc, List.singleton_append,
    List.pairwise_cons] at hversions
  have hlt := hversions.1 f (by simpa using hf)
  omega

end OrderRun

/-! ## One delivery -/

section Deliver

variable {run : OrderRun} {ending : Ending} {f : Fact} {buckets : Buckets} {now : Time}

/-- The version that a fact offers to the record of the order. -/
def Fact.version (f : Fact) : ℕ :=
  match f.role with
  | .accepted | .settled => 0
  | _ => f.envelope.aggregateVersion

/-- Every operation belongs to the user of the run. -/
def OneUser (run : OrderRun) (buckets : Buckets) : Prop :=
  ∀ key, operationUser buckets key = "" ∨ operationUser buckets key = run.userId

/-- What a delivery does: the record of the order is updated by a call of the story. -/
structure CallMade (run : OrderRun) (f : Fact) (buckets buckets' : Buckets) (call : OrderCall) :
    Prop where
  oneUser : OneUser run buckets'
  order : buckets'.orders run.orderId = some (afterCall (buckets.orders run.orderId) call)
  ok : OrderEvent.Ok run.story ⟨f.role, call⟩
  eventId : call.eventId = f.envelope.messageId
  version : OrderEvent.version ⟨f.role, call⟩ = f.version

/-- A formed fact about an order, whose view is known. -/
lemma deliver_orderEvent (hformed : f.Formed) (hrole : f.role ≠ .accepted ∧ f.role ≠ .settled)
    {v : OrderView} (hne : v.orderId ≠ "")
    (hview : ∀ updatedAt, f.envelope.occurredAt = some updatedAt →
      orderEvent buckets f.envelope updatedAt f.publishedAt f.subject f.envelope.data = .ok (some v)) :
    deliver buckets (now, f) = .ok { buckets with
      orders := Function.update buckets.orders v.orderId
        (some (orderAfter (buckets.orders v.orderId) v)) } := by
  obtain ⟨updatedAt, hat⟩ := Option.isSome_iff_exists.mp hformed.occurredAt
  have hview' := hview updatedAt hat
  have hsubject : f.subject = .orderSubmitted ∨ f.subject = .orderProcessingStageChanged ∨
      f.subject = .orderRejected ∨ f.subject = .orderCompleted ∨ f.subject = .orderCancelled ∨
      f.subject = .orderManualReviewRequired ∨ f.subject = .orderStepTimedOut ∨
      f.subject = .orderConfirmationSent ∨ f.subject = .orderConfirmationFailed := by
    cases hs : f.subject <;> simp [Fact.role, hs] at hrole ⊢
  simp only [deliver, applyEnvelope, hformed.schemaVersion, hformed.messageId, hat, Option.getD_some,
    if_neg hformed.publishedAt, ne_eq, not_true_eq_false, if_false, Bool.false_eq_true]
  rcases hsubject with hs | hs | hs | hs | hs | hs | hs | hs | hs <;>
    (rw [hs] at hview' ⊢; simp only [hview']; exact if_neg hne)

/-- A fact about the order whose view is in order. -/
lemma delivered_orderEvent (h : run.Emitted ending) (hformed : f.Formed)
    (hrole : f.role ≠ .accepted ∧ f.role ≠ .settled) (huser : OneUser run buckets) (v : OrderView)
    (hview : ∀ updatedAt, f.envelope.occurredAt = some updatedAt →
      orderEvent buckets f.envelope updatedAt f.publishedAt f.subject f.envelope.data = .ok (some v))
    (hid : v.orderId = run.orderId) (hok : UpdateOk run.story f.role v)
    (hevent : v.sourceEventId = f.envelope.messageId)
    (hversion : v.aggregateVersion = f.envelope.aggregateVersion) :
    ∃ buckets' call, deliver buckets (now, f) = .ok buckets' ∧
      CallMade run f buckets buckets' call := by
  have hne : v.orderId ≠ "" := hid ▸ h.orderId
  refine ⟨_, .update v, deliver_orderEvent hformed hrole hne hview, huser, ?_, hok, hevent, ?_⟩
  · simp only [hid, Function.update_self]
    rfl
  · have hfact : f.version = f.envelope.aggregateVersion := by
      unfold Fact.version
      cases hr : f.role with
      | accepted => exact absurd hr hrole.1
      | settled => exact absurd hr hrole.2
      | _ => rfl
    rw [hfact, ← hversion]
    rfl

/-- The submission. -/
lemma submitted_delivered (h : run.Emitted ending) (hf : run.submitted = some f) (hformed : f.Formed)
    (huser : OneUser run buckets) :
    ∃ buckets' call, deliver buckets (now, f) = .ok buckets' ∧
      CallMade run f buckets buckets' call := by
  obtain ⟨hsubject, hone, operationId, order, _, _, _, hdata, hid, huserId⟩ := h.submitted f hf
  have hlt := h.version_lt (Or.inl hf)
  obtain ⟨updatedAt, hat⟩ := Option.isSome_iff_exists.mp hformed.occurredAt
  have hrole : f.role = .submitted := by simp [Fact.role, hsubject]
  refine delivered_orderEvent h hformed (by simp [hrole]) huser
    { orderEventView f.envelope updatedAt order.orderId with
      userId := order.userId, status := .processing, stage := "WAITING_FOR_QUOTE"
      snapshot := some order } ?_ hid ?_ rfl rfl
  · intro t ht
    obtain rfl := Option.some.inj (hat.symm.trans ht)
    simp [orderEvent, hsubject, hdata]
  · rw [hrole]
    constructor <;>
      simp [OrderRun.story, orderEventView, projectionMetadata, huserId, OrderStatus.terminal,
        OrderRun.submittedSnapshot, hf, hdata, hone]
    all_goals omega

/-- An event between the submission and the outcome. -/
lemma progress_delivered (h : run.Emitted ending) (hf : f ∈ run.progress) (hformed : f.Formed)
    (huser : OneUser run buckets) :
    ∃ buckets' call, deliver buckets (now, f) = .ok buckets' ∧
      CallMade run f buckets buckets' call := by
  have hlt := h.version_lt (Or.inr hf)
  obtain ⟨updatedAt, hat⟩ := Option.isSome_iff_exists.mp hformed.occurredAt
  -- orders that are rejected or completed have no such event, the others have a failure
  have hfailed : run.story.failureCode ≠ "" := by
    have houtcome := h.outcome
    cases ending with
    | rejected => simp [h.straight (Or.inl rfl)] at hf
    | completed => simp [h.straight (Or.inr rfl)] at hf
    | cancelled =>
      obtain ⟨hsubject, failure, _, hcode, hdata⟩ := houtcome
      simpa [OrderRun.story, OrderRun.outcomeView, orderEvent, hsubject, hdata, applyOrderFailure]
        using hcode
    | manualReview =>
      obtain ⟨hsubject, _, failedCompensation, _, hcode, hdata⟩ := houtcome
      simpa [OrderRun.story, OrderRun.outcomeView, orderEvent, hsubject, hdata] using hcode
  rcases h.progress f hf with ⟨hsubject, _, hdata⟩ | ⟨hsubject, waitingStage, _, _, _, hdata⟩
  · have hrole : f.role = .progress := by simp [Fact.role, hsubject]
    refine delivered_orderEvent h hformed (by simp [hrole]) huser
      { orderEventView f.envelope updatedAt run.orderId with
        status := .processing, stage := "COMPENSATING" } ?_ rfl ?_ rfl rfl
    · intro t ht
      obtain rfl := Option.some.inj (hat.symm.trans ht)
      simp [orderEvent, hsubject, hdata]
    · rw [hrole]
      constructor <;>
        simp [OrderRun.story, orderEventView, projectionMetadata, OrderStatus.terminal, hlt, hlt.le]
  · have hrole : f.role = .progress := by simp [Fact.role, hsubject]
    refine delivered_orderEvent h hformed (by simp [hrole]) huser
      { orderEventView f.envelope updatedAt run.orderId with
        status := .processing, stage := "TIMED_OUT_" ++ waitingStage
        failureCode := "STEP_TIMEOUT" } ?_ rfl ?_ rfl rfl
    · intro t ht
      obtain rfl := Option.some.inj (hat.symm.trans ht)
      simp [orderEvent, hsubject, hdata]
    · rw [hrole]
      constructor <;>
        simp [orderEventView, projectionMetadata, OrderStatus.terminal, hfailed]
      · exact hlt.le
      · exact hlt

/-- The outcome. -/
lemma outcome_delivered (h : run.Emitted ending) (hformed : run.outcome.Formed)
    (huser : OneUser run buckets) :
    ∃ buckets' call, deliver buckets (now, run.outcome) = .ok buckets' ∧
      CallMade run run.outcome buckets buckets' call := by
  obtain ⟨updatedAt, hat⟩ := Option.isSome_iff_exists.mp hformed.occurredAt
  have houtcome := h.outcome
  cases ending with
  | rejected =>
    obtain ⟨hsubject, failure, hcode, hdata⟩ := houtcome
    have hrole : run.outcome.role = .outcome := by simp [Fact.role, hsubject]
    refine delivered_orderEvent h hformed (by simp [hrole]) huser
      (applyOrderFailure
        { terminalView run.outcome.envelope updatedAt run.outcome.publishedAt run.orderId .rejected with
          userId := operationUser buckets run.orderId } (some failure)) ?_ rfl ?_ rfl rfl
    · intro t ht
      obtain rfl := Option.some.inj (hat.symm.trans ht)
      simp [orderEvent, hsubject, hdata]
    · rw [hrole]
      constructor <;>
        simp [OrderRun.story, OrderRun.outcomeView, orderEvent, hsubject, hdata, applyOrderFailure,
          terminalView, orderEventView, projectionMetadata, terminalOrderOutcomeAt,
          OrderStatus.terminal, hcode]
      exact huser run.orderId
  | completed =>
    obtain ⟨hsubject, order, hdata, hid, huserId⟩ := houtcome
    have hrole : run.outcome.role = .outcome := by simp [Fact.role, hsubject]
    refine delivered_orderEvent h hformed (by simp [hrole]) huser
      { terminalView run.outcome.envelope updatedAt run.outcome.publishedAt order.orderId
          .completed with
        userId := order.userId, snapshot := some order } ?_ hid ?_ rfl rfl
    · intro t ht
      obtain rfl := Option.some.inj (hat.symm.trans ht)
      simp [orderEvent, hsubject, hdata]
    · rw [hrole]
      constructor <;>
        simp [OrderRun.story, OrderRun.outcomeView, orderEvent, hsubject, hdata, terminalView,
          orderEventView, projectionMetadata, terminalOrderOutcomeAt, OrderStatus.terminal, huserId]
  | cancelled =>
    obtain ⟨hsubject, failure, _, hcode, hdata⟩ := houtcome
    have hrole : run.outcome.role = .outcome := by simp [Fact.role, hsubject]
    refine delivered_orderEvent h hformed (by simp [hrole]) huser
      (applyOrderFailure (terminalView run.outcome.envelope updatedAt run.outcome.publishedAt
        run.orderId .cancelled) (some failure)) ?_ rfl ?_ rfl rfl
    · intro t ht
      obtain rfl := Option.some.inj (hat.symm.trans ht)
      simp [orderEvent, hsubject, hdata]
    · rw [hrole]
      constructor <;>
        simp [OrderRun.story, OrderRun.outcomeView, orderEvent, hsubject, hdata, applyOrderFailure,
          terminalView, orderEventView, projectionMetadata, terminalOrderOutcomeAt,
          OrderStatus.terminal, hcode]
  | manualReview =>
    obtain ⟨hsubject, _, failedCompensation, _, hcode, hdata⟩ := houtcome
    have hrole : run.outcome.role = .outcome := by simp [Fact.role, hsubject]
    refine delivered_orderEvent h hformed (by simp [hrole]) huser
      { terminalView run.outcome.envelope updatedAt run.outcome.publishedAt run.orderId
          .manualReview with
        failureCode := failedCompensation
        safeMessage := "The order requires manual review." } ?_ rfl ?_ rfl rfl
    · intro t ht
      obtain rfl := Option.some.inj (hat.symm.trans ht)
      simp [orderEvent, hsubject, hdata]
    · rw [hrole]
      constructor <;>
        simp [OrderRun.story, OrderRun.outcomeView, orderEvent, hsubject, hdata,
          terminalView, orderEventView, projectionMetadata, terminalOrderOutcomeAt,
          OrderStatus.terminal, hcode]

/-- The notification. -/
lemma notification_delivered (h : run.Emitted ending) (hf : run.notification = some f)
    (hformed : f.Formed) (huser : OneUser run buckets) :
    ∃ buckets' call, deliver buckets (now, f) = .ok buckets' ∧
      CallMade run f buckets buckets' call := by
  obtain ⟨rfl, hversion, hkind⟩ := h.notification f hf
  obtain ⟨updatedAt, hat⟩ := Option.isSome_iff_exists.mp hformed.occurredAt
  rcases hkind with ⟨hsubject, hdata⟩ | ⟨hsubject, _, hdata⟩
  · have hrole : f.role = .notified := by simp [Fact.role, hsubject]
    refine delivered_orderEvent h hformed (by simp [hrole]) huser
      { orderEventView f.envelope updatedAt run.orderId with notificationStatus := .sent }
      ?_ rfl ?_ rfl rfl
    · intro t ht
      obtain rfl := Option.some.inj (hat.symm.trans ht)
      simp [orderEvent, hsubject, hdata]
    · rw [hrole]
      constructor <;>
        simp [OrderRun.story, orderEventView, projectionMetadata, OrderStatus.terminal, hversion,
          OrderRun.notificationStatus, hf, hsubject]
  · have hrole : f.role = .notified := by simp [Fact.role, hsubject]
    refine delivered_orderEvent h hformed (by simp [hrole]) huser
      { orderEventView f.envelope updatedAt run.orderId with notificationStatus := .failed }
      ?_ rfl ?_ rfl rfl
    · intro t ht
      obtain rfl := Option.some.inj (hat.symm.trans ht)
      simp [orderEvent, hsubject, hdata]
    · rw [hrole]
      constructor <;>
        simp [OrderRun.story, orderEventView, projectionMetadata, OrderStatus.terminal, hversion,
          OrderRun.notificationStatus, hf, hsubject]

/-- The user of a merged operation. -/
lemma mergeOperation_userId (current incoming : OperationView) :
    (mergeOperation current incoming).userId = current.userId ∨
      (mergeOperation current incoming).userId = incoming.userId := by
  by_cases hterminal : current.terminal = true
  · refine Or.inl ?_
    by_cases hincoming : incoming.terminal = true
    · simp [mergeOperation, hterminal, hincoming]
    · simp [mergeOperation, hterminal, hincoming]
  · refine Or.inr ?_
    simp [mergeOperation, hterminal]

/-- An operation of the user is stored, and nothing else. -/
lemma updateOperation_oneUser (huser : OneUser run buckets) (hne : run.userId ≠ "")
    (incoming : OperationView) (hid : incoming.operationId ≠ "") (hcommand : incoming.commandId ≠ "")
    (hincoming : incoming.userId = run.userId) :
    ∃ buckets', updateOperation buckets incoming = .ok buckets' ∧ OneUser run buckets' ∧
      buckets'.orders = buckets.orders := by
  have hcomplete : ¬(decide (incoming.operationId = "") || decide (incoming.commandId = "") ||
      decide (incoming.userId = "")) = true := by
    simp [hid, hcommand, hincoming, hne]
  simp only [updateOperation, if_neg hid, if_neg hcomplete]
  refine ⟨_, rfl, ?_, rfl⟩
  intro key
  by_cases hkey : key = incoming.operationId
  · simp only [operationUser, hkey, Function.update_self, Option.map_some, Option.getD_some]
    cases hcurrent : buckets.operations incoming.operationId with
    | none => exact Or.inr hincoming
    | some current =>
      have hold : current.userId = "" ∨ current.userId = run.userId := by
        simpa [operationUser, hcurrent] using huser incoming.operationId
      simp only
      split_ifs
      · exact hold
      · rcases mergeOperation_userId current incoming with hsame | hsame
        · rw [hsame]
          exact hold
        · rw [hsame]
          exact Or.inr hincoming
  · simpa [operationUser, Function.update_of_ne hkey] using huser key

/-- The accepted operation. -/
lemma accepted_delivered (h : run.Emitted ending) (hformed : run.accepted.Formed)
    (huser : OneUser run buckets) :
    ∃ buckets' call, deliver buckets (now, run.accepted) = .ok buckets' ∧
      CallMade run run.accepted buckets buckets' call := by
  obtain ⟨hsubject, commandId, status, hcommand, hdata⟩ := h.accepted
  obtain ⟨updatedAt, hat⟩ := Option.isSome_iff_exists.mp hformed.occurredAt
  have hrole : run.accepted.role = .accepted := by simp [Fact.role, hsubject]
  obtain ⟨operated, hoperated, huser', horders⟩ := updateOperation_oneUser huser h.userId
    { projectionMetadata run.accepted.envelope run.accepted.envelope.aggregateVersion with
      operationId := run.orderId, commandId := commandId, kind := "order.submit"
      status := status, userId := run.userId, updatedAt := updatedAt } h.orderId hcommand rfl
  have hdelivered : deliver buckets (now, run.accepted) = .ok { operated with
      orders := Function.update operated.orders run.orderId (some (orderAfter
        (operated.orders run.orderId)
        (queuedOrder run.accepted.envelope updatedAt run.orderId run.userId))) } := by
    simp only [deliver, applyEnvelope, hformed.schemaVersion, hformed.messageId, hat, Option.getD_some,
      ne_eq, not_true_eq_false, if_false, Bool.false_eq_true, hsubject, applyOperationAccepted, hdata,
      hoperated]
    exact if_neg h.orderId
  refine ⟨_, .update (queuedOrder run.accepted.envelope updatedAt run.orderId run.userId), hdelivered,
    huser', ?_, ?_, rfl, ?_⟩
  · simp only [Function.update_self, horders]
    rfl
  · have hok : UpdateOk run.story .accepted
        (queuedOrder run.accepted.envelope updatedAt run.orderId run.userId) := by
      constructor <;>
        simp [OrderRun.story, queuedOrder, projectionMetadata, OrderStatus.terminal, h.positive]
    rw [hrole]
    exact hok
  · simp [Fact.version, hrole, OrderEvent.version, queuedOrder]

/-- What a settlement does after its operation is stored. -/
lemma delivered_settlement (h : run.Emitted ending) (status : CartClearStatus)
    (failureCode : String) (updatedAt : Time) (sourceVersion : ℕ) {operated : Buckets}
    (huser : OneUser run operated) (horders : operated.orders = buckets.orders) (hrole : f.role = .settled)
    (hset : status ≠ .unset) (hclear : run.cartClear = (status, failureCode))
    (hdelivered : deliver buckets (now, f) = updateOrderSettlement operated run.orderId status
      failureCode updatedAt (projectionMetadata f.envelope sourceVersion)) :
    ∃ buckets' call, deliver buckets (now, f) = .ok buckets' ∧
      CallMade run f buckets buckets' call := by
  have hcomplete : ¬(decide (run.orderId = "") || decide (status = .unset)) = true := by
    simp [h.orderId, hset]
  simp only [updateOrderSettlement, if_neg hcomplete] at hdelivered
  refine ⟨_, .settle run.orderId status failureCode updatedAt
    (projectionMetadata f.envelope sourceVersion), hdelivered, huser, ?_, ?_, rfl, ?_⟩
  · simp only [Function.update_self, horders]
    rfl
  · exact ⟨hrole, by simp [OrderRun.story, hclear], by simp [OrderRun.story, hclear], rfl⟩
  · simp [Fact.version, hrole, OrderEvent.version]

/-- The settlement. -/
lemma settlement_delivered (h : run.Emitted ending) (hf : run.settlement = some f)
    (hformed : f.Formed) (huser : OneUser run buckets) :
    ∃ buckets' call, deliver buckets (now, f) = .ok buckets' ∧
      CallMade run f buckets buckets' call := by
  obtain ⟨updatedAt, hat⟩ := Option.isSome_iff_exists.mp hformed.occurredAt
  rcases (h.settlement f hf).2 with ⟨hsubject, commandId, cart, hcommand, hcart, hdata⟩ |
    ⟨hsubject, hcorrelation, commandId, failure, cartVersion, hcommand, hother, hdata⟩
  · have hrole : f.role = .settled := by simp [Fact.role, hsubject]
    obtain ⟨carted, hcarted, huser', horders⟩ : ∃ carted,
        updateCart buckets (some cart) updatedAt (projectionMetadata f.envelope cart.cartVersion) =
          .ok carted ∧ OneUser run carted ∧ carted.orders = buckets.orders := by
      simp only [updateCart, if_neg hcart]
      exact ⟨_, rfl, huser, rfl⟩
    obtain ⟨operated, hoperated, huser'', horders'⟩ := updateOperation_oneUser huser' h.userId
      { projectionMetadata f.envelope cart.cartVersion with
        operationId := commandId, commandId := commandId, kind := "cart.clear"
        status := "SUCCEEDED", userId := run.userId, cartVersion := cart.cartVersion
        updatedAt := updatedAt } hcommand hcommand rfl
    refine delivered_settlement h .succeeded "" updatedAt cart.cartVersion huser''
      (horders'.trans horders) hrole (by decide) (by simp [OrderRun.cartClear, hf, hdata]) ?_
    simp only [deliver, applyEnvelope, hformed.schemaVersion, hformed.messageId, hat, Option.getD_some,
      ne_eq, not_true_eq_false, if_false, Bool.false_eq_true, hsubject, applyCartEvent, hdata,
      Option.map_some, hcarted]
    change (updateOperation carted _ >>= fun _ => _) = _
    rw [hoperated]
    exact if_pos h.orderId
  · have hrole : f.role = .settled := by simp [Fact.role, hsubject]
    obtain ⟨operated, hoperated, huser', horders⟩ := updateOperation_oneUser huser h.userId
      { projectionMetadata f.envelope cartVersion with
        operationId := commandId, commandId := commandId, status := "REJECTED"
        userId := run.userId, cartVersion := cartVersion, updatedAt := updatedAt
        failureCode := (failure.map Failure.code).getD ""
        retryable := (failure.map Failure.retryable).getD false
        safeMessage := (failure.map Failure.safeMessage).getD "" } hcommand hcommand rfl
    refine delivered_settlement h .rejected ((failure.map Failure.code).getD "") updatedAt
      cartVersion huser' horders hrole (by decide) (by simp [OrderRun.cartClear, hf, hdata]) ?_
    simp only [deliver, applyEnvelope, hformed.schemaVersion, hformed.messageId, hat, Option.getD_some,
      ne_eq, not_true_eq_false, if_false, Bool.false_eq_true, hsubject, applyCartEvent, hdata,
      hoperated, hcorrelation]
    exact if_pos ⟨h.orderId, hother⟩

/-- Every event of the run. -/
lemma fact_delivered (now : Time) (h : run.Emitted ending) (hf : f ∈ run.facts)
    (huser : OneUser run buckets) :
    ∃ buckets' call, deliver buckets (now, f) = .ok buckets' ∧
      CallMade run f buckets buckets' call := by
  have hformed := h.formed f hf
  simp only [OrderRun.facts, List.mem_cons, List.mem_append, Option.mem_toList] at hf
  rcases hf with rfl | rfl | ((hf | hf) | hf) | hf
  · exact accepted_delivered h hformed huser
  · exact outcome_delivered h hformed huser
  · exact submitted_delivered h hf hformed huser
  · exact progress_delivered h hf hformed huser
  · exact notification_delivered h hf hformed huser
  · exact settlement_delivered h hf hformed huser

end Deliver

end Boutique.Storefront
