import Boutique.Checkout.History

/-!
# The flow of an order

An abstract model of the order saga: its stage, and the subjects of the results that each step
publishes.  `FlowStep` has one constructor for each way an order can go on, and `FlowRun` collects
what an order has published so far.  What the saga promises to the services around it is a property
of flow runs, proved here from the thirteen steps.

`OrderHistory.flow` connects the model to the code: the history of every order, with all its stale
reads, repeated inputs and lost replies, is a flow run.
-/

namespace Boutique

variable {env : CheckoutEnv} {orderId : String}

/-! ## The abstract model -/

/-- One step of an order: the stage before, the subjects published, and the stage after. -/
inductive FlowStep : Option Stage → List ResultSubject → Option Stage → Prop where
  | stay (stage : Option Stage) : FlowStep stage [] stage
  | reject : FlowStep none [.orderRejected] (some .rejected)
  | accept : FlowStep none [.orderSubmitted, .calculateOrderQuote] (some .waitingQuote)
  | quote : FlowStep (some .waitingQuote) [.authorize] (some .waitingAuthorize)
  | cancelQuote : FlowStep (some .waitingQuote) [.orderCancelled] (some .cancelled)
  | decline : FlowStep (some .waitingAuthorize) [.orderCancelled] (some .cancelled)
  | authorize : FlowStep (some .waitingAuthorize) [.createShipment] (some .waitingShipment)
  | ship : FlowStep (some .waitingShipment) [.capture] (some .waitingCapture)
  | complete : FlowStep (some .waitingCapture) [.orderCompleted, .cartClear] (some .completed)
  | shipmentFailed :
      FlowStep (some .waitingShipment) [.releaseAuthorization, .orderStageChanged]
        (some .compensating)
  | captureFailed :
      FlowStep (some .waitingCapture) [.releaseAuthorization, .cancelShipment, .orderStageChanged]
        (some .compensating)
  | compensated : FlowStep (some .compensating) [.orderCancelled] (some .cancelled)
  | review : FlowStep (some .compensating) [.orderManualReview] (some .manualReview)
  | timeOut {stage : Stage} (hopen : stage.terminal = false) :
      FlowStep (some stage) [.orderStepTimedOut, .orderManualReview] (some .manualReview)

/-- What an order has published so far, and its stage. -/
inductive FlowRun : List ResultSubject → Option Stage → Prop where
  | start : FlowRun [] none
  | step {emitted subjects : List ResultSubject} {stage stage' : Option Stage}
      (h : FlowRun emitted stage) (hstep : FlowStep stage subjects stage') :
      FlowRun (emitted ++ subjects) stage'

/-! ## Each effect at most once -/

/-- The effects that an order may have at most once. -/
inductive Effect where
  | submitted | quote | authorize | createShipment | capture | release | cancelShipment
  | cartClear | decision
  deriving DecidableEq, Repr

/-- The effect of publishing on a subject.  The four terminal events are one effect. -/
def ResultSubject.effect : ResultSubject → Option Effect
  | .orderSubmitted => some .submitted
  | .calculateOrderQuote => some .quote
  | .authorize => some .authorize
  | .createShipment => some .createShipment
  | .capture => some .capture
  | .releaseAuthorization => some .release
  | .cancelShipment => some .cancelShipment
  | .cartClear => some .cartClear
  | .orderRejected | .orderCancelled | .orderCompleted | .orderManualReview => some .decision
  | .orderStageChanged | .orderStepTimedOut => none

/-- The position of a stage in the flow of an order; an order without a saga has rank 0. -/
def stageRank : Option Stage → ℕ
  | none => 0
  | some .waitingQuote => 1
  | some .waitingAuthorize => 2
  | some .waitingShipment => 3
  | some .waitingCapture => 4
  | some .compensating => 5
  | some .completed | some .cancelled | some .rejected | some .manualReview => 6

/-- The rank that an order has reached once it has had an effect. -/
def Effect.level : Effect → ℕ
  | .submitted | .quote => 1
  | .authorize => 2
  | .createShipment => 3
  | .capture => 4
  | .release | .cancelShipment => 5
  | .cartClear | .decision => 6

/-- How often an order may still have an effect. -/
def Effect.remaining (effect : Effect) (stage : Option Stage) : ℕ :=
  if stageRank stage < effect.level then 1 else 0

/-- How often an effect occurs among published subjects. -/
def Effect.count (effect : Effect) (subjects : List ResultSubject) : ℕ :=
  subjects.countP fun subject => subject.effect = some effect

/-- A step uses up the effects it has. -/
lemma FlowStep.count_add_remaining {stage stage' : Option Stage} {subjects : List ResultSubject}
    (h : FlowStep stage subjects stage') (effect : Effect) :
    effect.count subjects + effect.remaining stage' ≤ effect.remaining stage := by
  cases h with
  | stay => simp [Effect.count]
  | @timeOut stage hopen =>
    cases stage <;> cases hopen <;> cases effect <;> decide
  | reject | accept | quote | cancelQuote | decline | authorize | ship | complete | shipmentFailed
  | captureFailed | compensated | review => cases effect <;> decide

/-- Along a flow run every effect occurs at most once, and not again after its level. -/
theorem FlowRun.count_add_remaining {emitted : List ResultSubject} {stage : Option Stage}
    (h : FlowRun emitted stage) (effect : Effect) :
    effect.count emitted + effect.remaining stage ≤ 1 := by
  induction h with
  | start => cases effect <;> decide
  | step _ hstep ih =>
    have hcount := hstep.count_add_remaining effect
    unfold Effect.count at hcount ih ⊢
    rw [List.countP_append]
    omega

/-! ## What published subjects say about the stage -/

/-- The stages that an order can be in after it has published a subject. -/
def ResultSubject.allows (subject : ResultSubject) (stage : Option Stage) : Bool :=
  match subject with
  | .orderCompleted | .cartClear => stage = some .completed
  | .orderCancelled => stage = some .cancelled
  | .orderManualReview | .orderStepTimedOut => stage = some .manualReview
  | .orderRejected => stage = some .rejected
  | .releaseAuthorization | .cancelShipment | .orderStageChanged =>
    stage = some .compensating || stage = some .cancelled || stage = some .manualReview
  | .capture => decide (4 ≤ stageRank stage) && stage ≠ some .rejected
  | .createShipment => decide (3 ≤ stageRank stage) && stage ≠ some .rejected
  | .authorize => decide (2 ≤ stageRank stage) && stage ≠ some .rejected
  | .orderSubmitted | .calculateOrderQuote =>
    decide (1 ≤ stageRank stage) && stage ≠ some .rejected

/-- A step allows what it publishes and keeps allowing what was published before. -/
lemma FlowStep.allows {stage stage' : Option Stage} {subjects : List ResultSubject}
    (h : FlowStep stage subjects stage') :
    (∀ subject ∈ subjects, subject.allows stage' = true) ∧
      ∀ subject : ResultSubject, subject.allows stage = true → subject.allows stage' = true := by
  cases h with
  | stay => simp
  | @timeOut stage hopen =>
    refine ⟨by decide, fun subject => ?_⟩
    cases stage <;> cases hopen <;> cases subject <;> decide
  | reject | accept | quote | cancelQuote | decline | authorize | ship | complete | shipmentFailed
  | captureFailed | compensated | review =>
    exact ⟨by decide, fun subject => by cases subject <;> decide⟩

/-- The stage of an order is allowed by everything it has published. -/
theorem FlowRun.allows {emitted : List ResultSubject} {stage : Option Stage}
    (h : FlowRun emitted stage) {subject : ResultSubject} (hmem : subject ∈ emitted) :
    subject.allows stage = true := by
  induction h with
  | start => cases hmem
  | step _ hstep ih =>
    rcases List.mem_append.mp hmem with hmem | hmem
    · exact hstep.allows.2 subject (ih hmem)
    · exact hstep.allows.1 subject hmem

/-! ## The code follows the model -/

/-- All results journalled by commits with status 0, in commit order. -/
def journalledResults (log : List Commit) : List ResultMessage := log.flatMap Commit.results

@[simp] lemma journalledResults_snoc (log : List Commit) (e : Commit) :
    journalledResults (log ++ [e]) = journalledResults log ++ e.results := by
  simp [journalledResults]

/-- The subjects of results. -/
def subjects (results : List ResultMessage) : List ResultSubject :=
  results.map ResultMessage.subject

/-- The stage of a saga. -/
def stageOf (saga : Option OrderSaga) : Option Stage := saga.map OrderSaga.stage

@[simp] lemma stageOf_some (s : OrderSaga) : stageOf (some s) = some s.stage := rfl

/-- Every transition of the saga is a step of the flow. -/
lemma SagaMove.flow {input : OrderInput} {ws : PersistedState} {after : Option OrderSaga}
    {results : List ResultMessage} (h : SagaMove env input ws after results)
    (hopen : OpenDeadline input ws.orders) :
    FlowStep (stageOf ws.orders) (subjects results) (stageOf after) := by
  cases h with
  | absent horder | idle horder =>
    rw [horder]
    exact .stay _
  | rejected _ horder =>
    rw [horder]
    exact .reject
  | accepted _ horder =>
    rw [horder]
    exact .accept
  | quoted _ horder _ hstage =>
    rw [horder, stageOf_some, hstage]
    exact .quote
  | cancelled _ horder hstage =>
    rw [horder, stageOf_some]
    rcases hstage with hstage | hstage <;> rw [hstage]
    · exact .cancelQuote
    · exact .decline
  | authorized _ horder _ hstage =>
    rw [horder, stageOf_some, hstage]
    exact .authorize
  | shipped _ horder _ hstage =>
    rw [horder, stageOf_some, hstage]
    exact .ship
  | completed _ horder hstage =>
    rw [horder, stageOf_some, hstage]
    exact .complete
  | @compensating _ _ _ _ withShipment _ horder hstage hs' =>
    rw [horder, stageOf_some, hstage]
    subst hs'
    cases withShipment with
    | false => exact .shipmentFailed
    | true => exact .captureFailed
  | @acknowledged s subject _ _ _ horder =>
    have hstage : (s.acknowledge subject).stage = s.stage :=
      OrderSaga.stage_eq_of_core (OrderSaga.core_acknowledge s subject)
    rw [horder, stageOf_some, stageOf_some, hstage]
    exact .stay _
  | compensated _ _ horder hstage =>
    rw [horder, stageOf_some, hstage]
    exact .compensated
  | reviewed _ _ horder hstage =>
    rw [horder, stageOf_some, hstage]
    exact .review
  | @timedOut s id version due inputId hinput horder _ hdue =>
    rw [horder, stageOf_some]
    exact .timeOut (hopen s id version due inputId horder hinput hdue)

/-- A commit is a step of the flow from the stored stage, also when its call had loaded an older
view. -/
lemma HistoryStep.flow {log : List Commit} {v : OrderView} {e : Commit}
    (h : HistoryStep env orderId log v e) :
    FlowStep (stageOf v.saga) (subjects e.results) (stageOf e.after.saga) := by
  have hstage : stageOf e.loaded.saga = stageOf v.saga := by
    have hcore := congrArg (Option.map OrderSaga.stage) h.similar.saga_core
    rw [Option.map_map, Option.map_map] at hcore
    exact hcore
  rw [← hstage]
  simpa using h.move.flow (by simpa using h.openDeadline)

/-- The history of every order is a flow run. -/
theorem OrderHistory.flow {log : List Commit} {v : OrderView}
    (h : OrderHistory env orderId log v) :
    FlowRun (subjects (journalledResults log)) (stageOf v.saga) := by
  refine OrderHistory.induction (P := fun log v => FlowRun (subjects (journalledResults log))
    (stageOf v.saga)) FlowRun.start ?_ h
  intro log v e pre hstep ih _ _
  rw [journalledResults_snoc, subjects, List.map_append]
  exact .step ih hstep.flow

end Boutique
