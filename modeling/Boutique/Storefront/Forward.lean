import Boutique.Storefront.Loops

/-!
# Order and operation records only move forward

Whatever events are applied to an order or an operation, by however many replicas, a stored outcome
is not taken back.
-/

namespace Boutique.Storefront

open CasLoop

/-! ## Orders -/

/-- A later value of an order record. -/
structure OrderForward (u v : OrderView) : Prop where
  status : u.status.terminal = true → v.status.terminal = true
  aggregateVersion : u.aggregateVersion ≤ v.aggregateVersion
  updatedAt : u.updatedAt ≤ v.updatedAt
  outcomeAt : u.outcomeAt.isSome = true → v.outcomeAt = u.outcomeAt
  userId : u.userId ≠ "" → v.userId ≠ ""

/-- A record is a later value of itself. -/
lemma OrderForward.refl (u : OrderView) : OrderForward u u :=
  ⟨id, le_rfl, le_rfl, fun _ => rfl, id⟩

/-- Later than later is later. -/
lemma OrderForward.trans {u v w : OrderView} (huv : OrderForward u v) (hvw : OrderForward v w) :
    OrderForward u w where
  status := fun h => hvw.status (huv.status h)
  aggregateVersion := huv.aggregateVersion.trans hvw.aggregateVersion
  updatedAt := huv.updatedAt.trans hvw.updatedAt
  outcomeAt := by
    intro h
    have hv := huv.outcomeAt h
    rw [hvw.outcomeAt (hv ▸ h), hv]
  userId := fun h => hvw.userId (huv.userId h)

/-- `mergeOrder` moves the stored record forward, whatever the event. -/
lemma mergeOrder_forward (current incoming : OrderView) :
    OrderForward current (mergeOrder current incoming) where
  status := by
    intro h
    unfold mergeOrder
    by_cases hnext : (if incoming.status = .unset then current.status
        else incoming.status).terminal = true
    · simp [h, hnext]
    · simp [h, hnext]
  aggregateVersion := by
    simp only [mergeOrder]
    split_ifs <;> omega
  updatedAt := by
    simp only [mergeOrder]
    split_ifs with hlater
    · exact le_rfl
    · exact not_lt.mp hlater
  outcomeAt := by
    intro h
    simp [mergeOrder, h]
  userId := by
    intro h
    simp only [mergeOrder]
    split_ifs with hempty
    · exact h
    · exact hempty

/-- So does a settlement. -/
lemma settlementAfter_forward (current : OrderView) (orderId : String) (status : CartClearStatus)
    (failureCode : String) (updatedAt : Time) (source : ProjectionMetadata) :
    OrderForward current
      (settlementAfter (some current) orderId status failureCode updatedAt source) := by
  simp only [settlementAfter]
  split_ifs with happlied hlater
  · exact .refl current
  · exact ⟨id, le_rfl, hlater.le, fun _ => rfl, id⟩
  · exact ⟨id, le_rfl, le_rfl, fun _ => rfl, id⟩

/-- What a write to a stored order record does: the event was not applied before, and the record moves
forward. -/
lemma orderLoop_write {call next : OrderCall} {current value : OrderView} {result : Unit}
    (h : orderLoop.decide call (some current) = .write next value result) :
    projectionApplied current.toProjectionMetadata call.eventId = false ∧
      next.eventId = call.eventId ∧ OrderForward current value := by
  cases call with
  | update incoming =>
    simp only [orderLoop, decideOrder] at h
    split_ifs at h with happlied hlate huser <;> cases h
    · exact ⟨Bool.eq_false_iff.mpr happlied, rfl, mergeOrder_forward _ _⟩
    · exact ⟨Bool.eq_false_iff.mpr happlied, rfl, mergeOrder_forward _ _⟩
  | settle orderId status failureCode updatedAt source =>
    simp only [orderLoop, decideSettlement] at h
    split_ifs at h with happlied
    cases h
    exact ⟨Bool.eq_false_iff.mpr happlied, rfl, settlementAfter_forward ..⟩

/-- The attempts of a call keep its event. -/
lemma orderLoop_eventId {call next : OrderCall} {current : Option OrderView} {value : OrderView}
    {result : Unit} (h : orderLoop.decide call current = .write next value result) :
    next.eventId = call.eventId := by
  cases current with
  | some current => exact (orderLoop_write h).2.1
  | none =>
    cases call with
    | update incoming =>
      cases h
      rfl
    | settle orderId status failureCode updatedAt source =>
      cases h
      rfl

/-! ## Operations -/

/-- A later value of an operation record: its outcome is kept. -/
def OperationForward (u v : OperationView) : Prop :=
  u.terminal = true →
    v.status = u.status ∧ v.failureCode = u.failureCode ∧ v.cartVersion = u.cartVersion

/-- Later than later is later. -/
lemma OperationForward.trans {u v w : OperationView} (huv : OperationForward u v)
    (hvw : OperationForward v w) : OperationForward u w := by
  intro h
  obtain ⟨hstatus, hfailure, hversion⟩ := huv h
  have hv : v.terminal = true := by
    simp only [OperationView.terminal] at h ⊢
    rw [hstatus]
    exact h
  obtain ⟨hstatus', hfailure', hversion'⟩ := hvw hv
  exact ⟨hstatus'.trans hstatus, hfailure'.trans hfailure, hversion'.trans hversion⟩

/-- `mergeOperation` keeps the outcome. -/
lemma mergeOperation_forward (current incoming : OperationView) :
    OperationForward current (mergeOperation current incoming) := by
  intro h
  simp only [mergeOperation, h, if_true]
  by_cases hincoming : incoming.terminal = true
  · simp [hincoming]
  · simp [hincoming]

/-! ## Runs -/

/-- Along every run the values of an order record move forward, an event that the record remembers is
not applied again, and the values of an operation record keep their first outcome. -/
theorem views_move_forward {κ R : Type} [DecidableEq κ] [DecidableEq R] (N : Net κ R) :
    (∀ (acts : List (CasLoop.Action κ R OrderCall)) (s : State κ R OrderCall OrderView Unit),
      (∀ c call, Action.start c call ∈ acts → call.eventId ≠ "") →
      StepSystem.run (CasLoop.step orderLoop N) {} acts = some s →
      (s.log.map Write.value).Pairwise OrderForward ∧
        ∀ pre w post v, s.log = pre ++ w :: post → current pre = some v →
          w.input.eventId ∉ v.appliedEventIds) ∧
    ∀ (acts : List (CasLoop.Action κ R OperationView))
      (s : State κ R OperationView OperationView Unit),
      StepSystem.run (CasLoop.step operationLoop N) {} acts = some s →
      (s.log.map Write.value).Pairwise OperationForward := by
  refine ⟨fun acts s hids hrun => ⟨?_, ?_⟩, fun acts s hrun => ?_⟩
  · refine (sound_of_run hrun).written.pairwise (fun _ _ _ => OrderForward.trans) ?_
    intro w _ u _ next result hdecide
    exact (orderLoop_write hdecide).2.2
  · intro pre w post v hlog hv hmem
    have hinputs : Inputs (fun _ call => call.eventId ≠ "") s := inputs_of_run
      (fun _ call v next value result hid hdecide => orderLoop_eventId hdecide ▸ hid) hids hrun
    have hid := hinputs.log w (hlog ▸ by simp)
    obtain ⟨next, result, hdecide⟩ := (sound_of_run hrun).written pre w post hlog
    rw [hv] at hdecide
    have happlied := (orderLoop_write hdecide).1
    simp [projectionApplied, hid, hmem] at happlied
  · refine (sound_of_run hrun).written.pairwise (fun _ _ _ => OperationForward.trans) ?_
    intro w _ u _ next result hdecide
    simp only [operationLoop] at hdecide
    split_ifs at hdecide
    injection hdecide with _ hvalue
    rw [← hvalue]
    exact mergeOperation_forward _ _

/-! ## A late event -/

namespace Sample

/-- A cancelled order whose user is not known yet. -/
def cancelled : OrderView where
  sourceEventId := "event-3"
  appliedEventIds := ["event-3"]
  orderId := "order-1"
  status := .cancelled
  stage := "CANCELLED"
  aggregateVersion := 3
  outcomeAt := some 7
  updatedAt := 7

/-- The submission of the order, which is projected later. -/
def submitted : OrderView where
  sourceEventId := "event-1"
  appliedEventIds := ["event-1"]
  orderId := "order-1"
  userId := "user-1"
  status := .processing
  stage := "WAITING_FOR_QUOTE"
  aggregateVersion := 1
  updatedAt := 1

/-- The late submission is read, merged and written, and redelivered to another replica. -/
def lateSubmission : List (CasLoop.Action ℕ ℕ OrderCall) :=
  [.start 0 (.update cancelled), .lookup 0, .fetch 0, .write 0, .store 0,
    .start 1 (.update submitted), .lookup 1, .fetch 1, .write 1, .store 1,
    .start 2 (.update submitted), .lookup 2, .fetch 2]

end Sample

/-- The late submission brings the user and leaves the outcome. -/
theorem late_submission_keeps_outcome :
    ∃ s : State ℕ ℕ OrderCall OrderView Unit,
    StepSystem.run (CasLoop.step orderLoop { replica := id, cached := false }) {}
        Sample.lateSubmission =
      some s ∧
    (s.log.map fun w => (w.value.status, w.value.userId)) =
      [(.cancelled, ""), (.cancelled, "user-1")] ∧
    (s.log.map Write.value).Pairwise OrderForward := by
  have hrun : ((StepSystem.run (CasLoop.step orderLoop { replica := id, cached := false }) {}
      Sample.lateSubmission).map fun s => s.log.map fun w => (w.value.status, w.value.userId)) =
      some [(.cancelled, ""), (.cancelled, "user-1")] := by
    decide +kernel
  obtain ⟨s, hs, hlog⟩ := Option.map_eq_some_iff.mp hrun
  refine ⟨s, hs, hlog, ((views_move_forward { replica := id, cached := false }).1 _ s ?_ hs).1⟩
  intro c call hc
  simp only [Sample.lateSubmission, List.mem_cons, Action.start.injEq, reduceCtorEq,
    List.not_mem_nil, or_false, false_or] at hc
  rcases hc with ⟨-, rfl⟩ | ⟨-, rfl⟩ | ⟨-, rfl⟩ <;> decide

end Boutique.Storefront
