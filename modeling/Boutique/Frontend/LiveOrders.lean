import Mathlib.Data.List.Pairwise
import Mathlib.Order.Fin.Basic
import Boutique.Lib.HighWater
import Boutique.Storefront.Forward

/-!
# Live order updates

`orderEventsHandler` of `frontend/checkout_operations.go`: the frames of one client, from the answer to
the initial query and the views that arrive on the live subject.  The projectors store views that only
move forward, and publish each of them; the handler passes over a view that is older than the last
frame.

Views with equal times are not told apart: a view that was stored first can arrive last and is still
written.  Nothing else makes a stream regress.

A frame is modelled by the view it encodes.  The keep-alive comments, and the ends of a stream that
come from the client or from a shutdown, are left out: they only cut the frames short.
-/

namespace Boutique.Frontend

open CasLoop Storefront HighWater

/-! ## The handler -/

/-- `orderNeedsPolling`. -/
def orderNeedsPolling (order : Storefront.OrderView) : Bool :=
  match order.status with
  | .cancelled | .rejected | .manualReview => false
  | .completed =>
    let notificationDone := order.notificationStatus = .sent || order.notificationStatus = .failed
    let cartClearDone := order.cartClearStatus = .succeeded || order.cartClearStatus = .rejected
    !notificationDone || !cartClearDone
  | .unset | .queued | .processing => true

/-- The snapshot that stands for an order that the query did not find. -/
def queuedOrder (orderId userId : String) : Storefront.OrderView where
  orderId := orderId
  userId := userId
  status := .queued
  stage := "QUEUED"
  updatedAt := Time.zero

/-- The loop of `orderEventsHandler` over the messages. -/
def liveLoop (orderId userId : String) :
    Time → List Storefront.OrderView → List Storefront.OrderView
  | _, [] => []
  | lastUpdatedAt, order :: rest =>
    if order.orderId ≠ orderId || order.userId ≠ userId || order.updatedAt < lastUpdatedAt then
      liveLoop orderId userId lastUpdatedAt rest
    else
      order :: (if !orderNeedsPolling order then []
        else liveLoop orderId userId order.updatedAt rest)

/-- `orderEventsHandler`: the frames for a client, whose query was answered by `view`. -/
def orderEvents (orderId userId : String) (view : Option Storefront.OrderView)
    (messages : List Storefront.OrderView) : List Storefront.OrderView :=
  let initialOrder := view.getD (queuedOrder orderId userId)
  initialOrder :: (if !orderNeedsPolling initialOrder then []
    else liveLoop orderId userId initialOrder.updatedAt messages)

/-! ## The frames as a stream with a high-water mark -/

section Stream

variable {n : ℕ} (view : Fin n → Storefront.OrderView) (orderId userId : String)

/-- The view of an item: a stored view, or the snapshot that stands for none. -/
def itemView : Option (Fin n) → Storefront.OrderView
  | none => queuedOrder orderId userId
  | some i => view i

/-- The time of an item. -/
def itemTime (item : Option (Fin n)) : Time := (itemView view orderId userId item).updatedAt

/-- The stream ends with an item. -/
def itemStop (item : Option (Fin n)) : Bool := !orderNeedsPolling (itemView view orderId userId item)

/-- A view is for the client. -/
def forClient (i : Fin n) : Bool := (view i).orderId = orderId && (view i).userId = userId

/-- What a client receives: the answer to its query, and the messages for it. -/
def received (answer : Option (Fin n)) (arrival : List (Fin n)) : List (Option (Fin n)) :=
  answer :: (arrival.filter (forClient view orderId userId)).map some

/-- The loop shows the items above its mark. -/
lemma liveLoop_eq (lastUpdatedAt : Time) (arrival : List (Fin n)) :
    liveLoop orderId userId lastUpdatedAt (arrival.map view) =
      (follow (itemTime view orderId userId) (itemStop view orderId userId) lastUpdatedAt
        ((arrival.filter (forClient view orderId userId)).map some)).map
          (itemView view orderId userId) := by
  induction arrival generalizing lastUpdatedAt with
  | nil => rfl
  | cons i arrival ih =>
    rw [List.map_cons, liveLoop]
    by_cases hclient : forClient view orderId userId i = true
    · have hids : (view i).orderId = orderId ∧ (view i).userId = userId := by
        simpa [forClient] using hclient
      rw [List.filter_cons_of_pos hclient, List.map_cons, follow]
      by_cases hold : (view i).updatedAt < lastUpdatedAt
      · have hitem : itemTime view orderId userId (some i) < lastUpdatedAt := hold
        simp only [hids, hold, hitem, ih, ne_eq, not_true_eq_false, decide_false, Bool.false_or,
          decide_true, if_true]
      · have hitem : ¬itemTime view orderId userId (some i) < lastUpdatedAt := hold
        simp only [hids, hold, hitem, ih, ne_eq, not_true_eq_false, decide_false, Bool.or_self,
          Bool.false_eq_true, if_false, List.map_cons]
        congr 1
        cases hstop : orderNeedsPolling (view i) with
        | true =>
          have hgo : itemStop view orderId userId (some i) = false := by
            simp [itemStop, itemView, hstop]
          simp only [hgo, Bool.not_true, Bool.false_eq_true, if_false]
          rfl
        | false =>
          have hend : itemStop view orderId userId (some i) = true := by
            simp [itemStop, itemView, hstop]
          simp only [hend, Bool.not_false, if_true, List.map_nil]
    · have hother : ((view i).orderId ≠ orderId || (view i).userId ≠ userId ||
          (view i).updatedAt < lastUpdatedAt) = true := by
        simp only [forClient, Bool.and_eq_true, decide_eq_true_eq, not_and_or] at hclient
        rcases hclient with hid | hid <;> simp [hid]
      rw [List.filter_cons_of_neg hclient, if_pos hother]
      exact ih lastUpdatedAt

/-- The frames of a client are the items that are shown of what it receives. -/
lemma orderEvents_eq (answer : Option (Fin n)) (arrival : List (Fin n)) :
    orderEvents orderId userId (answer.map view) (arrival.map view) =
      (shown (itemTime view orderId userId) (itemStop view orderId userId)
        (received view orderId userId answer arrival)).map (itemView view orderId userId) := by
  have hinitial : (answer.map view).getD (queuedOrder orderId userId) =
      itemView view orderId userId answer := by
    cases answer <;> rfl
  rw [orderEvents, received, shown, hinitial, List.map_cons]
  congr 1
  cases hstop : orderNeedsPolling (itemView view orderId userId answer) with
  | true =>
    have hgo : itemStop view orderId userId answer = false := by simp [itemStop, hstop]
    simp only [hgo, Bool.not_true, Bool.false_eq_true, if_false, liveLoop_eq]
    rfl
  | false =>
    have hend : itemStop view orderId userId answer = true := by simp [itemStop, hstop]
    simp only [hend, Bool.not_false, if_true, List.map_nil]

end Stream

/-! ## Views that move forward -/

/-- A view has what a later one lacks: a terminal status, or a settled notification or cart. -/
def Ahead (u v : Storefront.OrderView) : Prop :=
  (u.status.terminal = true ∧ v.status.terminal = false) ∨
    (u.notificationStatus ≠ .unset ∧ v.notificationStatus = .unset) ∨
      (u.cartClearStatus ≠ .unset ∧ v.cartClearStatus = .unset)

instance (u v : Storefront.OrderView) : Decidable (Ahead u v) :=
  inferInstanceAs (Decidable (_ ∨ _))

/-- A frame after another does not regress. -/
def NoRegress (u v : Storefront.OrderView) : Prop :=
  (u.status.terminal = true → v.status.terminal = true) ∧
    (u.notificationStatus ≠ .unset → v.notificationStatus ≠ .unset) ∧
      (u.cartClearStatus ≠ .unset → v.cartClearStatus ≠ .unset)

instance (u v : Storefront.OrderView) : Decidable (NoRegress u v) :=
  inferInstanceAs (Decidable (_ ∧ _))

/-- A frame regresses if the earlier one is ahead. -/
lemma noRegress_iff (u v : Storefront.OrderView) : NoRegress u v ↔ ¬Ahead u v := by
  unfold NoRegress Ahead
  cases u.status.terminal <;> cases v.status.terminal <;> simp

/-- A later stored view. -/
def LaterView (u v : Storefront.OrderView) : Prop := u.updatedAt ≤ v.updatedAt ∧ NoRegress u v

/-- Later than later is later. -/
lemma LaterView.trans {u v w : Storefront.OrderView} (huv : LaterView u v) (hvw : LaterView v w) :
    LaterView u w :=
  ⟨huv.1.trans hvw.1, fun h => hvw.2.1 (huv.2.1 h), fun h => hvw.2.2.1 (huv.2.2.1 h),
    fun h => hvw.2.2.2 (huv.2.2.2 h)⟩

/-- `mergeOrder` stores a later view. -/
lemma mergeOrder_later (current incoming : Storefront.OrderView) :
    LaterView current (mergeOrder current incoming) := by
  have hforward := mergeOrder_forward current incoming
  refine ⟨hforward.updatedAt, hforward.status, ?_, ?_⟩
  · intro hset
    simp only [mergeOrder]
    split_ifs with hempty
    · exact hset
    · exact hempty
  · intro hset
    simp only [mergeOrder]
    split_ifs with hempty
    · exact hset
    · exact hempty

/-- The calls that the projectors make: a settlement has a status. -/
def Settled : OrderCall → Prop
  | .update _ => True
  | .settle _ status _ _ _ => status ≠ .unset

/-- A write to a stored order stores a later view. -/
lemma orderLoop_later {call next : OrderCall} {current value : Storefront.OrderView} {result : Unit}
    (hcall : Settled call) (h : orderLoop.decide call (some current) = .write next value result) :
    LaterView current value := by
  have hforward := (orderLoop_write h).2.2
  cases call with
  | update incoming =>
    simp only [orderLoop, decideOrder] at h
    split_ifs at h <;> cases h
    · exact mergeOrder_later _ _
    · exact mergeOrder_later _ _
  | settle orderId status failureCode updatedAt source =>
    refine ⟨hforward.updatedAt, hforward.status, ?_, ?_⟩
    · simp only [orderLoop, decideSettlement] at h
      split_ifs at h with happlied
      cases h
      simp [settlementAfter, happlied]
    · simp only [orderLoop, decideSettlement] at h
      split_ifs at h with happlied
      cases h
      intro _
      have hstatus : status ≠ .unset := hcall
      simpa [settlementAfter, happlied] using hstatus

/-! ## Streams -/

section Streams

variable {κ R : Type} [DecidableEq κ] [DecidableEq R]

/-- The views that were stored, in the order in which they were stored. -/
def storedView (s : State κ R OrderCall Storefront.OrderView Unit) (i : Fin s.log.length) :
    Storefront.OrderView :=
  (s.log.get i).value

/-- Stored views move forward. -/
lemma storedView_later {N : Net κ R} {acts : List (CasLoop.Action κ R OrderCall)}
    {s : State κ R OrderCall Storefront.OrderView Unit}
    (hcalls : ∀ c call, CasLoop.Action.start c call ∈ acts → Settled call)
    (hrun : StepSystem.run (CasLoop.step orderLoop N) {} acts = some s)
    {i j : Fin s.log.length} (hij : i < j) : LaterView (storedView s i) (storedView s j) := by
  have hclosed : ∀ _ : κ, Closed orderLoop Settled := by
    intro _ call current next value result hcall hdecide
    cases call with
    | update incoming =>
      cases current with
      | none =>
        cases hdecide
        exact trivial
      | some current =>
        simp only [orderLoop, decideOrder] at hdecide
        split_ifs at hdecide <;> cases hdecide
        · exact trivial
        · exact trivial
    | settle orderId status failureCode updatedAt source =>
      cases current with
      | none =>
        cases hdecide
        exact hcall
      | some current =>
        simp only [orderLoop, decideSettlement] at hdecide
        split_ifs at hdecide
        cases hdecide
        exact hcall
  have hinputs : Inputs (fun _ call => Settled call) s := CasLoop.inputs_of_run hclosed hcalls hrun
  have hpairwise : (s.log.map Write.value).Pairwise LaterView :=
    (sound_of_run hrun).written.pairwise (fun _ _ _ => LaterView.trans) fun w hw u _ _ _ hdecide =>
      orderLoop_later (hinputs.log w hw) hdecide
  rw [List.pairwise_map, List.pairwise_iff_getElem] at hpairwise
  exact hpairwise i j i.2 j.2 hij

/-- Of two received items, the one that arrives first was stored last, both carry the same time, and it
is ahead. -/
def Overtakes {n : ℕ} (view : Fin n → Storefront.OrderView) : Option (Fin n) → Option (Fin n) → Prop
  | some i, some j => j < i ∧ (view i).updatedAt = (view j).updatedAt ∧ Ahead (view i) (view j)
  | _, _ => False

/-- A frame that is written after another regresses exactly if the two arrived in the wrong order. -/
lemma noRegress_iff_not_overtakes {n : ℕ} {view : Fin n → Storefront.OrderView}
    {orderId userId : String} (hlater : ∀ i j, i < j → LaterView (view i) (view j))
    {a : Option (Fin n)} {j : Fin n}
    (htime : itemTime view orderId userId a ≤ itemTime view orderId userId (some j)) :
    NoRegress (itemView view orderId userId a) (view j) ↔ ¬Overtakes view a (some j) := by
  cases a with
  | none => simp [noRegress_iff, Overtakes, Ahead, itemView, queuedOrder, OrderStatus.terminal]
  | some i =>
    change NoRegress (view i) (view j) ↔ _
    rcases lt_trichotomy i j with hij | rfl | hij
    · simp [Overtakes, (hlater i j hij).2, not_lt.mpr hij.le]
    · simp [Overtakes, NoRegress]
    · have hequal : (view i).updatedAt = (view j).updatedAt :=
        le_antisymm htime (hlater j i hij).1
      simp [Overtakes, hij, hequal, noRegress_iff]

/-- The frames of a stream do not regress exactly if no two views that reach the client arrived in the
wrong order with equal times, the one that was stored last being ahead. -/
theorem live_updates_regress_iff (N : Net κ R) (acts : List (CasLoop.Action κ R OrderCall))
    (s : State κ R OrderCall Storefront.OrderView Unit)
    (hcalls : ∀ c call, CasLoop.Action.start c call ∈ acts → Settled call)
    (hrun : StepSystem.run (CasLoop.step orderLoop N) {} acts = some s)
    (orderId userId : String) (answer : Option (Fin s.log.length))
    (arrival : List (Fin s.log.length)) :
    (orderEvents orderId userId (answer.map (storedView s)) (arrival.map (storedView s))).Pairwise
        NoRegress ↔
      Related (Shows (itemTime (storedView s) orderId userId) (itemStop (storedView s) orderId userId))
        (fun a b => ¬Overtakes (storedView s) a b)
        (received (storedView s) orderId userId answer arrival) := by
  have hlater := fun (i j : Fin s.log.length) => storedView_later (i := i) (j := j) hcalls hrun
  rw [orderEvents_eq, List.pairwise_map, pairwise_shown]
  refine forall_congr' fun before => forall_congr' fun a => forall_congr' fun mid =>
    forall_congr' fun b => forall_congr' fun after => ?_
  refine imp_congr_right fun hsplit => imp_congr_right fun _ => imp_congr_right fun hshows => ?_
  -- what follows the answer is a stored view
  obtain ⟨j, rfl⟩ : ∃ j, b = some j := by
    have htail : b ∈ ((arrival.filter (forClient (storedView s) orderId userId)).map some) := by
      cases before with
      | nil => simp [(List.cons.inj hsplit).2]
      | cons first before => simp [(List.cons.inj hsplit).2]
    obtain ⟨j, -, rfl⟩ := List.mem_map.mp htail
    exact ⟨j, rfl⟩
  refine noRegress_iff_not_overtakes hlater (hshows.1 a ?_)
  simp

end Streams

/-! ## A settlement at the time of the order's completion -/

namespace Sample

/-- The completed order. -/
def completed : Storefront.OrderView where
  sourceEventId := "event-2"
  appliedEventIds := ["event-2"]
  orderId := "order-1"
  userId := "user-1"
  status := .completed
  stage := "COMPLETED"
  aggregateVersion := 2
  outcomeAt := some 7
  updatedAt := 7

/-- The order with its cart cleared, by an event of the same time. -/
def cleared : Storefront.OrderView :=
  settlementAfter (some completed) "order-1" .succeeded "" 7 { sourceEventId := "event-3" }

/-- The order is completed, and its cart is cleared. -/
def clearedRun : List (CasLoop.Action ℕ ℕ OrderCall) :=
  [.start 0 (.update completed), .lookup 0, .fetch 0, .write 0, .store 0,
    .start 1 (.settle "order-1" .succeeded "" 7 { sourceEventId := "event-3" }), .lookup 1, .fetch 1,
    .write 1, .store 1]

/-- The network of the run. -/
def network : Net ℕ ℕ := { replica := id, cached := false }

/-- Every settlement of the run has a status. -/
lemma clearedRun_settled (c : ℕ) (call : OrderCall)
    (hc : CasLoop.Action.start c call ∈ clearedRun) : Settled call := by
  simp only [clearedRun, List.mem_cons, CasLoop.Action.start.injEq, reduceCtorEq,
    List.not_mem_nil, or_false, false_or] at hc
  rcases hc with ⟨-, rfl⟩ | ⟨-, rfl⟩
  · exact trivial
  · intro h
    cases h

/-- Both views are stored. -/
lemma clearedRun_stored : ∃ s : State ℕ ℕ OrderCall Storefront.OrderView Unit,
    StepSystem.run (CasLoop.step orderLoop network) {} clearedRun = some s ∧
      s.log.map Write.value = [completed, cleared] := by
  have hrun : (StepSystem.run (CasLoop.step orderLoop network) {} clearedRun).map
      (fun s => s.log.map Write.value) = some [completed, cleared] := by
    decide +kernel
  obtain ⟨s, hs, hlog⟩ := Option.map_eq_some_iff.mp hrun
  exact ⟨s, hs, hlog⟩

/-- The two views of the run are the completed order and the cleared one. -/
lemma clearedRun_views :
    ∃ s : State ℕ ℕ OrderCall Storefront.OrderView Unit, ∃ first second : Fin s.log.length,
    StepSystem.run (CasLoop.step orderLoop network) {} clearedRun = some s ∧ first < second ∧
      storedView s first = completed ∧ storedView s second = cleared := by
  obtain ⟨s, hs, hlog⟩ := clearedRun_stored
  have hlength : s.log.length = 2 := by
    rw [← List.length_map Write.value, hlog]
    rfl
  have hvalue : ∀ i : Fin s.log.length, some (storedView s i) = (s.log.map Write.value)[i.1]? := by
    intro i
    simp [storedView]
  have hfirst := hvalue ⟨0, by omega⟩
  have hsecond := hvalue ⟨1, by omega⟩
  rw [hlog] at hfirst hsecond
  exact ⟨s, ⟨0, by omega⟩, ⟨1, by omega⟩, hs, by simp, Option.some.inj hfirst,
    Option.some.inj hsecond⟩

end Sample

/-- The query is answered with the cleared cart, and the completed order, which was published before, is
written after it: the cart is no longer cleared. -/
theorem late_view_regresses :
    ∃ s : State ℕ ℕ OrderCall Storefront.OrderView Unit, ∃ first second : Fin s.log.length,
      StepSystem.run (CasLoop.step orderLoop Sample.network) {} Sample.clearedRun = some s ∧
      first < second ∧
      ¬(orderEvents "order-1" "user-1" (some (storedView s second))
        [storedView s first, storedView s second]).Pairwise NoRegress := by
  obtain ⟨s, first, second, hs, hlt, hfirst, hsecond⟩ := Sample.clearedRun_views
  refine ⟨s, first, second, hs, hlt, ?_⟩
  rw [hfirst, hsecond]
  decide +kernel

/-- The query is answered with the completed order, and both views arrive in their order. -/
theorem ordered_views_keep :
    ∃ s : State ℕ ℕ OrderCall Storefront.OrderView Unit, ∃ first second : Fin s.log.length,
      StepSystem.run (CasLoop.step orderLoop Sample.network) {} Sample.clearedRun = some s ∧
      (orderEvents "order-1" "user-1" (some (storedView s first))
        [storedView s first, storedView s second]).Pairwise NoRegress ∧
      Related (Shows (itemTime (storedView s) "order-1" "user-1")
          (itemStop (storedView s) "order-1" "user-1"))
        (fun a b => ¬Overtakes (storedView s) a b)
        (received (storedView s) "order-1" "user-1" (some first) [first, second]) := by
  obtain ⟨s, first, second, hs, -, hfirst, hsecond⟩ := Sample.clearedRun_views
  have hkeep : (orderEvents "order-1" "user-1" (some (storedView s first))
      [storedView s first, storedView s second]).Pairwise NoRegress := by
    rw [hfirst, hsecond]
    decide +kernel
  exact ⟨s, first, second, hs, hkeep, (live_updates_regress_iff Sample.network Sample.clearedRun s
    Sample.clearedRun_settled hs "order-1" "user-1" (some first) [first, second]).mp hkeep⟩

end Boutique.Frontend
