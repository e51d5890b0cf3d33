import Boutique.Checkout.Flow

/-!
# Effects and events of an order

Over every run of any number of workers, the journals contain each external effect at most once, and
the versions of the order's own events increase in commit order.
-/

namespace Boutique

variable {env : CheckoutEnv} {orderId : String}

/-- The events of the order itself, the subjects `boutique.evt.order.*`. -/
def ResultSubject.isOrderEvent : ResultSubject → Bool
  | .orderSubmitted | .orderRejected | .orderCancelled | .orderCompleted | .orderStageChanged
  | .orderStepTimedOut | .orderManualReview => true
  | _ => false

/-- The versions of the order's events among the results. -/
def orderEventVersions (results : List ResultMessage) : List ℕ :=
  (results.filter fun result => result.subject.isOrderEvent).map ResultMessage.version

@[simp] lemma orderEventVersions_append (xs ys : List ResultMessage) :
    orderEventVersions (xs ++ ys) = orderEventVersions xs ++ orderEventVersions ys := by
  simp [orderEventVersions]

/-- The versions lie above `low`, up to `high`, and increase. -/
def IncreasingWithin (low high : ℕ) (versions : List ℕ) : Prop :=
  versions.Pairwise (· < ·) ∧ ∀ n ∈ versions, low < n ∧ n ≤ high

/-- Two lists of increasing versions, one above the other, are increasing together. -/
lemma IncreasingWithin.append {low mid high : ℕ} {xs ys : List ℕ}
    (hx : IncreasingWithin low mid xs) (hy : IncreasingWithin mid high ys) (hlow : low ≤ mid)
    (hhigh : mid ≤ high) : IncreasingWithin low high (xs ++ ys) := by
  refine ⟨List.pairwise_append.mpr ⟨hx.1, hy.1, fun a ha b hb => ?_⟩, fun n hn => ?_⟩
  · have := (hx.2 a ha).2
    have := (hy.2 b hb).1
    omega
  · rcases List.mem_append.mp hn with hn | hn
    · have := hx.2 n hn
      omega
    · have := hy.2 n hn
      omega

/-- The version of an order; an order without a saga has version 0. -/
def orderVersion (saga : Option OrderSaga) : ℕ := (saga.map OrderSaga.version).getD 0

/-- The events of a transition have versions above the old one, up to the new one. -/
lemma SagaMove.versions {input : OrderInput} {ws : PersistedState} {after : Option OrderSaga}
    {results : List ResultMessage} (h : SagaMove env input ws after results) :
    IncreasingWithin (orderVersion ws.orders) (orderVersion after) (orderEventVersions results) ∧
      orderVersion ws.orders ≤ orderVersion after := by
  have hempty : ∀ low high, IncreasingWithin low high (orderEventVersions []) :=
    fun _ _ => ⟨.nil, by simp [orderEventVersions]⟩
  have hone : ∀ low, IncreasingWithin low (low + 1) [low + 1] := fun low => by
    simp [IncreasingWithin]
  cases h with
  | absent horder | idle horder =>
    rw [horder]
    exact ⟨hempty _ _, le_rfl⟩
  | rejected _ horder | accepted _ horder =>
    rw [horder]
    exact ⟨hone 0, Nat.zero_le _⟩
  | quoted _ horder | authorized _ horder | shipped _ horder =>
    rw [horder]
    exact ⟨hempty _ _, Nat.le_succ _⟩
  | cancelled _ horder | completed _ horder | reviewed _ _ horder =>
    rw [horder]
    exact ⟨hone _, Nat.le_succ _⟩
  | @compensating _ _ _ _ withShipment _ horder _ hs' =>
    rw [horder]
    subst hs'
    cases withShipment <;> exact ⟨hone _, Nat.le_succ _⟩
  | @acknowledged s subject _ _ _ horder =>
    rw [horder]
    refine ⟨hempty _ _, ?_⟩
    simp [orderVersion]
  | @compensated s subject _ _ _ horder =>
    rw [horder]
    have hversion : orderVersion (some ((s.acknowledge subject).close .cancelled)) =
        s.version + 1 := congrArg (· + 1) (OrderSaga.version_acknowledge s subject)
    rw [hversion]
    exact ⟨hone _, Nat.le_succ _⟩
  | @timedOut s _ _ _ _ _ horder =>
    rw [horder]
    have htwo : IncreasingWithin s.version (s.version + 1 + 1)
        ([s.version + 1] ++ [s.version + 1 + 1]) :=
      (hone s.version).append (hone (s.version + 1)) (Nat.le_succ _) (Nat.le_succ _)
    exact ⟨htwo, by simp only [orderVersion, OrderSaga.close, Option.map_some, Option.getD_some]; omega⟩

/-- The version of a consistent view is the version of its saga. -/
lemma OrderView.Consistent.orderVersion_eq {v : OrderView} (h : v.Consistent orderId) :
    orderVersion v.saga = v.version := by
  unfold orderVersion
  cases hs : v.saga with
  | none => exact (h.version_zero hs).symm
  | some s => exact h.version_eq s hs

/-- The versions of the order's events increase up to the stored version. -/
lemma OrderHistory.versions {log : List Commit} {v : OrderView}
    (h : OrderHistory env orderId log v) :
    IncreasingWithin 0 v.version (orderEventVersions (journalledResults log)) := by
  refine OrderHistory.induction (P := fun log v =>
    IncreasingWithin 0 v.version (orderEventVersions (journalledResults log))) ?_ ?_ h
  · exact ⟨.nil, by simp [orderEventVersions, journalledResults]⟩
  · intro log v e pre hstep ih _ _
    have hafter : e.after.Consistent orderId :=
      hstep.valid.consistent hstep.loaded_consistent hstep.history.consistent
    obtain ⟨hversions, hle⟩ := hstep.move.versions
    rw [transitionWorkspace_orders, hstep.loaded_consistent.orderVersion_eq, hstep.version_eq,
      hafter.orderVersion_eq] at hversions hle
    rw [journalledResults_snoc, orderEventVersions_append]
    exact ih.append hversions (Nat.zero_le _) hle

/-- For every run of any number of workers on one order: the results journalled by commits with
status 0 contain each command, the submitted event and the terminal decision at most once, and the
versions of the order's events strictly increase in commit order. -/
theorem effects_at_most_once_and_events_ordered (env : CheckoutEnv) (orderId : String)
    (actions : List Action) (s : CheckoutState) (hrun : runs env orderId actions = some s) :
    (∀ effect : Effect, effect.count (subjects (journalledResults s.log)) ≤ 1) ∧
      (orderEventVersions (journalledResults s.log)).Pairwise (· < ·) := by
  have h := (run_history hrun).history
  refine ⟨fun effect => ?_, h.versions.1⟩
  have hcount := h.flow.count_add_remaining effect
  omega

/-- The journals of the completed sample order. -/
theorem completed_order_effects :
    ∃ s, runs Sample.env Sample.orderId Sample.completedRun = some s ∧
      Effect.count .capture (subjects (journalledResults s.log)) = 1 ∧
      (∀ effect : Effect, effect.count (subjects (journalledResults s.log)) ≤ 1) ∧
      (orderEventVersions (journalledResults s.log)).Pairwise (· < ·) := by
  have hrun : (runs Sample.env Sample.orderId Sample.completedRun).map
      (fun s => Effect.count .capture (subjects (journalledResults s.log))) = some 1 := by
    decide +kernel
  obtain ⟨s, hs, hcapture⟩ := Option.map_eq_some_iff.mp hrun
  exact ⟨s, hs, hcapture, effects_at_most_once_and_events_ordered _ _ _ s hs⟩

end Boutique
