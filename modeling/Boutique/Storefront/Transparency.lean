import Mathlib.Data.Finset.Card
import Boutique.Lib.CasCache
import Boutique.Storefront.Converge
import Boutique.Storefront.Forward

/-!
# The write-through caches

`cachedProjectionKV` of `storefrontprojectionservice/write_cache.go` may answer a read with an old
value.  A write on it is refused, and an event that is skipped on it would be skipped on the current
value as well, as long as the records remember the events that were applied to them.
-/

namespace Boutique.Storefront

open CasLoop

/-! ## The remembered events -/

/-- The metadata that `projectionMetadata` makes of an envelope whose message ID is not blank. -/
def ProjectionMetadata.OfEvent (metadata : ProjectionMetadata) : Prop :=
  metadata.sourceEventId ≠ "" ∧ metadata.appliedEventIds = [metadata.sourceEventId]

/-- All remembered events are among `ids`, each once, and the last one is remembered. -/
structure ProjectionMetadata.Within (ids : Finset String) (metadata : ProjectionMetadata) :
    Prop where
  nodup : metadata.appliedEventIds.Nodup
  subset : ∀ id ∈ metadata.appliedEventIds, id ∈ ids
  source : metadata.sourceEventId ∈ metadata.appliedEventIds

variable {ids : Finset String} {current incoming : ProjectionMetadata}

/-- A new record remembers its event. -/
lemma ProjectionMetadata.OfEvent.within (h : incoming.OfEvent) (hid : incoming.sourceEventId ∈ ids) :
    incoming.Within ids := by
  refine ⟨?_, ?_, ?_⟩ <;> rw [h.2]
  · simp
  · simpa using hid
  · simp

/-- Merging adds the event of the incoming record, and drops none as long as there are fewer events
than a record remembers. -/
lemma mergeProjectionMetadata_applied (hcard : ids.card < projectionEventHistory)
    (h : current.Within ids) (hincoming : incoming.sourceEventId ≠ "")
    (hid : incoming.sourceEventId ∈ ids)
    (hnew : projectionApplied current incoming.sourceEventId = false) :
    mergeProjectionMetadata current incoming =
      { incoming with appliedEventIds := current.appliedEventIds ++ [incoming.sourceEventId] } := by
  have hnotin : incoming.sourceEventId ∉ current.appliedEventIds := by
    intro hmem
    simp [projectionApplied, hincoming, hmem] at hnew
  have hkeep : (if current.sourceEventId ≠ "" then
      rememberEvent current.appliedEventIds current.sourceEventId
      else current.appliedEventIds) = current.appliedEventIds := by
    split_ifs with hsource
    · simp [rememberEvent, projectionApplied, hsource, h.source]
    · rfl
  have hadd : rememberEvent current.appliedEventIds incoming.sourceEventId =
      current.appliedEventIds ++ [incoming.sourceEventId] := by
    simp [rememberEvent, projectionApplied, hincoming, hincoming.symm, hnotin]
  -- the events are different members of `ids`, so none has to be dropped
  have hlength : (current.appliedEventIds ++ [incoming.sourceEventId]).length ≤ ids.card := by
    have hnodup : (current.appliedEventIds ++ [incoming.sourceEventId]).Nodup := by
      rw [List.nodup_append]
      refine ⟨h.nodup, by simp, ?_⟩
      rintro a ha b hb rfl
      exact hnotin (List.mem_singleton.mp hb ▸ ha)
    rw [← List.toFinset_card_of_nodup hnodup]
    refine Finset.card_le_card fun id hmem => ?_
    rw [List.mem_toFinset, List.mem_append, List.mem_singleton] at hmem
    rcases hmem with hmem | rfl
    · exact h.subset id hmem
    · exact hid
  have hdrop : (current.appliedEventIds ++ [incoming.sourceEventId]).length -
      projectionEventHistory = 0 := by omega
  simp only [mergeProjectionMetadata, hincoming, if_false, hkeep, hadd, hdrop, List.drop_zero]

/-- A record after an event: it remembers the event and all earlier ones. -/
lemma mergeProjectionMetadata_within (hcard : ids.card < projectionEventHistory)
    (h : current.Within ids) (hincoming : incoming.sourceEventId ≠ "")
    (hid : incoming.sourceEventId ∈ ids)
    (hnew : projectionApplied current incoming.sourceEventId = false) :
    (mergeProjectionMetadata current incoming).Within ids ∧
      current.appliedEventIds ⊆ (mergeProjectionMetadata current incoming).appliedEventIds := by
  have hnotin : incoming.sourceEventId ∉ current.appliedEventIds := by
    intro hmem
    simp [projectionApplied, hincoming, hmem] at hnew
  rw [mergeProjectionMetadata_applied hcard h hincoming hid hnew]
  refine ⟨⟨?_, ?_, by simp⟩, by simp⟩
  · rw [List.nodup_append]
    refine ⟨h.nodup, by simp, ?_⟩
    rintro a ha b hb rfl
    exact hnotin (List.mem_singleton.mp hb ▸ ha)
  · intro id hmem
    rcases List.mem_append.mp hmem with hmem | hmem
    · exact h.subset id hmem
    · rw [List.mem_singleton.mp hmem]
      exact hid

/-- What a record remembers is applied. -/
lemma ProjectionMetadata.Within.applied (h : current.Within ids) {id : String} :
    projectionApplied current id = true ↔ id ≠ "" ∧ id ∈ current.appliedEventIds := by
  simp only [projectionApplied, Bool.and_eq_true, decide_eq_true_eq, Bool.or_eq_true, ne_eq]
  refine and_congr_right fun _ => ⟨?_, .inr⟩
  rintro (rfl | hmem)
  · exact h.source
  · exact hmem

/-! ## Orders -/

/-- The metadata of the event of a call. -/
def OrderCall.metadata : OrderCall → ProjectionMetadata
  | .update incoming => incoming.toProjectionMetadata
  | .settle _ _ _ _ source => source

/-- The metadata of a record after a write, and what it keeps. -/
lemma orderLoop_metadata {call next : OrderCall} {current value : OrderView} {result : Unit}
    (h : orderLoop.decide call (some current) = .write next value result) :
    value.toProjectionMetadata =
      mergeProjectionMetadata current.toProjectionMetadata call.metadata := by
  cases call with
  | update incoming =>
    simp only [orderLoop, decideOrder] at h
    split_ifs at h <;> cases h <;> rfl
  | settle orderId status failureCode updatedAt source =>
    simp only [orderLoop, decideSettlement] at h
    split_ifs at h with happlied
    cases h
    simp [settlementAfter, happlied, OrderCall.metadata]

/-- An event of the run: it has an ID, which is among `ids`. -/
def ProjectionMetadata.EventOf (ids : Finset String) (metadata : ProjectionMetadata) : Prop :=
  metadata.OfEvent ∧ metadata.sourceEventId ∈ ids

/-- The attempts of a call keep its metadata. -/
lemma orderLoop_keeps_metadata {call next : OrderCall} {current : Option OrderView}
    {value : OrderView} {result : Unit}
    (h : orderLoop.decide call current = .write next value result) :
    next.metadata = call.metadata := by
  cases call with
  | update incoming =>
    cases current with
    | none =>
      cases h
      rfl
    | some current =>
      simp only [orderLoop, decideOrder] at h
      split_ifs at h <;> cases h <;> rfl
  | settle orderId status failureCode updatedAt source =>
    cases current with
    | none =>
      cases h
      rfl
    | some current =>
      simp only [orderLoop, decideSettlement] at h
      split_ifs at h
      cases h
      rfl

section Orders

variable {κ : Type} {log : List (Write κ OrderCall OrderView)}

/-- All stored order records remember their events. -/
lemma orderLoop_within (hcard : ids.card < projectionEventHistory) (hlog : Written orderLoop log)
    (hevents : ∀ w ∈ log, w.input.metadata.EventOf ids) :
    ∀ w ∈ log, w.value.toProjectionMetadata.Within ids := by
  refine hlog.forall_value (Q := fun view : OrderView => view.toProjectionMetadata.Within ids) ?_
  intro w hw v next result hv hdecide
  obtain ⟨hevent, hid⟩ := hevents w hw
  cases v with
  | none =>
    have hmetadata : w.value.toProjectionMetadata = w.input.metadata := by
      cases hinput : w.input <;> rw [hinput] at hdecide <;> injection hdecide with _ hvalue
      · rw [← hvalue]
        rfl
      · rw [← hvalue]
        rfl
    rw [hmetadata]
    exact hevent.within hid
  | some u =>
    rw [orderLoop_metadata hdecide]
    refine (mergeProjectionMetadata_within hcard (hv u rfl) hevent.1 hid ?_).1
    have hnew := (orderLoop_write hdecide).1
    cases hinput : w.input <;> rw [hinput] at hnew <;> exact hnew

/-- Later values of an order record are later in both senses: they have moved forward and remember
more events. -/
lemma orderLoop_rel (hcard : ids.card < projectionEventHistory) (hlog : Written orderLoop log)
    (hevents : ∀ w ∈ log, w.input.metadata.EventOf ids) :
    ∀ w ∈ log, ∀ u ∈ log, ∀ next result,
      orderLoop.decide w.input (some u.value) = .write next w.value result →
      OrderForward u.value w.value ∧ u.value.appliedEventIds ⊆ w.value.appliedEventIds := by
  intro w hw u hu next result hdecide
  obtain ⟨hevent, hid⟩ := hevents w hw
  obtain ⟨hnew, -, hforward⟩ := orderLoop_write hdecide
  refine ⟨hforward, ?_⟩
  have hmetadata := orderLoop_metadata hdecide
  rw [hmetadata]
  refine (mergeProjectionMetadata_within hcard (orderLoop_within hcard hlog hevents u hu) hevent.1
    hid ?_).2
  cases hinput : w.input <;> rw [hinput] at hnew <;> exact hnew

/-- A call that is skipped on a value is skipped on later ones. -/
lemma orderLoop_skip {call : OrderCall} {u v : OrderView} {result : Unit}
    (hu : u.toProjectionMetadata.Within ids) (hv : v.toProjectionMetadata.Within ids)
    (hforward : OrderForward u v) (hsubset : u.appliedEventIds ⊆ v.appliedEventIds)
    (h : orderLoop.decide call (some u) = .finish result) :
    orderLoop.decide call (some v) = .finish () := by
  have happlied : ∀ id, projectionApplied u.toProjectionMetadata id = true →
      projectionApplied v.toProjectionMetadata id = true := by
    intro id hid
    rw [hu.applied] at hid
    exact hv.applied.mpr ⟨hid.1, hsubset hid.2⟩
  cases call with
  | update incoming =>
    simp only [orderLoop, decideOrder] at h ⊢
    by_cases hdone : projectionApplied v.toProjectionMetadata incoming.sourceEventId = true
    · rw [if_pos hdone]
    · have hnot : ¬ projectionApplied u.toProjectionMetadata incoming.sourceEventId = true :=
        fun hu => hdone (happlied _ hu)
      rw [if_neg hnot] at h
      split_ifs at h with hlate huser
      have hlate' : incoming.aggregateVersion < v.aggregateVersion :=
        hlate.trans_le hforward.aggregateVersion
      have huser' : (decide (v.userId ≠ "") || decide (incoming.userId = "")) = true := by
        simp only [Bool.or_eq_true, decide_eq_true_eq] at huser ⊢
        exact huser.imp hforward.userId id
      rw [if_neg hdone, if_pos hlate', if_pos huser']
  | settle orderId status failureCode updatedAt source =>
    simp only [orderLoop, decideSettlement] at h ⊢
    split_ifs at h with hdone
    rw [if_pos (happlied _ hdone)]

/-- The version of a late event is at least that of the values that its attempts have seen. -/
def OrderCall.Covers (view : OrderView) : OrderCall → Prop
  | .update incoming => view.aggregateVersion ≤ incoming.aggregateVersion
  | .settle _ _ _ _ _ => True

/-- After an attempt the call covers the value. -/
lemma orderLoop_covers {call next : OrderCall} {current value : OrderView} {result : Unit}
    (h : orderLoop.decide call (some current) = .write next value result) :
    next.Covers current ∧ ∀ view, call.Covers view → next.Covers view := by
  cases call with
  | update incoming =>
    simp only [orderLoop, decideOrder] at h
    split_ifs at h with happlied hlate huser <;> cases h
    · exact ⟨le_rfl, fun view hview => hview.trans hlate.le⟩
    · exact ⟨not_lt.mp hlate, fun _ hview => hview⟩
  | settle orderId status failureCode updatedAt source =>
    simp only [orderLoop, decideSettlement] at h
    split_ifs at h
    cases h
    exact ⟨trivial, fun _ _ => trivial⟩

/-- A call that covers the value is not changed. -/
lemma orderLoop_keep {call next : OrderCall} {current value : OrderView} {result : Unit}
    (hcovers : call.Covers current)
    (h : orderLoop.decide call (some current) = .write next value result) : next = call := by
  cases call with
  | update incoming =>
    simp only [orderLoop, decideOrder] at h
    split_ifs at h with happlied hlate huser <;> cases h
    · exact absurd hlate (not_lt.mpr hcovers)
    · rfl
  | settle orderId status failureCode updatedAt source =>
    simp only [orderLoop, decideSettlement] at h
    split_ifs at h
    cases h
    rfl

/-- The loops on orders are stable: a late event has at least the version of all values seen. -/
lemma orderLoop_stable (hlog : Written orderLoop log) : Stable orderLoop log := by
  have hversion : ∀ {i j : ℕ} {u v : OrderView}, i ≤ j → valueAt log i = some u →
      valueAt log j = some v → u.aggregateVersion ≤ v.aggregateVersion := by
    intro i j u v hij hu hv
    have hforward := hlog.rel_valueAt (r := OrderForward) OrderForward.refl
      (fun _ _ _ => OrderForward.trans)
      (fun w _ u _ next result hdecide => (orderLoop_write hdecide).2.2) hij hu hv
    exact hforward.aggregateVersion
  have hcovers : ∀ start call n k, Derived orderLoop log start call n k →
      ∀ revision < n, ∀ view, valueAt log revision = some view → call.Covers view := by
    intro start call n k hderived
    induction hderived with
    | refl => exact fun _ hn => absurd hn (Nat.not_lt_zero _)
    | @read call next n k i value result _ hle hi hdecide ih =>
      intro revision hrevision view hview
      cases hcurrent : valueAt log i with
      | none =>
        -- there is no older value, either
        rw [valueAt_eq_none_of_le (Nat.lt_succ_iff.mp hrevision) hcurrent] at hview
        cases hview
      | some current =>
        rw [hcurrent] at hdecide
        obtain ⟨hnow, hkeep⟩ := orderLoop_covers hdecide
        have hle := hversion (Nat.lt_succ_iff.mp hrevision) hview hcurrent
        cases hnext : next with
        | update incoming =>
          rw [hnext] at hnow
          exact hle.trans hnow
        | settle => trivial
  intro start call n k revision next value result hderived hrevision hdecide
  cases hcurrent : valueAt log revision with
  | none =>
    rw [hcurrent] at hdecide
    cases call with
    | update incoming =>
      cases hdecide
      rfl
    | settle orderId status failureCode updatedAt source =>
      cases hdecide
      rfl
  | some current =>
    rw [hcurrent] at hdecide
    exact orderLoop_keep (hcovers start call n k hderived revision hrevision current hcurrent)
      hdecide

end Orders

/-! ## Operations -/

section Operations

variable {κ : Type} {log : List (Write κ OperationView OperationView)}

/-- The metadata of an operation record after a write. -/
lemma operationLoop_metadata {incoming next current value : OperationView} {result : Unit}
    (h : operationLoop.decide incoming (some current) = .write next value result) :
    projectionApplied current.toProjectionMetadata incoming.sourceEventId = false ∧
      value.toProjectionMetadata =
        mergeProjectionMetadata current.toProjectionMetadata incoming.toProjectionMetadata := by
  simp only [operationLoop] at h
  split_ifs at h with happlied
  cases h
  refine ⟨Bool.eq_false_iff.mpr happlied, ?_⟩
  unfold mergeOperation
  split_ifs <;> rfl

/-- All stored operation records remember their events. -/
lemma operationLoop_within (hcard : ids.card < projectionEventHistory)
    (hlog : Written operationLoop log)
    (hevents : ∀ w ∈ log, w.input.toProjectionMetadata.EventOf ids) :
    ∀ w ∈ log, w.value.toProjectionMetadata.Within ids := by
  refine hlog.forall_value
    (Q := fun view : OperationView => view.toProjectionMetadata.Within ids) ?_
  intro w hw v next result hv hdecide
  obtain ⟨hevent, hid⟩ := hevents w hw
  cases v with
  | none =>
    injection hdecide with _ hvalue
    rw [← hvalue]
    exact hevent.within hid
  | some u =>
    obtain ⟨hnew, hmetadata⟩ := operationLoop_metadata hdecide
    rw [hmetadata]
    exact (mergeProjectionMetadata_within hcard (hv u rfl) hevent.1 hid hnew).1

/-- Later values of an operation record remember more events. -/
lemma operationLoop_rel (hcard : ids.card < projectionEventHistory)
    (hlog : Written operationLoop log)
    (hevents : ∀ w ∈ log, w.input.toProjectionMetadata.EventOf ids) :
    ∀ w ∈ log, ∀ u ∈ log, ∀ next result,
      operationLoop.decide w.input (some u.value) = .write next w.value result →
      u.value.appliedEventIds ⊆ w.value.appliedEventIds := by
  intro w hw u hu next result hdecide
  obtain ⟨hevent, hid⟩ := hevents w hw
  obtain ⟨hnew, hmetadata⟩ := operationLoop_metadata hdecide
  rw [hmetadata]
  exact (mergeProjectionMetadata_within hcard (operationLoop_within hcard hlog hevents u hu)
    hevent.1 hid hnew).2

/-- The attempts of `updateOperation` keep their input. -/
lemma operationLoop_keep {incoming next value : OperationView} {current : Option OperationView}
    {result : Unit} (h : operationLoop.decide incoming current = .write next value result) :
    next = incoming := by
  cases current with
  | none =>
    cases h
    rfl
  | some current =>
    simp only [operationLoop] at h
    split_ifs at h
    cases h
    rfl

end Operations

/-! ## Runs -/

/-- A skipped call was skipped on a value that is not newer than the current one. -/
lemma exists_current_of_finish {κ ι V : Type} {L : Loop ι V Unit} {log : List (Write κ ι V)}
    {input : ι} {revision : ℕ} {result : Unit}
    (habsent : ∀ input, ∃ next value result, L.decide input none = .write next value result)
    (hdecide : L.decide input (valueAt log revision) = .finish result) :
    ∃ u ∈ log, L.decide input (some u.value) = .finish result := by
  cases hvalue : valueAt log revision with
  | none =>
    obtain ⟨next, value, result', hwrite⟩ := habsent input
    rw [hvalue, hwrite] at hdecide
    cases hdecide
  | some u =>
    obtain ⟨w, hw, rfl⟩ := valueAt_mem hvalue
    rw [hvalue] at hdecide
    exact ⟨w, hw, hdecide⟩

/-- The caches of the projectors are transparent for all update loops, as long as the orders and
operations have fewer events than their records remember. -/
theorem write_caches_transparent {κ R : Type} [DecidableEq κ] [DecidableEq R] (N : Net κ R) :
    (∀ (ids : Finset String) (acts : List (CasLoop.Action κ R OrderCall))
      (s : State κ R OrderCall OrderView Unit), ids.card < projectionEventHistory →
      (∀ c call, Action.start c call ∈ acts → call.metadata.EventOf ids) →
      StepSystem.run (CasLoop.step orderLoop N) {} acts = some s → Transparent orderLoop N s) ∧
    (∀ (ids : Finset String) (acts : List (CasLoop.Action κ R OperationView))
      (s : State κ R OperationView OperationView Unit), ids.card < projectionEventHistory →
      (∀ c view, Action.start c view ∈ acts → view.toProjectionMetadata.EventOf ids) →
      StepSystem.run (CasLoop.step operationLoop N) {} acts = some s → Transparent operationLoop N s) ∧
    (∀ (acts : List (CasLoop.Action κ R CartView)) (s : State κ R CartView CartView Unit),
      (∀ e e', Delivered acts e → Delivered acts e' → e.sourceEventId = e'.sourceEventId →
        e = e') →
      StepSystem.run (CasLoop.step cartLoop N) {} acts = some s → Transparent cartLoop N s) ∧
    (∀ (acts : List (CasLoop.Action κ R CartQuoteView))
      (s : State κ R CartQuoteView CartQuoteView Unit),
      (∀ e e', Delivered acts e → Delivered acts e' → e.sourceEventId = e'.sourceEventId →
        e = e') →
      StepSystem.run (CasLoop.step cartQuoteLoop N) {} acts = some s → Transparent cartQuoteLoop N s) ∧
    ∀ (T : Type) (currentVersion : T → ℕ) (currentSourceEventId : T → String)
      (acts : List (CasLoop.Action κ R (JsonCall T))) (s : State κ R (JsonCall T) T Unit),
      (∀ call, Delivered acts call → call.WellFormed currentVersion currentSourceEventId) →
      (∀ e e', Delivered acts e → Delivered acts e' →
        e.incomingSourceEventId = e'.incomingSourceEventId → e = e') →
      StepSystem.run (CasLoop.step (jsonLoop currentVersion currentSourceEventId) N) {} acts =
        some s →
      Transparent (jsonLoop currentVersion currentSourceEventId) N s := by
  refine ⟨fun ids acts s hcard hstart hrun => ?_, fun ids acts s hcard hstart hrun => ?_,
    fun acts s hids hrun => ?_, fun acts s hids hrun => ?_,
    fun T currentVersion currentSourceEventId acts s hformed hids hrun => ?_⟩
  · have hwritten := (sound_of_run hrun).written
    have hinputs : Inputs (fun _ call => call.metadata.EventOf ids) s := inputs_of_run
      (fun _ call v next value result hcall hdecide => by
        rwa [orderLoop_keeps_metadata hdecide]) hstart hrun
    refine transparent_of_run (by decide) (fun _ => orderLoop_stable) ?_ hrun
    intro c call result revision _ hdecide
    obtain ⟨u, hu, hskip⟩ := exists_current_of_finish (L := orderLoop)
      (fun call => by cases call <;> exact ⟨_, _, _, rfl⟩) hdecide
    obtain ⟨v, hv, hforward, hsubset⟩ := hwritten.rel_current
      (r := fun u v => OrderForward u v ∧ u.appliedEventIds ⊆ v.appliedEventIds)
      (fun v => ⟨.refl v, List.Subset.refl _⟩)
      (fun _ _ _ huv hvw => ⟨huv.1.trans hvw.1, List.Subset.trans huv.2 hvw.2⟩)
      (orderLoop_rel hcard hwritten hinputs.log) hu
    obtain ⟨w, hw, rfl⟩ := Option.map_eq_some_iff.mp hv
    have hwithin := orderLoop_within hcard hwritten hinputs.log
    rw [hv]
    exact ⟨(), orderLoop_skip (hwithin u hu) (hwithin w (List.mem_of_getLast? hw)) hforward hsubset
      hskip⟩
  · have hwritten := (sound_of_run hrun).written
    have hinputs : Inputs (fun _ view => view.toProjectionMetadata.EventOf ids) s := inputs_of_run
      (fun _ view v next value result hview hdecide => by
        rwa [operationLoop_keep hdecide]) hstart hrun
    refine transparent_of_run (by decide)
      (fun _ _ => stable_of_keep fun _ _ _ _ _ => operationLoop_keep) ?_ hrun
    intro c incoming result revision _ hdecide
    obtain ⟨u, hu, hskip⟩ := exists_current_of_finish (L := operationLoop)
      (fun _ => ⟨_, _, _, rfl⟩) hdecide
    obtain ⟨v, hv, hsubset⟩ := hwritten.rel_current
      (r := fun u v : OperationView => u.appliedEventIds ⊆ v.appliedEventIds)
      (fun v => List.Subset.refl _) (fun _ _ _ => List.Subset.trans)
      (operationLoop_rel hcard hwritten hinputs.log) hu
    obtain ⟨w, hw, rfl⟩ := Option.map_eq_some_iff.mp hv
    have hwithin := operationLoop_within hcard hwritten hinputs.log
    rw [hv]
    refine ⟨(), ?_⟩
    simp only [operationLoop] at hskip ⊢
    split_ifs at hskip with hdone
    rw [(hwithin u hu).applied] at hdone
    rw [if_pos ((hwithin w (List.mem_of_getLast? hw)).applied.mpr ⟨hdone.1, hsubset hdone.2⟩)]
  · have hgate := cartLoop_gate hids
    have hinputs := hgate.inputs hrun
    refine transparent_of_run (by decide) (fun _ _ => stable_of_keep hgate.keep) ?_ hrun
    intro c input result revision hc hdecide
    exact ⟨(), hgate.finish_current hrun (hinputs.of_phase hc) hdecide⟩
  · have hgate := cartQuoteLoop_gate hids
    have hinputs := hgate.inputs hrun
    refine transparent_of_run (by decide) (fun _ _ => stable_of_keep hgate.keep) ?_ hrun
    intro c input result revision hc hdecide
    exact ⟨(), hgate.finish_current hrun (hinputs.of_phase hc) hdecide⟩
  · have hgate := jsonLoop_gate hformed hids
    have hinputs := hgate.inputs hrun
    refine transparent_of_run (by show 0 < projectionAttempts; decide)
      (fun _ _ => stable_of_keep hgate.keep) ?_ hrun
    intro c input result revision hc hdecide
    exact ⟨(), hgate.finish_current hrun (hinputs.of_phase hc) hdecide⟩

namespace Sample

/-- Replica 0 creates the order, replica 1 changes it, and the first event is redelivered to replica
0, which answers from its cache. -/
def staleRead : List (CasLoop.Action ℕ ℕ OrderCall) :=
  [.start 0 (.update cancelled), .lookup 0, .fetch 0, .write 0, .store 0,
    .start 1 (.update submitted), .lookup 1, .fetch 1, .keep 1, .write 1, .store 1,
    .start 2 (.update cancelled), .lookup 2]

/-- Two replicas with caches. -/
def cachedReplicas : Net ℕ ℕ where
  replica := fun c => c % 2
  cached := true

end Sample

/-- The redelivered event is skipped on the old value, as it would be on the current one. -/
theorem stale_read_transparent : ∃ s : State ℕ ℕ OrderCall OrderView Unit,
    StepSystem.run (CasLoop.step orderLoop Sample.cachedReplicas) {} Sample.staleRead = some s ∧
    (s.cache 0).map Prod.fst = some 1 ∧ s.log.length = 2 ∧
    Transparent orderLoop Sample.cachedReplicas s := by
  have hrun : ((StepSystem.run (CasLoop.step orderLoop Sample.cachedReplicas) {} Sample.staleRead).map
      fun s => ((s.cache 0).map Prod.fst, s.log.length)) = some (some 1, 2) := by
    decide +kernel
  obtain ⟨s, hs, heq⟩ := Option.map_eq_some_iff.mp hrun
  obtain ⟨hcache, hlength⟩ := Prod.mk.inj heq
  refine ⟨s, hs, hcache, hlength, (write_caches_transparent Sample.cachedReplicas).1
    {"event-1", "event-3"} _ s (by decide) ?_ hs⟩
  intro c call hc
  simp only [Sample.staleRead, List.mem_cons, Action.start.injEq, reduceCtorEq,
    List.not_mem_nil, or_false, false_or] at hc
  rcases hc with ⟨-, rfl⟩ | ⟨-, rfl⟩ | ⟨-, rfl⟩ <;> exact ⟨⟨by decide, rfl⟩, by decide⟩

end Boutique.Storefront
