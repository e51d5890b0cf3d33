import Boutique.Checkout.StepCases

/-!
# Exactly-once application with exact replay

The results journal of an order is a Redis hash that expires as a whole, so an entry is unexpired
while the epoch is the one of its commit.  `JournalInv` says that the hash holds exactly the
journals of the commits of the current epoch, and that every call that returned gave its caller the
journal of such a commit.
-/

namespace Boutique

variable {env : CheckoutEnv} {orderId : String} {s s' : CheckoutState}

/-- The journal and the returned calls agree with the commits. -/
structure JournalInv (env : CheckoutEnv) (s : CheckoutState) : Prop where
  /-- Every stored journal is the one of a commit of this epoch. -/
  origin : ∀ key results, s.keys.results key = some results →
    ∃ e ∈ s.log, e.epoch = s.epoch ∧ env.digest e.messageId = key ∧ e.results = results
  /-- The journal of every commit of this epoch is stored. -/
  stored : ∀ e ∈ s.log, e.epoch = s.epoch →
    s.keys.results (env.digest e.messageId) = some e.results
  epoch_le : ∀ e ∈ s.log, e.epoch ≤ s.epoch
  nodup : (s.log.map fun e => (e.epoch, e.messageId)).Nodup
  /-- Every returned call gave the journal of a commit of its epoch and message, and was not marked
  as a duplicate only if it made that commit. -/
  returned : ∀ r ∈ s.returns, ∃ e ∈ s.log, e.epoch = r.epoch ∧
    env.digest e.messageId = env.digest r.messageId ∧ r.outcome.results = e.results ∧
    (r.outcome.duplicate = false → e.serial = r.serial ∧ e.messageId = r.messageId)

/-- The invariant reads the journal, the commits and the returned calls only. -/
lemma JournalInv.of_eq (h : JournalInv env s) (hresults : s'.keys.results = s.keys.results)
    (hepoch : s'.epoch = s.epoch) (hlog : s'.log = s.log) (hreturns : s'.returns = s.returns) :
    JournalInv env s' := by
  constructor
  · rw [hresults, hepoch, hlog]
    exact h.origin
  · rw [hresults, hepoch, hlog]
    exact h.stored
  · rw [hepoch, hlog]
    exact h.epoch_le
  · rw [hlog]
    exact h.nodup
  · rw [hreturns, hlog]
    exact h.returned

section Steps

variable {w : ℕ} {call : Call} {scan : Option Scan} {l : LoadedView} {args : CommitArgs}

/-- A commit with status 0 adds its journal. -/
lemma JournalInv.committed (h : JournalInv env s)
    (hkey : args.inputKey = env.digest call.input.messageId)
    (hfree : s.keys.results args.inputKey = none) :
    JournalInv env (s.committed call l args) := by
  have hnew : ∀ e ∈ s.log, e.epoch = s.epoch → env.digest e.messageId ≠ args.inputKey := by
    intro e he hepoch hdigest
    have hstored := h.stored e he hepoch
    rw [hdigest, hfree] at hstored
    cases hstored
  constructor
  · intro key results hresults
    by_cases hcase : key = args.inputKey
    · subst hcase
      have heq : some args.journal = some results := by
        simpa [CheckoutState.committed, OrderKeys.write] using hresults
      refine ⟨s.commitRecord call l args, by simp [CheckoutState.committed], rfl, hkey.symm, ?_⟩
      exact Option.some.inj heq
    · have hold : s.keys.results key = some results := by
        simpa [CheckoutState.committed, OrderKeys.write, hcase] using hresults
      obtain ⟨e, he, hrest⟩ := h.origin key results hold
      exact ⟨e, List.mem_append_left _ he, hrest⟩
  · intro e he hepoch
    rcases List.mem_append.mp he with he | he
    · have hne := hnew e he hepoch
      have hold := h.stored e he hepoch
      simpa [CheckoutState.committed, OrderKeys.write, hne] using hold
    · cases List.mem_singleton.mp he
      have hmessage : (s.commitRecord call l args).messageId = call.input.messageId := rfl
      rw [hmessage, ← hkey]
      simp [CheckoutState.committed, OrderKeys.write, Commit.results, CheckoutState.commitRecord]
  · intro e he
    rcases List.mem_append.mp he with he | he
    · exact h.epoch_le e he
    · cases List.mem_singleton.mp he
      exact le_rfl
  · have hlog : (s.committed call l args).log = s.log ++ [s.commitRecord call l args] := rfl
    rw [hlog, List.map_append, List.nodup_append]
    refine ⟨h.nodup, by simp, ?_⟩
    intro a ha b hb hab
    obtain ⟨e, he, rfl⟩ := List.mem_map.mp ha
    cases List.mem_singleton.mp hb
    obtain ⟨hepoch, hmessage⟩ := Prod.mk.injEq .. ▸ hab
    refine hnew e he hepoch ?_
    rw [hmessage, hkey]
    rfl
  · intro r hr
    obtain ⟨e, he, hrest⟩ := h.returned r hr
    exact ⟨e, List.mem_append_left _ he, hrest⟩

/-- A call that returns the journal of a commit keeps the invariant. -/
lemma JournalInv.finish {outcome : Outcome} (h : JournalInv env s)
    (hcommit : ∃ e ∈ s.log, e.epoch = s.epoch ∧
      env.digest e.messageId = env.digest call.input.messageId ∧ outcome.results = e.results ∧
      (outcome.duplicate = false → e.serial = call.serial ∧ e.messageId = call.input.messageId)) :
    JournalInv env (s.finish w call scan outcome) := by
  refine ⟨h.origin, h.stored, h.epoch_le, h.nodup, fun r hr => ?_⟩
  rcases List.mem_append.mp hr with hr | hr
  · exact h.returned r hr
  · cases List.mem_singleton.mp hr
    exact hcommit

/-- Every step keeps the journal. -/
lemma JournalInv.step {a : Action} (h : JournalInv env s)
    (hstep : step env orderId s a = some s') : JournalInv env s' := by
  cases step_cases hstep with
  | committedLost w _ _ hargs hfree =>
    have hkey := (prepareCommit_inputKey hargs)
    exact (h.committed hkey hfree).of_eq rfl rfl rfl rfl
  | @committed w call scan l args _ _ _ hargs hfree =>
    have hkey := (prepareCommit_inputKey hargs)
    refine (h.committed hkey hfree).finish ?_
    exact ⟨s.commitRecord call l args, List.mem_append_right _ (List.mem_singleton_self _), rfl, rfl,
      rfl, fun _ => ⟨rfl, rfl⟩⟩
  | @replayed w call scan l args _ stored _ _ hargs hstored =>
    rw [prepareCommit_inputKey hargs] at hstored
    obtain ⟨e, he, hepoch, hdigest, hresults⟩ := h.origin _ _ hstored
    exact h.finish ⟨e, he, hepoch, hdigest, hresults.symm, fun hfalse => by cases hfalse⟩
  | orphanRemoved =>
    refine h.of_eq ?_ rfl rfl rfl
    exact removeOrphanDeadlineScript_results _
  | deadlineCompleted =>
    refine h.of_eq ?_ rfl rfl rfl
    exact completeDeadlineScript_results _ _
  | journalExpired =>
    refine ⟨?_, fun e he hepoch => ?_, fun e he => ?_, h.nodup, h.returned⟩
    · rintro key results ⟨⟩
    · have hle := h.epoch_le e he
      exact absurd hepoch (by simp only; omega)
    · exact (h.epoch_le e he).trans (Nat.le_succ _)
  | stopped | started | loaded | abandoned | scanned | orphaned | found | acquired
  | leaseFoundComplete | processed | published | leaseCompleted | leaseExpired =>
    exact h.of_eq rfl rfl rfl rfl

end Steps

/-- The journal of the empty store is empty. -/
lemma JournalInv.init : JournalInv env {} :=
  ⟨by rintro _ _ ⟨⟩, by rintro _ ⟨⟩, by rintro _ ⟨⟩, .nil, by rintro _ ⟨⟩⟩

/-- The journal agrees with the commits in every run. -/
theorem run_journal {actions : List Action} (h : runs env orderId actions = some s) :
    JournalInv env s :=
  StepSystem.run_invariant_of_step (fun _ _ _ => JournalInv.step) .init h

/-- For every run in which any number of callers pass inputs to `ApplyOrder`, with conflicts,
redeliveries and replies that are lost after a commit: while journals are unexpired there is at most
one commit for each message, every call that returns gives the journal of the commit of its message,
and it is marked as a duplicate unless it made that commit.  That journal is what the store holds
for the message until it expires. -/
theorem exactly_once_with_exact_replay (env : CheckoutEnv)
    (hdigest : Function.Injective env.digest) (orderId : String) (actions : List Action)
    (s : CheckoutState) (hrun : runs env orderId actions = some s) :
    (s.log.map fun e => (e.epoch, e.messageId)).Nodup ∧
    (∀ e ∈ s.log, e.epoch = s.epoch →
      s.keys.results (env.digest e.messageId) = some e.results) ∧
    ∀ r ∈ s.returns, ∃ e ∈ s.log, e.epoch = r.epoch ∧ e.messageId = r.messageId ∧
      r.outcome.results = e.results ∧ (r.outcome.duplicate = false → e.serial = r.serial) := by
  have h := run_journal hrun
  refine ⟨h.nodup, h.stored, fun r hr => ?_⟩
  obtain ⟨e, he, hepoch, hmessage, hresults, hduplicate⟩ := h.returned r hr
  exact ⟨e, he, hepoch, hdigest hmessage, hresults, fun hfalse => (hduplicate hfalse).1⟩

/-- The sample input is committed once although the reply is lost and the input redelivered, and
both calls return the journal as duplicates. -/
theorem redelivered_submit_replayed :
    ∃ s, runs Sample.env Sample.orderId Sample.redeliveredRun = some s ∧
      s.returns.map (fun r => (r.messageId, r.outcome.duplicate)) =
        [("submit", true), ("submit", true)] ∧
      s.log.length = 1 ∧
      (∀ r ∈ s.returns, ∃ e ∈ s.log, e.epoch = r.epoch ∧ e.messageId = r.messageId ∧
        r.outcome.results = e.results ∧ (r.outcome.duplicate = false → e.serial = r.serial)) := by
  have hrun : (runs Sample.env Sample.orderId Sample.redeliveredRun).map (fun s =>
      (s.returns.map (fun r => (r.messageId, r.outcome.duplicate)), s.log.length)) =
      some ([("submit", true), ("submit", true)], 1) := by
    decide +kernel
  obtain ⟨s, hs, hfacts⟩ := Option.map_eq_some_iff.mp hrun
  simp only [Prod.mk.injEq] at hfacts
  exact ⟨s, hs, hfacts.1, hfacts.2,
    (exactly_once_with_exact_replay Sample.env (fun _ _ h => h) _ _ s hs).2.2⟩

end Boutique
