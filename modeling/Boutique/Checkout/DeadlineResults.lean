import Boutique.Checkout.DeadlineIndex
import Boutique.Checkout.Replay

/-!
# The results of a fired deadline

The commit of a deadline input keeps the order's member of the sorted set and its record, so that a
later scan publishes the journalled results if this one does not come to it.  Commits of other
inputs choose the deadline mode from the saga alone, and the saga of a fired deadline has none: such
a commit removes the member and the record although the results are not published.  `Kept` is the
invariant of a fired deadline until that happens.
-/

namespace Boutique

variable {env : CheckoutEnv} {orderId : String} {s s' : CheckoutState}

/-! ## Fired deadlines -/

/-- The commit `e` of a deadline input is journalled with results that no `claimDeadline` has
published yet. -/
structure Pending (s : CheckoutState) (e : Commit) : Prop where
  mem : e ∈ s.log
  epoch : e.epoch = s.epoch
  deadline : e.input.envelope.messageType = deadlineMessageType
  results : e.results ≠ []
  unpublished : ∀ record, (record, e.results) ∉ s.published

/-- A scan finds the order's member, its record leads to the journal of `e`, and the journal holds
the results of `e`. -/
def Discoverable (env : CheckoutEnv) (s : CheckoutState) (e : Commit) : Prop :=
  ∃ record, s.keys.score = some (unixMilli record.deadline) ∧ s.keys.deadline = some record ∧
    record.workId = e.messageId ∧ s.keys.results (env.digest record.workId) = some e.results

/-- While the results of a fired deadline are not published, only deadline inputs are committed with
status 0. -/
def OnlyDeadlinesWhilePending (env : CheckoutEnv) (orderId : String) (s : CheckoutState)
    (a : Action) : Prop :=
  (∃ e, Pending s e) → ∀ call l, Commits env orderId s a call l →
    call.input.envelope.messageType = deadlineMessageType

/-- The worker does not throw away the results of the deadline with this work ID. -/
def Worker.Spares (workId : String) (results : List ResultMessage) : Worker → Prop
  | .publishing scan results' => scan.record.workId = workId → results' = results
  | .published scan => scan.record.workId ≠ workId
  | .completing record => record.workId ≠ workId
  | _ => True

/-- The fired deadline `e` is discoverable, and no worker is about to change that. -/
structure Kept (env : CheckoutEnv) (s : CheckoutState) (e : Commit) (record : DeadlineRecord) :
    Prop where
  score : s.keys.score = some (unixMilli record.deadline)
  record_eq : s.keys.deadline = some record
  work_id : record.workId = e.messageId
  journal : s.keys.results (env.digest record.workId) = some e.results
  workers : ∀ w, (s.workers w).Spares record.workId e.results
  lease : (s.leases (env.digest record.workId)).completed = false

/-- Every fired deadline is kept. -/
def PendingInv (env : CheckoutEnv) (s : CheckoutState) : Prop :=
  ∀ e, Pending s e → ∃ record, Kept env s e record

section Steps

variable {e : Commit} {record : DeadlineRecord} {w : ℕ} {call : Call} {scan : Option Scan}
  {worker : Worker} {l : LoadedView} {args : CommitArgs}

/-! ## Steps that keep a fired deadline -/

/-- What is pending after a step that adds no commit was pending before. -/
lemma Pending.of_step (h : Pending s' e) (hlog : e ∈ s.log) (hjournal : JournalInv env s)
    (hepoch : s.epoch ≤ s'.epoch) (hpublished : ∀ p ∈ s.published, p ∈ s'.published) :
    Pending s e := by
  have hle := hjournal.epoch_le e hlog
  have heq := h.epoch
  refine ⟨hlog, by omega, h.deadline, h.results, fun r hr => h.unpublished r (hpublished _ hr)⟩

/-- A step of a worker that leaves the keys alone keeps a fired deadline, if the worker spares it
and its lease is not completed. -/
lemma Kept.of_update (h : Kept env s e record) (hkeys : s'.keys = s.keys)
    (hworkers : s'.workers = Function.update s.workers w worker)
    (hlease : (s'.leases (env.digest record.workId)).completed = false)
    (hworker : worker.Spares record.workId e.results) : Kept env s' e record := by
  constructor
  · rw [hkeys]
    exact h.score
  · rw [hkeys]
    exact h.record_eq
  · exact h.work_id
  · rw [hkeys]
    exact h.journal
  · intro v
    rw [hworkers]
    by_cases hv : v = w
    · subst hv
      rw [Function.update_self]
      exact hworker
    · rw [Function.update_of_ne hv]
      exact h.workers v
  · exact hlease

/-- The lease of a fired deadline is not completed after a lease was changed, unless it is the
changed one. -/
lemma Kept.lease_update {key : String} {hash : LeaseHash} (h : Kept env s e record)
    (hlease : env.digest record.workId = key → hash.completed = false) :
    (Function.update s.leases key hash (env.digest record.workId)).completed = false := by
  by_cases hkey : env.digest record.workId = key
  · rw [hkey, Function.update_self]
    exact hlease hkey
  · rw [Function.update_of_ne hkey]
    exact h.lease

/-- A returned call spares the fired deadline, if it returned the journal of its input. -/
lemma Worker.Spares.returned {workId : String} {results stored : List ResultMessage}
    (h : ∀ sc, scan = some sc → sc.record.workId = workId → stored = results) :
    (Worker.returned scan stored).Spares workId results := by
  cases scan with
  | none => trivial
  | some sc => exact h sc rfl

/-- An abandoned attempt spares every fired deadline. -/
lemma Worker.Spares.abandoned {workId : String} {results : List ResultMessage}
    (h : Abandoned call scan worker) : worker.Spares workId results := by
  cases h with
  | idle => trivial
  | next => trivial

/-- The commit of a deadline input keeps the member and the record. -/
lemma prepareCommit_keep {input : OrderInput} {now : Time} {view : OrderView}
    (hargs : prepareCommit env orderId input now view = .ok args)
    (htype : input.envelope.messageType = deadlineMessageType) : args.deadline = .keep := by
  rw [(prepareCommit_prepared hargs).deadline]
  exact if_pos htype

/-- The commit of another deadline input keeps a fired deadline. -/
lemma Kept.committed (h : Kept env s e record)
    (hargs : prepareCommit env orderId call.input call.now l.view = .ok args)
    (hfree : s.keys.results args.inputKey = none)
    (htype : call.input.envelope.messageType = deadlineMessageType) :
    Kept env (s.committed call l args) e record := by
  have hmode := prepareCommit_keep hargs htype
  have hne : env.digest record.workId ≠ args.inputKey := by
    intro heq
    have hstored := h.journal
    rw [heq, hfree] at hstored
    cases hstored
  refine ⟨?_, ?_, h.work_id, ?_, h.workers, h.lease⟩
  · simpa [CheckoutState.committed, OrderKeys.write, hmode] using h.score
  · simpa [CheckoutState.committed, OrderKeys.write, hmode] using h.record_eq
  · simpa [CheckoutState.committed, OrderKeys.write, hne] using h.journal

/-! ## Firing -/

/-- A deadline input that is committed with results fires the deadline of the stored saga. -/
lemma Kept.fired (hfree : CollisionFree env orderId) (h : DeadlineInv env orderId s)
    (hcommit : HistoryStep env orderId s.log s.keys.view (s.commitRecord call l args))
    (hworker : s.workers w = .applying call scan)
    (htype : call.input.envelope.messageType = deadlineMessageType)
    (hresults : (s.commitRecord call l args).results ≠ []) :
    ∃ record, Kept env (s.committed call l args) (s.commitRecord call l args) record := by
  have hcall : CallOk env orderId s.keys.view call scan := by
    have hw := h.workers w
    rw [hworker] at hw
    exact hw
  cases scan with
  | none => exact absurd htype hcall.1
  | some sc =>
    obtain ⟨hinput, hseen, -, -⟩ := hcall
    obtain ⟨saga, hsaga, hversion, hdue⟩ : ∃ saga, s.keys.view.saga = some saga ∧
        saga.version = sc.record.version ∧ saga.deadline = sc.record.deadline := by
      rcases hcommit.deadline_cases (e := s.commitRecord call l args) hinput with
        ⟨-, -, hempty⟩ | ⟨-, -, -, hempty, -⟩ | ⟨t, ht, hversion, hdue, -⟩
      · exact absurd hempty hresults
      · exact absurd hempty hresults
      · obtain ⟨u, hu, hcore⟩ := hcommit.core_eq ht
        exact ⟨u, hu, (OrderSaga.eq_of_core OrderSaga.version (fun _ => rfl) hcore).trans hversion,
          (OrderSaga.eq_of_core OrderSaga.deadline (fun _ => rfl) hcore).trans hdue⟩
    have hconsistent := hcommit.history.consistent
    have hstored : saga.version = s.keys.view.version := hconsistent.version_eq saga hsaga
    obtain ⟨hscore, hrecord⟩ := h.index saga hsaga (hdue ▸ hseen.formed.deadline_ne_zero)
    have hwork : (newDeadlineRecord env saga).workId =
        deadlineWorkId env orderId saga.version (unixMilli saga.deadline) := by
      rw [newDeadlineRecord, hconsistent.order_id saga hsaga]
    have hid : (newDeadlineRecord env saga).workId = call.input.messageId := by
      rw [hwork, hversion, hdue, hinput]
      exact hseen.formed.work_id.symm
    -- a worker that has passed the record knows of a larger version
    have hspared : ∀ r : DeadlineRecord, r.Passed env orderId s.keys.view →
        r.workId ≠ (newDeadlineRecord env saga).workId := by
      intro r hpassed heq
      have hsame := hpassed.formed.version_eq hfree (heq.trans hwork)
      have hlt := hpassed.version_lt
      omega
    have hmode : args.deadline = .keep := prepareCommit_keep hcommit.valid.prepared htype
    refine ⟨newDeadlineRecord env saga, ?_, ?_, hid, ?_, fun v => ?_, ?_⟩
    · simpa [CheckoutState.committed, OrderKeys.write, hmode, newDeadlineRecord] using hscore
    · simpa [CheckoutState.committed, OrderKeys.write, hmode] using hrecord
    · have hkey : args.inputKey = env.digest call.input.messageId :=
        prepareCommit_inputKey hcommit.valid.prepared
      rw [hid, ← hkey]
      simp [CheckoutState.committed, OrderKeys.write, Commit.results, CheckoutState.commitRecord]
    · have hv := h.workers v
      change (s.workers v).Spares _ _
      generalize s.workers v = worker at hv ⊢
      cases worker with
      | publishing scan results => exact fun heq => absurd heq (hspared _ hv.1)
      | published scan => exact hspared _ hv.1
      | completing record => exact hspared _ hv
      | idle | applying | due | orphan | found | acquired => trivial
    · rw [hwork, ← Bool.not_eq_true]
      intro hcomplete
      have hlt := h.leases _ _ hcomplete
      omega

/-- A commit with status 0 keeps every fired deadline, the one that it fires included. -/
lemma PendingInv.committed (hfree : CollisionFree env orderId) (hhistory : HistoryInv env orderId s)
    (hjournal : JournalInv env s) (hdeadlines : DeadlineInv env orderId s) (h : PendingInv env s)
    (hworker : s.workers w = .applying call scan) (hloaded : call.loaded = some l)
    (hargs : prepareCommit env orderId call.input call.now l.view = .ok args)
    (hnew : s.keys.results args.inputKey = none) (hversion : s.keys.view.version = args.expected)
    (htype : (∃ e, Pending s e) → call.input.envelope.messageType = deadlineMessageType) :
    PendingInv env (s.committed call l args) := by
  intro e he
  rcases List.mem_append.mp he.mem with hmem | hmem
  · have hpending : Pending s e := he.of_step hmem hjournal le_rfl fun _ hp => hp
    obtain ⟨record, hkept⟩ := h e hpending
    exact ⟨record, hkept.committed hargs hnew (htype ⟨e, hpending⟩)⟩
  · cases List.mem_singleton.mp hmem
    exact Kept.fired hfree hdeadlines (hhistory.historyStep hworker hloaded hargs hversion) hworker
      he.deadline he.results

/-- A step that commits nothing keeps every fired deadline, if it keeps each of them. -/
lemma PendingInv.of_kept (hjournal : JournalInv env s) (h : PendingInv env s)
    (hlog : s'.log = s.log) (hepoch : s.epoch ≤ s'.epoch)
    (hpublished : ∀ p ∈ s.published, p ∈ s'.published)
    (hkept : ∀ e record, Pending s' e → Kept env s e record → Kept env s' e record) :
    PendingInv env s' := by
  intro e he
  have hpending : Pending s e := he.of_step (hlog ▸ he.mem) hjournal hepoch hpublished
  obtain ⟨record, hrecord⟩ := h e hpending
  exact ⟨record, hkept e record he hrecord⟩

/-- Every step that meets the condition keeps every fired deadline. -/
lemma PendingInv.step {a : Action} (hfree : CollisionFree env orderId)
    (hhistory : HistoryInv env orderId s) (hjournal : JournalInv env s)
    (hdeadlines : DeadlineInv env orderId s) (h : PendingInv env s)
    (hok : OnlyDeadlinesWhilePending env orderId s a)
    (hstep : step env orderId s a = some s') : PendingInv env s' := by
  cases step_cases hstep with
  | stopped w | started w | loaded w | scanned w | orphaned w | found w | processed w =>
    exact h.of_kept hjournal rfl le_rfl (fun _ hp => hp) fun e record _ hkept =>
      hkept.of_update rfl rfl hkept.lease trivial
  | abandoned w _ hnext =>
    exact h.of_kept hjournal rfl le_rfl (fun _ hp => hp) fun e record _ hkept =>
      hkept.of_update rfl rfl hkept.lease (.abandoned hnext)
  | @committedLost w call scan l args delivery _ hworker hloaded hargs hnew hversion hran hnext =>
    have hinv := h.committed hfree hhistory hjournal hdeadlines hworker hloaded hargs hnew hversion
      fun hpending => hok hpending call l (.of_ran hworker hloaded hargs hnew hversion hran)
    intro e he
    obtain ⟨record, hkept⟩ := hinv e ⟨he.mem, he.epoch, he.deadline, he.results, he.unpublished⟩
    exact ⟨record, hkept.of_update rfl rfl hkept.lease (.abandoned hnext)⟩
  | @committed w call scan l args delivery hworker hloaded hargs hnew hversion hran =>
    have hinv := h.committed hfree hhistory hjournal hdeadlines hworker hloaded hargs hnew hversion
      fun hpending => hok hpending call l (.of_ran hworker hloaded hargs hnew hversion hran)
    intro e he
    obtain ⟨record, hkept⟩ := hinv e ⟨he.mem, he.epoch, he.deadline, he.results, he.unpublished⟩
    refine ⟨record, hkept.of_update rfl rfl hkept.lease (.returned fun sc hsc hwork => ?_)⟩
    -- the call publishes what it journalled, and the journal has it under the work ID
    have hid : call.input.messageId = sc.record.workId := by
      have hw := hdeadlines.workers w
      rw [hworker, hsc] at hw
      rw [hw.1]
      rfl
    have hstored := hkept.journal
    rw [← hwork, ← hid, ← prepareCommit_inputKey hargs] at hstored
    simpa [CheckoutState.committed, OrderKeys.write] using hstored
  | @replayed w call scan l args _ stored hworker hloaded hargs hstored =>
    refine h.of_kept hjournal rfl le_rfl (fun _ hp => hp) fun e record _ hkept =>
      hkept.of_update rfl rfl hkept.lease (.returned fun sc hsc hwork => ?_)
    have hid : call.input.messageId = sc.record.workId := by
      have hw := hdeadlines.workers w
      rw [hworker, hsc] at hw
      rw [hw.1]
      rfl
    rw [prepareCommit_inputKey hargs, hid, hwork, hkept.journal] at hstored
    exact (Option.some.inj hstored).symm
  | orphanRemoved w =>
    refine h.of_kept hjournal rfl le_rfl (fun _ hp => hp) fun e record _ hkept =>
      hkept.of_update ?_ rfl hkept.lease trivial
    simp [removeOrphanDeadlineScript, hkept.record_eq]
  | @acquired w now record lease hash hworker hlease hhash =>
    refine h.of_kept hjournal rfl le_rfl (fun _ hp => hp) fun e r _ hkept =>
      hkept.of_update rfl rfl (hkept.lease_update fun hkey => ?_) trivial
    rw [hhash, ← hkey]
    exact hkept.lease
  | @leaseFoundComplete w now record hworker hcomplete =>
    refine h.of_kept hjournal rfl le_rfl (fun _ hp => hp) fun e r _ hkept =>
      hkept.of_update rfl rfl hkept.lease fun hwork => ?_
    rw [hwork, hkept.lease] at hcomplete
    cases hcomplete
  | @published w scan results hworker =>
    refine h.of_kept hjournal rfl le_rfl (fun p hp => List.mem_append_left _ hp)
      fun e record he hkept => hkept.of_update rfl rfl hkept.lease fun hwork => ?_
    -- publishing the results of this deadline ends its pending state
    have hw := hkept.workers w
    rw [hworker] at hw
    refine he.unpublished scan.record (List.mem_append_right _ ?_)
    rw [hw hwork]
    exact List.mem_singleton_self _
  | @leaseCompleted w now scan hash hworker =>
    refine h.of_kept hjournal rfl le_rfl (fun _ hp => hp) fun e record _ hkept => ?_
    have hspares : scan.record.workId ≠ record.workId := by
      have hw := hkept.workers w
      rw [hworker] at hw
      exact hw
    have hleased : scan.lease.workId = scan.record.workId := by
      have hw := hdeadlines.workers w
      rw [hworker] at hw
      exact hw.2
    exact hkept.of_update rfl rfl (hkept.lease_update fun hkey =>
      absurd (hleased.symm.trans (hfree.digest hkey).symm) hspares) hspares
  | @deadlineCompleted w record hworker =>
    refine h.of_kept hjournal rfl le_rfl (fun _ hp => hp) fun e r _ hkept =>
      hkept.of_update ?_ rfl hkept.lease trivial
    have hspares : record.workId ≠ r.workId := by
      have hw := hkept.workers w
      rw [hworker] at hw
      exact hw
    have hne : r ≠ record := by
      rintro rfl
      exact hspares rfl
    simp [completeDeadlineScript, hkept.record_eq, hne]
  | journalExpired =>
    intro e he
    have hle := hjournal.epoch_le e he.mem
    have hepoch : e.epoch = s.epoch + 1 := he.epoch
    omega
  | leaseExpired workId =>
    exact h.of_kept hjournal rfl le_rfl (fun _ hp => hp) fun e record _ hkept =>
      ⟨hkept.score, hkept.record_eq, hkept.work_id, hkept.journal, hkept.workers,
        hkept.lease_update fun _ => rfl⟩

end Steps

/-- In every run in which, while the results of a fired deadline are unpublished, only deadline
inputs are committed: the results of every fired deadline stay discoverable until they are
published. -/
theorem fired_deadline_discoverable (env : CheckoutEnv) (orderId : String)
    (hfree : CollisionFree env orderId) (actions : List Action) (s : CheckoutState)
    (hrun : runs env orderId actions = some s)
    (hdelivery : StepSystem.Along (step env orderId) (fun _ a => BrokerDelivery env orderId a) {}
      actions)
    (hok : StepSystem.Along (step env orderId) (OnlyDeadlinesWhilePending env orderId) {} actions) :
    ∀ e, Pending s e → Discoverable env s e := by
  have hinv := StepSystem.run_invariant (I := fun s => (HistoryInv env orderId s ∧
      JournalInv env s) ∧ DeadlineInv env orderId s ∧ PendingInv env s)
    (fun s a s' h hok hstep =>
      ⟨⟨h.1.1.step hstep, h.1.2.step hstep⟩, h.2.1.step hfree h.1.1 hok.1 hstep,
        h.2.2.step hfree h.1.1 h.1.2 h.2.1 hok.2 hstep⟩)
    ⟨⟨.init, .init⟩, .init, fun e he => by cases he.mem⟩
    (hdelivery.and hok) hrun
  intro e he
  obtain ⟨record, hkept⟩ := hinv.2.2 e he
  exact ⟨record, hkept.score, hkept.record_eq, hkept.work_id, hkept.journal⟩

/-- Whether an action commits the input of a call only if that is a deadline input or no deadline
input was committed before. -/
def commitsDeadlinesLast (s : CheckoutState) : Action → Bool
  | .commit w _ =>
    match s.workers w with
    | .applying call _ => call.input.envelope.messageType == deadlineMessageType ||
        s.log.all fun e => e.input.envelope.messageType != deadlineMessageType
    | _ => true
  | _ => true

/-- Such an action meets the condition. -/
lemma onlyDeadlinesWhilePending_of {a : Action} (h : commitsDeadlinesLast s a = true) :
    OnlyDeadlinesWhilePending env orderId s a := by
  rintro ⟨e, he⟩ call l hcommits
  obtain ⟨w, delivery, rfl, ⟨scan, hworker⟩, -⟩ := hcommits.action
  simp only [commitsDeadlinesLast, hworker, Bool.or_eq_true, beq_iff_eq, List.all_eq_true,
    bne_iff_ne] at h
  rcases h with h | h
  · exact h
  · exact absurd he.deadline (h e he.mem)

namespace Sample

/-- The deadline of the order fires, and the scanner fails before it publishes the results. -/
def firedRun : List Action :=
  handle 0 submit ++ [.scan 1 late, .loadDeadline 1, .acquire 1, .process 1 late, .load 1,
    .commit 1 .delivered, .fail 1]

/-- A late event of the order is handled after that. -/
def lateEventRun : List Action := firedRun ++ handle 0 quoted

/-- Whether the results of a fired deadline are journalled and nothing was published. -/
def hasFired (s : CheckoutState) : Bool :=
  s.published.isEmpty && s.log.any fun e =>
    decide (e.epoch = s.epoch) && decide (e.input.envelope.messageType = deadlineMessageType) &&
      !e.results.isEmpty

/-- Then there is a pending deadline. -/
lemma exists_pending {s : CheckoutState} (h : hasFired s = true) : ∃ e, Pending s e := by
  simp only [hasFired, Bool.and_eq_true, List.isEmpty_iff, List.any_eq_true, decide_eq_true_eq,
    Bool.not_eq_true', List.isEmpty_eq_false_iff] at h
  obtain ⟨hpublished, e, he, ⟨hepoch, htype⟩, hresults⟩ := h
  refine ⟨e, he, hepoch, htype, hresults, fun record hmem => ?_⟩
  rw [hpublished] at hmem
  cases hmem

end Sample

/-- The results of the deadline that fired without being published are discoverable. -/
theorem fired_sample_discoverable :
    ∃ s e, runs Sample.env Sample.orderId Sample.firedRun = some s ∧ Pending s e ∧
      Discoverable Sample.env s e := by
  have hrun : (runs Sample.env Sample.orderId Sample.firedRun).map Sample.hasFired =
      some true := by
    decide +kernel
  obtain ⟨s, hs, hfired⟩ := Option.map_eq_some_iff.mp hrun
  obtain ⟨e, he⟩ := Sample.exists_pending hfired
  have hdelivers : ∀ a ∈ Sample.firedRun, Sample.delivers a = true := by decide +kernel
  have hok : StepSystem.Along (step Sample.env Sample.orderId)
      (OnlyDeadlinesWhilePending Sample.env Sample.orderId) {} Sample.firedRun := by
    refine StepSystem.Along.mono (P := fun s a => commitsDeadlinesLast s a = true)
      (fun _ _ => onlyDeadlinesWhilePending_of) ?_
    decide +kernel
  exact ⟨s, e, hs, he, fired_deadline_discoverable _ _ Sample.collisionFree _ s hs
    (StepSystem.Along.of_forall (fun a ha _ => Sample.brokerDelivery (hdelivers a ha)) _) hok e he⟩

/-- A late event removes the member and the record of the fired deadline although its results are
not published: no scan finds them any more. -/
theorem late_event_hides_results :
    ∃ s, runs Sample.env Sample.orderId Sample.lateEventRun = some s ∧
      (∀ a ∈ Sample.lateEventRun, BrokerDelivery Sample.env Sample.orderId a) ∧
      s.keys.score = none ∧ s.keys.deadline = none ∧
      ∃ e, Pending s e ∧ ¬ Discoverable Sample.env s e := by
  have hrun : (runs Sample.env Sample.orderId Sample.lateEventRun).map (fun s =>
      (Sample.hasFired s, s.keys.score, s.keys.deadline)) = some (true, none, none) := by
    decide +kernel
  obtain ⟨s, hs, hfacts⟩ := Option.map_eq_some_iff.mp hrun
  simp only [Prod.mk.injEq] at hfacts
  obtain ⟨hfired, hscore, hdeadline⟩ := hfacts
  obtain ⟨e, he⟩ := Sample.exists_pending hfired
  have hdelivers : ∀ a ∈ Sample.lateEventRun, Sample.delivers a = true := by decide +kernel
  refine ⟨s, hs, fun a ha => Sample.brokerDelivery (hdelivers a ha), hscore, hdeadline, e, he, ?_⟩
  rintro ⟨record, -, hrecord, -⟩
  cases hdeadline.symm.trans hrecord

end Boutique
