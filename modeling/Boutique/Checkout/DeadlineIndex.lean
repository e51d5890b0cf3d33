import Boutique.Checkout.Flow

/-!
# The deadline index

Five scripts write the stored saga, the order's member of the deadline sorted set and its
`:deadline` record, with arguments that were read at different times.  `DeadlineInv` is the
invariant that keeps them together.  Its core is a statement about versions: a record that is held
anywhere is at most as new as the stored order, and whoever has passed the processing of a record,
or finds its lease complete or its results journalled, knows that the order has a larger version by
now.  So a scanner can only remove a record that no longer belongs to a waiting order.
-/

namespace Boutique

open OptimisticRegister

variable {env : CheckoutEnv} {orderId : String}

/-! ## Assumptions about the environment -/

/-- The hashes do not collide where the deadline index relies on it. -/
structure CollisionFree (env : CheckoutEnv) (orderId : String) : Prop where
  digest : Function.Injective env.digest
  workId : ∀ version millis version' millis', deadlineWorkId env orderId version millis =
    deadlineWorkId env orderId version' millis' → version = version'

/-- The inputs that the message broker delivers: their type is not the one of the synthetic deadline
input, and their message IDs are not deadline work IDs. -/
def BrokerDelivery (env : CheckoutEnv) (orderId : String) : Action → Prop
  | .deliver _ input _ => input.envelope.messageType ≠ deadlineMessageType ∧
      ∀ version millis, input.messageId ≠ deadlineWorkId env orderId version millis
  | _ => True

/-- The clock is far enough from the zero time for adding any `time.Duration` to it. -/
def ClockReading : Action → Prop
  | .deliver _ _ now => 2 ^ 63 < now
  | .process _ now => 2 ^ 63 < now
  | _ => True

/-- A clock reading can be checked. -/
instance : DecidablePred ClockReading
  | .deliver _ _ now => inferInstanceAs (Decidable ((2 ^ 63 : ℤ) < now))
  | .process _ now => inferInstanceAs (Decidable ((2 ^ 63 : ℤ) < now))
  | .load _ | .commit _ _ | .scan _ _ | .loadDeadline _ | .removeOrphan _ | .acquire _
  | .publish _ | .completeLease _ _ | .completeDeadline _ | .fail _ | .expireJournal
  | .expireLease _ => inferInstanceAs (Decidable True)

/-! ## Deadline records -/

/-- The record is one that `newDeadlineRecord` makes for the order. -/
structure DeadlineRecord.Formed (env : CheckoutEnv) (orderId : String) (record : DeadlineRecord) :
    Prop where
  order_id : record.orderId = orderId
  version_ne_zero : record.version ≠ 0
  deadline_ne_zero : record.deadline ≠ 0
  work_id : record.workId =
    deadlineWorkId env orderId record.version (unixMilli record.deadline)

/-- The record was made for the order at some earlier time: its version is not larger than the
stored one, and at the same version it has the stored deadline. -/
structure DeadlineRecord.Seen (env : CheckoutEnv) (orderId : String) (view : OrderView)
    (record : DeadlineRecord) : Prop where
  formed : record.Formed env orderId
  version_le : record.version ≤ view.version
  deadline_eq : record.version = view.version → ∀ s, view.saga = some s →
    s.deadline = record.deadline

/-- The deadline index of a stored saga with a deadline. -/
def IndexOk (env : CheckoutEnv) (keys : OrderKeys) : Prop :=
  ∀ s, keys.view.saga = some s → s.deadline ≠ 0 →
    keys.score = some (unixMilli s.deadline) ∧ keys.deadline = some (newDeadlineRecord env s)

/-- A record with the work ID of another has its version. -/
lemma DeadlineRecord.Formed.version_eq {r : DeadlineRecord} {version : ℕ} {millis : ℤ}
    (hfree : CollisionFree env orderId) (h : r.Formed env orderId)
    (heq : r.workId = deadlineWorkId env orderId version millis) : version = r.version :=
  (hfree.workId _ _ _ _ (h.work_id.symm.trans heq)).symm

/-- A record stays a seen one when the order goes on. -/
lemma DeadlineRecord.Seen.mono {u v : OrderView} {r : DeadlineRecord} (h : r.Seen env orderId u)
    (hfresh : Fresh OrderView.version OrderView.Similar u v) : r.Seen env orderId v := by
  refine ⟨h.formed, h.version_le.trans hfresh.1, fun heq t ht => ?_⟩
  have hle := h.version_le
  have hversion : u.version = v.version := le_antisymm hfresh.1 (heq ▸ hle)
  have hcore := (hfresh.2 hversion).saga_core
  rw [ht, Option.map_some] at hcore
  obtain ⟨s, hs, hst⟩ := Option.map_eq_some_iff.mp hcore
  have hdeadline : s.deadline = t.deadline :=
    OrderSaga.eq_of_core OrderSaga.deadline (fun _ => rfl) hst
  rw [← hdeadline]
  exact h.deadline_eq (heq.trans hversion.symm) s hs

/-- The record of a stored saga with a deadline is a seen one. -/
lemma newDeadlineRecord_seen {v : OrderView} {s : OrderSaga} (hv : v.Consistent orderId)
    (hs : v.saga = some s) (hdeadline : s.deadline ≠ 0) :
    (newDeadlineRecord env s).Seen env orderId v := by
  have hid := hv.order_id s hs
  have hversion := hv.version_eq s hs
  refine ⟨⟨hid, ?_, hdeadline, ?_⟩, hversion.le, fun _ t ht => ?_⟩
  · have hpos := hv.version_pos s hs
    simp only [newDeadlineRecord]
    omega
  · simp only [newDeadlineRecord, hid]
  · cases hs.symm.trans ht
    rfl

/-- The record depends on the core of the saga only. -/
lemma newDeadlineRecord_core {s t : OrderSaga} (h : s.core = t.core) :
    newDeadlineRecord env s = newDeadlineRecord env t :=
  OrderSaga.eq_of_core (newDeadlineRecord env) (fun _ => rfl) h

/-! ## Commits of deadline inputs -/

section Commits

variable {log : List Commit} {v : OrderView} {e : Commit} {keys : OrderKeys}

/-- What the commit of a deadline input can do: nothing without a saga, nothing on a saga that does
not match, or the timeout. -/
lemma HistoryStep.deadline_cases {version : ℕ} {due : Time} {inputId : String}
    (h : HistoryStep env orderId log v e) (hinput : e.input = .deadline orderId version due inputId) :
    (e.loaded.saga = none ∧ e.after.saga = none ∧ e.results = []) ∨
    (∃ s, e.loaded.saga = some s ∧ e.after.saga = some s ∧ e.results = [] ∧
      (s.version = version → s.deadline ≠ due)) ∨
    (∃ s, e.loaded.saga = some s ∧ s.version = version ∧ s.deadline = due ∧
      e.after.saga = some (OrderSaga.close { s with version := s.version + 1 } .manualReview)) := by
  have hmove := h.move
  generalize hafter : e.after.saga = after at hmove
  generalize hresults : e.results = results at hmove
  cases hmove with
  | absent horder => exact .inl ⟨by simpa using horder, rfl, rfl⟩
  | idle horder _ hmiss =>
    exact .inr (.inl ⟨_, by simpa using horder, rfl, rfl, hmiss _ _ _ _ hinput⟩)
  | timedOut hinput' horder hversion hdue =>
    cases hinput.symm.trans hinput'
    exact .inr (.inr ⟨_, by simpa using horder, hversion, hdue, rfl⟩)
  | rejected hinput' | accepted hinput' | quoted hinput' | cancelled hinput' | authorized hinput'
  | shipped hinput' | completed hinput' | compensating hinput' | acknowledged hinput'
  | compensated hinput' | reviewed hinput' =>
    cases hinput.symm.trans hinput'

/-- The stored view after a commit is consistent. -/
lemma HistoryStep.after_consistent (h : HistoryStep env orderId log v e) :
    e.after.Consistent orderId :=
  h.valid.consistent h.loaded_consistent h.history.consistent

/-- The stored view after a commit is fresh. -/
lemma HistoryStep.after_fresh (h : HistoryStep env orderId log v e) :
    Fresh OrderView.version OrderView.Similar v e.after :=
  h.valid.fresh h.loaded_consistent h.similar h.version_eq

/-- Once the deadline input of a record is committed, the order has passed its version. -/
lemma HistoryStep.passed {record : DeadlineRecord} (h : HistoryStep env orderId log v e)
    (hinput : e.input = record.input orderId) (hseen : record.Seen env orderId e.loaded) :
    record.version < e.after.version := by
  have hle := hseen.version_le
  have hmono := h.after_fresh.1
  have hversion := h.version_eq
  rcases h.deadline_cases hinput with ⟨hs, -, -⟩ | ⟨s, hs, -, -, hmiss⟩ | ⟨s, hs, hmatch, -, hafter⟩
  · have hzero := h.loaded_consistent.version_zero hs
    have hne := hseen.formed.version_ne_zero
    omega
  · have hs' := h.loaded_consistent.version_eq s hs
    have hne : record.version ≠ e.loaded.version := fun heq =>
      hmiss (hs'.trans heq.symm) (hseen.deadline_eq heq s hs)
    omega
  · have hafter' := h.after_consistent.version_eq _ hafter
    simp only [OrderSaga.close] at hafter'
    omega

/-- A commit keeps the deadline index of the stored saga. -/
lemma HistoryStep.index (h : HistoryStep env orderId log v e) (hview : keys.view = v)
    (htyped : e.input.envelope.messageType = deadlineMessageType →
      ∃ version due inputId, e.input = .deadline orderId version due inputId)
    (hindex : IndexOk env keys) : IndexOk env (keys.write e.args) := by
  have hp := prepareCommit_prepared h.valid.prepared
  intro s hs hdeadline
  have hafter : e.after.saga = some s := by
    rw [Commit.after, h.valid.before_eq, ← hview]
    exact hs
  have hsaga : e.args.saga = some s := h.after_saga.symm.trans hafter
  have hmode := hp.deadline
  rw [hsaga, deadlineMode] at hmode
  by_cases htype : e.input.envelope.messageType = deadlineMessageType
  · -- the member and the record are kept, and so is everything they depend on
    rw [if_pos htype] at hmode
    obtain ⟨version, due, inputId, hinput⟩ := htyped htype
    have hkept : (keys.write e.args).score = keys.score ∧
        (keys.write e.args).deadline = keys.deadline := by
      simp [OrderKeys.write, hmode]
    rw [hkept.1, hkept.2]
    rcases h.deadline_cases hinput with ⟨-, hnone, -⟩ | ⟨s', hs', hsame, -, -⟩ | ⟨s', -, -, -, hclosed⟩
    · cases hafter.symm.trans hnone
    · cases hafter.symm.trans hsame
      obtain ⟨t, ht, hcore⟩ := h.core_eq hs'
      have heq : t.deadline = s.deadline :=
        OrderSaga.eq_of_core OrderSaga.deadline (fun _ => rfl) hcore
      rw [← heq, ← newDeadlineRecord_core hcore]
      exact hindex t (hview ▸ ht) (heq ▸ hdeadline)
    · cases hafter.symm.trans hclosed
      exact absurd rfl hdeadline
  · rw [if_neg htype] at hmode
    simp only [hdeadline, if_false] at hmode
    simp [OrderKeys.write, hmode]

/-- A commit leaves a record that was seen. -/
lemma HistoryStep.record {r : DeadlineRecord} (h : HistoryStep env orderId log v e)
    (hrecord : ∀ r, keys.deadline = some r → r.Seen env orderId v)
    (hr : (keys.write e.args).deadline = some r) : r.Seen env orderId e.after := by
  have hp := prepareCommit_prepared h.valid.prepared
  have hmode := hp.deadline
  unfold deadlineMode at hmode
  simp only [OrderKeys.write] at hr
  split_ifs at hmode with htype
  · rw [hmode] at hr
    exact (hrecord r hr).mono h.after_fresh
  · cases hsaga : e.args.saga with
    | none =>
      rw [hmode, hsaga] at hr
      cases hr
    | some s =>
      rw [hmode, hsaga] at hr
      simp only at hr
      split at hr
      · rename_i hset
        split_ifs at hset with hdeadline
        cases hset
        cases hr
        exact newDeadlineRecord_seen h.after_consistent (h.after_saga.trans hsaga) hdeadline
      · cases hr
      · rename_i hkeep
        split_ifs at hkeep

end Commits

/-! ## Workers -/

/-- The record is one of the order, and the stored order has passed its version. -/
structure DeadlineRecord.Passed (env : CheckoutEnv) (orderId : String) (view : OrderView)
    (record : DeadlineRecord) : Prop where
  formed : record.Formed env orderId
  version_lt : record.version < view.version

/-- The lease of a scan is the one of its record. -/
def Scan.Leased (scan : Scan) : Prop := scan.lease.workId = scan.record.workId

/-- What is known of a call: it handles a delivered input, or the deadline input of a record that
was seen when it started and when it loaded. -/
def CallOk (env : CheckoutEnv) (orderId : String) (view : OrderView) (call : Call) :
    Option Scan → Prop
  | none => call.input.envelope.messageType ≠ deadlineMessageType ∧
      ∀ version millis, call.input.messageId ≠ deadlineWorkId env orderId version millis
  | some scan => call.input = scan.record.input orderId ∧ scan.record.Seen env orderId view ∧
      scan.Leased ∧ ∀ l, call.loaded = some l → scan.record.Seen env orderId l.view

/-- What is known of a worker. -/
def WorkerOk (env : CheckoutEnv) (orderId : String) (view : OrderView) : Worker → Prop
  | .idle => True
  | .due _ => True
  | .orphan => True
  | .applying call scan => CallOk env orderId view call scan
  | .found _ record => record.Seen env orderId view
  | .acquired scan => scan.record.Seen env orderId view ∧ scan.Leased
  | .publishing scan _ => scan.record.Passed env orderId view ∧ scan.Leased
  | .published scan => scan.record.Passed env orderId view ∧ scan.Leased
  | .completing record => record.Passed env orderId view

/-- A passed record stays passed. -/
lemma DeadlineRecord.Passed.mono {u v : OrderView} {r : DeadlineRecord}
    (h : r.Passed env orderId u) (hfresh : Fresh OrderView.version OrderView.Similar u v) :
    r.Passed env orderId v :=
  ⟨h.formed, h.version_lt.trans_le hfresh.1⟩

/-- What is known of a worker stays true when the order goes on. -/
lemma WorkerOk.mono {u v : OrderView} {worker : Worker} (h : WorkerOk env orderId u worker)
    (hfresh : Fresh OrderView.version OrderView.Similar u v) : WorkerOk env orderId v worker := by
  cases worker with
  | idle | due | orphan => trivial
  | applying call scan =>
    cases scan with
    | none => exact h
    | some scan =>
      obtain ⟨hinput, hseen, hleased, hloaded⟩ := h
      exact ⟨hinput, hseen.mono hfresh, hleased, hloaded⟩
  | found now record => exact DeadlineRecord.Seen.mono h hfresh
  | acquired scan => exact ⟨h.1.mono hfresh, h.2⟩
  | publishing scan results => exact ⟨h.1.mono hfresh, h.2⟩
  | published scan => exact ⟨h.1.mono hfresh, h.2⟩
  | completing record => exact DeadlineRecord.Passed.mono h hfresh

/-! ## The invariant -/

/-- The invariant of the deadline index. -/
structure DeadlineInv (env : CheckoutEnv) (orderId : String) (s : CheckoutState) : Prop where
  index : IndexOk env s.keys
  record : ∀ r, s.keys.deadline = some r → r.Seen env orderId s.keys.view
  workers : ∀ w, WorkerOk env orderId s.keys.view (s.workers w)
  /-- A completed lease belongs to a version that the order has passed. -/
  leases : ∀ version millis,
    (s.leases (env.digest (deadlineWorkId env orderId version millis))).completed = true →
      version < s.keys.view.version
  /-- So does a journalled deadline input. -/
  journal : ∀ version millis results,
    s.keys.results (env.digest (deadlineWorkId env orderId version millis)) = some results →
      version < s.keys.view.version

section Steps

variable {s s' : CheckoutState} {w : ℕ} {call : Call} {scan : Option Scan} {worker : Worker}
  {l : LoadedView} {args : CommitArgs}

/-- Changing a worker keeps the invariant, if the new state of the worker is all right. -/
lemma DeadlineInv.setWorker (h : DeadlineInv env orderId s) (w : ℕ) (worker : Worker)
    (hworker : WorkerOk env orderId s.keys.view worker) :
    DeadlineInv env orderId (s.setWorker w worker) := by
  refine ⟨h.index, h.record, fun v => ?_, h.leases, h.journal⟩
  rw [CheckoutState.setWorker_workers]
  by_cases hv : v = w
  · subst hv
    rw [Function.update_self]
    exact hworker
  · rw [Function.update_of_ne hv]
    exact h.workers v

/-- The invariant reads the keys, the leases and the workers only. -/
lemma DeadlineInv.of_eq (h : DeadlineInv env orderId s) (hkeys : s'.keys = s.keys)
    (hleases : s'.leases = s.leases) (hworkers : s'.workers = s.workers) :
    DeadlineInv env orderId s' := by
  refine ⟨?_, ?_, ?_, ?_, ?_⟩
  · rw [hkeys]
    exact h.index
  · rw [hkeys]
    exact h.record
  · rw [hkeys, hworkers]
    exact h.workers
  · rw [hkeys, hleases]
    exact h.leases
  · rw [hkeys]
    exact h.journal

/-- A call whose input has the type of deadline inputs is made by a scan. -/
lemma CallOk.typed {view : OrderView} (h : CallOk env orderId view call scan)
    (htype : call.input.envelope.messageType = deadlineMessageType) :
    ∃ version due inputId, call.input = .deadline orderId version due inputId := by
  cases scan with
  | none => exact absurd htype h.1
  | some scan => exact ⟨_, _, _, h.1⟩

/-- A commit by the call of a scan passes the record. -/
lemma DeadlineInv.commit_passed {sc : Scan} (h : DeadlineInv env orderId s)
    (hstep : HistoryStep env orderId s.log s.keys.view (s.commitRecord call l args))
    (hworker : s.workers w = .applying call (some sc)) (hloaded : call.loaded = some l) :
    sc.record.Passed env orderId (s.commitRecord call l args).after := by
  have hcall : CallOk env orderId s.keys.view call (some sc) := by
    have hw := h.workers w
    rw [hworker] at hw
    exact hw
  obtain ⟨hinput, hseen, -, hload⟩ := hcall
  exact ⟨hseen.formed, hstep.passed hinput (hload l hloaded)⟩

/-- A commit with status 0 keeps the invariant. -/
lemma DeadlineInv.committed (hfree : CollisionFree env orderId) (h : DeadlineInv env orderId s)
    (hstep : HistoryStep env orderId s.log s.keys.view (s.commitRecord call l args))
    (hworker : s.workers w = .applying call scan) (hloaded : call.loaded = some l) :
    DeadlineInv env orderId (s.committed call l args) := by
  have hcall : CallOk env orderId s.keys.view call scan := by
    have hw := h.workers w
    rw [hworker] at hw
    exact hw
  refine ⟨hstep.index rfl (fun htype => hcall.typed htype) h.index,
    fun r hr => hstep.record h.record hr, fun v => (h.workers v).mono hstep.after_fresh,
    fun version millis hcomplete => ?_, fun version millis results hresults => ?_⟩
  · exact (h.leases version millis hcomplete).trans_le hstep.after_fresh.1
  · by_cases hkey : env.digest (deadlineWorkId env orderId version millis) = args.inputKey
    · -- the new journal can only be the one of a deadline input with this work ID
      have hinputKey : args.inputKey = env.digest call.input.messageId :=
        prepareCommit_inputKey hstep.valid.prepared
      rw [hinputKey] at hkey
      have hid : deadlineWorkId env orderId version millis = call.input.messageId :=
        hfree.digest hkey
      cases scan with
      | none => exact absurd hid.symm (hcall.2 version millis)
      | some sc =>
        have hpassed := h.commit_passed hstep hworker hloaded
        have hwork : sc.record.workId = deadlineWorkId env orderId version millis := by
          rw [hid, hcall.1]
          rfl
        rw [hpassed.formed.version_eq hfree hwork]
        exact hpassed.version_lt
    · have hold : s.keys.results (env.digest (deadlineWorkId env orderId version millis)) =
          some results := by
        simpa [CheckoutState.committed, OrderKeys.write, hkey] using hresults
      exact (h.journal version millis results hold).trans_le hstep.after_fresh.1

/-- The state of a worker after its call returned. -/
lemma WorkerOk.returned {view : OrderView} {results : List ResultMessage}
    (h : ∀ sc, scan = some sc → sc.record.Passed env orderId view ∧ sc.Leased) :
    WorkerOk env orderId view (.returned scan results) := by
  cases scan with
  | none => trivial
  | some sc => exact h sc rfl

/-- The state of a worker after it abandoned an attempt. -/
lemma WorkerOk.abandoned {view : OrderView} (h : CallOk env orderId view call scan)
    (hnext : Abandoned call scan worker) : WorkerOk env orderId view worker := by
  cases hnext with
  | idle => trivial
  | next =>
    cases scan with
    | none => exact h
    | some sc =>
      obtain ⟨hinput, hseen, hleased, -⟩ := h
      exact ⟨hinput, hseen, hleased, by rintro _ ⟨⟩⟩

/-- A worker in a call of a scan holds its lease. -/
lemma DeadlineInv.leased {sc : Scan} (h : DeadlineInv env orderId s)
    (hworker : s.workers w = .applying call (some sc)) : sc.Leased := by
  have hw := h.workers w
  rw [hworker] at hw
  exact hw.2.2.1

/-- A call starts with nothing loaded. -/
lemma DeadlineInv.startCall {input : OrderInput} {now : Time} (h : DeadlineInv env orderId s)
    (hcall : ∀ call : Call, call.input = input → call.loaded = none →
      CallOk env orderId s.keys.view call scan) :
    DeadlineInv env orderId (s.startCall w input now scan) :=
  (h.setWorker w (.applying ⟨s.calls, input, now, 0, none⟩ scan)
    (hcall _ rfl rfl)).of_eq rfl rfl rfl

/-- A script of the deadline index keeps the invariant, if it only deletes and keeps the index. -/
lemma DeadlineInv.withKeys {keys : OrderKeys} (h : DeadlineInv env orderId s)
    (hview : keys.view = s.keys.view) (hresults : keys.results = s.keys.results)
    (hindex : IndexOk env keys)
    (hrecord : ∀ r, keys.deadline = some r → s.keys.deadline = some r) :
    DeadlineInv env orderId { s with keys := keys } := by
  refine ⟨hindex, fun r hr => ?_, fun v => ?_, ?_, ?_⟩
  · rw [hview]
    exact h.record r (hrecord r hr)
  · simp only [hview]
    exact h.workers v
  · simp only [hview]
    exact h.leases
  · simp only [hview, hresults]
    exact h.journal

/-- A changed lease keeps the invariant, if its completion means that the order has passed. -/
lemma DeadlineInv.withLease {key : String} {hash : LeaseHash} (h : DeadlineInv env orderId s)
    (hlease : ∀ version millis, env.digest (deadlineWorkId env orderId version millis) = key →
      hash.completed = true → version < s.keys.view.version) :
    DeadlineInv env orderId { s with leases := Function.update s.leases key hash } := by
  refine ⟨h.index, h.record, h.workers, fun version millis hcomplete => ?_, h.journal⟩
  by_cases hkey : env.digest (deadlineWorkId env orderId version millis) = key
  · simp only [hkey, Function.update_self] at hcomplete
    exact hlease version millis hkey hcomplete
  · refine h.leases version millis ?_
    simpa only [ne_eq, hkey, not_false_eq_true, Function.update_of_ne] using hcomplete

/-- The invariant of the deadline index is kept by every step with broker deliveries. -/
lemma DeadlineInv.step {a : Action} (hfree : CollisionFree env orderId)
    (hhistory : HistoryInv env orderId s) (h : DeadlineInv env orderId s)
    (hok : BrokerDelivery env orderId a) (hstep : step env orderId s a = some s') :
    DeadlineInv env orderId s' := by
  cases step_cases hstep with
  | stopped w | scanned w | orphaned w => exact h.setWorker w _ trivial
  | started w input now =>
    refine h.startCall fun call hinput _ => ?_
    subst hinput
    exact hok
  | @loaded w call scan hworker =>
    refine h.setWorker w _ ?_
    have hw := h.workers w
    rw [hworker] at hw
    cases scan with
    | none => exact hw
    | some sc =>
      obtain ⟨hinput, hseen, hleased, -⟩ := hw
      refine ⟨hinput, hseen, hleased, ?_⟩
      rintro _ ⟨⟩
      exact hseen
  | @abandoned w call scan _ _ hworker hnext =>
    have hw := h.workers w
    rw [hworker] at hw
    exact h.setWorker w _ (WorkerOk.abandoned hw hnext)
  | @committedLost w call scan l args _ _ hworker hloaded hargs _ hversion _ hnext =>
    have hcommit := hhistory.historyStep hworker hloaded hargs hversion
    have hinv := h.committed hfree hcommit hworker hloaded
    have hw := hinv.workers w
    rw [show (s.committed call l args).workers w = .applying call scan from hworker] at hw
    exact hinv.setWorker w _ (WorkerOk.abandoned hw hnext)
  | @committed w call scan l args _ hworker hloaded hargs _ hversion =>
    have hcommit := hhistory.historyStep hworker hloaded hargs hversion
    have hinv := h.committed hfree hcommit hworker hloaded
    refine (hinv.setWorker w (.returned scan args.journal)
      (WorkerOk.returned ?_)).of_eq rfl rfl rfl
    rintro sc rfl
    exact ⟨h.commit_passed hcommit hworker hloaded, h.leased hworker⟩
  | @replayed w call scan l args _ stored hworker hloaded hargs hstored =>
    refine (h.setWorker w (.returned scan stored)
      (WorkerOk.returned ?_)).of_eq rfl rfl rfl
    rintro sc rfl
    have hw := h.workers w
    rw [hworker] at hw
    obtain ⟨hinput, hseen, hleased, -⟩ := hw
    -- the journal of the deadline input shows that the order has passed the record
    rw [prepareCommit_inputKey hargs, hinput] at hstored
    refine ⟨⟨hseen.formed, h.journal _ (unixMilli sc.record.deadline) stored ?_⟩, hleased⟩
    rw [← hseen.formed.work_id]
    exact hstored
  | @found w now record hrecord => exact h.setWorker w _ (h.record record hrecord)
  | orphanRemoved w =>
    refine (h.setWorker w .idle trivial).withKeys
      (removeOrphanDeadlineScript_view _) (removeOrphanDeadlineScript_results _) ?_ ?_
    · intro saga hsaga hdeadline
      rw [removeOrphanDeadlineScript_view] at hsaga
      obtain ⟨hscore, hrecord⟩ := h.index saga hsaga hdeadline
      simp [removeOrphanDeadlineScript, hrecord, hscore]
    · intro r hr
      unfold removeOrphanDeadlineScript at hr
      split at hr <;> exact hr
  | @acquired w now record lease hash hworker hlease hhash =>
    have hw := h.workers w
    rw [hworker] at hw
    have hinv := h.setWorker w (.acquired { record := record, lease := lease })
      ⟨hw, hlease⟩
    refine hinv.withLease fun version millis hkey hcomplete => h.leases version millis ?_
    rw [hkey, ← hhash]
    exact hcomplete
  | @leaseFoundComplete w now record hworker hcomplete =>
    have hw := h.workers w
    rw [hworker] at hw
    have hseen : record.Seen env orderId s.keys.view := hw
    refine h.setWorker w _ ⟨hseen.formed, h.leases _ (unixMilli record.deadline) ?_⟩
    rw [← hseen.formed.work_id]
    exact hcomplete
  | @processed w now scan hworker =>
    have hw := h.workers w
    rw [hworker] at hw
    refine h.startCall fun call hinput hloaded => ⟨hinput, hw.1, hw.2, fun l hl => ?_⟩
    cases hloaded.symm.trans hl
  | @published w scan results hworker =>
    have hw := h.workers w
    rw [hworker] at hw
    exact (h.setWorker w (.published scan) hw).of_eq rfl rfl rfl
  | @leaseCompleted w now scan hash hworker =>
    have hw := h.workers w
    rw [hworker] at hw
    obtain ⟨hpassed, hleased⟩ := hw
    have hinv := h.setWorker w (.completing scan.record) hpassed
    refine hinv.withLease fun version millis hkey _ => ?_
    have hwork : scan.record.workId = deadlineWorkId env orderId version millis :=
      hleased.symm.trans (hfree.digest hkey).symm
    rw [hpassed.formed.version_eq hfree hwork]
    exact hpassed.version_lt
  | @deadlineCompleted w record hworker =>
    have hw := h.workers w
    rw [hworker] at hw
    have hpassed : record.Passed env orderId s.keys.view := hw
    refine (h.setWorker w .idle trivial).withKeys
      (completeDeadlineScript_view _ _) (completeDeadlineScript_results _ _) ?_ ?_
    · intro saga hsaga hdeadline
      rw [completeDeadlineScript_view] at hsaga
      obtain ⟨hscore, hrecord⟩ := h.index saga hsaga hdeadline
      -- the record of a waiting order has the stored version, the one of the scan an older one
      have hne : newDeadlineRecord env saga ≠ record := by
        rintro rfl
        have hlt := hpassed.version_lt
        have hversion := hhistory.history.consistent.version_eq saga hsaga
        simp only [newDeadlineRecord] at hlt
        omega
      simp [completeDeadlineScript, hrecord, hscore, hne]
    · intro r hr
      unfold completeDeadlineScript at hr
      split at hr
      · cases hr
      · exact hr
  | journalExpired => exact ⟨h.index, h.record, h.workers, h.leases, by rintro _ _ _ ⟨⟩⟩
  | leaseExpired workId => exact h.withLease fun _ _ _ hcomplete => by cases hcomplete

end Steps

/-- The index of the empty store is empty. -/
lemma DeadlineInv.init : DeadlineInv env orderId {} := by
  refine ⟨?_, ?_, fun _ => trivial, ?_, ?_⟩
  · rintro _ ⟨⟩
  · rintro _ ⟨⟩
  · rintro _ _ ⟨⟩
  · rintro _ _ _ ⟨⟩

/-- The deadline index is invariant in every run with broker deliveries. -/
theorem run_deadlines {actions : List Action} {s : CheckoutState}
    (hfree : CollisionFree env orderId) (hrun : runs env orderId actions = some s)
    (hok : StepSystem.Along (step env orderId) (fun _ a => BrokerDelivery env orderId a) {} actions) :
    HistoryInv env orderId s ∧ DeadlineInv env orderId s := by
  refine StepSystem.run_invariant (I := fun s => HistoryInv env orderId s ∧
    DeadlineInv env orderId s) ?_ ⟨.init, .init⟩ hok hrun
  exact fun _ _ _ h hok hstep => ⟨h.1.step hstep, h.2.step hfree h.1 hok hstep⟩

/-! ## Open orders have a deadline -/

/-- Every clock reading of a call is late enough, and every open order has a deadline. -/
structure ClockInv (s : CheckoutState) : Prop where
  calls : ∀ w call scan, s.workers w = .applying call scan → 2 ^ 63 < call.now
  deadline : ∀ saga, s.keys.view.saga = some saga → saga.stage.terminal = false →
    saga.deadline ≠ 0

/-- A late clock reading plus any timeout is not the zero time. -/
lemma deadlineAfter_ne_zero {ws : PersistedState} {now : Time} (timeout : Duration)
    (hstart : ws.deadlineStart = now) (hnow : 2 ^ 63 < now) : ws.deadlineAfter timeout ≠ 0 := by
  have hlower := timeout.lower
  have hlate : (2 : ℤ) ^ 63 < now := hnow
  have hne : now ≠ 0 := by
    rintro rfl
    norm_num at hlate
  rw [PersistedState.deadlineAfter, hstart, if_neg hne]
  refine ne_of_gt ?_
  change (0 : ℤ) < now + timeout.nanos
  linarith

/-- A transition that leaves the order open leaves it with a deadline. -/
lemma SagaMove.open_deadline {input : OrderInput} {ws : PersistedState}
    {after : Option OrderSaga} {results : List ResultMessage} {s' : OrderSaga}
    (h : SagaMove env input ws after results) (hclock : ws.deadlineAfter env.stepTimeout ≠ 0)
    (hprevious : ∀ s, ws.orders = some s → s.stage.terminal = false → s.deadline ≠ 0)
    (hs' : after = some s') (hopen : s'.stage.terminal = false) : s'.deadline ≠ 0 := by
  cases h with
  | absent => cases hs'
  | idle horder =>
    cases hs'
    exact hprevious _ horder hopen
  | rejected | cancelled | completed | compensated | reviewed | timedOut =>
    cases hs'
    cases hopen
  | accepted | quoted | authorized | shipped =>
    cases hs'
    exact hclock
  | compensating _ _ _ hcompensating =>
    cases hs'
    subst hcompensating
    exact hclock
  | @acknowledged s subject _ _ _ horder hstage =>
    have hs := hprevious s horder (by rw [hstage]; rfl)
    cases hs'
    have heq : (s.acknowledge subject).deadline = s.deadline :=
      OrderSaga.eq_of_core OrderSaga.deadline (fun _ => rfl) (OrderSaga.core_acknowledge s subject)
    rw [heq]
    exact hs

/-- Every step with late clock readings keeps the invariant. -/
lemma ClockInv.step {s s' : CheckoutState} {a : Action} (hhistory : HistoryInv env orderId s)
    (h : ClockInv s) (hok : ClockReading a) (hstep : step env orderId s a = some s') :
    ClockInv s' := by
  refine ⟨fun w call scan hw => ?_, ?_⟩
  · rcases step_call hstep hw with ⟨call', hw', -, hnow⟩ | ⟨-, -, rfl | rfl⟩
    · rw [hnow]
      exact h.calls w call' scan hw'
    · exact hok
    · exact hok
  · rcases step_commits hstep with ⟨-, hview⟩ | ⟨call, l, args, hcommits, hargs, -, hview⟩
    · rw [hview]
      exact h.deadline
    · obtain ⟨w, delivery, -, ⟨scan, hworker⟩, -⟩ := hcommits.action
      have hcommit := hhistory.historyStep hworker hcommits.loaded hargs
        (hcommits.version.trans (prepareCommit_expected hargs).symm)
      rw [hview]
      intro saga hsaga hopen
      refine hcommit.move.open_deadline
        (deadlineAfter_ne_zero env.stepTimeout rfl (h.calls w call scan hworker)) ?_ hsaga hopen
      intro t ht hterminal
      obtain ⟨u, hu, hcore⟩ := hcommit.core_eq (by simpa using ht)
      have hstage : u.stage = t.stage := OrderSaga.stage_eq_of_core hcore
      have hdeadline : u.deadline = t.deadline :=
        OrderSaga.eq_of_core OrderSaga.deadline (fun _ => rfl) hcore
      rw [← hdeadline]
      exact h.deadline u hu (hstage ▸ hterminal)

/-- Open orders have a deadline in every run with late clock readings. -/
theorem run_clock {actions : List Action} {s : CheckoutState}
    (hrun : runs env orderId actions = some s)
    (hok : StepSystem.Along (step env orderId) (fun _ a => ClockReading a) {} actions) :
    ClockInv s := by
  refine (StepSystem.run_invariant (I := fun s => HistoryInv env orderId s ∧ ClockInv s)
    (fun _ _ _ h hok hstep => ⟨h.1.step hstep, h.2.step h.1 hok hstep⟩) ?_ hok hrun).2
  exact ⟨.init, by rintro _ _ _ ⟨⟩, by rintro _ ⟨⟩⟩

/-! ## The index of a waiting order -/

/-- Every commit of a history is a step of it. -/
lemma OrderHistory.exists_step {log : List Commit} {v : OrderView} {e : Commit}
    (h : OrderHistory env orderId log v) (he : e ∈ log) :
    ∃ pre u, HistoryStep env orderId pre u e := by
  refine OrderHistory.induction (P := fun log _ => e ∈ log →
    ∃ pre u, HistoryStep env orderId pre u e) (by rintro ⟨⟩) ?_ h he
  intro log v x _ hstep ih _ _ hx
  rcases List.mem_append.mp hx with hx | hx
  · exact ih hx
  · cases List.mem_singleton.mp hx
    exact ⟨log, v, hstep⟩

/-- The deadline input of another version leaves the stage as it is. -/
lemma HistoryStep.stale_deadline {log : List Commit} {v : OrderView} {e : Commit} {id : String}
    {version : ℕ} {due : Time} {inputId : String} {t : OrderSaga}
    (h : HistoryStep env orderId log v e) (hinput : e.input = .deadline id version due inputId)
    (ht : e.before.saga = some t) (hne : version ≠ t.version) :
    stageOf e.after.saga = some t.stage := by
  obtain rfl : id = orderId := by
    have haddressed := h.valid.addressed
    rw [hinput] at haddressed
    exact haddressed
  rw [h.valid.before_eq] at ht
  have hcore : ∀ s, e.loaded.saga = some s → t.core = s.core := by
    intro s hs
    obtain ⟨u, hu, hcore⟩ := h.core_eq hs
    cases ht.symm.trans hu
    exact hcore
  rcases h.deadline_cases hinput with ⟨hs, -, -⟩ | ⟨s, hs, hafter, -, -⟩ | ⟨s, hs, hversion, -, -⟩
  · have hmap := h.similar.saga_core
    rw [hs, ht] at hmap
    cases hmap
  · rw [hafter, stageOf_some, OrderSaga.stage_eq_of_core (hcore s hs)]
  · have heq : t.version = s.version :=
      OrderSaga.eq_of_core OrderSaga.version (fun _ => rfl) (hcore s hs)
    exact absurd (heq.trans hversion).symm hne

/-- In every reachable state, under any interleaving of calls, scans, lease expiries and crashes: an
order that is not closed has a deadline, is in the sorted set with the score of that deadline, and
its record is the one of the stored saga.  And the commit of a deadline input of an older version
never changes the stage. -/
theorem deadline_index_invariant (env : CheckoutEnv) (orderId : String)
    (hfree : CollisionFree env orderId) (actions : List Action) (s : CheckoutState)
    (hrun : runs env orderId actions = some s)
    (hdelivery : StepSystem.Along (step env orderId) (fun _ a => BrokerDelivery env orderId a) {}
      actions)
    (hclock : StepSystem.Along (step env orderId) (fun _ a => ClockReading a) {} actions) :
    (∀ saga, s.keys.view.saga = some saga → saga.stage.terminal = false →
      saga.deadline ≠ 0 ∧ s.keys.score = some (unixMilli saga.deadline) ∧
        s.keys.deadline = some (newDeadlineRecord env saga)) ∧
    ∀ e ∈ s.log, ∀ id version due inputId, e.input = .deadline id version due inputId →
      ∀ t, e.before.saga = some t → version < t.version → stageOf e.after.saga = some t.stage := by
  obtain ⟨hhistory, hdeadlines⟩ := run_deadlines hfree hrun hdelivery
  refine ⟨fun saga hsaga hopen => ?_, fun e he id version due inputId hinput t ht hlt => ?_⟩
  · have hdeadline := (run_clock hrun hclock).deadline saga hsaga hopen
    exact ⟨hdeadline, hdeadlines.index saga hsaga hdeadline⟩
  · obtain ⟨pre, u, hstep⟩ := hhistory.history.exists_step he
    exact hstep.stale_deadline hinput ht hlt.ne

namespace Sample

/-- A decimal number has no slash. -/
lemma slash_not_mem_nat (n : ℕ) : '/' ∉ (toString n).toList := by
  intro h
  have hdigit := Nat.isDigit_of_mem_toDigits (b := 10) (by decide) (by decide)
    (by simpa [Nat.repr] using h)
  exact absurd hdigit (by decide)

/-- Neither has a signed one. -/
lemma slash_not_mem_int (n : ℤ) : '/' ∉ (toString n).toList := by
  cases n with
  | ofNat n => exact slash_not_mem_nat n
  | negSucc n =>
    intro h
    have hmem : '/' ∈ "-".toList ++ (toString (n + 1)).toList := by
      simpa [toString, Int.repr, String.toList_append] using h
    rcases List.mem_append.mp hmem with h | h
    · exact absurd h (by decide)
    · exact slash_not_mem_nat _ h

/-- The parts of a deadline work ID. -/
lemma splitOn_deadlineWorkId (version : ℕ) (millis : ℤ) :
    (deadlineWorkId Sample.env Sample.orderId version millis).toList.splitOn '/' =
      ["checkout-deadline".toList, Sample.orderId.toList, (toString version).toList,
        (toString millis).toList] := by
  rw [deadlineWorkId, Sample.env, String.toList_intercalate]
  refine List.splitOn_intercalate _ ?_ (by simp)
  simp only [List.map_cons, List.map_nil, List.forall_mem_cons]
  exact ⟨by decide, by decide, slash_not_mem_nat version, slash_not_mem_int millis, by simp⟩

/-- The hashes of the sample do not collide. -/
lemma collisionFree : CollisionFree Sample.env Sample.orderId where
  digest := Function.injective_id
  workId := by
    intro version millis version' millis' h
    have hparts := splitOn_deadlineWorkId version millis
    rw [h, splitOn_deadlineWorkId] at hparts
    simp only [List.cons.injEq, true_and] at hparts
    exact (toString_nat_injective (String.toList_inj.mp hparts.1)).symm

/-- Whether an action delivers no input that looks like a deadline input. -/
def delivers : Action → Bool
  | .deliver _ input _ => input.envelope.messageType != deadlineMessageType &&
      (input.messageId.toList.splitOn '/').head? != some "checkout-deadline".toList
  | _ => true

/-- Such an action is a delivery of the broker. -/
lemma brokerDelivery {a : Action} (h : delivers a = true) :
    BrokerDelivery Sample.env Sample.orderId a := by
  cases a with
  | deliver w input now =>
    simp only [delivers, Bool.and_eq_true, bne_iff_ne, ne_eq] at h
    refine ⟨h.1, fun version millis heq => h.2 ?_⟩
    rw [heq, splitOn_deadlineWorkId]
    rfl
  | _ => trivial

/-- A time after the deadline of an order that was submitted at `time`. -/
def late : Time := time + 60000000000

/-- The order moves on after a scanner has loaded its record; the scanner then processes the old
record to the end. -/
def staleScanRun : List Action :=
  handle 0 submit ++ [.scan 1 late, .loadDeadline 1, .acquire 1] ++ handle 0 quoted ++
    [.process 1 late, .load 1, .commit 1 .delivered, .publish 1, .completeLease 1 late,
     .completeDeadline 1]

end Sample

/-- The order that moved on is still waiting when the scanner is done, and still has its deadline. -/
theorem stale_scan_keeps_deadline : ∃ s saga,
    runs Sample.env Sample.orderId Sample.staleScanRun = some s ∧
    s.keys.view.saga = some saga ∧ saga.stage = .waitingAuthorize ∧
    s.keys.score = some (unixMilli saga.deadline) ∧
    s.keys.deadline = some (newDeadlineRecord Sample.env saga) := by
  have hrun : (runs Sample.env Sample.orderId Sample.staleScanRun).map
      (fun s => stageOf s.keys.view.saga) = some (some .waitingAuthorize) := by decide +kernel
  obtain ⟨s, hs, hstage⟩ := Option.map_eq_some_iff.mp hrun
  obtain ⟨saga, hsaga, hwaiting⟩ := Option.map_eq_some_iff.mp hstage
  have hdelivers : ∀ a ∈ Sample.staleScanRun, Sample.delivers a = true := by decide +kernel
  have hclock : ∀ a ∈ Sample.staleScanRun, ClockReading a := by decide +kernel
  have hindex := (deadline_index_invariant Sample.env Sample.orderId Sample.collisionFree
    Sample.staleScanRun s hs
    (StepSystem.Along.of_forall (fun a ha _ => Sample.brokerDelivery (hdelivers a ha)) _)
    (StepSystem.Along.of_forall (fun a ha _ => hclock a ha) _)).1 saga hsaga (by rw [hwaiting]; rfl)
  exact ⟨s, saga, hs, hsaga, hwaiting, hindex.2⟩

end Boutique
