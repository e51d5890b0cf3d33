import Boutique.Checkout.System

/-!
# What one action of the checkout system can do

`StepCase` lists the effects that an action can have, with their guards, and `step_cases` says that
the list is complete.  The invariants of the system are proved by a case analysis on it, so the step
function is unfolded here only.
-/

namespace Boutique

variable {env : CheckoutEnv} {orderId : String} {s s' : CheckoutState} {w : ℕ}

/-! ## Fields of the updated state -/

namespace CheckoutState

@[simp] lemma setWorker_keys (worker : Worker) : (s.setWorker w worker).keys = s.keys := rfl
@[simp] lemma setWorker_leases (worker : Worker) : (s.setWorker w worker).leases = s.leases := rfl
@[simp] lemma setWorker_epoch (worker : Worker) : (s.setWorker w worker).epoch = s.epoch := rfl
@[simp] lemma setWorker_log (worker : Worker) : (s.setWorker w worker).log = s.log := rfl
@[simp] lemma setWorker_returns (worker : Worker) : (s.setWorker w worker).returns = s.returns :=
  rfl
@[simp] lemma setWorker_published (worker : Worker) :
    (s.setWorker w worker).published = s.published := rfl
@[simp] lemma setWorker_workers (worker : Worker) :
    (s.setWorker w worker).workers = Function.update s.workers w worker := rfl

end CheckoutState

/-- The script is called with the digest of the input's message ID. -/
lemma prepareCommit_inputKey {input : OrderInput} {now : Time} {view : OrderView}
    {args : CommitArgs} (h : prepareCommit env orderId input now view = .ok args) :
    args.inputKey = env.digest input.messageId := by
  unfold prepareCommit at h
  obtain ⟨state, -, h⟩ := bind_eq_ok.mp h
  cases h
  rfl

/-! ## The deadline scripts -/

section Scripts

variable (keys : OrderKeys) (record : DeadlineRecord)

/-- The scripts of the deadline index touch neither the stored order nor the journal. -/
lemma completeDeadlineScript_view : (completeDeadlineScript keys record).view = keys.view := by
  unfold completeDeadlineScript
  split <;> rfl

lemma completeDeadlineScript_results :
    (completeDeadlineScript keys record).results = keys.results := by
  unfold completeDeadlineScript
  split <;> rfl

lemma removeOrphanDeadlineScript_view : (removeOrphanDeadlineScript keys).view = keys.view := by
  unfold removeOrphanDeadlineScript
  split <;> rfl

lemma removeOrphanDeadlineScript_results :
    (removeOrphanDeadlineScript keys).results = keys.results := by
  unfold removeOrphanDeadlineScript
  split <;> rfl

end Scripts

/-! ## The effects of an action -/

/-- The state of a worker in a call after an attempt without success: idle or in the next attempt. -/
inductive Abandoned (call : Call) (scan : Option Scan) : Worker → Prop where
  | idle : Abandoned call scan .idle
  | next : Abandoned call scan (.applying call.next scan)

/-- The effects of an action. -/
inductive StepCase (env : CheckoutEnv) (orderId : String) (s : CheckoutState) :
    Action → CheckoutState → Prop where
  /-- The worker fails, or `claimDeadline` returns early. -/
  | stopped {a : Action} (w : ℕ) (hcommit : ∀ v d, a ≠ .commit v d) :
      StepCase env orderId s a (s.setWorker w .idle)
  | started (w : ℕ) (input : OrderInput) (now : Time) (hidle : s.workers w = .idle)
      (haddressed : input.addressed orderId) (haccepted : input.accepted orderId = true) :
      StepCase env orderId s (.deliver w input now) (s.startCall w input now none)
  | loaded (w : ℕ) {call : Call} {scan : Option Scan}
      (hworker : s.workers w = .applying call scan) :
      StepCase env orderId s (.load w) (s.setWorker w (.applying
        { call with loaded := some { view := s.keys.view, seen := s.log.length } } scan))
  /-- The update function fails, the `Eval` is refused, or the script returns a conflict or a
  journal that never reaches the caller. -/
  | abandoned (w : ℕ) {call : Call} {scan : Option Scan} {delivery : Delivery} {worker : Worker}
      (hworker : s.workers w = .applying call scan) (hnext : Abandoned call scan worker) :
      StepCase env orderId s (.commit w delivery) (s.setWorker w worker)
  /-- A commit with status 0 whose reply is lost. -/
  | committedLost (w : ℕ) {call : Call} {scan : Option Scan} {loaded : LoadedView}
      {args : CommitArgs} {delivery : Delivery} {worker : Worker}
      (hworker : s.workers w = .applying call scan) (hloaded : call.loaded = some loaded)
      (hargs : prepareCommit env orderId call.input call.now loaded.view = .ok args)
      (hfree : s.keys.results args.inputKey = none) (hversion : s.keys.view.version = args.expected)
      (hran : ∀ retry, delivery ≠ .refused retry) (hnext : Abandoned call scan worker) :
      StepCase env orderId s (.commit w delivery) ((s.committed call loaded args).setWorker w worker)
  /-- A commit with status 0 that returns. -/
  | committed (w : ℕ) {call : Call} {scan : Option Scan} {loaded : LoadedView}
      {args : CommitArgs} {delivery : Delivery}
      (hworker : s.workers w = .applying call scan) (hloaded : call.loaded = some loaded)
      (hargs : prepareCommit env orderId call.input call.now loaded.view = .ok args)
      (hfree : s.keys.results args.inputKey = none)
      (hversion : s.keys.view.version = args.expected)
      (hran : ∀ retry, delivery ≠ .refused retry) :
      StepCase env orderId s (.commit w delivery)
        ((s.committed call loaded args).finish w call scan
          { results := args.journal, duplicate := false, version := args.nextVersion })
  /-- A call that returns a stored journal. -/
  | replayed (w : ℕ) {call : Call} {scan : Option Scan} {loaded : LoadedView}
      {args : CommitArgs} {delivery : Delivery} {stored : List ResultMessage}
      (hworker : s.workers w = .applying call scan) (hloaded : call.loaded = some loaded)
      (hargs : prepareCommit env orderId call.input call.now loaded.view = .ok args)
      (hstored : s.keys.results args.inputKey = some stored) :
      StepCase env orderId s (.commit w delivery)
        (s.finish w call scan
          { results := stored, duplicate := true, version := s.keys.view.version })
  | scanned (w : ℕ) (now : Time) : StepCase env orderId s (.scan w now) (s.setWorker w (.due now))
  | orphaned (w : ℕ) : StepCase env orderId s (.loadDeadline w) (s.setWorker w .orphan)
  | found (w : ℕ) {now : Time} {record : DeadlineRecord} (hrecord : s.keys.deadline = some record) :
      StepCase env orderId s (.loadDeadline w) (s.setWorker w (.found now record))
  | orphanRemoved (w : ℕ) :
      StepCase env orderId s (.removeOrphan w)
        { s.setWorker w .idle with keys := removeOrphanDeadlineScript s.keys }
  | acquired (w : ℕ) {now : Time} {record : DeadlineRecord} {lease : Lease} {hash : LeaseHash}
      (hworker : s.workers w = .found now record) (hlease : lease.workId = record.workId)
      (hhash : hash.completed = (s.leases (env.digest record.workId)).completed) :
      StepCase env orderId s (.acquire w)
        { s.setWorker w (.acquired { record := record, lease := lease }) with
          leases := Function.update s.leases (env.digest record.workId) hash }
  | leaseFoundComplete (w : ℕ) {now : Time} {record : DeadlineRecord}
      (hworker : s.workers w = .found now record)
      (hcomplete : (s.leases (env.digest record.workId)).completed = true) :
      StepCase env orderId s (.acquire w) (s.setWorker w (.completing record))
  | processed (w : ℕ) (now : Time) {scan : Scan} (hworker : s.workers w = .acquired scan)
      (haccepted : (scan.record.input orderId).accepted orderId = true) :
      StepCase env orderId s (.process w now)
        (s.startCall w (scan.record.input orderId) now (some scan))
  | published (w : ℕ) {scan : Scan} {results : List ResultMessage}
      (hworker : s.workers w = .publishing scan results) :
      StepCase env orderId s (.publish w)
        { s.setWorker w (.published scan) with
          published := s.published ++ [(scan.record, results)] }
  | leaseCompleted (w : ℕ) {now : Time} {scan : Scan} {hash : LeaseHash}
      (hworker : s.workers w = .published scan) :
      StepCase env orderId s (.completeLease w now)
        { s.setWorker w (.completing scan.record) with
          leases := Function.update s.leases (env.digest scan.lease.workId) hash }
  | deadlineCompleted (w : ℕ) {record : DeadlineRecord}
      (hworker : s.workers w = .completing record) :
      StepCase env orderId s (.completeDeadline w)
        { s.setWorker w .idle with keys := completeDeadlineScript s.keys record }
  | journalExpired :
      StepCase env orderId s .expireJournal
        { s with keys := { s.keys with results := fun _ => none }, epoch := s.epoch + 1 }
  | leaseExpired (workId : String) :
      StepCase env orderId s (.expireLease workId)
        { s with leases := Function.update s.leases (env.digest workId) {} }

/-! ## The list is complete -/

/-- The replies of the commit script, with what they say about the keys. -/
lemma commitOrderScript_cases (keys : OrderKeys) (args : CommitArgs) :
    (∃ stored, keys.results args.inputKey = some stored ∧
      commitOrderScript keys args = (keys, .duplicate keys.view.version stored)) ∨
    (commitOrderScript keys args = (keys, .conflict keys.view.version)) ∨
    (keys.results args.inputKey = none ∧ keys.view.version = args.expected ∧
      commitOrderScript keys args = (keys.write args, .committed args.nextVersion)) := by
  unfold commitOrderScript
  cases hstored : keys.results args.inputKey with
  | some stored => exact .inl ⟨stored, rfl, rfl⟩
  | none =>
    by_cases hversion : keys.view.version = args.expected
    · exact .inr (.inr ⟨rfl, hversion, by simp [hversion]⟩)
    · exact .inr (.inl (by simp [hversion]))

/-- A failed `Eval` abandons the attempt. -/
lemma retryOrFail_eq (s : CheckoutState) (w : ℕ) (call : Call) (scan : Option Scan) (retry : Bool) :
    ∃ worker, Abandoned call scan worker ∧ s.retryOrFail w call scan retry = s.setWorker w worker := by
  unfold CheckoutState.retryOrFail
  split
  · exact ⟨_, .next, rfl⟩
  · exact ⟨_, .idle, rfl⟩

/-- The effects of an `Eval`. -/
lemma evalCommit_case {call : Call} {scan : Option Scan} {loaded : LoadedView} {args : CommitArgs}
    (delivery : Delivery) (hworker : s.workers w = .applying call scan)
    (hloaded : call.loaded = some loaded)
    (hargs : prepareCommit env orderId call.input call.now loaded.view = .ok args) :
    StepCase env orderId s (.commit w delivery)
      (s.evalCommit w call scan loaded args delivery) := by
  unfold CheckoutState.evalCommit
  cases delivery with
  | refused retry =>
    obtain ⟨worker, hnext, heq⟩ := retryOrFail_eq s w call scan retry
    simp only [heq]
    exact .abandoned w hworker hnext
  | lost retry =>
    rcases commitOrderScript_cases s.keys args with
      ⟨stored, -, hreply⟩ | hreply | ⟨hfree, hversion, hreply⟩
    · obtain ⟨worker, hnext, heq⟩ := retryOrFail_eq s w call scan retry
      simp only [hreply, heq]
      exact .abandoned w hworker hnext
    · obtain ⟨worker, hnext, heq⟩ := retryOrFail_eq s w call scan retry
      simp only [hreply, heq]
      exact .abandoned w hworker hnext
    · obtain ⟨worker, hnext, heq⟩ := retryOrFail_eq (s.committed call loaded args) w call scan retry
      simp only [hreply, heq]
      exact .committedLost w hworker hloaded hargs hfree hversion (by simp) hnext
  | delivered =>
    rcases commitOrderScript_cases s.keys args with
      ⟨stored, hstored, hreply⟩ | hreply | ⟨hfree, hversion, hreply⟩
    · simp only [hreply]
      exact .replayed w hworker hloaded hargs hstored
    · simp only [hreply]
      split
      · exact .abandoned w hworker .idle
      · exact .abandoned w hworker .next
    · simp only [hreply]
      exact .committed w hworker hloaded hargs hfree hversion (by simp)

/-- Every step of the system has one of the listed effects. -/
theorem step_cases {a : Action} (h : step env orderId s a = some s') :
    StepCase env orderId s a s' := by
  cases a with
  | deliver w input now =>
    simp only [step] at h
    split at h
    · rename_i hidle
      split at h
      · rename_i hguard
        cases h
        exact .started w input now hidle hguard.1 hguard.2
      · cases h
    · cases h
  | load w =>
    simp only [step] at h
    split at h
    · rename_i call scan hworker
      split at h
      · cases h
        exact .loaded w hworker
      · cases h
    · cases h
  | commit w delivery =>
    simp only [step] at h
    split at h
    · rename_i call scan hworker
      split at h
      · rename_i loaded hloaded
        split at h
        · cases h
          exact .abandoned w hworker .idle
        · rename_i args hargs
          cases h
          exact evalCommit_case delivery hworker hloaded hargs
      · cases h
    · cases h
  | scan w now =>
    simp only [step] at h
    split at h
    · split at h
      · cases h
        exact .scanned w now
      · cases h
    · cases h
  | loadDeadline w =>
    simp only [step] at h
    split at h
    · split at h
      · cases h
        exact .orphaned w
      · rename_i hrecord
        cases h
        exact .found w hrecord
    · cases h
  | removeOrphan w =>
    simp only [step] at h
    split at h
    · cases h
      exact .orphanRemoved w
    · cases h
  | acquire w =>
    simp only [step] at h
    split at h
    · rename_i now record hworker
      split at h
      · rename_i hash lease hacquire
        obtain ⟨hcompleted, -, hlease⟩ := acquireLease_completed hacquire
        cases h
        exact .acquired w hworker (hlease lease rfl) hcompleted
      · rename_i hash lease hacquire
        obtain ⟨-, hcomplete, -⟩ := acquireLease_completed hacquire
        cases h
        exact .leaseFoundComplete w hworker (hcomplete lease rfl)
      · cases h
        exact .stopped w (by simp)
    · cases h
  | process w now =>
    simp only [step] at h
    split at h
    · rename_i scan hworker
      split at h
      · rename_i haccepted
        cases h
        exact .processed w now hworker haccepted
      · cases h
        exact .stopped w (by simp)
    · cases h
  | publish w =>
    simp only [step] at h
    split at h
    · rename_i scan results hworker
      cases h
      exact .published w hworker
    · cases h
  | completeLease w now =>
    simp only [step] at h
    split at h
    · rename_i scan hworker
      split at h
      · cases h
        exact .leaseCompleted w hworker
      · cases h
        exact .leaseCompleted w hworker
      · cases h
        exact .stopped w (by simp)
    · cases h
  | completeDeadline w =>
    simp only [step] at h
    split at h
    · rename_i record hworker
      cases h
      exact .deadlineCompleted w hworker
    · cases h
  | fail w =>
    cases h
    exact .stopped w (by simp)
  | expireJournal =>
    cases h
    exact .journalExpired
  | expireLease workId =>
    cases h
    exact .leaseExpired workId

/-! ## Commits and loads -/

/-- The action is a commit with status 0 by a call that had loaded `l`. -/
structure Commits (env : CheckoutEnv) (orderId : String) (s : CheckoutState) (a : Action)
    (call : Call) (l : LoadedView) : Prop where
  action : ∃ w delivery, a = .commit w delivery ∧ (∃ scan, s.workers w = .applying call scan) ∧
    ∀ retry, delivery ≠ .refused retry
  loaded : call.loaded = some l
  prepared : ∃ args, prepareCommit env orderId call.input call.now l.view = .ok args
  free : s.keys.results (env.digest call.input.messageId) = none
  version : s.keys.view.version = l.view.version

/-- The script is called with the loaded version. -/
lemma prepareCommit_expected {input : OrderInput} {now : Time} {view : OrderView}
    {args : CommitArgs} (h : prepareCommit env orderId input now view = .ok args) :
    args.expected = view.version := by
  unfold prepareCommit at h
  obtain ⟨state, -, h⟩ := bind_eq_ok.mp h
  cases h
  rfl

/-- An attempt that finds its message new and its version unchanged commits. -/
lemma Commits.of_ran {call : Call} {scan : Option Scan} {l : LoadedView} {args : CommitArgs}
    {delivery : Delivery} (hworker : s.workers w = .applying call scan)
    (hloaded : call.loaded = some l)
    (hargs : prepareCommit env orderId call.input call.now l.view = .ok args)
    (hfree : s.keys.results args.inputKey = none)
    (hversion : s.keys.view.version = args.expected) (hran : ∀ retry, delivery ≠ .refused retry) :
    Commits env orderId s (.commit w delivery) call l := by
  rw [prepareCommit_inputKey hargs] at hfree
  rw [prepareCommit_expected hargs] at hversion
  exact ⟨⟨w, delivery, rfl, ⟨scan, hworker⟩, hran⟩, hloaded, ⟨args, hargs⟩, hfree, hversion⟩

/-- A step leaves the stored order and the log alone, or is a commit with status 0. -/
theorem step_commits {a : Action} (h : step env orderId s a = some s') :
    (s'.log = s.log ∧ s'.keys.view = s.keys.view) ∨
      ∃ call l args, Commits env orderId s a call l ∧
        prepareCommit env orderId call.input call.now l.view = .ok args ∧
        s'.log = s.log ++ [s.commitRecord call l args] ∧
        s'.keys.view = (s.commitRecord call l args).after := by
  cases step_cases h with
  | @committedLost w call scan l args delivery _ hworker hloaded hargs hfree hversion hran
  | @committed w call scan l args delivery hworker hloaded hargs hfree hversion hran =>
    exact .inr ⟨call, l, args, .of_ran hworker hloaded hargs hfree hversion hran, hargs, rfl, rfl⟩
  | orphanRemoved => exact .inl ⟨rfl, removeOrphanDeadlineScript_view _⟩
  | deadlineCompleted => exact .inl ⟨rfl, completeDeadlineScript_view _ _⟩
  | stopped | started | loaded | abandoned | replayed | scanned | orphaned | found | acquired
  | leaseFoundComplete | processed | published | leaseCompleted | journalExpired | leaseExpired =>
    exact .inl ⟨rfl, rfl⟩

/-- Worker `w` is in a call that has loaded `l`. -/
def CheckoutState.HasLoaded (s : CheckoutState) (w : ℕ) (l : LoadedView) : Prop :=
  ∃ call scan, s.workers w = .applying call scan ∧ call.loaded = some l

/-- Changing a worker to a state without a loaded view adds no loaded view. -/
lemma CheckoutState.HasLoaded.of_update {v : ℕ} {worker : Worker} {l : LoadedView}
    (hworkers : s'.workers = Function.update s.workers v worker)
    (hworker : ∀ call scan, worker = .applying call scan → call.loaded = none)
    (h : s'.HasLoaded w l) : s.HasLoaded w l := by
  obtain ⟨call, scan, hw, hl⟩ := h
  rw [hworkers] at hw
  by_cases hv : w = v
  · subst hv
    rw [Function.update_self] at hw
    rw [hworker call scan hw] at hl
    cases hl
  · rw [Function.update_of_ne hv] at hw
    exact ⟨call, scan, hw, hl⟩

/-- An abandoned attempt has nothing loaded. -/
lemma Abandoned.loaded {call : Call} {scan : Option Scan} {worker : Worker}
    (h : Abandoned call scan worker) :
    ∀ call' scan', worker = .applying call' scan' → call'.loaded = none := by
  cases h with
  | idle => rintro _ _ ⟨⟩
  | next =>
    rintro _ _ ⟨⟩
    rfl

/-- Nor has a call that returned. -/
lemma Worker.returned_loaded (scan : Option Scan) (results : List ResultMessage) :
    ∀ call' scan', Worker.returned scan results = .applying call' scan' → call'.loaded = none := by
  cases scan <;> rintro _ _ ⟨⟩

/-- A loaded view was loaded before the step, or is the view stored in it. -/
theorem step_loaded {a : Action} {l : LoadedView} (h : step env orderId s a = some s')
    (hl : s'.HasLoaded w l) :
    s.HasLoaded w l ∨
      l = { view := s.keys.view, seen := s.log.length } ∧ s'.keys = s.keys ∧ s'.log = s.log := by
  cases step_cases h with
  | @loaded v call scan hworker =>
    by_cases hv : w = v
    · subst hv
      obtain ⟨call', scan', hw, hloaded⟩ := hl
      rw [CheckoutState.setWorker_workers, Function.update_self] at hw
      cases hw
      cases hloaded
      exact .inr ⟨rfl, rfl, rfl⟩
    · obtain ⟨call', scan', hw, hloaded⟩ := hl
      rw [CheckoutState.setWorker_workers, Function.update_of_ne hv] at hw
      exact .inl ⟨call', scan', hw, hloaded⟩
  | abandoned _ _ hnext => exact .inl (hl.of_update rfl hnext.loaded)
  | committedLost _ _ _ _ _ _ _ hnext => exact .inl (hl.of_update rfl hnext.loaded)
  | committed | replayed => exact .inl (hl.of_update rfl (Worker.returned_loaded _ _))
  | stopped | scanned | orphaned | found | orphanRemoved | acquired | leaseFoundComplete
  | published | leaseCompleted | deadlineCompleted =>
    exact .inl (hl.of_update rfl (by rintro _ _ ⟨⟩))
  | started | processed => exact .inl (hl.of_update rfl (by rintro _ _ ⟨⟩; rfl))
  | journalExpired | leaseExpired => exact .inl hl

/-- A worker that was not changed to a call is in a call that it was in before. -/
lemma CheckoutState.call_of_update {v : ℕ} {worker : Worker} {call' : Call} {scan' : Option Scan}
    (hworkers : s'.workers = Function.update s.workers v worker)
    (hworker : worker = .applying call' scan' →
      ∃ call, s.workers v = .applying call scan' ∧ call'.input = call.input ∧
        call'.now = call.now)
    (hw : s'.workers w = .applying call' scan') :
    ∃ call, s.workers w = .applying call scan' ∧ call'.input = call.input ∧
      call'.now = call.now := by
  rw [hworkers] at hw
  by_cases hv : w = v
  · subst hv
    rw [Function.update_self] at hw
    exact hworker hw
  · rw [Function.update_of_ne hv] at hw
    exact ⟨call', hw, rfl, rfl⟩

/-- The next attempt of a call has its input. -/
lemma Abandoned.call {call : Call} {scan : Option Scan} {worker : Worker}
    (h : Abandoned call scan worker) (hworker : s.workers w = .applying call scan)
    {call' : Call} {scan' : Option Scan} (heq : worker = .applying call' scan') :
    ∃ call, s.workers w = .applying call scan' ∧ call'.input = call.input ∧
      call'.now = call.now := by
  cases h with
  | idle => cases heq
  | next =>
    cases heq
    exact ⟨call, hworker, rfl, rfl⟩

/-- A call in progress was in progress before the step, or is started by it: for a delivered input,
or by a scan for the input of its record. -/
theorem step_call {a : Action} {call' : Call} {scan' : Option Scan}
    (h : step env orderId s a = some s') (hw : s'.workers w = .applying call' scan') :
    (∃ call, s.workers w = .applying call scan' ∧ call'.input = call.input ∧
      call'.now = call.now) ∨
    (call'.input.addressed orderId ∧ call'.input.accepted orderId = true ∧
      (a = .deliver w call'.input call'.now ∨ a = .process w call'.now)) := by
  cases step_cases h with
  | started v input now _ haddressed haccepted =>
    by_cases hv : w = v
    · subst hv
      simp only [CheckoutState.startCall, CheckoutState.setWorker_workers, Function.update_self,
        Worker.applying.injEq] at hw
      obtain ⟨rfl, -⟩ := hw
      exact .inr ⟨haddressed, haccepted, .inl rfl⟩
    · refine .inl ⟨call', ?_, rfl, rfl⟩
      simpa [CheckoutState.startCall, hv] using hw
  | @processed v now scan hworker haccepted =>
    by_cases hv : w = v
    · subst hv
      simp only [CheckoutState.startCall, CheckoutState.setWorker_workers, Function.update_self,
        Worker.applying.injEq] at hw
      obtain ⟨rfl, -⟩ := hw
      exact .inr ⟨rfl, haccepted, .inr rfl⟩
    · refine .inl ⟨call', ?_, rfl, rfl⟩
      simpa [CheckoutState.startCall, hv] using hw
  | @loaded v call scan hworker =>
    refine .inl (CheckoutState.call_of_update rfl ?_ hw)
    rintro ⟨⟩
    exact ⟨call, hworker, rfl, rfl⟩
  | abandoned v hworker hnext =>
    exact .inl (CheckoutState.call_of_update rfl (hnext.call hworker) hw)
  | committedLost v hworker _ _ _ _ _ hnext =>
    exact .inl (CheckoutState.call_of_update rfl (hnext.call hworker) hw)
  | @committed _ _ scan | @replayed _ _ scan =>
    exact .inl (CheckoutState.call_of_update rfl (by cases scan <;> rintro ⟨⟩) hw)
  | stopped | scanned | orphaned | found | orphanRemoved | acquired | leaseFoundComplete
  | published | leaseCompleted | deadlineCompleted =>
    exact .inl (CheckoutState.call_of_update rfl (by rintro ⟨⟩) hw)
  | journalExpired | leaseExpired => exact .inl ⟨call', hw, rfl, rfl⟩

/-- The call that a scan starts has the input of a deadline record. -/
lemma step_process_input {now : Time} {call : Call} {scan : Option Scan}
    (h : step env orderId s (.process w now) = some s')
    (hw : s'.workers w = .applying call scan) :
    ∃ record : DeadlineRecord, call.input = record.input orderId := by
  simp only [step] at h
  split at h
  · split_ifs at h
    · cases h
      simp only [CheckoutState.startCall, CheckoutState.setWorker_workers, Function.update_self,
        Worker.applying.injEq] at hw
      obtain ⟨rfl, -⟩ := hw
      exact ⟨_, rfl⟩
    · cases h
      simp at hw
  · cases h

end Boutique
