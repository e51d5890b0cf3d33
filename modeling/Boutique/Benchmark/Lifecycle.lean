import Boutique.Benchmark.FailedStart

/-!
# The life of a run

Any number of controllers and Jobs work on the record of one run, each operation on the store a step of
its own.  Every `mutate` reads the record and writes it under the condition of the revision that it
read, so it changes the state that it read.  But it does not look at that state: a `mutate` that reads a
terminal state replaces it.

If `start`, `_reconcile`, `stop` and the Job read the record for a change of the state only while the
run is not over, or in the state in which the change leaves it, a terminal state is final.
-/

namespace Boutique.Benchmark

open StoreProgram

/-! ## The calls -/

/-- The calls on a run, and the use of the lease by other runs. -/
inductive Call where
  | start (request : Except String BenchmarkConfig)
  | stop
  | details
  | listRuns
  | coordinator
  | heartbeat (rounds : ℕ)
  | otherRun (lease : Lease)

/-- Another run writes the lease. -/
def otherRun (lease : Lease) : Prog Unit := do
  match ← get .lease with
  | .refused => let _ ← create .lease lease
  | .done current => let _ ← update .lease lease current.revision
  | .failed => pure ()

/-- The program of a call. -/
def Call.program (runId : String) : Call → Prog Unit
  | .start request => do let _ ← Benchmark.start request runId
  | .stop => do let _ ← Benchmark.stop runId
  | .details => do let _ ← Benchmark.details runId
  | .listRuns => do let _ ← listRun
  | .coordinator => Benchmark.coordinator runId
  | .heartbeat rounds => Benchmark.heartbeat runId rounds
  | .otherRun lease => Benchmark.otherRun lease

/-- The store and the calls on it. -/
abbrev System := Pool Value Query.Result Failure Unit ℕ

/-- The steps of the system. -/
abbrev Step := Action Query.Result ℕ Call

/-- One step. -/
abbrev System.step (runId : String) : System → Step → Option System :=
  Pool.step (Call.program runId)

/-- Nothing has happened. -/
def System.initial (s : Store Value) : System where
  store := s
  thread := fun _ => none

/-! ## The changes of the state -/

/-- The changes of the state of a run: what `start` records when the Job was not submitted, what
`_reconcile` and the two `mutate` of `stop` make, and those of the Job. -/
inductive StateChange where
  | notSubmitted (error : Failure)
  | reconciled (terminal : RunState) (message : String)
  | stopping | stopped
  | starting (leaseUntil workerCount : ℕ)
  | running
  | finish (report : Report)
  | failed (error : Failure)

/-- What a change does with the status. -/
def StateChange.apply : StateChange → Status → Status
  | .notSubmitted error, status =>
    { status with
      state := .failed, message := some ("could not submit benchmark Job: " ++ error.text) }
  | .reconciled terminal message, status => { status with state := terminal, message := some message }
  | .stopping, status => { status with state := .stopping, stopRequested := true }
  | .stopped, status => { status with state := .stopped }
  | .starting leaseUntil workerCount, status =>
    { status with
      state := .starting, leaseUntil := leaseUntil, workerCount := some workerCount }
  | .running, status => { status with state := .running }
  | .finish report, status => Benchmark.finish report status
  | .failed error, status => { status with state := .failed, message := some error.text }

/-- The states that a change may read: those of a run that is not over, and the one in which the change
leaves the run anyway. -/
def StateChange.MayRead (status : Status) : StateChange → Prop
  | .stopping | .starting _ _ | .running => status.state.terminal = false
  | .notSubmitted _ | .failed _ => status.state.terminal = false ∨ status.state = .failed
  | .stopped => status.state.terminal = false ∨ status.state = .stopped
  | .reconciled terminal _ => status.state.terminal = false ∨ status.state = terminal
  | .finish report => status.state.terminal = false ∨
      status.state = if status.stopRequested then .stopped else report.state

/-- The record after a change of the state. -/
def StateChange.record (change : StateChange) (record : RunRecord) : RunRecord :=
  record.change change.apply

/-- The changes of the record that the calls make: those of the state, and some that keep it. -/
def RunChange (change : RunRecord → RunRecord) : Prop :=
  (∃ stateChange : StateChange, change = stateChange.record) ∨
    ∀ record, (change record).status.state = record.status.state

/-- A change of the state. -/
lemma RunChange.of_state (change : StateChange) :
    RunChange fun record => record.change change.apply := .inl ⟨change, rfl⟩

/-! ## Every update follows a read -/

section Rewrites

variable {runId : String} {α : Type} {seen : Option (Entry RunRecord)}

/-- A program that updates the record of the run only as a change of what it has just read, with nothing
said of the result. -/
abbrev RewritesRun {α : Type} (seen : Option (Entry RunRecord)) (p : Prog α) : Prop :=
  Rewrites Key.run RunChange (fun _ _ => True) seen p

/-- `_release_lease` does not write the record. -/
lemma rewrites_releaseLease (attempts : ℕ) : RewritesRun seen (releaseLease runId attempts) := by
  induction attempts generalizing seen with
  | zero => exact ⟨trivial, trivial⟩
  | succ attempts ih =>
    refine Rewrites.call trivial (fun _ => rfl) fun reply => ?_
    cases reply with
    | refused => exact ⟨trivial, trivial⟩
    | failed => exact ⟨trivial, trivial⟩
    | done current =>
      change RewritesRun _ (if _ then _ else _)
      split_ifs
      · exact ⟨trivial, trivial⟩
      · refine Rewrites.call (by rintro ⟨⟩) (fun _ => rfl) fun reply => ?_
        cases reply with
        | done _ => exact ⟨trivial, trivial⟩
        | refused => exact ih
        | failed => exact ⟨trivial, trivial⟩

/-- `_acquire_lease` does not write the record. -/
lemma rewrites_acquireLease (duration attempts : ℕ) :
    RewritesRun seen (acquireLease runId duration attempts) := by
  induction attempts generalizing seen with
  | zero => exact ⟨trivial, trivial⟩
  | succ attempts ih =>
    refine Rewrites.call trivial (fun _ => rfl) fun now =>
      Rewrites.call trivial (fun _ => rfl) fun reply => ?_
    cases reply with
    | refused =>
      refine Rewrites.call trivial (fun _ => rfl) fun reply => ?_
      cases reply with
      | done _ => exact ⟨trivial, trivial⟩
      | refused => exact ih
      | failed => exact ⟨trivial, trivial⟩
    | failed => exact ⟨trivial, trivial⟩
    | done current =>
      change RewritesRun _ (if _ then _ else _)
      split_ifs
      · exact ⟨trivial, trivial⟩
      · refine Rewrites.call (by rintro ⟨⟩) (fun _ => rfl) fun reply => ?_
        cases reply with
        | done _ => exact ⟨trivial, trivial⟩
        | refused => exact ih
        | failed => exact ⟨trivial, trivial⟩

/-- The loop of `renew_lease` does not write the record. -/
lemma rewrites_renewLeaseLoop (leaseUntil attempts : ℕ) :
    RewritesRun seen (renewLeaseLoop runId leaseUntil attempts) := by
  induction attempts generalizing seen with
  | zero => exact ⟨trivial, trivial⟩
  | succ attempts ih =>
    refine Rewrites.call trivial (fun _ => rfl) fun reply => ?_
    cases reply with
    | refused => exact ⟨trivial, trivial⟩
    | failed => exact ⟨trivial, trivial⟩
    | done current =>
      change RewritesRun _ (if _ then _ else if _ then _ else _)
      split_ifs
      · exact ⟨trivial, trivial⟩
      · exact ⟨trivial, trivial⟩
      · refine Rewrites.call (by rintro ⟨⟩) (fun _ => rfl) fun reply => ?_
        cases reply with
        | done _ => exact ⟨trivial, trivial⟩
        | refused => exact ih
        | failed => exact ⟨trivial, trivial⟩

/-- `renew_lease` does not write the record. -/
lemma rewrites_renewLease : RewritesRun seen (renewLease runId) := by
  refine Rewrites.call trivial (fun _ => rfl) fun now => ?_
  change RewritesRun _ (renewLeaseLoop runId (now + 90000000000) 12 >>= _)
  exact (rewrites_renewLeaseLoop _ _).bind (fun _ => rfl) fun _ _ _ => ⟨trivial, trivial⟩

/-- `_get` writes nothing. -/
lemma rewrites_getRun : RewritesRun seen (getRun runId) := by
  unfold getRun
  split_ifs
  · exact ⟨trivial, trivial⟩
  · refine Rewrites.call trivial (fun entry => ?_) fun reply => ?_
    · change nextUpdate Key.run (if _ then _ else _) = none
      split_ifs <;> rfl
    · cases reply with
      | refused => exact ⟨trivial, trivial⟩
      | failed => exact ⟨trivial, trivial⟩
      | done record =>
        change RewritesRun _ (if _ then _ else _)
        split_ifs
        · exact ⟨trivial, trivial⟩
        · exact ⟨trivial, trivial⟩

/-- The update of a `mutate`, and what follows it. -/
lemma rewrites_update {α : Type} {record : RunRecord} {current : Entry RunRecord}
    {next : Answer ℕ → Prog α} (hnext : ∀ reply, RewritesRun none (next reply)) :
    RewritesRun (some current) (.call (.update .run record current.revision) next) :=
  Rewrites.call (fun _ => ⟨current, rfl, rfl⟩) (fun _ => rfl) hnext

/-- What `mutate` of a controller is about to write after it has read a record. -/
lemma rewritten_mutate (change : Status → Status) (attempts : ℕ)
    (hid : ¬(runId = "" ∨ 64 < runId.length)) (entry : Entry RunRecord) :
    rewritten Key.run entry (mutate runId change (attempts + 1)) =
      if entry.value.runId ≠ runId then none else some (entry.value.change change) := by
  rw [mutate, getRun, if_neg hid]
  change nextUpdate Key.run (Program.bind (if _ then _ else _) _) = _
  split_ifs <;> rfl

/-- `mutate` of a controller writes a change of what it has just read. -/
lemma rewrites_mutate {change : Status → Status}
    (hchange : RunChange fun record => record.change change) (attempts : ℕ) :
    RewritesRun seen (mutate runId change attempts) := by
  induction attempts generalizing seen with
  | zero => exact ⟨trivial, trivial⟩
  | succ attempts ih =>
    by_cases hid : runId = "" ∨ 64 < runId.length
    · rw [mutate, getRun, if_pos hid]
      exact ⟨trivial, trivial⟩
    have hrewritten := rewritten_mutate change attempts hid
    rw [mutate, getRun, if_neg hid] at hrewritten ⊢
    refine Rewrites.change hchange ⟨⟨⟨⟨runId, ⟨0, 0⟩, { state := .running }⟩, 0⟩, ?_⟩, ?_⟩ fun reply => ?_
    · exact (congrArg Option.isSome ((hrewritten _).trans (if_neg (not_not.mpr rfl)))).trans rfl
    · intro entry value hvalue
      have hchanged := (hrewritten entry).symm.trans hvalue
      split_ifs at hchanged
      exact (Option.some.inj hchanged).symm
    · cases reply with
      | refused => exact ⟨trivial, trivial⟩
      | failed => exact ⟨trivial, trivial⟩
      | done current =>
        change RewritesRun _ (Program.bind (if _ then _ else _) _)
        split_ifs
        · exact ⟨trivial, trivial⟩
        · refine rewrites_update fun reply => ?_
          cases reply with
          | done _ => exact ⟨trivial, trivial⟩
          | refused => exact ih
          | failed => exact ⟨trivial, trivial⟩

/-- `mutate` of the Job writes a change of what it has just read. -/
lemma rewrites_mutateJob {change : Status → Status}
    (hchange : RunChange fun record => record.change change) (attempts : ℕ) :
    RewritesRun seen (mutateJob runId change attempts) := by
  induction attempts generalizing seen with
  | zero => exact ⟨trivial, trivial⟩
  | succ attempts ih =>
    refine Rewrites.change hchange ⟨⟨⟨⟨runId, ⟨0, 0⟩, { state := .running }⟩, 0⟩, rfl⟩, ?_⟩ fun reply => ?_
    · rintro entry value ⟨⟩
      rfl
    · cases reply with
      | refused => exact ⟨trivial, trivial⟩
      | failed => exact ⟨trivial, trivial⟩
      | done current =>
        refine rewrites_update fun reply => ?_
        cases reply with
        | done _ => exact ⟨trivial, trivial⟩
        | refused => exact ih
        | failed => exact ⟨trivial, trivial⟩

/-- An outside result. -/
lemma rewrites_orRaise (result : Except String α) : RewritesRun seen (orRaise result) := by
  cases result with
  | ok a => exact ⟨trivial, trivial⟩
  | error text => exact ⟨trivial, trivial⟩

/-- A `mutate` does not start with an update. -/
lemma nextUpdate_mutate (change : Status → Status) (attempts : ℕ) :
    nextUpdate Key.run (mutate runId change attempts) = none := by
  cases attempts with
  | zero => rfl
  | succ attempts =>
    rw [mutate, getRun]
    split_ifs <;> rfl

/-- Recording a failed submission does not start with an update. -/
lemma nextUpdate_recordFailure (error : Failure) :
    nextUpdate Key.run (recordFailure runId error) = none := by
  refine (nextUpdate_handle fun e => ?_).trans
    ((nextUpdate_bind fun _ => rfl).trans (nextUpdate_mutate _ _))
  cases e <;> rfl

/-- Recording a failed submission is a change of the state. -/
lemma rewrites_recordFailure (error : Failure) : RewritesRun seen (recordFailure runId error) := by
  refine Rewrites.handle ?_ (fun e => ?_) fun e _ => ?_
  · exact (rewrites_mutate (.of_state (.notSubmitted error)) _).bind (fun _ => rfl) fun _ _ _ =>
      ⟨trivial, trivial⟩
  · cases e <;> rfl
  · cases e <;> exact ⟨trivial, trivial⟩

/-- `start` names the Job, or makes a change of the state. -/
lemma rewrites_start (request : Except String BenchmarkConfig) :
    RewritesRun seen (start request runId) := by
  cases request with
  | error text => exact ⟨trivial, trivial⟩
  | ok config =>
    refine Rewrites.bind (rewrites_acquireLease _ _) (fun _ => rfl) fun _ _ _ => ?_
    refine Rewrites.call trivial (fun _ => rfl) fun now =>
      Rewrites.handle ?_ (fun error => ?_) fun error seen' => ?_
    · refine Rewrites.call trivial (fun _ => rfl) fun reply => ?_
      have hrest : RewritesRun none (do
          let name ← orRaise (← jobsCreate config.maximumSeconds config.workerCount)
          mutate runId (fun status => { status with
            jobName := some name, workerCount := some config.workerCount }) 12) := by
        refine Rewrites.call trivial (fun _ => rfl) fun created => ?_
        change RewritesRun _ (orRaise created >>= _)
        refine (rewrites_orRaise _).bind (fun _ => nextUpdate_mutate _ _) fun _ _ _ => ?_
        exact rewrites_mutate (.inr fun _ => rfl) _
      cases reply with
      | done _ => exact hrest
      | refused => exact ⟨trivial, trivial⟩
      | failed => exact ⟨trivial, trivial⟩
    · exact (nextUpdate_bind fun _ => rfl).trans (nextUpdate_recordFailure error)
    · refine (rewrites_recordFailure error).bind (fun _ => rfl) fun _ _ _ => ?_
      exact (rewrites_releaseLease _).bind (fun _ => rfl) fun _ _ _ => ⟨trivial, trivial⟩

/-- Looking at the Job does not write the record. -/
lemma rewrites_terminalOf (status : Status) (name : String) :
    RewritesRun seen (terminalOf status name) := by
  refine Rewrites.call trivial (fun _ => rfl) fun state => ?_
  cases state with
  | notFound =>
    refine Rewrites.call trivial (fun _ => rfl) fun now => ?_
    change RewritesRun _ (if _ then _ else _)
    split_ifs <;> exact ⟨trivial, trivial⟩
  | _ => exact ⟨trivial, trivial⟩

/-- `_reconcile` does not start with an update. -/
lemma nextUpdate_reconcile (record : RunRecord) : nextUpdate Key.run (reconcile record) = none := by
  unfold reconcile
  cases record.status.jobName with
  | none => rfl
  | some name =>
    change nextUpdate Key.run (if _ then _ else _) = none
    split_ifs <;> rfl

/-- `_reconcile` makes a change of the state. -/
lemma rewrites_reconcile (record : RunRecord) : RewritesRun seen (reconcile record) := by
  unfold reconcile
  cases record.status.jobName with
  | none => exact ⟨trivial, trivial⟩
  | some name =>
    change RewritesRun _ (if _ then _ else _)
    split_ifs
    · exact ⟨trivial, trivial⟩
    · refine (rewrites_terminalOf _ _).bind (fun finished => ?_) fun finished _ _ => ?_
      · cases finished with
        | none => rfl
        | some found => exact (nextUpdate_bind fun _ => rfl).trans (nextUpdate_mutate _ _)
      · cases finished with
        | none => exact ⟨trivial, trivial⟩
        | some found =>
          refine (rewrites_mutate (.of_state (.reconciled found.1 found.2)) _).bind (fun _ => rfl)
            fun _ _ _ => ?_
          exact (rewrites_releaseLease _).bind (fun _ => rfl) fun _ _ _ => ⟨trivial, trivial⟩

/-- The end of `stop`. -/
lemma rewrites_stopped : RewritesRun seen (do
    let record ← mutate runId (fun status => { status with state := .stopped }) 12
    releaseLease runId 12
    pure record) := by
  refine (rewrites_mutate (.of_state .stopped) _).bind (fun _ => rfl) fun _ _ _ => ?_
  exact (rewrites_releaseLease _).bind (fun _ => rfl) fun _ _ _ => ⟨trivial, trivial⟩

/-- The end of `stop` does not start with an update. -/
lemma nextUpdate_stopped : nextUpdate Key.run (do
    let record ← mutate runId (fun status => { status with state := .stopped }) 12
    releaseLease runId 12
    pure record) = none :=
  (nextUpdate_bind fun _ => rfl).trans (nextUpdate_mutate _ _)

/-- `stop` makes two changes of the state. -/
lemma rewrites_stop : RewritesRun seen (stop runId) := by
  -- what `stop` does after its first `mutate`
  obtain ⟨rest, hstop, hquiet, hrest⟩ : ∃ rest : Entry RunRecord → Prog RunRecord,
      (stop runId = getRun runId >>= fun current =>
        if !current.value.status.state.active then
          throw (.runConflict "the requested run is not active")
        else
          mutate runId (fun status => { status with state := .stopping, stopRequested := true }) 12 >>=
            fun _ => rest current) ∧
      (∀ current, nextUpdate Key.run (rest current) = none) ∧
        ∀ current seen', RewritesRun seen' (rest current) := by
    refine ⟨_, rfl, fun current => ?_, fun current seen' => ?_⟩
    · cases current.value.status.jobName with
      | none => exact nextUpdate_stopped
      | some name =>
        by_cases hname : name = ""
        · simp only [hname, if_true]
          exact nextUpdate_stopped
        · simp only [hname, if_false]
          rfl
    · cases current.value.status.jobName with
      | none => exact rewrites_stopped
      | some name =>
        by_cases hname : name = ""
        · simp only [hname, if_true]
          exact rewrites_stopped
        · simp only [hname, if_false]
          refine Rewrites.call trivial (fun _ => rfl) fun deleted => ?_
          exact (rewrites_orRaise _).bind (fun _ => nextUpdate_stopped) fun _ _ _ => rewrites_stopped
  rw [hstop]
  refine Rewrites.bind rewrites_getRun (fun current => ?_) fun current _ _ => ?_
  · split_ifs
    · rfl
    · exact (nextUpdate_bind fun _ => hquiet current).trans (nextUpdate_mutate _ _)
  split_ifs
  · exact ⟨trivial, trivial⟩
  · exact (rewrites_mutate (.of_state .stopping) _).bind (fun _ => hquiet current)
      fun _ _ _ => hrest current _

/-- The coordinator makes changes of the state. -/
lemma rewrites_coordinator : RewritesRun seen (coordinator runId) := by
  refine Rewrites.handle ?_ (fun error => ?_) fun error _ => ?_
  · refine Rewrites.call trivial (fun _ => rfl) fun reply => ?_
    cases reply with
    | refused => exact ⟨trivial, trivial⟩
    | failed => exact ⟨trivial, trivial⟩
    | done current =>
      refine Rewrites.call trivial (fun _ => rfl) fun _ =>
        (rewrites_orRaise _).bind (fun _ => rfl) fun _ _ _ => ?_
      refine rewrites_renewLease.bind (fun _ => rfl) fun leaseUntil _ _ => ?_
      refine (rewrites_mutateJob (.of_state (.starting leaseUntil _)) _).bind (fun _ => rfl)
        fun _ _ _ => ?_
      refine Rewrites.call trivial (fun _ => rfl) fun _ =>
        (rewrites_orRaise _).bind (fun _ => rfl) fun _ _ _ => ?_
      refine (rewrites_mutateJob (.of_state .running) _).bind (fun _ => rfl) fun _ _ _ => ?_
      refine Rewrites.call trivial (fun _ => rfl) fun _ =>
        (rewrites_orRaise _).bind (fun _ => rfl) fun report _ _ => ?_
      refine (rewrites_mutateJob (.of_state (.finish report)) _).bind (fun _ => rfl) fun _ _ _ =>
        (rewrites_releaseLease _).bind (fun _ => rfl) fun _ _ _ => ?_
      exact Rewrites.call trivial (fun _ => rfl) fun _ => rewrites_orRaise _
  · rfl
  · refine Rewrites.handle ?_ (fun _ => rfl) fun _ _ => ⟨trivial, trivial⟩
    exact (rewrites_mutateJob (.of_state (.failed error)) _).bind (fun _ => rfl) fun _ _ _ =>
      rewrites_releaseLease _

/-- The heartbeat keeps the state. -/
lemma rewrites_heartbeat (rounds : ℕ) : RewritesRun seen (heartbeat runId rounds) := by
  refine Rewrites.handle ?_ (fun _ => rfl) fun _ _ => ⟨trivial, trivial⟩
  induction rounds generalizing seen with
  | zero => exact ⟨trivial, trivial⟩
  | succ rounds ih =>
    refine rewrites_renewLease.bind (fun _ => rfl) fun _ _ _ =>
      Rewrites.call trivial (fun _ => rfl) fun stopped => ?_
    cases stopped with
    | true => exact ⟨trivial, trivial⟩
    | false =>
      refine (rewrites_mutateJob (.inr fun _ => rfl) _).bind (fun _ => ?_) fun _ _ _ => ih
      cases rounds <;> rfl

/-- Every call updates the record of the run only as a change of what it has just read. -/
lemma rewrites_program (runId : String) (call : Call) : RewritesRun none (call.program runId) := by
  cases call with
  | start request => exact (rewrites_start request).bind (fun _ => rfl) fun _ _ _ => ⟨trivial, trivial⟩
  | stop => exact rewrites_stop.bind (fun _ => rfl) fun _ _ _ => ⟨trivial, trivial⟩
  | details =>
    refine Rewrites.bind (Q := fun _ _ => True) ?_ (fun _ => rfl) fun _ _ _ => ⟨trivial, trivial⟩
    exact rewrites_getRun.bind (fun _ => nextUpdate_reconcile _) fun _ _ _ => rewrites_reconcile _
  | listRuns =>
    refine Rewrites.bind (Q := fun _ _ => True) ?_ (fun _ => rfl) fun _ _ _ => ⟨trivial, trivial⟩
    refine Rewrites.handle ?_ (fun e => ?_) fun e _ => ?_
    · refine Rewrites.call trivial (fun entry => ?_) fun reply => ?_
      · change nextUpdate Key.run (Program.bind (reconcile entry.value) _) = none
        exact (nextUpdate_bind fun _ => rfl).trans (nextUpdate_reconcile _)
      · cases reply with
        | refused => exact ⟨trivial, trivial⟩
        | failed => exact ⟨trivial, trivial⟩
        | done record =>
          exact (rewrites_reconcile _).bind (fun _ => rfl) fun _ _ _ => ⟨trivial, trivial⟩
    · cases e <;> rfl
    · cases e <;> exact ⟨trivial, trivial⟩
  | coordinator => exact rewrites_coordinator
  | heartbeat rounds => exact rewrites_heartbeat rounds
  | otherRun lease =>
    refine Rewrites.call trivial (fun _ => rfl) fun reply => ?_
    cases reply with
    | refused => exact Rewrites.call trivial (fun _ => rfl) fun _ => ⟨trivial, trivial⟩
    | failed => exact ⟨trivial, trivial⟩
    | done current =>
      exact Rewrites.call (by rintro ⟨⟩) (fun _ => rfl) fun _ => ⟨trivial, trivial⟩

end Rewrites

/-! ## Terminal states -/

/-- A change that keeps a terminal state. -/
def KeepsTerminal (old new : RunRecord) : Prop :=
  old.status.state.terminal = true → new.status.state = old.status.state

/-- A change leaves the terminal states that it may read. -/
lemma StateChange.mayRead_iff {change : StateChange} {status : Status} :
    change.MayRead status ↔
      (status.state.terminal = true → (change.apply status).state = status.state) := by
  cases hterminal : status.state.terminal with
  | false => cases change <;> simp [MayRead, hterminal]
  | true =>
    -- the other changes do not leave a run in a terminal state
    have hne : ∀ state : RunState, state.terminal = false → state ≠ status.state := by
      rintro state hstate rfl
      rw [hterminal] at hstate
      cases hstate
    cases change with
    | stopping => simpa [MayRead, apply, hterminal] using hne .stopping rfl
    | starting => simpa [MayRead, apply, hterminal] using hne .starting rfl
    | running => simpa [MayRead, apply, hterminal] using hne .running rfl
    | notSubmitted | failed | stopped | reconciled | finish =>
      simp only [MayRead, apply, Benchmark.finish, hterminal, Bool.true_eq_false, false_or,
        forall_const]
      exact eq_comm

/-- A call that reads the record of the run for a change of the state reads a state that this change may
read. -/
def ReadsBeforeTerminal (s : System) (a : Step) : Prop :=
  ∀ c p entry (change : StateChange), a = .step c .usual → s.thread c = some p →
    s.store.record .run = some entry → Changing Key.run change.record p →
    change.MayRead entry.value.status

/-- The changes that the calls make keep terminal states if the reads meet the condition. -/
lemma readsFor_of_readsBeforeTerminal {s : System} {a : Step} (h : Changes Key.run RunChange s)
    (hreads : ReadsBeforeTerminal s a) : ReadsFor Key.run KeepsTerminal s a := by
  refine ReadsFor.of_changes h fun c p entry change ha hthread hrecord hchange hchanging => ?_
  rcases hchange with ⟨stateChange, rfl⟩ | hkeeps
  · exact StateChange.mayRead_iff.mp (hreads c p entry stateChange ha hthread hrecord hchanging)
  · exact fun _ => hkeeps entry.value

/-- In every run in which `start`, `_reconcile`, `stop` and the Job read the record for a change of the
state only in the states that the change may read, a stored terminal state is final. -/
theorem terminal_state_final {runId : String} {store : Store Value} {as bs : List Step}
    {s s' : System} {entry : Entry RunRecord}
    (hreads : StepSystem.Along (System.step runId) ReadsBeforeTerminal (System.initial store)
      (as ++ bs))
    (hrun : StepSystem.run (System.step runId) (System.initial store) as = some s)
    (hrest : StepSystem.run (System.step runId) s bs = some s')
    (hentry : s.store.record .run = some entry)
    (hterminal : entry.value.status.state.terminal = true) :
    ∃ entry' : Entry RunRecord, s'.store.record .run = some entry' ∧
      entry'.value.status.state = entry.value.status.state := by
  have hcareful := fun call => (rewrites_program runId call).careful
  have hchanges : StepSystem.Along (System.step runId) (ReadsFor Key.run KeepsTerminal)
      (System.initial store) (as ++ bs) := by
    refine hreads.mono_of_step (I := Changes Key.run RunChange) (fun _ _ _ h hstep => ?_)
      (fun _ _ => readsFor_of_readsBeforeTerminal) ?_
    · exact h.step (fun call => (rewrites_program runId call).changes) hstep
    · rintro c p ⟨⟩
  obtain ⟨hbefore, hafter⟩ := hchanges.split hrun
  have hinitial : Prepared (k := Key.run) KeepsTerminal (System.initial store) := by
    rintro c p ⟨⟩
  have hprepared := hinitial.run hcareful hbefore hrun
  have htrans : ∀ u v w : RunRecord, KeepsTerminal u v → KeepsTerminal v w → KeepsTerminal u w := by
    intro u v w huv hvw hu
    have hv := huv hu
    rw [← hv] at hu
    exact (hvw hu).trans hv
  obtain ⟨entry', hentry', hkeeps⟩ := value_run (fun _ _ => rfl) htrans hcareful hprepared hafter hrest
    hentry
  exact ⟨entry', hentry', hkeeps hterminal⟩

/-! ## Sample runs -/

/-- Replies of a cluster in which everything works. -/
def goodReplies : (query : Query) → query.Result
  | .clock => 1700000000000000000
  | .jobsCreate _ _ => .ok "job-1"
  | .jobsState _ => .other
  | .jobsDelete _ => .ok ()
  | .work => .ok ()
  | .report => .ok { state := .completed, exitCode := 0, message := none }
  | .heartbeatStop => false

/-- A thread makes a number of operations on the store. -/
def usual (c : ℕ) (operations : ℕ) : List Step := List.replicate operations (.step c .usual)

/-- A thread gets one of the replies. -/
def reply (c : ℕ) : List Step := [.step c (.outside goodReplies)]

/-- A run is started, and its Job runs until Locust ends. -/
def untilReport : List Step :=
  .start 0 (.start (.ok ⟨60, 1⟩)) :: reply 0 ++ usual 0 2 ++ reply 0 ++ usual 0 1 ++ reply 0 ++
    usual 0 2 ++
  .start 1 .coordinator :: usual 1 1 ++ reply 1 ++ reply 1 ++ usual 1 4 ++ reply 1 ++ usual 1 2 ++
    reply 1

/-- A step reads the record of a run that is over. -/
def readsOver (s : System) : Step → Bool
  | .step c .usual =>
    match s.thread c, s.store.record .run with
    | some (.call (.get .run) _), some entry => RunState.terminal entry.value.status.state
    | _, _ => false
  | _ => false

/-- A change may read the record of a run that is not over. -/
lemma readsBeforeTerminal_of_running {s : System} {a : Step} (h : readsOver s a = false) :
    ReadsBeforeTerminal s a := by
  rintro c p entry change rfl hthread hrecord ⟨⟨probe, hprobe⟩, -⟩
  rw [StateChange.mayRead_iff]
  cases p with
  | ret | raise => cases hprobe
  | call op next =>
    cases op with
    | get k =>
      cases k with
      | lease => cases hprobe
      | run =>
        simp only [readsOver, hthread, hrecord] at h
        intro hterminal
        rw [h] at hterminal
        cases hterminal
    | create | update | outside => cases hprobe

/-- A controller has asked the run to stop when the Job finishes. -/
def untilStopped : List Step :=
  untilReport ++ .start 2 .stop :: usual 2 3 ++ reply 2 ++ usual 1 2

/-- The Job leaves the run stopped, and the controller writes that once more. -/
theorem stopped_run_stays_stopped :
    ∃ (s s' : System) (entry entry' : Entry RunRecord),
      StepSystem.run (System.step "run-1") (System.initial emptyStore) untilStopped = some s ∧
      StepSystem.run (System.step "run-1") s (usual 2 2) = some s' ∧
      s.store.record .run = some entry ∧ entry.value.status.state = .stopped ∧
      s'.store.record .run = some entry' ∧ entry.revision < entry'.revision ∧
      entry'.value.status.state = .stopped := by
  have hbefore : StepSystem.Along (System.step "run-1") ReadsBeforeTerminal
      (System.initial emptyStore) untilStopped := by
    refine StepSystem.Along.mono (P := fun s a => readsOver s a = false)
      (fun _ _ => readsBeforeTerminal_of_running) ?_
    decide
  have hreads : StepSystem.Along (System.step "run-1") ReadsBeforeTerminal
      (System.initial emptyStore) (untilStopped ++ usual 2 2) := by
    refine hbefore.append ?_
    rintro s ⟨⟩
    refine And.intro ?_ (StepSystem.Along.mono (P := fun s a => readsOver s a = false)
      (fun _ _ => readsBeforeTerminal_of_running) (by decide))
    -- the second `mutate` of `stop` reads the state that it writes
    rintro c p entry change ⟨⟩ ⟨⟩ ⟨⟩ hchanging
    exact StateChange.mayRead_iff.mpr fun _ =>
      congrArg (fun record : RunRecord => record.status.state) (hchanging.eq_of_rewritten rfl)
  obtain ⟨entry', hentry', hstate⟩ := terminal_state_final hreads rfl rfl rfl rfl
  refine ⟨_, _, _, entry', rfl, rfl, rfl, rfl, hentry', ?_, hstate⟩
  cases hentry'
  decide

/-- A controller is asked to stop the run before the Job finishes. -/
def untilFinished : List Step := untilReport ++ .start 2 .stop :: usual 2 1 ++ usual 1 2

/-- The controller goes on to stop the run. -/
def stopAfterFinish : List Step := usual 2 2

/-- A stop that read the state before the Job finished replaces the terminal state. -/
theorem stop_replaces_completed :
    ∃ (s s' : System) (entry entry' : Entry RunRecord),
      StepSystem.run (System.step "run-1") (System.initial emptyStore) untilFinished = some s ∧
      StepSystem.run (System.step "run-1") s stopAfterFinish = some s' ∧
      s.store.record .run = some entry ∧ s'.store.record .run = some entry' ∧
      entry.value.status.state = .completed ∧ entry'.value.status.state = .stopping :=
  ⟨_, _, _, _, rfl, rfl, rfl, rfl, rfl, rfl⟩

end Boutique.Benchmark
