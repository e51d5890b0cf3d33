import Boutique.Lib.StoreProgram

/-!
# Benchmark runs

The programs of `benchmarkservice` that write the record of a run and the lease of the active run: the
calls of `BenchmarkManager` in `control.py`, and the steps of the coordinator in `job.py`.  A call to
the store is one operation of a program, with what `_with_recovery` makes of it as its answer.

Times are in nanoseconds.  The texts of times (`created_at`, `updated_at`, ...), the owner of the lease,
the pod and the process of the Job, the summary and the artifacts are left out, since nothing that is
modelled reads them; of the configuration there are the fields that are read.
-/

namespace Boutique.Benchmark

open StoreProgram

/-! ## Records -/

/-- The states of a run. -/
inductive RunState where
  | submitted | starting | running | stopping
  | completed | failed | stopped | interrupted
deriving DecidableEq, Repr

/-- `ACTIVE_STATES`. -/
def RunState.active : RunState → Bool
  | .submitted | .starting | .running | .stopping => true
  | _ => false

/-- `TERMINAL_STATES`. -/
def RunState.terminal : RunState → Bool
  | .completed | .failed | .stopped | .interrupted => true
  | _ => false

/-- What is read of a `BenchmarkConfig`. -/
structure BenchmarkConfig where
  runSeconds : ℕ
  workerCount : ℕ
deriving DecidableEq, Repr

/-- The status of a run; an absent time of the lease is 0. -/
structure Status where
  state : RunState
  leaseUntil : ℕ := 0
  jobName : Option String := none
  workerCount : Option ℕ := none
  stopRequested : Bool := false
  exitCode : Option ℤ := none
  message : Option String := none
deriving DecidableEq, Repr

/-- The record of a run. -/
structure RunRecord where
  runId : String
  config : BenchmarkConfig
  status : Status
deriving DecidableEq, Repr

/-- The lease of the active run. -/
structure Lease where
  runId : String
  leaseUntil : ℕ
  released : Bool := false
deriving DecidableEq, Repr

/-- The keys `LEASE_KEY` and `run_key(run_id)` for one run. -/
inductive Key where
  | lease | run
deriving DecidableEq, Repr

/-- What is stored under a key. -/
abbrev Value : Key → Type
  | .lease => Lease
  | .run => RunRecord

/-- What `jobs.state` tells. -/
inductive JobState where
  | notFound | error | failed | other
deriving DecidableEq, Repr

/-- How the work of the coordinator ended. -/
structure Report where
  state : RunState
  exitCode : ℤ
  message : Option String
deriving DecidableEq, Repr

/-- The calls to the clock, to Kubernetes and to the rest of the Job. -/
inductive Query where
  | clock
  | jobsCreate (maximumSeconds workerCount : ℕ)
  | jobsState (name : String)
  | jobsDelete (name : String)
  | work
  | report
  | heartbeatStop
deriving DecidableEq, Repr

/-- Their answers. -/
abbrev Query.Result : Query → Type
  | .clock => ℕ
  | .jobsCreate _ _ => Except String String
  | .jobsState _ => JobState
  | .jobsDelete _ => Except String Unit
  | .work => Except String Unit
  | .report => Except String Report
  | .heartbeatStop => Bool

/-- The exceptions. -/
inductive Failure where
  | config (text : String)
  | runConflict (text : String)
  | runNotFound (text : String)
  | recordNotFound (text : String)
  | revisionConflict (text : String)
  | store
  | outside (text : String)
deriving DecidableEq, Repr

/-- `str(error)`; a `RunNotFound` is a `KeyError`. -/
def Failure.text : Failure → String
  | .config text | .runConflict text | .recordNotFound text | .revisionConflict text
  | .outside text => text
  | .runNotFound text => "'" ++ text ++ "'"
  | .store => "nats: timeout"

/-- The programs of the service. -/
abbrev Prog := @Program (Op Value Query) (Reply Query.Result) Failure

/-- `run_key`. -/
def runKey (runId : String) : String := "run." ++ runId

/-- `store.get`. -/
def get (k : Key) : Prog (Answer (Entry (Value k))) := .call (.get k) .ret

/-- `store.create`. -/
def create (k : Key) (value : Value k) : Prog (Answer ℕ) :=
  .call (.create k value) .ret

/-- `store.update`. -/
def update (k : Key) (value : Value k) (revision : ℕ) : Prog (Answer ℕ) :=
  .call (.update k value revision) .ret

/-- `self.clock()`, and `time.time()`. -/
def clock : Prog ℕ := .call (.outside .clock) .ret

/-- `jobs.create`. -/
def jobsCreate (maximumSeconds workerCount : ℕ) : Prog (Except String String) :=
  .call (.outside (.jobsCreate maximumSeconds workerCount)) .ret

/-- `jobs.state`. -/
def jobsState (name : String) : Prog JobState := .call (.outside (.jobsState name)) .ret

/-- `jobs.delete`. -/
def jobsDelete (name : String) : Prog (Except String Unit) :=
  .call (.outside (.jobsDelete name)) .ret

/-- What the coordinator does between two accesses to the store. -/
def work : Prog (Except String Unit) := .call (.outside .work) .ret

/-- The end of Locust and the reports. -/
def awaitReport : Prog (Except String Report) := .call (.outside .report) .ret

/-- `heartbeat_stop.is_set()`. -/
def heartbeatStop : Prog Bool := .call (.outside .heartbeatStop) .ret

/-- The result of an outside call, or its exception. -/
def orRaise {α : Type} : Except String α → Prog α
  | .ok a => pure a
  | .error text => throw (.outside text)

/-! ## The lease -/

/-- `_acquire_lease`, with the number of attempts that are left. -/
def acquireLease (runId : String) (duration : ℕ) : ℕ → Prog Unit
  | 0 => throw (.runConflict "active benchmark lease is contended")
  | attempts + 1 => do
    let now ← clock
    let lease : Lease := { runId := runId, leaseUntil := now + duration }
    match ← get .lease with
    | .refused =>
      match ← create .lease lease with
      | .done _ => pure ()
      | .refused => acquireLease runId duration attempts
      | .failed => throw .store
    | .done current =>
      if now < current.value.leaseUntil then
        throw (.runConflict ("run " ++ current.value.runId ++ " is still active"))
      else
        match ← update .lease lease current.revision with
        | .done _ => pure ()
        | .refused => acquireLease runId duration attempts
        | .failed => throw .store
    | .failed => throw .store

/-- `_release_lease` and `release_lease`. -/
def releaseLease (runId : String) : ℕ → Prog Unit
  | 0 => pure ()
  | attempts + 1 => do
    match ← get .lease with
    | .refused => pure ()
    | .done current =>
      if current.value.runId ≠ runId then pure ()
      else
        let lease : Lease := current.value
        match ← update .lease { lease with leaseUntil := 0, released := true } current.revision with
        | .done _ => pure ()
        | .refused => releaseLease runId attempts
        | .failed => throw .store
    | .failed => throw .store

/-- The loop of `renew_lease`. -/
def renewLeaseLoop (runId : String) (leaseUntil : ℕ) : ℕ → Prog Unit
  | 0 => throw (.runConflict "benchmark lease renewal remained contended")
  | attempts + 1 => do
    match ← get .lease with
    | .refused => throw (.recordNotFound "lease.active")
    | .done current =>
      let lease : Lease := current.value
      if lease.runId ≠ runId then
        throw (.runConflict "benchmark lease belongs to another run")
      else if lease.released then
        throw (.runConflict "benchmark lease was already released")
      else
        match ← update .lease { lease with leaseUntil := leaseUntil } current.revision with
        | .done _ => pure ()
        | .refused => renewLeaseLoop runId leaseUntil attempts
        | .failed => throw .store
    | .failed => throw .store

/-- `renew_lease`, with `LEASE_SECONDS` in nanoseconds. -/
def renewLease (runId : String) : Prog ℕ := do
  let now ← clock
  renewLeaseLoop runId (now + 90000000000) 12
  pure (now + 90000000000)

/-! ## The record of the run -/

/-- `_get`. -/
def getRun (runId : String) : Prog (Entry RunRecord) := do
  if runId = "" ∨ 64 < runId.length then throw (.runNotFound runId)
  else
    match ← get .run with
    | .refused => throw (.runNotFound runId)
    | .done record =>
      if record.value.runId ≠ runId then throw (.runNotFound runId) else pure record
    | .failed => throw .store

/-- The record with another status. -/
def RunRecord.change (record : RunRecord) (change : Status → Status) : RunRecord :=
  { record with status := change record.status }

/-- `mutate` of `control.py`. -/
def mutate (runId : String) (change : Status → Status) : ℕ → Prog RunRecord
  | 0 => throw (.runConflict ("run " ++ runId ++ " is being updated concurrently"))
  | attempts + 1 => do
    let current ← getRun runId
    let updated : RunRecord := current.value.change change
    match ← update .run updated current.revision with
    | .done _ => pure updated
    | .refused => mutate runId change attempts
    | .failed => throw .store

/-- `mutate` of `job.py`. -/
def mutateJob (runId : String) (change : Status → Status) : ℕ → Prog RunRecord
  | 0 => throw (.runConflict ("run " ++ runId ++ " is being updated concurrently"))
  | attempts + 1 => do
    match ← get .run with
    | .refused => throw (.recordNotFound (runKey runId))
    | .done current =>
      let updated : RunRecord := current.value.change change
      match ← update .run updated current.revision with
      | .done _ => pure updated
      | .refused => mutateJob runId change attempts
      | .failed => throw .store
    | .failed => throw .store

/-! ## The calls of a controller -/

/-- `maximum_seconds`. -/
def BenchmarkConfig.maximumSeconds (config : BenchmarkConfig) : ℕ := config.runSeconds + 300

/-- `maximum_seconds` in nanoseconds. -/
def BenchmarkConfig.maximumTime (config : BenchmarkConfig) : ℕ :=
  config.maximumSeconds * 1000000000

/-- The record that `start` creates. -/
def submittedRecord (runId : String) (config : BenchmarkConfig) (now : ℕ) : RunRecord where
  runId := runId
  config := config
  status := { state := .submitted, leaseUntil := now + config.maximumTime }

/-- The `try` block of `start`. -/
def submit (runId : String) (config : BenchmarkConfig) (now : ℕ) : Prog RunRecord := do
  match ← create .run (submittedRecord runId config now) with
  | .done _ => pure ()
  | .refused => throw (.revisionConflict (runKey runId))
  | .failed => throw .store
  let name ← orRaise (← jobsCreate config.maximumSeconds config.workerCount)
  mutate runId (fun status =>
    { status with jobName := some name, workerCount := some config.workerCount }) 12

/-- Record that the Job was not submitted, if the record is there. -/
def recordFailure (runId : String) (error : Failure) : Prog Unit :=
  tryCatch (do
    let _ ← mutate runId (fun status =>
      { status with
        state := .failed, message := some ("could not submit benchmark Job: " ++ error.text) }) 12)
    fun
      | .runNotFound _ | .runConflict _ => pure ()
      | other => throw other

/-- The `except` block of `start`. -/
def abandon (runId : String) (error : Failure) : Prog RunRecord := do
  recordFailure runId error
  releaseLease runId 12
  throw error

/-- `start`, for a request that gives a configuration or a `ConfigError`, and a new run ID. -/
def start (request : Except String BenchmarkConfig) (runId : String) : Prog RunRecord :=
  match request with
  | .error text => throw (.config text)
  | .ok config => do
    acquireLease runId config.maximumTime 12
    let now ← clock
    tryCatch (submit runId config now) (abandon runId)

/-- How `_reconcile` ends a run whose Job is over. -/
def terminalOf (status : Status) (name : String) : Prog (Option (RunState × String)) := do
  match ← jobsState name with
  | .notFound =>
    let now ← clock
    if now < status.leaseUntil then pure none
    else
      pure (some (if status.stopRequested then .stopped else .interrupted,
        "benchmark Job disappeared before finalization"))
  | .error => pure none
  | .failed => pure (some (.failed, "benchmark Job failed before publishing a terminal status"))
  | .other => pure none

/-- `_reconcile`. -/
def reconcile (record : RunRecord) : Prog RunRecord :=
  match record.status.jobName with
  | none => pure record
  | some name =>
    if !record.status.state.active || name = "" then pure record
    else do
      match ← terminalOf record.status name with
      | none => pure record
      | some (terminal, message) =>
        let record ← mutate record.runId
          (fun status => { status with state := terminal, message := some message }) 12
        releaseLease record.runId 12
        pure record

/-- `details`. -/
def details (runId : String) : Prog RunRecord := do
  let record ← getRun runId
  reconcile record.value

/-- The iteration of `list_runs` for the run; `none` if it is left out. -/
def listRun : Prog (Option RunRecord) := do
  try
    match ← get .run with
    | .refused => throw (.recordNotFound "")
    | .done record =>
      let record ← reconcile record.value
      pure (some record)
    | .failed => throw .store
  catch
    | .recordNotFound _ | .runNotFound _ => pure none
    | other => throw other

/-- `stop`. -/
def stop (runId : String) : Prog RunRecord := do
  let current ← getRun runId
  if !current.value.status.state.active then throw (.runConflict "the requested run is not active")
  else
    let _ ← mutate runId (fun status => { status with state := .stopping, stopRequested := true }) 12
    match current.value.status.jobName with
    | none => pure ()
    | some name => if name = "" then pure () else orRaise (← jobsDelete name)
    let record ← mutate runId (fun status => { status with state := .stopped }) 12
    releaseLease runId 12
    pure record

/-! ## The coordinator -/

/-- The change of `finish`. -/
def finish (report : Report) (status : Status) : Status :=
  { status with
    state := if status.stopRequested then .stopped else report.state
    exitCode := some report.exitCode
    leaseUntil := 0
    message := match report.message with
      | none => status.message
      | some message => if message = "" then status.message else some message }

/-- The `try` block of the coordinator in `main`: `work` stands for what it does between its accesses
to the store and may raise, and `awaitReport` for the end of Locust and the reports. -/
def coordinate (runId : String) : Prog Unit := do
  let record ← get .run
  match record with
  | .refused => throw (.recordNotFound (runKey runId))
  | .failed => throw .store
  | .done current =>
    orRaise (← work)
    let leaseUntil ← renewLease runId
    let _ ← mutateJob runId (fun status =>
      { status with
        state := .starting, leaseUntil := leaseUntil
        workerCount := some current.value.config.workerCount }) 12
    orRaise (← work)
    let _ ← mutateJob runId (fun status => { status with state := .running }) 12
    let report ← orRaise (← awaitReport)
    let _ ← mutateJob runId (finish report) 12
    releaseLease runId 12
    orRaise (← work)

/-- The coordinator. -/
def coordinator (runId : String) : Prog Unit :=
  tryCatch (coordinate runId) fun error =>
    tryCatch (do
      let _ ← mutateJob runId (fun status =>
        { status with state := .failed, message := some error.text }) 12
      releaseLease runId 12) fun _ => pure ()

/-- The loop of `heartbeat`, for a number of rounds. -/
def heartbeatLoop (runId : String) : ℕ → Prog Unit
  | 0 => pure ()
  | rounds + 1 => do
    let leaseUntil ← renewLease runId
    if ← heartbeatStop then pure ()
    else
      let _ ← mutateJob runId (fun status => { status with leaseUntil := leaseUntil }) 12
      heartbeatLoop runId rounds

/-- The thread `heartbeat`, which an exception ends. -/
def heartbeat (runId : String) (rounds : ℕ) : Prog Unit :=
  tryCatch (heartbeatLoop runId rounds) fun _ => pure ()

end Boutique.Benchmark
