import Boutique.Benchmark.Python
import Boutique.Lib.Gather

/-!
# A run of several benchmark workers

`coordinate_start` and the part of `main` in `benchmarkservice/job.py` that ends a run of more than one
worker, with the names of `parallel.py`.  All workers report that they are ready, worker 0 announces when to
start, and each worker runs its load and puts its result.  Worker 0 collects the results and records the
state of the run.  Every worker may fail at every point, and a worker other than 0 tries to put a failed
result then.
-/

namespace Boutique.Benchmark.Workers

/-! ## The start -/

/-- `ready_object`. -/
def readyObject (runId : String) (worker : ℕ) : String :=
  runId ++ "/workers/" ++ pad4 worker ++ "/ready.json"

/-- `start_object`. -/
def startObject (runId : String) : String := runId ++ "/workers/start.json"

/-- What a worker puts when it is ready. -/
structure Ready where
  workerIndex : ℕ
  podName : Option String
  readyAt : String

/-- `START_DELAY_SECONDS`. -/
def startDelaySeconds : ℚ := 5

/-- The objects of a start have different names.  A run has one start, which has the number 0. -/
def startNames (runId : String) : Gather.Names (ℕ × String) where
  report := fun start worker => (start, readyObject runId worker)
  decision := fun start => (start, startObject runId)
  report_injective := by
    intro r i r' i' h
    obtain ⟨hr, hname⟩ := Prod.mk.inj h
    have hparts := JoinedNames.append_right_cancel hname
    exact ⟨hr, JoinedNames.padded_injective 4 (JoinedNames.append_left_cancel hparts)⟩
  decision_injective := fun _ _ h => (Prod.mk.inj h).1
  disjoint := by
    intro r i r' h
    have hname := (Prod.mk.inj h).2
    simp only [readyObject, startObject, String.append_assoc] at hname
    have hstart : "/workers/start.json" = "/workers/" ++ "start.json" := by decide
    rw [hstart] at hname
    have htail := JoinedNames.append_left_cancel (JoinedNames.append_left_cancel hname)
    have hslash : '/' ∈ (pad4 i ++ "/ready.json").toList := by
      rw [String.toList_append, List.mem_append]
      exact Or.inr (by decide)
    rw [htail] at hslash
    exact absurd hslash (by decide)

/-- `coordinate_start`: worker 0 announces the time `START_DELAY_SECONDS` after `now`. -/
def startProtocol (runId : String) (workerCount : ℕ) (positive : 0 < workerCount) :
    Gather.Protocol (ℕ × String) Ready ℚ Unit ℚ where
  names := startNames runId
  workers := workerCount
  positive := positive
  decide := fun _ _ now _ => ((), now + startDelaySeconds)
  stop := fun _ => true

/-! ## The end -/

/-- The states of a worker and of a run. -/
inductive WorkerState where
  | completed | stopped | failed
  deriving DecidableEq

/-- What `worker-status.json` says of a worker. -/
structure WorkerStatus where
  workerIndex : ℕ
  state : WorkerState
  exitCode : ℤ
  deriving DecidableEq

/-- What is recorded of a run. -/
structure RunResult where
  state : WorkerState
  exitCode : ℤ
  failed : List WorkerStatus
  deriving DecidableEq

/-- The status of a worker whose load has ended, with the exit code and whether a stop was requested. -/
def endedStatus (worker : ℕ) (ended : ℤ × Bool) : WorkerStatus where
  workerIndex := worker
  state := if ended.2 then .stopped else if ended.1 = 0 then .completed else .failed
  exitCode := ended.1

/-- The status of a worker that has raised an error. -/
def failedStatus (worker : ℕ) : WorkerStatus := { workerIndex := worker, state := .failed, exitCode := 1 }

/-- What worker 0 records for the statuses of the workers.  `stopRequested` is its own event, `requested`
the mark in the record of the run, and `reported` whether `build_report` has succeeded. -/
def runResult (statuses : List WorkerStatus) (stopRequested requested reported : Bool) : RunResult :=
  let failed := statuses.filter fun status => status.state = .failed
  let state := if stopRequested || statuses.any fun status => status.state = .stopped then .stopped
    else if failed ≠ [] then .failed else .completed
  let state := if reported then state else .failed
  { state := if requested then .stopped else state
    exitCode := (failed.head?.map WorkerStatus.exitCode).getD 0
    failed := failed }

/-- The start, the loads that have ended, the results, the workers that have returned, the statuses that
worker 0 has collected, and what it has recorded. -/
structure CoordinatedRun where
  start : Gather.State (ℕ × String) Ready ℚ Unit := { memory := () }
  ended : ℕ → Option (ℤ × Bool) := fun _ => none
  results : ℕ → Option WorkerStatus := fun _ => none
  gone : ℕ → Bool := fun _ => false
  collected : List WorkerStatus := []
  recorded : Option RunResult := none

/-- The steps: of `coordinate_start`; the load of a worker ends and its result is put, with or without
effect and reply; a worker fails and tries to put that; worker 0 collects the next status, records the
run, or fails. -/
inductive RunAction where
  | start (action : Gather.Action Ready ℚ)
  | load (worker : ℕ) (code : ℤ) (stopRequested stored acknowledged : Bool)
  | abort (worker : ℕ) (stored : Bool)
  | collect
  | record (stopRequested requested reported : Bool)
  | abandon

/-- A result is put, with or without effect. -/
def CoordinatedRun.put (s : CoordinatedRun) (worker : ℕ) (status : WorkerStatus) (stored : Bool) :
    CoordinatedRun :=
  if stored then { s with results := Function.update s.results worker (some status) } else s

/-- `coordinate_start` has returned to the worker. -/
def CoordinatedRun.started (s : CoordinatedRun) (worker : ℕ) : Bool :=
  s.start.returned.any fun ret => ret.worker = worker

variable (runId : String) (workers : ℕ) (positive : 0 < workers)

/-- The status that worker 0 collects next: its own one, or a result. -/
def CoordinatedRun.nextStatus (s : CoordinatedRun) : Option WorkerStatus :=
  if s.collected.length = 0 then (s.ended 0).map (endedStatus 0) else s.results s.collected.length

/-- One step. -/
def CoordinatedRun.step (s : CoordinatedRun) : RunAction → Option CoordinatedRun
  | .start action =>
    (Gather.step (startProtocol runId workers positive) s.start action).map fun start =>
      { s with start := start }
  | .load worker code stopRequested stored acknowledged =>
    if worker < workers ∧ s.gone worker = false ∧ s.ended worker = none ∧ s.started worker = true then
      let s := { s with ended := Function.update s.ended worker (some (code, stopRequested)) }
      let s := s.put worker (endedStatus worker (code, stopRequested)) (stored || acknowledged)
      some { s with gone := if acknowledged ∧ worker ≠ 0 then Function.update s.gone worker true
                            else s.gone }
    else none
  | .abort worker stored =>
    if 0 < worker ∧ worker < workers ∧ s.gone worker = false then
      let s := s.put worker (failedStatus worker) stored
      some { s with gone := Function.update s.gone worker true }
    else none
  | .collect =>
    if s.gone 0 = false ∧ s.ended 0 ≠ none ∧ s.collected.length < workers then
      s.nextStatus.map fun status => { s with collected := s.collected ++ [status] }
    else none
  | .record stopRequested requested reported =>
    if s.gone 0 = false ∧ s.collected.length = workers then
      some { s with recorded := some (runResult s.collected stopRequested requested reported)
                    gone := Function.update s.gone 0 true }
    else none
  | .abandon =>
    if s.gone 0 = false then
      some { s with recorded := some { state := .failed, exitCode := 1, failed := [] }
                    gone := Function.update s.gone 0 true }
    else none

/-! ## The invariant -/

section Invariant

variable {runId : String} {workers : ℕ} {positive : 0 < workers} {s s' : CoordinatedRun}
  {action : RunAction}

/-- A completed status of a worker is that of a load that has ended well. -/
def StatusOk (s : CoordinatedRun) (worker : ℕ) (status : WorkerStatus) : Prop :=
  status.state = .completed → s.ended worker = some (0, false)

/-- The invariant: loads end after the start, and completed statuses are those of loads that ended
well. -/
structure CoordinatedRun.Inv (runId : String) (workers : ℕ) (positive : 0 < workers)
    (s : CoordinatedRun) : Prop where
  start : Gather.Inv (startProtocol runId workers positive) s.start
  rounds : ∀ ret ∈ s.start.returned, ret.round = 0
  ended : ∀ worker ended, s.ended worker = some ended → s.started worker = true
  results : ∀ worker status, s.results worker = some status → StatusOk s worker status
  collected : ∀ worker status, s.collected[worker]? = some status → StatusOk s worker status
  recorded : ∀ result, s.recorded = some result → result.state = .completed →
    ∀ worker < workers, s.ended worker = some (0, false)

/-- The status of a load that has ended. -/
lemma statusOk_ended {worker : ℕ} {ended : ℤ × Bool} (h : s.ended worker = some ended) :
    StatusOk s worker (endedStatus worker ended) := by
  obtain ⟨code, stop⟩ := ended
  intro hcompleted
  simp only [endedStatus] at hcompleted
  split_ifs at hcompleted with hstop hcode
  rw [h, hcode, Bool.eq_false_iff.mpr hstop]

/-- A run is recorded completed only if all statuses are. -/
lemma completed_of_runResult {statuses : List WorkerStatus} {stopRequested requested reported : Bool}
    (h : (runResult statuses stopRequested requested reported).state = .completed) :
    ∀ status ∈ statuses, status.state = .completed := by
  simp only [runResult] at h
  split_ifs at h with _ _ hstopped hfailed
  intro status hmem
  simp only [Bool.or_eq_true, List.any_eq_true, decide_eq_true_eq, not_or, not_exists, not_and]
    at hstopped
  simp only [ne_eq, not_not, List.filter_eq_nil_iff, decide_eq_true_eq] at hfailed
  cases hstate : status.state with
  | completed => rfl
  | stopped => exact absurd hstate (hstopped.2 status hmem)
  | failed => exact absurd hstate (hfailed status hmem)

/-- A status stays what it is when more loads have ended. -/
lemma StatusOk.mono {worker : ℕ} {status : WorkerStatus} (h : StatusOk s worker status)
    (hended : ∀ worker ended, s.ended worker = some ended → s'.ended worker = some ended) :
    StatusOk s' worker status :=
  fun hcompleted => hended _ _ (h hcompleted)

/-- A put changes one result only. -/
lemma CoordinatedRun.Inv.put (h : s.Inv runId workers positive) {worker : ℕ} {status : WorkerStatus}
    (stored : Bool) (hstatus : StatusOk s worker status) :
    (s.put worker status stored).Inv runId workers positive := by
  unfold CoordinatedRun.put
  split_ifs
  · refine { h with results := fun worker' status' hresult => ?_ }
    by_cases hw : worker' = worker
    · subst hw
      have hsame : status = status' := by simpa using hresult
      exact hsame ▸ hstatus
    · have hold : s.results worker' = some status' := by
        simpa [Function.update_of_ne hw] using hresult
      exact h.results worker' status' hold
  · exact h

/-- A load ends. -/
lemma CoordinatedRun.Inv.load (h : s.Inv runId workers positive) {worker : ℕ} (ended : ℤ × Bool)
    (hnone : s.ended worker = none) (hstarted : s.started worker = true) :
    CoordinatedRun.Inv runId workers positive
      { s with ended := Function.update s.ended worker (some ended) } := by
  have hkept : ∀ worker' ended', s.ended worker' = some ended' →
      Function.update s.ended worker (some ended) worker' = some ended' := by
    intro worker' ended' hended
    have hne : worker' ≠ worker := by
      rintro rfl
      rw [hnone] at hended
      cases hended
    rw [Function.update_of_ne hne, hended]
  refine { start := h.start, rounds := h.rounds, ended := fun worker' ended' hended => ?_
           results := fun worker' status hresult => (h.results worker' status hresult).mono hkept
           collected := fun worker' status hstatus =>
             (h.collected worker' status hstatus).mono hkept
           recorded := fun result hresult hstate worker' hworker =>
             hkept _ _ (h.recorded result hresult hstate worker' hworker) }
  by_cases hw : worker' = worker
  · exact hw ▸ hstarted
  · have hold : s.ended worker' = some ended' := by
      simpa [Function.update_of_ne hw] using hended
    exact h.ended worker' ended' hold

/-- The returns of the start only grow, and are all of its one round. -/
lemma start_returned {start start' : Gather.State (ℕ × String) Ready ℚ Unit}
    {action : Gather.Action Ready ℚ}
    (hinv : Gather.Inv (startProtocol runId workers positive) start)
    (hstep : Gather.step (startProtocol runId workers positive) start action = some start')
    (hrounds : ∀ ret ∈ start.returned, ret.round = 0) :
    start.returned <+: start'.returned ∧ ∀ ret ∈ start'.returned, ret.round = 0 := by
  -- a decision always stops the workers, so no worker gets to another round
  have hround : ∀ i r, Gather.DecidedBefore (startProtocol runId workers positive) start.store r →
      (start.phase i).reported = some (r + 1) → r = 0 := by
    intro i r hbefore _
    by_contra hr
    obtain ⟨decision, -, hstop⟩ := hbefore 0 (Nat.pos_of_ne_zero hr)
    cases hstop
  have happend : ∀ i epoch, ∀ ret ∈ start.returned ++ [Gather.Return.mk i 0 epoch], ret.round = 0 := by
    intro i epoch ret hret
    rcases List.mem_append.mp hret with hold | hnew
    · exact hrounds ret hold
    · obtain rfl := List.mem_singleton.mp hnew
      rfl
  cases action with
  | report i value acknowledged =>
    simp only [Gather.step] at hstep
    split at hstep
    · obtain ⟨-, hstep⟩ := Option.ite_none_right_eq_some.mp hstep
      cases hstep
      exact ⟨List.prefix_rfl, hrounds⟩
    · cases hstep
  | collect =>
    simp only [Gather.step] at hstep
    split at hstep
    · obtain ⟨-, hstep⟩ := Option.ite_none_right_eq_some.mp hstep
      split at hstep
      · cases hstep
        exact ⟨List.prefix_rfl, hrounds⟩
      · cases hstep
    · cases hstep
  | decide input =>
    simp only [Gather.step] at hstep
    split at hstep
    · obtain ⟨-, hstep⟩ := Option.ite_none_right_eq_some.mp hstep
      cases hstep
      exact ⟨List.prefix_rfl, hrounds⟩
    · cases hstep
  | announce acknowledged =>
    simp only [Gather.step] at hstep
    split at hstep
    · next r epoch hphase =>
      have hok := (hinv.places 0).ok
      rw [hphase] at hok
      obtain rfl := hround 0 r hok.1 (by rw [hphase]; rfl)
      cases hstep
      split_ifs
      · exact ⟨List.prefix_append _ _, happend 0 epoch⟩
      · exact ⟨List.prefix_rfl, hrounds⟩
    · cases hstep
  | receive i =>
    simp only [Gather.step] at hstep
    split at hstep
    · next r hphase =>
      have hok := (hinv.places i).ok
      rw [hphase] at hok
      obtain rfl := hround i r hok (by rw [hphase]; rfl)
      split at hstep
      · cases hstep
        exact ⟨List.prefix_append _ _, happend i _⟩
      · cases hstep
    · cases hstep
  | fail i =>
    cases hstep
    exact ⟨List.prefix_rfl, hrounds⟩

/-- A step keeps the invariant. -/
lemma CoordinatedRun.Inv.step (h : s.Inv runId workers positive)
    (hstep : s.step runId workers positive action = some s') : s'.Inv runId workers positive := by
  cases action with
  | start action =>
    obtain ⟨start, hstart, rfl⟩ := Option.map_eq_some_iff.mp hstep
    obtain ⟨hgrows, hrounds⟩ := start_returned h.start hstart h.rounds
    refine { h with
      start := h.start.step hstart
      rounds := hrounds
      ended := fun worker ended hended => ?_ }
    obtain ⟨ret, hret, hworker⟩ := List.any_eq_true.mp (h.ended worker ended hended)
    exact List.any_eq_true.mpr ⟨ret, hgrows.subset hret, hworker⟩
  | load worker code stopRequested stored acknowledged =>
    simp only [CoordinatedRun.step] at hstep
    obtain ⟨⟨-, -, hnone, hstarted⟩, hstep⟩ := Option.ite_none_right_eq_some.mp hstep
    cases hstep
    have hended := h.load (code, stopRequested) hnone hstarted
    have hput := hended.put (stored || acknowledged)
      (statusOk_ended (by simp : Function.update s.ended worker (some (code, stopRequested)) worker =
        some (code, stopRequested)))
    exact ⟨hput.start, hput.rounds, hput.ended, hput.results, hput.collected, hput.recorded⟩
  | abort worker stored =>
    simp only [CoordinatedRun.step] at hstep
    obtain ⟨-, hstep⟩ := Option.ite_none_right_eq_some.mp hstep
    cases hstep
    have hfailed : StatusOk s worker (failedStatus worker) := by rintro ⟨⟩
    have hput := h.put stored hfailed
    exact ⟨hput.start, hput.rounds, hput.ended, hput.results, hput.collected, hput.recorded⟩
  | collect =>
    simp only [CoordinatedRun.step] at hstep
    obtain ⟨-, hstep⟩ := Option.ite_none_right_eq_some.mp hstep
    obtain ⟨status, hstatus, rfl⟩ := Option.map_eq_some_iff.mp hstep
    have hok : StatusOk s s.collected.length status := by
      unfold CoordinatedRun.nextStatus at hstatus
      split_ifs at hstatus with hfirst
      · obtain ⟨ended, hended, rfl⟩ := Option.map_eq_some_iff.mp hstatus
        rw [hfirst]
        exact statusOk_ended hended
      · exact h.results _ _ hstatus
    refine { h with collected := fun worker status' hworker => ?_ }
    rw [List.getElem?_append] at hworker
    split_ifs at hworker with hlt
    · exact h.collected worker status' hworker
    · obtain ⟨hbound, hlast⟩ := List.getElem?_eq_some_iff.mp hworker
      rw [List.length_singleton] at hbound
      rw [List.getElem_singleton] at hlast
      obtain rfl : worker = s.collected.length := by omega
      exact hlast ▸ hok
  | record stopRequested requested reported =>
    simp only [CoordinatedRun.step] at hstep
    obtain ⟨⟨-, hlength⟩, hstep⟩ := Option.ite_none_right_eq_some.mp hstep
    cases hstep
    refine { h with recorded := fun result hresult hstate worker hworker => ?_ }
    obtain rfl := Option.some.inj hresult
    have hlt : worker < s.collected.length := hlength ▸ hworker
    exact h.collected worker s.collected[worker] (List.getElem?_eq_getElem hlt)
      (completed_of_runResult hstate _ (List.getElem_mem hlt))
  | abandon =>
    simp only [CoordinatedRun.step] at hstep
    obtain ⟨-, hstep⟩ := Option.ite_none_right_eq_some.mp hstep
    cases hstep
    refine { h with recorded := fun result hresult hstate => ?_ }
    obtain rfl := Option.some.inj hresult
    cases hstate

/-- The invariant holds in every state that a run reaches. -/
lemma CoordinatedRun.inv_of_run {acts : List RunAction}
    (hrun : StepSystem.run (CoordinatedRun.step runId workers positive) {} acts = some s) :
    s.Inv runId workers positive := by
  refine StepSystem.run_invariant_of_step (fun _ _ _ ht hstep => ht.step hstep) ?_ hrun
  exact { start := .init (), rounds := fun _ h => (List.not_mem_nil h).elim
          ended := by rintro _ _ ⟨⟩, results := by rintro _ _ ⟨⟩
          collected := by intro worker status h; simp at h
          recorded := by rintro _ ⟨⟩ }

/-! ## The law -/

/-- What a run of several workers promises.  The workers start with one epoch, which worker 0 announced
when all of them were ready.  A run is recorded completed only if the load of every worker started with
that epoch and has ended with the exit code 0 and without a request to stop. -/
structure CoordinatedRun.Law (runId : String) (workers : ℕ) (s : CoordinatedRun) : Prop where
  together : ∀ a ∈ s.start.returned, ∀ b ∈ s.start.returned, a.decision = b.decision
  ready : ∀ a ∈ s.start.returned, (∃ now, a.decision = now + startDelaySeconds) ∧
    ∀ worker < workers, ∃ ready,
      s.start.store (0, readyObject runId worker) = some (.inl ready)
  completed : ∀ result, s.recorded = some result → result.state = .completed →
    ∃ epoch, ∀ worker < workers, s.ended worker = some (0, false) ∧
      ∃ ret ∈ s.start.returned, ret.worker = worker ∧ ret.decision = epoch

/-- Whatever fails or is lost, workers start together, and only a run whose workers have all ended well
is recorded completed. -/
theorem completed_run_was_complete {acts : List RunAction}
    (hrun : StepSystem.run (CoordinatedRun.step runId workers positive) {} acts = some s) :
    s.Law runId workers := by
  have h := CoordinatedRun.inv_of_run hrun
  have hlaw := h.start.law
  have htogether : ∀ a ∈ s.start.returned, ∀ b ∈ s.start.returned, a.decision = b.decision :=
    fun a ha b hb => hlaw.agree a ha b hb ((h.rounds a ha).trans (h.rounds b hb).symm)
  refine { together := htogether, ready := fun a ha => ?_, completed := ?_ }
  · have hdecided := hlaw.complete a ha
    rw [h.rounds a ha] at hdecided
    refine ⟨?_, fun worker hworker => hdecided.all hworker⟩
    obtain ⟨reports, -, -, memory, now, hnow⟩ := hdecided
    exact ⟨now, hnow.symm⟩
  · intro result hresult hstate
    have hended := h.recorded result hresult hstate
    obtain ⟨first, hfirst, -⟩ := List.any_eq_true.mp (h.ended 0 _ (hended 0 positive))
    refine ⟨first.decision, fun worker hworker => ⟨hended worker hworker, ?_⟩⟩
    obtain ⟨ret, hret, hsame⟩ := List.any_eq_true.mp (h.ended worker _ (hended worker hworker))
    exact ⟨ret, hret, of_decide_eq_true hsame, htogether ret hret first hfirst⟩

end Invariant

/-! ## A sample run -/

/-- A worker that is ready. -/
def sampleReady (worker : ℕ) : Ready where
  workerIndex := worker
  podName := none
  readyAt := "2026-01-01T00:00:00+00:00"

/-- Two workers start together.  Worker 1 puts its result, but loses the reply and aborts after worker 0
has collected it. -/
def sampleCoordinatedRun : List RunAction :=
  [.start (.report 1 (sampleReady 1) true), .start (.report 0 (sampleReady 0) true), .start .collect,
    .start .collect, .start (.decide 100), .start (.announce true), .start (.receive 1),
    .load 1 0 false true false, .load 0 0 false true true, .collect, .collect, .abort 1 true,
    .record false false true]

/-- The run is recorded completed, and both workers have started at the same time. -/
theorem two_workers_complete : ∃ s,
    StepSystem.run (CoordinatedRun.step "run" 2 Nat.two_pos) {} sampleCoordinatedRun = some s ∧
    s.recorded.map RunResult.state = some .completed ∧
    s.start.returned.map Gather.Return.decision = [105, 105] ∧ s.Law "run" 2 := by
  have houtcome : (StepSystem.run (CoordinatedRun.step "run" 2 Nat.two_pos) {}
      sampleCoordinatedRun).map (fun s => (s.recorded.map RunResult.state,
        s.start.returned.map Gather.Return.decision)) = some (some .completed, [105, 105]) := by
    decide +kernel
  obtain ⟨s, hs, hleft⟩ := Option.map_eq_some_iff.mp houtcome
  obtain ⟨hrecorded, hreturned⟩ := Prod.mk.inj hleft
  exact ⟨s, hs, hrecorded, hreturned, completed_run_was_complete hs⟩

end Boutique.Benchmark.Workers
