import Boutique.Benchmark.Config
import Boutique.Lib.Gather
import Mathlib.Algebra.Order.Archimedean.Basic
import Mathlib.Algebra.Order.Floor.Semiring
import Mathlib.Algebra.Order.Round
import Mathlib.Data.List.Nodup
import Mathlib.Data.Rat.Floor

/-!
# The rungs of a saturation benchmark

`evaluate_rung` and `SaturationCoordinator.finish_rung` of `benchmarkservice/saturation.py` with the loop of
`SaturationDriver.schedule` in `locustfile.py`.  All workers offer load at the rate of a rung, report their
progress under a named object, and go on with the decision of worker 0.  Rates and times are rational
numbers.
-/

namespace Boutique.Benchmark.Workers

/-! ## Names -/

/-- `SaturationCoordinator._name`. -/
def coordinationName (runId : String) (rung : ℕ) (suffix : String) : String :=
  runId ++ "/saturation/" ++ pad4 rung ++ "/" ++ suffix ++ ".json"

/-- The object of the progress of a worker. -/
def saturationProgressObject (runId : String) (rung worker : ℕ) : String :=
  coordinationName runId rung ("worker-" ++ pad4 worker)

/-- The object of the decision of a rung. -/
def saturationDecisionObject (runId : String) (rung : ℕ) : String :=
  coordinationName runId rung "decision"

/-- The rung and the suffix of a name. -/
lemma coordinationName_injective {runId : String} {rung rung' : ℕ} {suffix suffix' : String}
    (h : coordinationName runId rung suffix = coordinationName runId rung' suffix') :
    rung = rung' ∧ suffix = suffix' := by
  have hparts := JoinedNames.append_right_cancel h
  simp only [String.append_assoc] at hparts
  have htail := JoinedNames.append_left_cancel (JoinedNames.append_left_cancel hparts)
  obtain ⟨hrung, hsuffix⟩ := JoinedNames.append_slash_inj (JoinedNames.slash_notMem_padded 4 rung)
    (JoinedNames.slash_notMem_padded 4 rung') htail
  exact ⟨JoinedNames.padded_injective 4 hrung, hsuffix⟩

/-- The objects of a run have different names. -/
def saturationNames (runId : String) : Gather.Names String where
  report := saturationProgressObject runId
  decision := saturationDecisionObject runId
  report_injective := by
    intro r i r' i' h
    obtain ⟨hr, hsuffix⟩ := coordinationName_injective h
    exact ⟨hr, JoinedNames.padded_injective 4 (JoinedNames.append_left_cancel hsuffix)⟩
  decision_injective := fun _ _ h => (coordinationName_injective h).1
  disjoint := by
    intro r i r' h
    have hsuffix := congrArg (fun s : String => s.toList.head?) (coordinationName_injective h).2
    simp only [String.toList_append] at hsuffix
    rw [List.head?_append_of_ne_nil _ (by decide)] at hsuffix
    exact absurd hsuffix (by decide)

/-! ## Evaluation of a rung -/

/-- `round(x, 6)`: the nearest multiple of a millionth, the even one of two. -/
def round6 (x : ℚ) : ℚ :=
  let scaled := x * 1000000
  let below := ⌊scaled⌋
  let rest := scaled - below
  let nearest := if rest < 1 / 2 then below else if 1 / 2 < rest then below + 1
    else if below % 2 = 0 then below else below + 1
  nearest / 1000000

/-- `RAPID_PENDING_GROWTH_PER_SECOND`. -/
def rapidPendingGrowthPerSecond : ℚ := 10

/-- A count of the observer of completed orders. -/
structure Observation where
  observerId : Option String
  total : Option ℤ
  deriving DecidableEq

/-- What a worker reports of a rung. -/
structure Progress where
  workerIndex : ℕ
  completed : ℤ
  processedBefore : Option Observation
  processedAfter : Option Observation
  pendingStart : Option ℚ
  pendingEnd : Option ℚ
  deriving DecidableEq

/-- A decision: what `evaluate_rung` returns, with what `finish_rung` adds. -/
structure RungDecision where
  targetRequestsPerSecond : ℚ
  durationSeconds : ℚ
  completedDuringRung : ℤ
  clientObservedCompletedDuringRung : ℤ
  observedGoodputOrdersPerSecond : ℚ
  processedDuringRung : Option ℤ
  processingGoodputOrdersPerSecond : Option ℚ
  processingGoodputSource : Option String
  previousGoodputOrdersPerSecond : Option ℚ
  pendingStart : Option ℚ
  pendingEnd : Option ℚ
  pendingGrowth : Option ℚ
  pendingGrowthPerSecond : Option ℚ
  rapidPendingGrowthThresholdPerSecond : ℚ
  maximumRateReached : Bool
  stop : Bool
  saturated : Bool
  saturationReason : Option String
  stopReason : Option String
  rung : ℕ := 0
  startedElapsedSeconds : ℚ := 0
  endedElapsedSeconds : ℚ := 0
  workerCount : ℕ := 0
  processingGoodputUnavailableReason : Option String := none
  deriving DecidableEq

/-- `evaluate_rung`. -/
def evaluateRung (application : Application) (targetRate durationSeconds : ℚ) (completed : ℤ)
    (processed : Option ℤ) (previousGoodput pendingStart pendingEnd : Option ℚ)
    (finalRung maximumRateReached : Bool) : RungDecision :=
  let duration := max durationSeconds (1 / 1000)
  let processedCount := if application ≠ .nats then some completed else processed
  let processingGoodput := processedCount.map fun count => (count : ℚ) / duration
  let pendingGrowth := pendingEnd.bind fun last => pendingStart.map fun first => last - first
  let pendingGrowthPerSecond := pendingGrowth.map fun growth => growth / duration
  let rapid := application = .nats ∧
    pendingGrowthPerSecond.any fun growth => rapidPendingGrowthPerSecond ≤ growth
  let stalled := previousGoodput.any fun previous =>
    processingGoodput.any fun goodput => goodput ≤ previous
  { targetRequestsPerSecond := targetRate
    durationSeconds := round6 duration
    completedDuringRung := completed
    clientObservedCompletedDuringRung := completed
    observedGoodputOrdersPerSecond := round6 (completed / duration)
    processedDuringRung := processedCount
    processingGoodputOrdersPerSecond := processingGoodput.map round6
    processingGoodputSource :=
      if application = .nats ∧ processedCount.isSome then some "nats_order_completed_events"
      else if application ≠ .nats then some "client_outcomes" else none
    previousGoodputOrdersPerSecond := previousGoodput.map round6
    pendingStart := pendingStart
    pendingEnd := pendingEnd
    pendingGrowth := pendingGrowth
    pendingGrowthPerSecond := pendingGrowthPerSecond.map round6
    rapidPendingGrowthThresholdPerSecond := rapidPendingGrowthPerSecond
    maximumRateReached := maximumRateReached
    stop := finalRung
    saturated := rapid ∨ stalled
    saturationReason := if rapid then some "nats_pending_increasing_rapidly"
      else if stalled then some "goodput_stopped_increasing" else none
    stopReason := if finalRung then some "maximum_duration_reached" else none }

/-- The orders that were processed during a rung, or why their number is not known. -/
def processedOf (application : Application) (progresses : List Progress) :
    Option ℤ × Option String :=
  match progresses.findSome? fun item =>
      item.processedBefore.bind fun first => item.processedAfter.map fun last => (first, last) with
  | some (first, last) =>
    if first.observerId ≠ last.observerId then
      (none, some "NATS completed-order observer lost continuity")
    else if last.total.getD (-1) < first.total.getD 0 then
      (none, some "NATS completed-order observer count decreased")
    else (some (last.total.getD 0 - first.total.getD 0), none)
  | none =>
    (none, if application = .nats then some "NATS completed-order observer was unavailable" else none)

/-! ## Rungs -/

/-- `target_rate` of a rung. -/
def BenchmarkConfig.targetRate (config : BenchmarkConfig) (rung : ℕ) : ℚ :=
  min config.saturationMaxRate (config.saturationStartRate + rung * Saturation.stepRate)

/-- `remaining`, before a rung. -/
def BenchmarkConfig.remaining (config : BenchmarkConfig) : ℕ → ℚ
  | 0 => config.durationSeconds
  | rung + 1 =>
    config.remaining rung - min (config.saturationStepSeconds : ℚ) (config.remaining rung)

/-- `duration` of a rung. -/
def BenchmarkConfig.rungSeconds (config : BenchmarkConfig) (rung : ℕ) : ℚ :=
  min (config.saturationStepSeconds : ℚ) (config.remaining rung)

/-- What worker 0 measures of a rung. -/
structure RungInput where
  startedElapsedSeconds : ℚ
  endedElapsedSeconds : ℚ
  pendingStart : Option ℚ
  pendingEnd : Option ℚ

/-- The decision of `finish_rung` on the progress of all workers, with the new `previous_goodput`. -/
def finishRung (config : BenchmarkConfig) (workerCount : ℕ) (previousGoodput : Option ℚ) (rung : ℕ)
    (input : RungInput) (progresses : List Progress) : Option ℚ × RungDecision :=
  let (processed, unavailable) := processedOf config.applicationType progresses
  let decision :=
    { evaluateRung config.applicationType (config.targetRate rung)
        (max (1 / 1000) (input.endedElapsedSeconds - input.startedElapsedSeconds))
        (progresses.map Progress.completed).sum processed previousGoodput input.pendingStart
        input.pendingEnd (config.remaining (rung + 1) ≤ 0)
        (config.saturationMaxRate ≤ config.targetRate rung) with
      rung := rung
      startedElapsedSeconds := round6 input.startedElapsedSeconds
      endedElapsedSeconds := round6 input.endedElapsedSeconds
      workerCount := workerCount
      processingGoodputUnavailableReason := unavailable }
  (decision.processingGoodputOrdersPerSecond.orElse fun _ => previousGoodput, decision)

/-- The rungs of the workers of a run. -/
def saturationProtocol (config : BenchmarkConfig) (runId : String) (workerCount : ℕ)
    (positive : 0 < workerCount) :
    Gather.Protocol String Progress RungDecision (Option ℚ) RungInput where
  names := saturationNames runId
  workers := workerCount
  positive := positive
  decide := finishRung config workerCount
  stop := RungDecision.stop

/-! ## Arrivals -/

/-- The number of arrivals of a rung. -/
def BenchmarkConfig.scheduledCount (config : BenchmarkConfig) (rung : ℕ) : ℕ :=
  ⌈config.targetRate rung * config.rungSeconds rung - 1 / 1000000000⌉.toNat

/-- `range(worker_index, scheduled_count, worker_count)`. -/
def scheduledOrdinals (workerIndex scheduledCount workerCount : ℕ) : List ℕ :=
  List.range' workerIndex ((scheduledCount - workerIndex + workerCount - 1) / workerCount) workerCount

/-- The arrivals of a worker. -/
lemma mem_scheduledOrdinals {worker count workers n : ℕ} (hworkers : 0 < workers) :
    n ∈ scheduledOrdinals worker count workers ↔
      worker ≤ n ∧ n < count ∧ n % workers = worker % workers := by
  rw [scheduledOrdinals, List.mem_range']
  constructor
  · rintro ⟨k, hk, rfl⟩
    have hlt : workers * k < count - worker := by
      have hstep := (Nat.lt_div_iff_mul_lt hworkers).mp hk
      rw [Nat.mul_comm] at hstep
      omega
    exact ⟨Nat.le_add_right _ _, by omega, by rw [Nat.add_mul_mod_self_left]⟩
  · rintro ⟨hle, hlt, hmod⟩
    obtain ⟨k, hk⟩ := Nat.dvd_of_mod_eq_zero (Nat.sub_mod_eq_zero_of_mod_eq hmod)
    refine ⟨k, ?_, by omega⟩
    rw [Nat.lt_div_iff_mul_lt hworkers, Nat.mul_comm]
    omega

/-- The workers share the arrivals of a rung: each one is scheduled once, by one worker. -/
lemma scheduledOrdinals_perm {workers : ℕ} (count : ℕ) (hworkers : 0 < workers) :
    ((List.range workers).flatMap fun worker => scheduledOrdinals worker count workers).Perm
      (List.range count) := by
  have hmem : ∀ worker < workers, ∀ n, n ∈ scheduledOrdinals worker count workers ↔
      n < count ∧ n % workers = worker := by
    intro worker hworker n
    rw [mem_scheduledOrdinals hworkers, Nat.mod_eq_of_lt hworker]
    constructor
    · exact fun h => h.2
    · rintro ⟨hlt, rfl⟩
      exact ⟨Nat.mod_le _ _, hlt, rfl⟩
  refine (List.perm_ext_iff_of_nodup ?_ List.nodup_range).mpr fun n => ?_
  · refine List.nodup_flatMap.mpr ⟨fun worker _ => List.nodup_range' _ hworkers, ?_⟩
    refine List.pairwise_lt_range.imp_of_mem fun {a b} ha hb hlt n hna hnb => ?_
    have hna := (hmem a (List.mem_range.mp ha) n).mp hna
    have hnb := (hmem b (List.mem_range.mp hb) n).mp hnb
    omega
  · rw [List.mem_flatMap, List.mem_range]
    constructor
    · rintro ⟨worker, hworker, hn⟩
      exact ((hmem worker (List.mem_range.mp hworker) n).mp hn).1
    · intro hn
      have hworker := Nat.mod_lt n hworkers
      exact ⟨n % workers, List.mem_range.mpr hworker, (hmem _ hworker n).mpr ⟨hn, rfl⟩⟩

/-! ## The law -/

section Law

variable {config : BenchmarkConfig} {runId : String} {workers : ℕ} {positive : 0 < workers}
  {s : Gather.State String Progress RungDecision (Option ℚ)}

/-- A decision stops the workers in the last rung. -/
lemma stop_finishRung (previousGoodput : Option ℚ) (rung : ℕ) (input : RungInput)
    (progresses : List Progress) :
    (finishRung config workers previousGoodput rung input progresses).2.stop =
      decide (config.remaining (rung + 1) ≤ 0) := by
  rfl

/-- So does the decision of a rung. -/
lemma stop_of_decided {store : String → Option (Progress ⊕ RungDecision)} {rung : ℕ}
    {decision : RungDecision}
    (h : Gather.Decided (saturationProtocol config runId workers positive) store rung decision) :
    decision.stop = decide (config.remaining (rung + 1) ≤ 0) := by
  obtain ⟨reports, -, -, memory, input, rfl⟩ := h
  exact stop_finishRung memory rung input reports

/-- The rung is the last one of the configured time. -/
def BenchmarkConfig.LastRung (config : BenchmarkConfig) (rung : ℕ) : Prop :=
  config.remaining (rung + 1) ≤ 0 ∧ ∀ earlier < rung, 0 < config.remaining (earlier + 1)

/-- What the coordination of the rungs promises.  The workers return one decision from a rung, which
worker 0 made from the progress of all of them.  No worker starts a rung before all have reported the one
before.  A worker that stops has gone through all rungs of the configured time.  Each arrival of a rung is
scheduled once, by one worker. -/
structure SaturationLaw (config : BenchmarkConfig) (runId : String) (workers : ℕ)
    (s : Gather.State String Progress RungDecision (Option ℚ)) : Prop where
  agree : ∀ a ∈ s.returned, ∀ b ∈ s.returned, a.round = b.round → a.decision = b.decision
  complete : ∀ a ∈ s.returned, ∃ progresses : List Progress, progresses.length = workers ∧
    (∀ worker progress, progresses[worker]? = some progress →
      s.store (saturationProgressObject runId a.round worker) = some (.inl progress)) ∧
    ∃ previousGoodput input,
      (finishRung config workers previousGoodput a.round input progresses).2 = a.decision
  barrier : ∀ worker rung, s.phase worker = .working rung → ∀ earlier < rung, ∀ other < workers,
    ∃ progress, s.store (saturationProgressObject runId earlier other) = some (.inl progress)
  stopped : ∀ worker rung decision, s.phase worker = .stopped rung decision → config.LastRung rung
  arrivals : ∀ rung, ((List.range workers).flatMap fun worker =>
    scheduledOrdinals worker (config.scheduledCount rung) workers).Perm
      (List.range (config.scheduledCount rung))

/-- In every interleaving of the workers, with failures and lost replies, the rungs are in step. -/
theorem rungs_in_step {acts : List (Gather.Action Progress RungInput)}
    (hrun : StepSystem.run (Gather.step (saturationProtocol config runId workers positive))
      { memory := none } acts = some s) : SaturationLaw config runId workers s := by
  have hinv := Gather.inv_of_run hrun
  have hlaw := hinv.law
  refine { agree := hlaw.agree, complete := hlaw.complete, barrier := hlaw.after, stopped := ?_
           arrivals := fun rung => scheduledOrdinals_perm _ positive }
  intro worker rung decision hphase
  obtain ⟨hstop, hdecided, hbefore, -⟩ := hlaw.stopped worker rung decision hphase
  refine ⟨?_, fun earlier hearlier => ?_⟩
  · have hlast : decision.stop = true := hstop
    rw [stop_of_decided hdecided] at hlast
    exact of_decide_eq_true hlast
  · obtain ⟨decision', hstored, hgoes⟩ := hbefore earlier hearlier
    have hgoes : decision'.stop = false := hgoes
    rw [stop_of_decided (hinv.decisions _ _ hstored)] at hgoes
    exact not_le.mp (of_decide_eq_false hgoes)

end Law

/-! ## A sample run -/

/-- Forty seconds in rungs of thirty, from ten requests a second. -/
def sampleSaturation : BenchmarkConfig where
  applicationType := .nats
  targetUrl := localTargetUrl
  metricsUrl := none
  workload := .saturation
  warmupSeconds := 0
  durationSeconds := 40
  drainSeconds := 10
  users := 1
  spawnRate := 1
  arrivalRate := 1
  saturationStartRate := 10
  saturationMaxRate := 100
  saturationStepSeconds := 30
  outcomeTimeoutSeconds := 30
  settlementTimeoutSeconds := 30
  resourceSampleIntervalSeconds := 1
  seed := 1
  collectResources := true
  collectNatsMetrics := true

/-- The progress of a worker with a number of completed orders. -/
def sampleProgress (worker : ℕ) (completed : ℤ) : Progress where
  workerIndex := worker
  completed := completed
  processedBefore := none
  processedAfter := none
  pendingStart := none
  pendingEnd := none

/-- What worker 0 measures of a rung. -/
def sampleInput : RungInput where
  startedElapsedSeconds := 0
  endedElapsedSeconds := 30
  pendingStart := some 0
  pendingEnd := some 600

/-- Two workers go through both rungs; in the first one worker 1 reports before worker 0. -/
def sampleRungs : List (Gather.Action Progress RungInput) :=
  [.report 1 (sampleProgress 1 140) true, .report 0 (sampleProgress 0 150) true, .collect, .collect,
    .decide sampleInput, .announce true, .report 0 (sampleProgress 0 100) true, .receive 1, .collect,
    .report 1 (sampleProgress 1 90) true, .collect, .decide sampleInput, .announce true, .receive 1]

/-- The rounds from which workers have returned, with the numbers of completed orders and whether the
pending messages grew rapidly. -/
def sampleReturns (s : Gather.State String Progress RungDecision (Option ℚ)) :
    List (ℕ × ℕ × ℤ × Option String) :=
  s.returned.map fun ret => (ret.worker, ret.round, ret.decision.completedDuringRung,
    ret.decision.saturationReason)

/-- Both workers return from both rungs with the same decisions. -/
theorem two_workers_finish_rungs : ∃ s,
    StepSystem.run (Gather.step (saturationProtocol sampleSaturation "run" 2 Nat.two_pos))
      { memory := none } sampleRungs = some s ∧
    sampleReturns s = [(0, 0, 290, some "nats_pending_increasing_rapidly"),
      (1, 0, 290, some "nats_pending_increasing_rapidly"),
      (0, 1, 190, some "nats_pending_increasing_rapidly"),
      (1, 1, 190, some "nats_pending_increasing_rapidly")] ∧
    SaturationLaw sampleSaturation "run" 2 s := by
  have houtcome : (StepSystem.run
      (Gather.step (saturationProtocol sampleSaturation "run" 2 Nat.two_pos)) { memory := none }
      sampleRungs).map sampleReturns = some [(0, 0, 290, some "nats_pending_increasing_rapidly"),
        (1, 0, 290, some "nats_pending_increasing_rapidly"),
        (0, 1, 190, some "nats_pending_increasing_rapidly"),
        (1, 1, 190, some "nats_pending_increasing_rapidly")] := by
    decide +kernel
  obtain ⟨s, hs, hleft⟩ := Option.map_eq_some_iff.mp houtcome
  exact ⟨s, hs, hleft, rungs_in_step hs⟩

end Boutique.Benchmark.Workers
