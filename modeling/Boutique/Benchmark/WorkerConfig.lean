import Boutique.Benchmark.Config
import Mathlib.Algebra.BigOperators.Ring.Finset
import Mathlib.Tactic.Linarith

/-!
# Configurations of workers

The workers of a run share its arrival rate, or its users and its spawn rate.  A worker checks the
configuration that is handed over to it as a request is checked, with a smaller minimum of the spawn rate
only: the arrival rate of the last worker can be below the minimum.  Of an address with white space before
the slashes at its end the white space is removed when it is checked again.
-/

namespace Boutique.Benchmark.Workers

variable {language : Language} {netlocError : List Char → Option String}

/-! ## The checks -/

/-- The steps of `_from_values` that give a configuration. -/
structure Reads (language : Language) (netlocError : List Char → Option String) (values : Dict)
    (application : String) (minimumSpawnRate : ℚ) (config : BenchmarkConfig) : Prop where
  applicationType : Application.parse application = .ok config.applicationType
  workload : Workload.parse (language.text ((values.get "workload").getD (.string "closed"))) =
    .ok config.workload
  targetUrl : normalizeTargetUrl netlocError
    (language.text ((values.get "target_url").getD (.string ""))) = .ok config.targetUrl
  collectResources : boolean values "collect_resources" true = .ok config.collectResources
  collectNatsMetrics :
    collectNatsMetricsOf values config.applicationType = .ok config.collectNatsMetrics
  metricsUrl : metricsUrlOf language netlocError values = .ok config.metricsUrl
  metricsRequired : ((config.collectResources || config.collectNatsMetrics) && config.metricsUrl.isNone) =
    false
  resourceSampleIntervalSeconds :
    number language values "resource_sample_interval_seconds" 5 1 60 = .ok config.resourceSampleIntervalSeconds
  saturationStartRate : number language values "saturation_start_rate" Saturation.startRate (1 / 100) 10000 =
    .ok config.saturationStartRate
  saturationMaxRate :
    number language values "saturation_max_rate" 1000 (1 / 100) 10000 = .ok config.saturationMaxRate
  saturationRates : ¬ config.saturationMaxRate < config.saturationStartRate
  warmupSeconds : integer language values "warmup_seconds" 30 0 3600 = .ok config.warmupSeconds
  durationSeconds : integer language values "duration_seconds"
    (if config.workload = .saturation then 600 else 120) 1 3600 = .ok config.durationSeconds
  drainSeconds : integer language values "drain_seconds" 60 1 1800 = .ok config.drainSeconds
  users : integer language values "users" 10 1 10000 = .ok config.users
  spawnRate : number language values "spawn_rate" 1 minimumSpawnRate 10000 = .ok config.spawnRate
  arrivalRate : number language values "arrival_rate" 1 (1 / 100) 10000 = .ok config.arrivalRate
  saturationStepSeconds :
    integer language values "saturation_step_seconds" Saturation.stepSeconds 10 300 =
      .ok config.saturationStepSeconds
  outcomeTimeoutSeconds :
    number language values "outcome_timeout_seconds" 30 1 1800 = .ok config.outcomeTimeoutSeconds
  settlementTimeoutSeconds :
    number language values "settlement_timeout_seconds" 60 1 3600 = .ok config.settlementTimeoutSeconds
  seed : integer language values "seed" 1 0 2147483647 = .ok config.seed

/-- Nothing is raised if and only if the condition does not hold. -/
lemma raiseIf_ok_iff {condition : Bool} {error : ConfigError} :
    raiseIf condition error = .ok () ↔ condition = false := by
  cases condition <;> simp [raiseIf]

/-- A configuration is given if and only if every step gives its part of it. -/
lemma fromValues_ok_iff {values : Dict} {application : String} {minimumSpawnRate : ℚ}
    {config : BenchmarkConfig} :
    BenchmarkConfig.fromValues language netlocError values application minimumSpawnRate = .ok config ↔
      Reads language netlocError values application minimumSpawnRate config := by
  constructor
  · intro h
    simp only [BenchmarkConfig.fromValues, bind_eq_ok] at h
    obtain ⟨app, happ, workload, hworkload, target, htarget, resources, hresources, nats, hnats, metrics,
      hmetrics, _, hrequired, interval, hinterval, start, hstart, maximum, hmaximum, _, hrates, warmup,
      hwarmup, duration, hduration, drain, hdrain, users, husers, spawn, hspawn, arrival, harrival, step,
      hstep, outcome, houtcome, settlement, hsettlement, seed, hseed, hconfig⟩ := h
    cases hconfig
    exact ⟨happ, hworkload, htarget, hresources, hnats, hmetrics, raiseIf_ok_iff.mp hrequired, hinterval,
      hstart, hmaximum, by simpa using raiseIf_ok_iff.mp hrates, hwarmup, hduration, hdrain, husers, hspawn,
      harrival, hstep, houtcome, hsettlement, hseed⟩
  · intro h
    simp only [BenchmarkConfig.fromValues, bind_eq_ok]
    exact ⟨_, h.applicationType, _, h.workload, _, h.targetUrl, _, h.collectResources, _,
      h.collectNatsMetrics, _, h.metricsUrl, (), raiseIf_ok_iff.mpr h.metricsRequired, _,
      h.resourceSampleIntervalSeconds, _, h.saturationStartRate, _, h.saturationMaxRate, (),
      raiseIf_ok_iff.mpr (by simpa using h.saturationRates), _, h.warmupSeconds, _, h.durationSeconds, _,
      h.drainSeconds, _, h.users, _, h.spawnRate, _, h.arrivalRate, _, h.saturationStepSeconds, _,
      h.outcomeTimeoutSeconds, _, h.settlementTimeoutSeconds, _, h.seed, rfl⟩

/-! ## Fields of a dictionary -/

section Fields

variable {values : Dict} {name : String}

/-- An integer that is accepted is in its range. -/
lemma integer_range {default minimum maximum value : ℤ}
    (h : integer language values name default minimum maximum = .ok value) :
    minimum ≤ value ∧ value ≤ maximum := by
  unfold integer at h
  split at h
  · cases h
  · split at h
    · cases h
    · split_ifs at h with hrange
      cases h
      exact ⟨not_lt.mp fun hlt => hrange (.inl hlt), not_lt.mp fun hlt => hrange (.inr hlt)⟩

/-- A number that is accepted is in its range. -/
lemma number_range {default minimum maximum value : ℚ}
    (h : number language values name default minimum maximum = .ok value) :
    minimum ≤ value ∧ value ≤ maximum := by
  unfold number at h
  split at h
  · cases h
  · split at h
    · cases h
    · cases h
    · split_ifs at h with hrange
      cases h
      exact ⟨not_lt.mp fun hlt => hrange (.inl hlt), not_lt.mp fun hlt => hrange (.inr hlt)⟩

/-- The integer of a dictionary is accepted in its range. -/
lemma integer_of_get {default minimum maximum value : ℤ} (hget : values.get name = some (.number value))
    (hrange : minimum ≤ value ∧ value ≤ maximum) :
    integer language values name default minimum maximum = .ok value := by
  have hnot : ¬ (value < minimum ∨ maximum < value) := by
    rintro (hlt | hlt)
    · exact absurd hrange.1 (not_le.mpr hlt)
    · exact absurd hrange.2 (not_le.mpr hlt)
  simp only [integer, hget, Option.getD_some, Language.int, truncate_intCast, if_neg hnot]

/-- The number of a dictionary is accepted in its range. -/
lemma number_of_get {default minimum maximum value : ℚ} (hget : values.get name = some (.number value))
    (hrange : minimum ≤ value ∧ value ≤ maximum) (hpos : 0 ≤ minimum) (hmaximum : maximum ≤ 10000) :
    number language values name default minimum maximum = .ok value := by
  have hdouble : double value = .ok value := by
    refine double_of_le ?_
    rw [abs_of_nonneg (hpos.trans hrange.1)]
    exact (hrange.2.trans hmaximum).trans (by norm_num)
  have hnot : ¬ (value < minimum ∨ maximum < value) := by
    rintro (hlt | hlt)
    · exact absurd hrange.1 (not_le.mpr hlt)
    · exact absurd hrange.2 (not_le.mpr hlt)
  simp only [number, hget, Option.getD_some, Language.float, hdouble, if_neg hnot]

/-- The truth value of a dictionary is accepted. -/
lemma boolean_of_get {default value : Bool} (hget : values.get name = some (.bool value)) :
    boolean values name default = .ok value := by
  simp only [boolean, hget, Option.getD_some]

end Fields

/-- The name of an application stands for it. -/
lemma Application.parse_text (application : Application) :
    Application.parse application.text = .ok application := by
  cases application <;> decide

/-- The name of a workload stands for it. -/
lemma Workload.parse_text (workload : Workload) : Workload.parse workload.text = .ok workload := by
  cases workload <;> decide

/-! ## The hand-over -/

/-- The metrics address of a dictionary with a text. -/
lemma metricsUrlOf_text {values : Dict} {url : String} (hget : values.get "metrics_url" = some (.string url)) :
    metricsUrlOf language netlocError values =
      if strip url = "" then .ok none else (normalizeMetricsUrl netlocError url).map some := by
  have hraw : rawMetricsUrl language values = url := by
    by_cases hempty : url = ""
    · simp [rawMetricsUrl, hget, hempty, Json.truthy]
    · simp [rawMetricsUrl, hget, hempty, Json.truthy, Language.text]
  rw [metricsUrlOf, hraw]

variable (language) in
/-- The dictionary of a configuration has its metrics address, if there is no white space around it. -/
lemma metricsUrlOf_asDict (config : BenchmarkConfig)
    (hnormal : ∀ url, config.metricsUrl = some url → ∃ value, normalizeMetricsUrl netlocError value = .ok url) :
    metricsUrlOf language netlocError config.asDict = .ok config.metricsUrl ↔
      ∀ url, config.metricsUrl = some url → strip url = url := by
  have hget : config.asDict.get "metrics_url" = some ((config.metricsUrl.map Json.string).getD .null) := rfl
  cases hmetrics : config.metricsUrl with
  | none =>
    rw [hmetrics] at hget
    have hstrip : strip "" = "" := by decide
    simp [metricsUrlOf, rawMetricsUrl, hget, Json.truthy, hstrip]
  | some url =>
    rw [hmetrics] at hget
    obtain ⟨value, hvalue⟩ := hnormal url hmetrics
    have hagain := normalizeMetricsUrl_again hvalue
    rw [metricsUrlOf_text hget]
    simp only [Option.some_inj, forall_eq']
    rw [← hagain]
    split_ifs with hblank
    · refine iff_of_false (by simp) fun hok => ?_
      exact strip_normalizeMetricsUrl_ne hvalue (hagain.mp hok) hblank
    · cases normalizeMetricsUrl netlocError url <;> simp [Except.map]

/-- The ranges of the fields of a configuration that a worker checks, but for its addresses. -/
structure InRange (config : BenchmarkConfig) : Prop where
  collectNatsMetrics : config.collectNatsMetrics = true → config.applicationType = .nats
  metricsRequired : ((config.collectResources || config.collectNatsMetrics) && config.metricsUrl.isNone) =
    false
  resourceSampleIntervalSeconds :
    1 ≤ config.resourceSampleIntervalSeconds ∧ config.resourceSampleIntervalSeconds ≤ 60
  saturationStartRate : 1 / 100 ≤ config.saturationStartRate ∧ config.saturationStartRate ≤ 10000
  saturationMaxRate : 1 / 100 ≤ config.saturationMaxRate ∧ config.saturationMaxRate ≤ 10000
  saturationRates : ¬ config.saturationMaxRate < config.saturationStartRate
  warmupSeconds : 0 ≤ config.warmupSeconds ∧ config.warmupSeconds ≤ 3600
  durationSeconds : 1 ≤ config.durationSeconds ∧ config.durationSeconds ≤ 3600
  drainSeconds : 1 ≤ config.drainSeconds ∧ config.drainSeconds ≤ 1800
  users : 1 ≤ config.users ∧ config.users ≤ 10000
  spawnRate : 1 / 1000 ≤ config.spawnRate ∧ config.spawnRate ≤ 10000
  saturationStepSeconds : 10 ≤ config.saturationStepSeconds ∧ config.saturationStepSeconds ≤ 300
  outcomeTimeoutSeconds : 1 ≤ config.outcomeTimeoutSeconds ∧ config.outcomeTimeoutSeconds ≤ 1800
  settlementTimeoutSeconds : 1 ≤ config.settlementTimeoutSeconds ∧ config.settlementTimeoutSeconds ≤ 3600
  seed : 0 ≤ config.seed ∧ config.seed ≤ 2147483647
  arrivalRate : config.arrivalRate ≤ 10000

variable (language) in
/-- The dictionary of a configuration that is in range is read as the configuration if and only if its
arrival rate is not below the minimum and there is no white space around its addresses. -/
lemma fromWorkerDict_asDict {config : BenchmarkConfig} (hlocal : netlocError "frontend:80".toList = none)
    (hrange : InRange config)
    (htarget : ∃ value, normalizeTargetUrl netlocError value = .ok config.targetUrl)
    (hmetrics : ∀ url, config.metricsUrl = some url →
      ∃ value, normalizeMetricsUrl netlocError value = .ok url) :
    BenchmarkConfig.fromWorkerDict language netlocError config.asDict = .ok config ↔
      1 / 100 ≤ config.arrivalRate ∧ strip config.targetUrl = config.targetUrl ∧
        ∀ url, config.metricsUrl = some url → strip url = url := by
  obtain ⟨value, hvalue⟩ := htarget
  have hstep : config.asDict.get "saturation_step_seconds" = some (.number config.saturationStepSeconds) :=
    rfl
  have hdefault := Dict.setDefault_of_get hstep (.number Saturation.legacyStepSeconds)
  rw [← metricsUrlOf_asDict language config hmetrics,
    ← normalizeTargetUrl_again hlocal hvalue]
  simp only [BenchmarkConfig.fromWorkerDict, hdefault]
  rw [fromValues_ok_iff]
  constructor
  · intro h
    exact ⟨(number_range h.arrivalRate).1, h.targetUrl, h.metricsUrl⟩
  · rintro ⟨harrival, htargetUrl, hmetricsUrl⟩
    exact {
      applicationType := Application.parse_text config.applicationType
      workload := Workload.parse_text config.workload
      targetUrl := htargetUrl
      collectResources := boolean_of_get rfl
      collectNatsMetrics := by
        have hnats := hrange.collectNatsMetrics
        cases happ : config.applicationType with
        | nats =>
          rw [collectNatsMetricsOf]
          exact boolean_of_get rfl
        | grpc =>
          cases hcollect : config.collectNatsMetrics with
          | false => rfl
          | true =>
            rw [happ] at hnats
            cases hnats hcollect
      metricsUrl := hmetricsUrl
      metricsRequired := hrange.metricsRequired
      resourceSampleIntervalSeconds := number_of_get rfl hrange.resourceSampleIntervalSeconds
        (by norm_num) (by norm_num)
      saturationStartRate := number_of_get rfl hrange.saturationStartRate (by norm_num) le_rfl
      saturationMaxRate := number_of_get rfl hrange.saturationMaxRate (by norm_num) le_rfl
      saturationRates := hrange.saturationRates
      warmupSeconds := integer_of_get rfl hrange.warmupSeconds
      durationSeconds := integer_of_get rfl hrange.durationSeconds
      drainSeconds := integer_of_get rfl hrange.drainSeconds
      users := integer_of_get rfl hrange.users
      spawnRate := number_of_get rfl hrange.spawnRate (by norm_num) le_rfl
      arrivalRate := number_of_get rfl ⟨harrival, hrange.arrivalRate⟩ (by norm_num) le_rfl
      saturationStepSeconds := integer_of_get rfl hrange.saturationStepSeconds
      outcomeTimeoutSeconds := number_of_get rfl hrange.outcomeTimeoutSeconds (by norm_num) (by norm_num)
      settlementTimeoutSeconds := number_of_get rfl hrange.settlementTimeoutSeconds (by norm_num) (by norm_num)
      seed := integer_of_get rfl hrange.seed }

/-! ## Shares -/

/-- What a configuration that is accepted promises. -/
lemma fromRequest_inRange {values : Dict} {application : String} {config : BenchmarkConfig}
    (h : Reads language netlocError values application (1 / 100) config) :
    InRange config ∧ 1 / 100 ≤ config.spawnRate ∧ 1 / 100 ≤ config.arrivalRate := by
  have hspawn := number_range h.spawnRate
  have harrival := number_range h.arrivalRate
  refine ⟨?_, hspawn.1, harrival.1⟩
  exact {
    collectNatsMetrics := by
      intro hcollect
      have hnats := h.collectNatsMetrics
      cases happ : config.applicationType with
      | nats => rfl
      | grpc =>
        rw [happ, hcollect] at hnats
        cases hnats
    metricsRequired := h.metricsRequired
    resourceSampleIntervalSeconds := number_range h.resourceSampleIntervalSeconds
    saturationStartRate := number_range h.saturationStartRate
    saturationMaxRate := number_range h.saturationMaxRate
    saturationRates := h.saturationRates
    warmupSeconds := integer_range h.warmupSeconds
    durationSeconds := integer_range h.durationSeconds
    drainSeconds := integer_range h.drainSeconds
    users := integer_range h.users
    spawnRate := ⟨by linarith [hspawn.1], hspawn.2⟩
    saturationStepSeconds := integer_range h.saturationStepSeconds
    outcomeTimeoutSeconds := number_range h.outcomeTimeoutSeconds
    settlementTimeoutSeconds := number_range h.settlementTimeoutSeconds
    seed := integer_range h.seed
    arrivalRate := harrival.2 }

/-- The metrics address of a request is normalized. -/
lemma metricsUrlOf_normalized {values : Dict} {url : String}
    (h : metricsUrlOf language netlocError values = .ok (some url)) :
    ∃ value, normalizeMetricsUrl netlocError value = .ok url := by
  rw [metricsUrlOf] at h
  split_ifs at h
  · cases h
  · cases hurl : normalizeMetricsUrl netlocError (rawMetricsUrl language values) with
    | error e =>
      rw [hurl] at h
      cases h
    | ok found =>
      rw [hurl] at h
      cases h
      exact ⟨_, hurl⟩

/-- The users of workers, of which the first ones have one more. -/
lemma sum_users (users : ℤ) {workers : ℕ} (hworkers : 0 < workers) :
    ∑ i ∈ Finset.range workers, (users / workers + if (i : ℤ) < users % workers then 1 else 0) = users := by
  have hpos : (0 : ℤ) < workers := by exact_mod_cast hworkers
  have hnonneg := Int.emod_nonneg users hpos.ne'
  have hlt := Int.emod_lt_of_pos users hpos
  have hfilter : (Finset.range workers).filter (fun i : ℕ => (i : ℤ) < users % workers) =
      Finset.range (users % workers).toNat := by
    ext i
    simp only [Finset.mem_filter, Finset.mem_range]
    omega
  rw [Finset.sum_add_distrib, Finset.sum_const, Finset.card_range, Finset.sum_boole, hfilter,
    Finset.card_range, nsmul_eq_mul]
  have hdiv := Int.mul_ediv_add_emod users workers
  have hcast : ((users % workers).toNat : ℤ) = users % workers := Int.toNat_of_nonneg hnonneg
  rw [hcast]
  exact hdiv

/-- The arrival rates of workers, of which the last one has what is left. -/
lemma sum_rates {rate capacity : ℚ} {workers : ℕ} (hlower : (workers : ℚ) * capacity < rate)
    (hupper : rate ≤ (workers + 1 : ℚ) * capacity) :
    ∑ i ∈ Finset.range (workers + 1), min capacity (rate - i * capacity) = rate := by
  have hcapacity : 0 < capacity := by linarith
  have hfull : ∀ i ∈ Finset.range workers, min capacity (rate - i * capacity) = capacity := by
    intro i hi
    have hle : ((i : ℚ) + 1) * capacity ≤ workers * capacity := by
      refine mul_le_mul_of_nonneg_right ?_ hcapacity.le
      exact_mod_cast Finset.mem_range.mp hi
    exact min_eq_left (by linarith)
  rw [Finset.sum_range_succ, Finset.sum_congr rfl hfull, Finset.sum_const, Finset.card_range,
    min_eq_right (by linarith), nsmul_eq_mul]
  ring

/-- The number of workers is the least one whose capacity is enough. -/
lemma max_one_ceil {load capacity : ℚ} (hload : 0 < load) (hcapacity : 0 < capacity) :
    (((max 1 ⌈load / capacity⌉ : ℤ) : ℚ) - 1) * capacity < load ∧
      load ≤ ((max 1 ⌈load / capacity⌉ : ℤ) : ℚ) * capacity := by
  have hpos : 1 ≤ ⌈load / capacity⌉ := Int.one_le_ceil_iff.mpr (div_pos hload hcapacity)
  rw [max_eq_right hpos]
  constructor
  · rw [← lt_div_iff₀ hcapacity, sub_lt_iff_lt_add]
    exact Int.ceil_lt_add_one _
  · rw [← div_le_iff₀ hcapacity]
    exact Int.le_ceil _

/-- There is a worker. -/
lemma one_le_workerCount (config : BenchmarkConfig) : 1 ≤ config.workerCount := by
  unfold BenchmarkConfig.workerCount
  split_ifs
  · exact le_max_left _ _
  · exact le_max_left _ _
  · exact le_max_left _ _

/-- The workers of an open workload are as many as its arrival rate needs. -/
lemma workerCount_open {config : BenchmarkConfig} (hopen : config.workload.isOpen = true)
    (harrival : 0 < config.arrivalRate) :
    ((config.workerCount : ℚ) - 1) * maxOpenArrivalRatePerWorker < config.arrivalRate ∧
      config.arrivalRate ≤ (config.workerCount : ℚ) * maxOpenArrivalRatePerWorker := by
  rw [BenchmarkConfig.workerCount, if_pos hopen]
  exact max_one_ceil harrival (by norm_num [maxOpenArrivalRatePerWorker])

/-- The workers of a closed workload are as many as its users need. -/
lemma workerCount_closed {config : BenchmarkConfig} (hclosed : config.workload = .closed)
    (husers : 1 ≤ config.users) :
    (config.workerCount - 1) * maxClosedUsersPerWorker < config.users ∧
      config.users ≤ config.workerCount * maxClosedUsersPerWorker := by
  have hpos : (0 : ℚ) < config.users := by
    exact_mod_cast husers
  have hcapacity : (0 : ℚ) < (maxClosedUsersPerWorker : ℚ) := by norm_num [maxClosedUsersPerWorker]
  have hbounds := max_one_ceil hpos hcapacity
  rw [BenchmarkConfig.workerCount, hclosed, if_neg (by decide), if_neg (by decide)]
  exact_mod_cast hbounds

/-- The users of a worker are positive and within its capacity. -/
lemma users_share {users workers index : ℤ} (hworkers : 1 ≤ workers)
    (hlower : (workers - 1) * maxClosedUsersPerWorker < users)
    (hupper : users ≤ workers * maxClosedUsersPerWorker) (hindex : 0 ≤ index) :
    0 < users / workers + (if index < users % workers then 1 else 0) ∧
      users / workers + (if index < users % workers then 1 else 0) ≤ maxClosedUsersPerWorker := by
  simp only [maxClosedUsersPerWorker] at *
  have hdiv := Int.mul_ediv_add_emod users workers
  have hnonneg := Int.emod_nonneg users (by omega : workers ≠ 0)
  have hlt := Int.emod_lt_of_pos users (by omega : 0 < workers)
  generalize users / workers = quotient at *
  generalize users % workers = remainder at *
  have hquotient : 0 < quotient := by
    by_contra hle
    have hprod : workers * quotient ≤ 0 := mul_nonpos_of_nonneg_of_nonpos (by omega) (by omega)
    omega
  split_ifs with hmore
  · -- With a remainder the quotient is below the capacity.
    refine ⟨by omega, ?_⟩
    by_contra hgt
    have hprod : workers * 1000 ≤ workers * quotient := mul_le_mul_of_nonneg_left (by omega) (by omega)
    omega
  · refine ⟨by omega, ?_⟩
    by_contra hgt
    have hprod : workers * 1001 ≤ workers * quotient := mul_le_mul_of_nonneg_left (by omega) (by omega)
    omega

/-- The share of a worker in the arrival rate is positive and within its capacity. -/
lemma rate_share {config : BenchmarkConfig} (hopen : config.workload.isOpen = true)
    (harrival : 0 < config.arrivalRate) {index : ℤ} (hindex : index < config.workerCount) :
    0 < (config.share index).arrivalRate ∧
      (config.share index).arrivalRate ≤ maxOpenArrivalRatePerWorker := by
  have hlower := (workerCount_open hopen harrival).1
  have hle : (index : ℚ) ≤ config.workerCount - 1 := by
    exact_mod_cast Int.le_sub_one_of_lt hindex
  have hleft : (index : ℚ) * maxOpenArrivalRatePerWorker < config.arrivalRate := by
    refine lt_of_le_of_lt (mul_le_mul_of_nonneg_right hle ?_) hlower
    norm_num [maxOpenArrivalRatePerWorker]
  simp only [BenchmarkConfig.share, if_pos hopen]
  exact ⟨lt_min (by norm_num [maxOpenArrivalRatePerWorker]) (by linarith), min_le_left _ _⟩

/-! ## Configurations of workers -/

/-- The addresses of a worker are those of the run. -/
lemma share_urls (config : BenchmarkConfig) (index : ℤ) :
    (config.share index).targetUrl = config.targetUrl ∧
      (config.share index).metricsUrl = config.metricsUrl := by
  unfold BenchmarkConfig.share
  split_ifs <;> exact ⟨rfl, rfl⟩

/-- The spawn rate of a worker of a closed workload is not below the minimum of workers. -/
lemma spawn_share {config : BenchmarkConfig} (hrange : InRange config) (hspawn : 1 / 100 ≤ config.spawnRate)
    (hclosed : config.workload = .closed) :
    1 / 1000 ≤ config.spawnRate / config.workerCount ∧ config.spawnRate / config.workerCount ≤ 10000 := by
  have hone := one_le_workerCount config
  have hlower := (workerCount_closed hclosed hrange.users.1).1
  have hten : config.workerCount ≤ 10 := by
    have husers := hrange.users.2
    simp only [maxClosedUsersPerWorker] at hlower
    omega
  have hone' : (1 : ℚ) ≤ config.workerCount := by exact_mod_cast hone
  have hten' : (config.workerCount : ℚ) ≤ 10 := by exact_mod_cast hten
  have hpos : (0 : ℚ) < config.workerCount := by linarith
  constructor
  · rw [le_div_iff₀ hpos]
    linarith
  · rw [div_le_iff₀ hpos]
    linarith [hrange.spawnRate.2]

/-- A workload that is not open and not saturation is closed. -/
lemma closed_of_not {workload : Workload} (hopen : ¬ workload.isOpen = true)
    (hsaturation : ¬ workload = .saturation) : workload = .closed := by
  cases workload <;> simp_all [Workload.isOpen]

/-- The configuration of a worker is in the range that the worker checks. -/
lemma share_inRange {config : BenchmarkConfig} (hrange : InRange config)
    (hspawn : 1 / 100 ≤ config.spawnRate) {index : ℤ} (hindex : 0 ≤ index) :
    InRange (config.share index) := by
  have hseed : 0 ≤ (config.seed + index) % 2147483648 ∧ (config.seed + index) % 2147483648 ≤ 2147483647 := by
    omega
  have hnats : (config.collectNatsMetrics && decide (index = 0)) = true → config.applicationType = .nats :=
    fun h => hrange.collectNatsMetrics (Bool.and_eq_true_iff.mp h).1
  have hrequired : ((config.collectResources && decide (index = 0) ||
      config.collectNatsMetrics && decide (index = 0)) && config.metricsUrl.isNone) = false := by
    have hmetrics := hrange.metricsRequired
    revert hmetrics
    cases config.collectResources <;> cases config.collectNatsMetrics <;> cases config.metricsUrl <;> simp
  have hcommon : InRange { config with
      seed := (config.seed + index) % 2147483648
      collectResources := config.collectResources && index = 0
      collectNatsMetrics := config.collectNatsMetrics && index = 0 } :=
    { hrange with collectNatsMetrics := hnats, metricsRequired := hrequired, seed := hseed }
  by_cases hopen : config.workload.isOpen = true
  · simp only [BenchmarkConfig.share, if_pos hopen]
    refine { hcommon with arrivalRate := le_trans (min_le_left _ _) ?_ }
    norm_num [maxOpenArrivalRatePerWorker]
  · by_cases hsaturation : config.workload = .saturation
    · simp only [BenchmarkConfig.share, if_neg hopen, if_pos hsaturation]
      exact hcommon
    · have hclosed := closed_of_not hopen hsaturation
      obtain ⟨hlower, hupper⟩ := workerCount_closed hclosed hrange.users.1
      obtain ⟨hpos, hle⟩ := users_share (one_le_workerCount config) hlower hupper hindex
      have hbound : (maxClosedUsersPerWorker : ℤ) ≤ 10000 := by decide
      simp only [BenchmarkConfig.share, if_neg hopen, if_neg hsaturation]
      exact { hcommon with
        users := ⟨Int.add_one_le_of_lt hpos, hle.trans hbound⟩
        spawnRate := spawn_share hrange hspawn hclosed }

/-- The arrival rate of a worker is not below the minimum if and only if that is left for it. -/
lemma arrivalRate_share {config : BenchmarkConfig} (harrival : 1 / 100 ≤ config.arrivalRate) (index : ℤ) :
    1 / 100 ≤ (config.share index).arrivalRate ↔ (config.workload.isOpen = true →
      1 / 100 ≤ config.arrivalRate - index * maxOpenArrivalRatePerWorker) := by
  by_cases hopen : config.workload.isOpen = true
  · have hcapacity : (1 : ℚ) / 100 ≤ maxOpenArrivalRatePerWorker := by
      norm_num [maxOpenArrivalRatePerWorker]
    simp only [BenchmarkConfig.share, if_pos hopen]
    rw [le_min_iff]
    exact ⟨fun hmin _ => hmin.2, fun hleft => ⟨hcapacity, hleft hopen⟩⟩
  · have hrate : (config.share index).arrivalRate = config.arrivalRate := by
      unfold BenchmarkConfig.share
      rw [if_neg hopen]
      split_ifs <;> rfl
    rw [hrate]
    exact iff_of_true harrival fun h => absurd h hopen

/-- The workers share the load of a run: the arrival rate of the open workloads, and the users and the spawn
rate of the closed one. -/
structure Partition (config : BenchmarkConfig) (workers : ℕ → BenchmarkConfig) : Prop where
  rates : config.workload.isOpen = true →
    (∀ i : ℕ, i < config.workerCount →
      0 < (workers i).arrivalRate ∧ (workers i).arrivalRate ≤ maxOpenArrivalRatePerWorker) ∧
    ∑ i ∈ Finset.range config.workerCount.toNat, (workers i).arrivalRate = config.arrivalRate
  users : config.workload = .closed →
    (∀ i : ℕ, i < config.workerCount → 0 < (workers i).users ∧ (workers i).users ≤ maxClosedUsersPerWorker) ∧
    ∑ i ∈ Finset.range config.workerCount.toNat, (workers i).users = config.users ∧
    ∑ i ∈ Finset.range config.workerCount.toNat, (workers i).spawnRate = config.spawnRate

/-- The shares of the workers are a partition of the load. -/
lemma share_partition {config : BenchmarkConfig} (husers : 1 ≤ config.users)
    (harrival : 1 / 100 ≤ config.arrivalRate) : Partition config fun i => config.share i where
  rates hopen := by
    have hpos : 0 < config.arrivalRate := by linarith
    obtain ⟨hlower, hupper⟩ := workerCount_open hopen hpos
    obtain ⟨n, hn⟩ : ∃ n : ℕ, config.workerCount = n + 1 :=
      ⟨(config.workerCount - 1).toNat, by have := one_le_workerCount config; omega⟩
    refine ⟨fun i hi => rate_share hopen hpos hi, ?_⟩
    rw [hn] at hlower hupper ⊢
    push_cast at hlower hupper
    rw [add_sub_cancel_right] at hlower
    simp only [BenchmarkConfig.share, if_pos hopen]
    exact sum_rates hlower hupper
  users hclosed := by
    have hone := one_le_workerCount config
    obtain ⟨hlower, hupper⟩ := workerCount_closed hclosed husers
    obtain ⟨n, hn⟩ : ∃ n : ℕ, config.workerCount = n := ⟨config.workerCount.toNat, by omega⟩
    have hshare : ∀ i : ℤ,
        (config.share i).users =
          config.users / config.workerCount + (if i < config.users % config.workerCount then 1 else 0) ∧
        (config.share i).spawnRate = config.spawnRate / config.workerCount := by
      intro i
      simp only [BenchmarkConfig.share, hclosed]
      exact ⟨rfl, rfl⟩
    refine ⟨fun i hi => ?_, ?_, ?_⟩
    · rw [(hshare i).1]
      exact users_share hone hlower hupper (Int.natCast_nonneg i)
    · simp only [hshare, hn, Int.toNat_natCast]
      exact sum_users config.users (by omega)
    · simp only [hshare, hn, Int.toNat_natCast, Finset.sum_const, Finset.card_range, nsmul_eq_mul]
      have hne : (n : ℚ) ≠ 0 := by
        exact_mod_cast (by omega : n ≠ 0)
      push_cast
      exact mul_div_cancel₀ _ hne

/-- Of every configuration that a request is accepted with, the workers share the load.  A worker accepts
the configuration that is handed over to it, and reads it as it is, if and only if in an open workload its
arrival rate is not below the minimum, and there is no white space around the addresses. -/
theorem worker_config_iff (hlocal : netlocError "frontend:80".toList = none) {values : Dict}
    {application : String} {config : BenchmarkConfig}
    (h : BenchmarkConfig.fromRequest language netlocError values application = .ok config) :
    ∃ workers : ℕ → BenchmarkConfig, Partition config workers ∧
      ∀ i : ℕ, i < config.workerCount → config.forWorker i = some (workers i) ∧
        (BenchmarkConfig.fromWorkerDict language netlocError (workers i).asDict = .ok (workers i) ↔
          (config.workload.isOpen = true →
            1 / 100 ≤ config.arrivalRate - i * maxOpenArrivalRatePerWorker) ∧
          strip config.targetUrl = config.targetUrl ∧
          ∀ url, config.metricsUrl = some url → strip url = url) := by
  have hreads := fromValues_ok_iff.mp h
  obtain ⟨hrange, hspawn, harrival⟩ := fromRequest_inRange hreads
  refine ⟨fun i => config.share i, share_partition hrange.users.1 harrival, fun i hi => ⟨?_, ?_⟩⟩
  · rw [BenchmarkConfig.forWorker, if_neg]
    rintro (hneg | hle)
    · omega
    · omega
  · obtain ⟨htarget, hmetrics⟩ := share_urls config i
    have hhandover := fromWorkerDict_asDict language hlocal
      (share_inRange hrange hspawn (Int.natCast_nonneg i))
      (by rw [htarget]; exact ⟨_, hreads.targetUrl⟩)
      (by
        intro url hurl
        rw [hmetrics] at hurl
        exact metricsUrlOf_normalized (hurl ▸ hreads.metricsUrl))
    rw [arrivalRate_share harrival, htarget, hmetrics] at hhandover
    exact_mod_cast hhandover

/-! ## A last worker with little to do -/

namespace Sample

/-- A request of an open workload with an arrival rate. -/
def request (arrivalRate : ℚ) : Dict :=
  [("workload", .string "open"), ("target_url", .string "http://frontend"),
    ("collect_resources", .bool false), ("collect_nats_metrics", .bool false),
    ("arrival_rate", .number arrivalRate)]

/-- The configuration of the request. -/
def config (arrivalRate : ℚ) : BenchmarkConfig where
  applicationType := .nats
  targetUrl := "http://frontend"
  metricsUrl := none
  workload := .opened
  warmupSeconds := 30
  durationSeconds := 120
  drainSeconds := 60
  users := 10
  spawnRate := 1
  arrivalRate := arrivalRate
  saturationStartRate := 10
  saturationMaxRate := 1000
  saturationStepSeconds := 30
  outcomeTimeoutSeconds := 30
  settlementTimeoutSeconds := 60
  resourceSampleIntervalSeconds := 5
  seed := 1
  collectResources := false
  collectNatsMetrics := false

end Sample

/-- The workers of a run with 75 requests a second accept their configurations. -/
theorem two_workers_accept :
    ∃ workers : ℕ → BenchmarkConfig, Partition (Sample.config 75) workers ∧ ∀ i : ℕ, i < 2 →
      BenchmarkConfig.fromWorkerDict Sample.plain (fun _ => none) (workers i).asDict = .ok (workers i) := by
  have hrequest : BenchmarkConfig.fromRequest Sample.plain (fun _ => none) (Sample.request 75) "NATS" =
      .ok (Sample.config 75) := by decide +kernel
  have hcount : (Sample.config 75).workerCount = 2 := by decide +kernel
  obtain ⟨workers, hpartition, hworkers⟩ := worker_config_iff rfl hrequest
  refine ⟨workers, hpartition, fun i hi => ?_⟩
  rw [hcount] at hworkers
  refine ((hworkers i (by omega)).2).mpr ⟨fun _ => ?_, by decide, by simp [Sample.config]⟩
  have hle : (i : ℚ) ≤ 1 := by exact_mod_cast Nat.le_of_lt_succ hi
  simp only [Sample.config, maxOpenArrivalRatePerWorker]
  linarith

/-- Of 50.005 requests a second 0.005 are left for the second worker, which rejects its configuration. -/
theorem small_share_rejected :
    BenchmarkConfig.fromRequest Sample.plain (fun _ => none) (Sample.request (10001 / 200)) "NATS" =
        .ok (Sample.config (10001 / 200)) ∧
      ∃ worker, (Sample.config (10001 / 200)).forWorker 1 = some worker ∧
        BenchmarkConfig.fromWorkerDict Sample.plain (fun _ => none) worker.asDict =
          .error (.numberRange "arrival_rate" (1 / 100) 10000) := by
  refine ⟨by decide +kernel, (Sample.config (10001 / 200)).share 1, by decide +kernel, by decide +kernel⟩

end Boutique.Benchmark.Workers
