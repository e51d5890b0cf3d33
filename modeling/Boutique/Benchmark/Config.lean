import Boutique.Benchmark.Url
import Boutique.Common.Message

/-!
# The configuration of a benchmark

`BenchmarkConfig` of `benchmarkservice/config.py`: the checks of a request, the number of workers, the
configuration of a worker, and its hand-over to the worker as a dictionary.  Rates are rational numbers.
-/

namespace Boutique.Benchmark.Workers

/-! ## Fields of a request -/

section Fields

variable (language : Language) (values : Dict) (name : String)

/-- `_integer`. -/
def integer (default minimum maximum : ℤ) : Except ConfigError ℤ :=
  match (values.get name).getD (.number default) with
  | .bool _ => .error (.notInteger name)
  | raw =>
    match language.int raw with
    | none => .error (.notInteger name)
    | some value =>
      if value < minimum ∨ maximum < value then .error (.integerRange name minimum maximum) else .ok value

/-- `_number`. -/
def number (default minimum maximum : ℚ) : Except ConfigError ℚ :=
  match (values.get name).getD (.number default) with
  | .bool _ => .error (.notNumber name)
  | raw =>
    match language.float raw with
    | .error .conversion => .error (.notNumber name)
    | .error .overflow => .error .overflow
    | .ok value =>
      if value < minimum ∨ maximum < value then .error (.numberRange name minimum maximum) else .ok value

/-- `str.lower`, of texts that are compared with words of ASCII letters. -/
def lower (s : String) : String := String.ofList (s.toList.map Char.toLower)

/-- `str.upper`, of texts that are compared with `GRPC` and `NATS`; the long s is the only other letter
whose capital is one of theirs. -/
def upper (s : String) : String :=
  String.ofList (s.toList.map fun c => if c.val = 0x17f then 'S' else c.toUpper)

/-- `_boolean`. -/
def boolean (default : Bool) : Except ConfigError Bool :=
  match (values.get name).getD (.bool default) with
  | .bool value => .ok value
  | .string raw =>
    if lower (strip raw) ∈ ["1", "true", "yes", "on"] then .ok true
    else if lower (strip raw) ∈ ["0", "false", "no", "off"] then .ok false
    else .error (.notBoolean name)
  | _ => .error (.notBoolean name)

end Fields

/-- `APPLICATION_TYPES`. -/
inductive Application where
  | grpc
  | nats
  deriving DecidableEq

/-- The name of an application. -/
def Application.text : Application → String
  | .grpc => "GRPC"
  | .nats => "NATS"

/-- The application of a name. -/
def Application.parse (value : String) : Except ConfigError Application :=
  if upper (strip value) = "GRPC" then .ok .grpc
  else if upper (strip value) = "NATS" then .ok .nats
  else .error .application

/-- `WORKLOADS`. -/
inductive Workload where
  | closed
  | opened
  | saturation
  | faultTolerance
  deriving DecidableEq

/-- The name of a workload. -/
def Workload.text : Workload → String
  | .closed => "closed"
  | .opened => "open"
  | .saturation => "saturation"
  | .faultTolerance => "fault_tolerance"

/-- The workload of a name. -/
def Workload.parse (value : String) : Except ConfigError Workload :=
  if lower (strip value) = "closed" then .ok .closed
  else if lower (strip value) = "open" then .ok .opened
  else if lower (strip value) = "saturation" then .ok .saturation
  else if lower (strip value) = "fault_tolerance" then .ok .faultTolerance
  else .error .workload

/-- The truth of a value. -/
def Json.truthy : Json → Bool
  | .null => false
  | .bool value => value
  | .number value => value != 0
  | .string value => value != ""
  | .array items => !items.isEmpty
  | .object fields => !fields.isEmpty

/-! ## Configurations -/

/-- `BenchmarkConfig`. -/
structure BenchmarkConfig where
  applicationType : Application
  targetUrl : String
  metricsUrl : Option String
  workload : Workload
  warmupSeconds : ℤ
  durationSeconds : ℤ
  drainSeconds : ℤ
  users : ℤ
  spawnRate : ℚ
  arrivalRate : ℚ
  saturationStartRate : ℚ
  saturationMaxRate : ℚ
  saturationStepSeconds : ℤ
  outcomeTimeoutSeconds : ℚ
  settlementTimeoutSeconds : ℚ
  resourceSampleIntervalSeconds : ℚ
  seed : ℤ
  collectResources : Bool
  collectNatsMetrics : Bool
  deriving DecidableEq

/-- `MAX_OPEN_ARRIVAL_RATE_PER_WORKER`. -/
def maxOpenArrivalRatePerWorker : ℚ := 50

/-- `MAX_CLOSED_USERS_PER_WORKER`. -/
def maxClosedUsersPerWorker : ℤ := 1000

/-- `SATURATION_START_RATE`. -/
def Saturation.startRate : ℚ := 10

/-- `SATURATION_STEP_RATE`. -/
def Saturation.stepRate : ℚ := 10

/-- `SATURATION_STEP_SECONDS`. -/
def Saturation.stepSeconds : ℤ := 30

/-- `LEGACY_SATURATION_STEP_SECONDS`. -/
def Saturation.legacyStepSeconds : ℤ := 10

section Requests

variable (language : Language) (netlocError : List Char → Option String)

/-- `if condition: raise error`. -/
def raiseIf (condition : Bool) (error : ConfigError) : Except ConfigError Unit :=
  if condition then .error error else .ok ()

/-- The collection of NATS metrics that a request asks for. -/
def collectNatsMetricsOf (values : Dict) : Application → Except ConfigError Bool
  | .nats => boolean values "collect_nats_metrics" true
  | .grpc => .ok false

/-- `str(values.get("metrics_url") or "")`. -/
def rawMetricsUrl (values : Dict) : String :=
  let value := (values.get "metrics_url").getD .null
  if value.truthy then language.text value else ""

/-- The metrics address of a request. -/
def metricsUrlOf (values : Dict) : Except ConfigError (Option String) :=
  if strip (rawMetricsUrl language values) = "" then .ok none
  else (normalizeMetricsUrl netlocError (rawMetricsUrl language values)).map some

/-- `_from_values`. -/
def BenchmarkConfig.fromValues (values : Dict) (application : String) (minimumSpawnRate : ℚ) :
    Except ConfigError BenchmarkConfig := do
  let applicationType ← Application.parse application
  let workload ← Workload.parse (language.text ((values.get "workload").getD (.string "closed")))
  let targetUrl ← normalizeTargetUrl netlocError
    (language.text ((values.get "target_url").getD (.string "")))
  let collectResources ← boolean values "collect_resources" true
  let collectNatsMetrics ← collectNatsMetricsOf values applicationType
  let metricsUrl ← metricsUrlOf language netlocError values
  raiseIf ((collectResources || collectNatsMetrics) && metricsUrl.isNone) .metricsRequired
  let resourceSampleIntervalSeconds ← number language values "resource_sample_interval_seconds" 5 1 60
  let startRate ← number language values "saturation_start_rate" Saturation.startRate (1 / 100) 10000
  let maxRate ← number language values "saturation_max_rate" 1000 (1 / 100) 10000
  raiseIf (maxRate < startRate) .saturationRates
  let warmupSeconds ← integer language values "warmup_seconds" 30 0 3600
  let durationSeconds ←
    integer language values "duration_seconds" (if workload = .saturation then 600 else 120) 1 3600
  let drainSeconds ← integer language values "drain_seconds" 60 1 1800
  let users ← integer language values "users" 10 1 10000
  let spawnRate ← number language values "spawn_rate" 1 minimumSpawnRate 10000
  let arrivalRate ← number language values "arrival_rate" 1 (1 / 100) 10000
  let stepSeconds ← integer language values "saturation_step_seconds" Saturation.stepSeconds 10 300
  let outcomeTimeoutSeconds ← number language values "outcome_timeout_seconds" 30 1 1800
  let settlementTimeoutSeconds ← number language values "settlement_timeout_seconds" 60 1 3600
  let seed ← integer language values "seed" 1 0 2147483647
  return {
    applicationType, targetUrl, metricsUrl, workload, warmupSeconds, durationSeconds, drainSeconds, users,
    spawnRate, arrivalRate, saturationStartRate := startRate, saturationMaxRate := maxRate,
    saturationStepSeconds := stepSeconds, outcomeTimeoutSeconds, settlementTimeoutSeconds,
    resourceSampleIntervalSeconds, seed, collectResources, collectNatsMetrics }

/-- `from_request`. -/
def BenchmarkConfig.fromRequest (values : Dict) (application : String) :
    Except ConfigError BenchmarkConfig :=
  fromValues language netlocError values application (1 / 100)

/-- `from_worker_dict`. -/
def BenchmarkConfig.fromWorkerDict (values : Dict) : Except ConfigError BenchmarkConfig :=
  let values := values.setDefault "saturation_step_seconds" (.number Saturation.legacyStepSeconds)
  fromValues language netlocError values
    (language.text ((values.get "application_type").getD (.string ""))) (1 / 1000)

end Requests

/-- `saturation_step_count`. -/
def BenchmarkConfig.saturationStepCount (config : BenchmarkConfig) : ℤ :=
  ⌈(config.durationSeconds : ℚ) / config.saturationStepSeconds⌉

/-- `saturation_effective_max_rate`. -/
def BenchmarkConfig.saturationEffectiveMaxRate (config : BenchmarkConfig) : ℚ :=
  min config.saturationMaxRate
    (config.saturationStartRate + (config.saturationStepCount - 1) * Saturation.stepRate)

/-- The workloads whose arrival rate is shared by the workers. -/
def Workload.isOpen (workload : Workload) : Bool := workload = .opened || workload = .faultTolerance

/-- `worker_count`. -/
def BenchmarkConfig.workerCount (config : BenchmarkConfig) : ℤ :=
  if config.workload.isOpen then max 1 ⌈config.arrivalRate / maxOpenArrivalRatePerWorker⌉
  else if config.workload = .saturation then
    max 1 ⌈config.saturationEffectiveMaxRate / maxOpenArrivalRatePerWorker⌉
  else max 1 ⌈(config.users : ℚ) / maxClosedUsersPerWorker⌉

/-- The configuration of a worker. -/
def BenchmarkConfig.share (config : BenchmarkConfig) (index : ℤ) : BenchmarkConfig :=
  let common := { config with
    seed := (config.seed + index) % 2147483648
    collectResources := config.collectResources && index = 0
    collectNatsMetrics := config.collectNatsMetrics && index = 0 }
  if config.workload.isOpen then
    { common with
      arrivalRate := min maxOpenArrivalRatePerWorker
        (config.arrivalRate - index * maxOpenArrivalRatePerWorker) }
  else if config.workload = .saturation then common
  else
    { common with
      users := config.users / config.workerCount + if index < config.users % config.workerCount then 1 else 0
      spawnRate := config.spawnRate / config.workerCount }

/-- `for_worker`; `none` is an `IndexError`. -/
def BenchmarkConfig.forWorker (config : BenchmarkConfig) (index : ℤ) : Option BenchmarkConfig :=
  if index < 0 ∨ config.workerCount ≤ index then none else some (config.share index)

/-- `as_dict`. -/
def BenchmarkConfig.asDict (config : BenchmarkConfig) : Dict :=
  [("application_type", .string config.applicationType.text), ("target_url", .string config.targetUrl),
    ("metrics_url", (config.metricsUrl.map Json.string).getD .null),
    ("workload", .string config.workload.text), ("warmup_seconds", .number config.warmupSeconds),
    ("duration_seconds", .number config.durationSeconds), ("drain_seconds", .number config.drainSeconds),
    ("users", .number config.users), ("spawn_rate", .number config.spawnRate),
    ("arrival_rate", .number config.arrivalRate),
    ("saturation_start_rate", .number config.saturationStartRate),
    ("saturation_max_rate", .number config.saturationMaxRate),
    ("saturation_step_seconds", .number config.saturationStepSeconds),
    ("outcome_timeout_seconds", .number config.outcomeTimeoutSeconds),
    ("settlement_timeout_seconds", .number config.settlementTimeoutSeconds),
    ("resource_sample_interval_seconds", .number config.resourceSampleIntervalSeconds),
    ("seed", .number config.seed), ("collect_resources", .bool config.collectResources),
    ("collect_nats_metrics", .bool config.collectNatsMetrics)]

end Boutique.Benchmark.Workers
