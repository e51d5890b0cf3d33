import Boutique.Stateless.Lease
import Boutique.Lib.CasLoop

/-!
# Leases in a key-value bucket

`KVLeaseStore` of `shared/stateless/go/kv_lease.go` and the bootstrap claim of
`currencyservice/bootstrap_claim.js` keep a lease in one JSON document of a bucket.  An operation
reads the document and creates or updates it under the revision it read, up to 32 times.
-/

namespace Boutique

open CasLoop

/-- `leaseRecord`, the JSON document that both implementations share.  A time is a number of
milliseconds; an omitted completion time is `0`. -/
structure LeaseRecord (τ : Type*) where
  owner : String
  token : ℕ
  attempts : ℕ
  leaseUntil : τ
  completed : Bool
  completedAt : τ
  deriving DecidableEq

/-! ## The Go store -/

/-- `leaseRecord.lease`. -/
def LeaseRecord.lease (record : LeaseRecord ℤ) (workId : String) : Lease where
  workId := workId
  workerId := record.owner
  token := record.token
  attempts := record.attempts
  leaseUntil := leaseTime record.leaseUntil
  completed := record.completed

/-- The check of `decodeLeaseRecord` on a decoded document. -/
def LeaseRecord.incomplete (record : LeaseRecord ℤ) : Bool :=
  record.token = 0 || record.attempts = 0

/-- The test with which `Renew` and `Complete` refuse a claim. -/
def LeaseRecord.lost (record : LeaseRecord ℤ) (lease : Lease) (now : ℤ) : Bool :=
  record.owner ≠ lease.workerId || record.token ≠ lease.token || record.leaseUntil ≤ now

/-- An attempt of `KVLeaseStore.Acquire`. -/
def kvAcquireLease (workId workerId : String) (now : Time) (duration : Duration) :
    Option (LeaseRecord ℤ) → Decision LeaseCall (LeaseRecord ℤ) LeaseResult :=
  fun current =>
    if isBlank workerId || now = 0 || duration.nanos ≤ 0 then
      .finish (.invalid "worker ID, current time, and positive lease duration are required")
    else if isBlank workId then .finish (.invalid "work ID is required")
    else
      let nowMillis := unixMilli now
      let leaseUntil := wrapInt64 (nowMillis + duration.milliseconds)
      match current with
      | none =>
        let record : LeaseRecord ℤ :=
          { owner := workerId, token := 1, attempts := 1, leaseUntil := leaseUntil,
            completed := false, completedAt := 0 }
        .write (.acquire workId workerId now duration) record (.acquired (record.lease workId))
      | some record =>
        if record.incomplete then .finish (.invalid "KV lease record is incomplete")
        else if record.completed then .finish (.completeError (some (record.lease workId)))
        else if nowMillis < record.leaseUntil then
          .finish (.heldError record.owner (leaseTime record.leaseUntil))
        else
          let record := { record with owner := workerId, token := record.token + 1,
                                      attempts := record.attempts + 1, leaseUntil := leaseUntil }
          .write (.acquire workId workerId now duration) record (.acquired (record.lease workId))

/-- An attempt of `KVLeaseStore.Renew`. -/
def kvRenewLease (lease : Lease) (now : Time) (duration : Duration) :
    Option (LeaseRecord ℤ) → Decision LeaseCall (LeaseRecord ℤ) LeaseResult :=
  fun current =>
    if lease.token = 0 || now = 0 || duration.nanos ≤ 0 then
      .finish (.invalid "valid lease, current time, and positive duration are required")
    else if isBlank lease.workId then .finish (.invalid "work ID is required")
    else
      let nowMillis := unixMilli now
      match current with
      | none => .finish .lostError
      | some record =>
        if record.incomplete then .finish (.invalid "KV lease record is incomplete")
        else if record.completed then .finish (.completeError none)
        else if record.lost lease nowMillis then .finish .lostError
        else
          let record :=
            { record with leaseUntil := wrapInt64 (nowMillis + duration.milliseconds) }
          .write (.renew lease now duration) record (.acquired (record.lease lease.workId))

/-- An attempt of `KVLeaseStore.Complete`. -/
def kvCompleteLease (lease : Lease) (now : Time) :
    Option (LeaseRecord ℤ) → Decision LeaseCall (LeaseRecord ℤ) LeaseResult :=
  fun current =>
    if lease.token = 0 || now = 0 then
      .finish (.invalid "valid lease and completion time are required")
    else if isBlank lease.workId then .finish (.invalid "work ID is required")
    else
      let nowMillis := unixMilli now
      match current with
      | none => .finish .lostError
      | some record =>
        if record.incomplete then .finish (.invalid "KV lease record is incomplete")
        else if record.completed then .finish (.completeError none)
        else if record.lost lease nowMillis then .finish .lostError
        else
          let record :=
            { record with completed := true, completedAt := nowMillis, leaseUntil := 0 }
          .write (.complete lease now) record .completed

/-- The operations of `KVLeaseStore` on one work item. -/
def kvLeaseLoop : Loop LeaseCall (LeaseRecord ℤ) LeaseResult where
  decide
    | .acquire workId workerId now duration => kvAcquireLease workId workerId now duration
    | .renew lease now duration => kvRenewLease lease now duration
    | .complete lease now => kvCompleteLease lease now
  maxAttempts := 32

/-! ## The bootstrap claim

JavaScript times are numbers; `add` is their addition, with its rounding. -/

/-- What `acquire` returns: the record, and whether it is completed or held by another worker. -/
structure BootstrapClaim (τ : Type*) where
  record : LeaseRecord τ
  complete : Bool := false
  held : Bool := false
  deriving DecidableEq

/-- A call of `acquire` or `complete`. -/
inductive ClaimCall (τ : Type*) where
  | acquire (workId workerId : String) (now duration : τ)
  | complete (claim : BootstrapClaim τ) (now : τ)

/-- A claim, the return of `complete`, or a thrown error. -/
inductive ClaimResult (τ : Type*) where
  | claim (claim : BootstrapClaim τ)
  | completed
  | error (text : String)
  deriving DecidableEq

section Claim

variable {τ : Type*} [LinearOrder τ] [Zero τ] (add : τ → τ → τ)

/-- An attempt of `acquire`. -/
def claimAcquire (workId workerId : String) (now duration : τ) :
    Option (LeaseRecord τ) → Decision (ClaimCall τ) (LeaseRecord τ) (ClaimResult τ) :=
  fun entry =>
    if workerId = "" || duration ≤ 0 then
      .finish (.error "worker ID, current time, and positive claim duration are required")
    else if workId = "" then
      .finish (.error "bootstrap claim prefix and work ID are required")
    else
      match entry with
      | none =>
        let record : LeaseRecord τ :=
          { owner := workerId, token := 1, attempts := 1, leaseUntil := add now duration,
            completed := false, completedAt := 0 }
        .write (.acquire workId workerId now duration) record (.claim { record := record })
      | some record =>
        if record.completed then .finish (.claim { record := record, complete := true })
        else if now < record.leaseUntil then .finish (.claim { record := record, held := true })
        else
          let record := { record with owner := workerId, token := record.token + 1,
                                      attempts := record.attempts + 1,
                                      leaseUntil := add now duration }
          .write (.acquire workId workerId now duration) record (.claim { record := record })

/-- An attempt of `complete`. -/
def claimComplete (claim : BootstrapClaim τ) (now : τ) :
    Option (LeaseRecord τ) → Decision (ClaimCall τ) (LeaseRecord τ) (ClaimResult τ) :=
  fun entry =>
    match entry with
    | none => .finish (.error "bootstrap claim was lost")
    | some record =>
      if record.completed then .finish .completed
      else if record.owner ≠ claim.record.owner || record.token ≠ claim.record.token ||
          record.leaseUntil ≤ now then .finish (.error "bootstrap claim was lost")
      else
        let record := { record with completed := true, completedAt := now, leaseUntil := 0 }
        .write (.complete claim now) record .completed

/-- The operations of the bootstrap claim. -/
def claimLoop : Loop (ClaimCall τ) (LeaseRecord τ) (ClaimResult τ) where
  decide
    | .acquire workId workerId now duration => claimAcquire add workId workerId now duration
    | .complete claim now => claimComplete claim now
  maxAttempts := 32

end Claim

/-! ## What an attempt writes -/

/-- The document is a new claim of a worker, in place of none or of an expired one. -/
structure LeaseRecord.Claims {τ : Type*} [LinearOrder τ] (value : LeaseRecord τ)
    (current : Option (LeaseRecord τ)) (worker : String) (now : τ) : Prop where
  owner : value.owner = worker
  completed : value.completed = false
  first : current = none → value.token = 1 ∧ value.attempts = 1
  next : ∀ record, current = some record → record.completed = false ∧ record.leaseUntil ≤ now ∧
    value.token = record.token + 1 ∧ value.attempts = record.attempts + 1

/-- The cases in which `Acquire` writes. -/
lemma kvAcquireLease_write {workId workerId : String} {now : Time} {duration : Duration}
    {current : Option (LeaseRecord ℤ)} {next : LeaseCall} {value : LeaseRecord ℤ}
    {result : LeaseResult}
    (h : kvAcquireLease workId workerId now duration current = .write next value result) :
    next = .acquire workId workerId now duration ∧ result = .acquired (value.lease workId) ∧
      value.leaseUntil = wrapInt64 (unixMilli now + duration.milliseconds) ∧
      value.Claims current workerId (unixMilli now) := by
  unfold kvAcquireLease at h
  dsimp only at h
  split_ifs at h
  cases current with
  | none =>
    cases h
    exact ⟨rfl, rfl, rfl, rfl, rfl, fun _ => ⟨rfl, rfl⟩, by simp⟩
  | some record =>
    dsimp only at h
    split_ifs at h with _ hcompleted hheld
    cases h
    refine ⟨rfl, rfl, rfl, rfl, Bool.eq_false_iff.mpr hcompleted, by simp, ?_⟩
    rintro _ ⟨⟩
    exact ⟨Bool.eq_false_iff.mpr hcompleted, not_lt.mp hheld, rfl, rfl⟩

/-- A claim that is not lost is the one that is stored. -/
lemma LeaseRecord.lost_eq_false {record : LeaseRecord ℤ} {lease : Lease} {now : ℤ} :
    record.lost lease now = false ↔
      record.owner = lease.workerId ∧ record.token = lease.token ∧ now < record.leaseUntil := by
  simp [LeaseRecord.lost, and_assoc]

/-- The cases in which `Renew` writes. -/
lemma kvRenewLease_write {lease : Lease} {now : Time} {duration : Duration}
    {current : Option (LeaseRecord ℤ)} {next : LeaseCall} {value : LeaseRecord ℤ}
    {result : LeaseResult}
    (h : kvRenewLease lease now duration current = .write next value result) :
    next = .renew lease now duration ∧ result = .acquired (value.lease lease.workId) ∧
      ∃ record, current = some record ∧ record.completed = false ∧
        record.lost lease (unixMilli now) = false ∧
        value = { record with leaseUntil := wrapInt64 (unixMilli now + duration.milliseconds) } := by
  unfold kvRenewLease at h
  dsimp only at h
  split_ifs at h
  cases current with
  | none => cases h
  | some record =>
    dsimp only at h
    split_ifs at h with _ hcompleted hlost
    cases h
    exact ⟨rfl, rfl, record, rfl, Bool.eq_false_iff.mpr hcompleted, Bool.eq_false_iff.mpr hlost,
      rfl⟩

/-- The cases in which `Complete` writes. -/
lemma kvCompleteLease_write {lease : Lease} {now : Time}
    {current : Option (LeaseRecord ℤ)} {next : LeaseCall} {value : LeaseRecord ℤ}
    {result : LeaseResult} (h : kvCompleteLease lease now current = .write next value result) :
    next = .complete lease now ∧ result = .completed ∧
      ∃ record, current = some record ∧ record.completed = false ∧
        record.lost lease (unixMilli now) = false ∧
        value = { record with completed := true, completedAt := unixMilli now, leaseUntil := 0 } := by
  unfold kvCompleteLease at h
  dsimp only at h
  split_ifs at h
  cases current with
  | none => cases h
  | some record =>
    dsimp only at h
    split_ifs at h with _ hcompleted hlost
    cases h
    exact ⟨rfl, rfl, record, rfl, Bool.eq_false_iff.mpr hcompleted, Bool.eq_false_iff.mpr hlost,
      rfl⟩

/-- An attempt of `KVLeaseStore` that is refused goes on with the same call. -/
lemma kvLeaseLoop_next {call next : LeaseCall} {current : Option (LeaseRecord ℤ)}
    {value : LeaseRecord ℤ} {result : LeaseResult}
    (h : kvLeaseLoop.decide call current = .write next value result) : next = call := by
  cases call with
  | acquire => exact (kvAcquireLease_write h).1
  | renew => exact (kvRenewLease_write h).1
  | complete => exact (kvCompleteLease_write h).1

section Claim

variable {τ : Type*} [LinearOrder τ] [Zero τ] {add : τ → τ → τ} {current : Option (LeaseRecord τ)}
  {next : ClaimCall τ} {value : LeaseRecord τ} {result : ClaimResult τ} {now : τ}

/-- The cases in which `acquire` writes. -/
lemma claimAcquire_write {workId workerId : String} {duration : τ}
    (h : claimAcquire add workId workerId now duration current = .write next value result) :
    next = .acquire workId workerId now duration ∧ result = .claim { record := value } ∧
      value.leaseUntil = add now duration ∧ value.Claims current workerId now := by
  unfold claimAcquire at h
  dsimp only at h
  split_ifs at h
  cases current with
  | none =>
    cases h
    exact ⟨rfl, rfl, rfl, rfl, rfl, fun _ => ⟨rfl, rfl⟩, by simp⟩
  | some record =>
    dsimp only at h
    split_ifs at h with hcompleted hheld
    cases h
    refine ⟨rfl, rfl, rfl, rfl, Bool.eq_false_iff.mpr hcompleted, by simp, ?_⟩
    rintro _ ⟨⟩
    exact ⟨Bool.eq_false_iff.mpr hcompleted, not_lt.mp hheld, rfl, rfl⟩

/-- The cases in which `complete` writes. -/
lemma claimComplete_write {claim : BootstrapClaim τ}
    (h : claimComplete claim now current = .write next value result) :
    next = .complete claim now ∧ result = .completed ∧
      ∃ record, current = some record ∧ record.completed = false ∧
        record.owner = claim.record.owner ∧ record.token = claim.record.token ∧
        now < record.leaseUntil ∧
        value = { record with completed := true, completedAt := now, leaseUntil := 0 } := by
  unfold claimComplete at h
  cases current with
  | none => cases h
  | some record =>
    dsimp only at h
    split_ifs at h with hcompleted hlost
    cases h
    simp only [ne_eq, decide_not, Bool.or_eq_true, Bool.not_eq_eq_eq_not, Bool.not_true,
      decide_eq_false_iff_not, decide_eq_true_eq, not_or, Decidable.not_not, not_le] at hlost
    exact ⟨rfl, rfl, record, rfl, Bool.eq_false_iff.mpr hcompleted, hlost.1.1, hlost.1.2, hlost.2,
      rfl⟩

end Claim

end Boutique
