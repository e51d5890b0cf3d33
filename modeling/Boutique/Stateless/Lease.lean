import Boutique.Common.Message
import Boutique.Lib.LuaNumber

/-!
# Work leases

`RedisLeaseStore` of `shared/stateless/go/lease.go`: an expiring claim on a work item, kept in one
Redis hash for each work ID.  The Lua scripts are functions on that hash.  They compute with doubles,
so a millisecond time beyond `2 ^ 53` is rounded (`luaInt`); what they store is read back as the same
double.  Tokens and attempts are counters of acquisitions.
-/

namespace Boutique

/-- `time.Duration.Milliseconds`: whole milliseconds, truncated towards zero. -/
def Duration.milliseconds (d : Duration) : ℤ := d.nanos.tdiv 1000000

/-- `time.UnixMilli`. -/
def timeOfUnixMilli (millis : ℤ) : Time := unixEpoch + millis * 1000000

/-- The hash behind a lease key; the default is the hash of an absent key. -/
structure LeaseHash where
  owner : Option String := none
  token : ℕ := 0
  attempts : ℕ := 0
  leaseUntil : ℤ := 0
  completed : Bool := false
  completedAt : ℤ := 0
  deriving DecidableEq

/-- `stateless.Lease`. -/
structure Lease where
  workId : String
  workerId : String
  token : ℕ
  attempts : ℕ
  leaseUntil : Time := .zero
  completed : Bool := false
  deriving DecidableEq

/-- What the lease operations return: a claim, `nil` after completion, `LeaseHeldError`,
`ErrLeaseLost`, `ErrLeaseComplete` (for `Acquire` with the claim that was completed), or an error
about the arguments or the stored record. -/
inductive LeaseResult where
  | acquired (lease : Lease)
  | completed
  | heldError (owner : String) (leaseUntil : Time)
  | lostError
  | completeError (lease : Option Lease)
  | invalid (text : String)
  deriving DecidableEq

/-- The first number of a reply of `acquireLeaseScript`. -/
inductive LeaseStatus where
  | granted | held | complete
  deriving DecidableEq

/-- A reply of `acquireLeaseScript`. -/
structure LeaseReply where
  status : LeaseStatus
  token : ℕ
  leaseUntil : ℤ
  attempts : ℕ
  owner : String
  deriving DecidableEq

/-- `acquireLeaseScript`. -/
def acquireLeaseScript (hash : LeaseHash) (owner : String) (now duration : ℤ) :
    LeaseHash × LeaseReply :=
  if hash.completed then
    (hash, { status := .complete, token := hash.token, leaseUntil := 0, attempts := hash.attempts,
             owner := hash.owner.getD "" })
  else if luaInt now < hash.leaseUntil then
    (hash, { status := .held, token := hash.token, leaseUntil := hash.leaseUntil,
             attempts := hash.attempts, owner := hash.owner.getD "" })
  else
    let token := hash.token + 1
    let attempts := hash.attempts + 1
    let nextUntil := luaInt (luaInt now + luaInt duration)
    ({ hash with owner := some owner, token := token, attempts := attempts,
                 leaseUntil := nextUntil, completed := false },
      { status := .granted, token := token, leaseUntil := nextUntil, attempts := attempts,
        owner := owner })

/-- The test with which `renewLeaseScript` and `completeLeaseScript` refuse a claim. -/
def LeaseHash.lost (hash : LeaseHash) (owner : String) (token : ℕ) (now : ℤ) : Bool :=
  hash.owner ≠ some owner || hash.token ≠ token || hash.leaseUntil ≤ luaInt now

/-- `renewLeaseScript`: `2` for completed work, `1` for a lost claim, else the new expiry. -/
def renewLeaseScript (hash : LeaseHash) (owner : String) (token : ℕ) (now duration : ℤ) :
    LeaseHash × ℤ :=
  if hash.completed then (hash, 2)
  else if hash.lost owner token now then (hash, 1)
  else
    let nextUntil := luaInt (luaInt now + luaInt duration)
    ({ hash with leaseUntil := nextUntil }, nextUntil)

/-- `completeLeaseScript`: `2` for completed work, `1` for a lost claim, else `0`. -/
def completeLeaseScript (hash : LeaseHash) (owner : String) (token : ℕ) (now : ℤ) :
    LeaseHash × ℤ :=
  if hash.completed then (hash, 2)
  else if hash.lost owner token now then (hash, 1)
  else ({ hash with completed := true, completedAt := now, leaseUntil := 0 }, 0)

/-- The expiry of a `Lease`: the zero time for a number of milliseconds that is not positive. -/
def leaseTime (millis : ℤ) : Time := if 0 < millis then timeOfUnixMilli millis else .zero

/-- `parseLeaseResponse`. -/
def parseLeaseResponse (workId : String) (reply : LeaseReply) : Lease where
  workId := workId
  workerId := reply.owner
  token := reply.token
  attempts := reply.attempts
  leaseUntil := leaseTime reply.leaseUntil
  completed := reply.status = .complete

/-- What `Acquire` returns for a reply. -/
def acquireResult (workId : String) (reply : LeaseReply) : LeaseResult :=
  let lease := parseLeaseResponse workId reply
  match reply.status with
  | .granted => .acquired lease
  | .held => .heldError lease.workerId lease.leaseUntil
  | .complete => .completeError (some lease)

/-- `RedisLeaseStore.Acquire` on the hash of its work item. -/
def acquireLease (hash : LeaseHash) (workId workerId : String) (now : Time) (duration : Duration) :
    LeaseHash × LeaseResult :=
  if isBlank workerId || now = 0 || duration.nanos ≤ 0 then
    (hash, .invalid "worker ID, current time, and positive lease duration are required")
  else if isBlank workId then (hash, .invalid "work ID is required")
  else
    let (hash, reply) := acquireLeaseScript hash workerId (unixMilli now) duration.milliseconds
    (hash, acquireResult workId reply)

/-- `RedisLeaseStore.Renew` on the hash of its work item. -/
def renewLease (hash : LeaseHash) (lease : Lease) (now : Time) (duration : Duration) :
    LeaseHash × LeaseResult :=
  if lease.token = 0 || now = 0 || duration.nanos ≤ 0 then
    (hash, .invalid "valid lease, current time, and positive duration are required")
  else if isBlank lease.workId then (hash, .invalid "work ID is required")
  else
    let (hash, value) :=
      renewLeaseScript hash lease.workerId lease.token (unixMilli now) duration.milliseconds
    if value = 1 then (hash, .lostError)
    else if value = 2 then (hash, .completeError none)
    else (hash, .acquired { lease with leaseUntil := timeOfUnixMilli value })

/-- `RedisLeaseStore.Complete` on the hash of its work item. -/
def completeLease (hash : LeaseHash) (lease : Lease) (now : Time) : LeaseHash × LeaseResult :=
  if lease.token = 0 || now = 0 then
    (hash, .invalid "valid lease and completion time are required")
  else if isBlank lease.workId then (hash, .invalid "work ID is required")
  else
    let (hash, status) := completeLeaseScript hash lease.workerId lease.token (unixMilli now)
    if status = 0 then (hash, .completed)
    else if status = 1 then (hash, .lostError)
    else (hash, .completeError none)

/-- A call of a lease store. -/
inductive LeaseCall where
  | acquire (workId workerId : String) (now : Time) (duration : Duration)
  | renew (lease : Lease) (now : Time) (duration : Duration)
  | complete (lease : Lease) (now : Time)

/-- A call of `RedisLeaseStore` on the hash of its work item. -/
def redisLeaseCall (hash : LeaseHash) : LeaseCall → LeaseHash × LeaseResult
  | .acquire workId workerId now duration => acquireLease hash workId workerId now duration
  | .renew lease now duration => renewLease hash lease now duration
  | .complete lease now => completeLease hash lease now

/-- Acquiring a lease completes nothing, and reports completion only of a completed one. -/
lemma acquireLease_completed {hash hash' : LeaseHash} {workId workerId : String} {now : Time}
    {duration : Duration} {result : LeaseResult}
    (h : acquireLease hash workId workerId now duration = (hash', result)) :
    hash'.completed = hash.completed ∧
      (∀ lease, result = .completeError lease → hash.completed = true) ∧
      (∀ lease, result = .acquired lease → lease.workId = workId) := by
  unfold acquireLease at h
  split_ifs at h
  · cases h
    simp
  · cases h
    simp
  · unfold acquireLeaseScript at h
    by_cases hc : hash.completed = true
    · simp only [hc, if_true, Prod.mk.injEq] at h
      obtain ⟨rfl, rfl⟩ := h
      simp [hc, acquireResult]
    · simp only [hc, if_false, Bool.false_eq_true] at h
      split_ifs at h
      · cases h
        simp [acquireResult]
      · cases h
        simp only [acquireResult, parseLeaseResponse, LeaseResult.acquired.injEq, reduceCtorEq,
          IsEmpty.forall_iff, implies_true, true_and]
        refine ⟨(Bool.eq_false_iff.mpr hc).symm, ?_⟩
        rintro lease rfl
        rfl

end Boutique
