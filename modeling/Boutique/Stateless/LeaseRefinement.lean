import Boutique.Stateless.LeaseLoops
import Boutique.Lib.CasLinear

/-!
# Leases in a bucket behave as leases in Redis

Calls of `KVLeaseStore` and of the bootstrap claim, on the same document, are atomic: put in the order
in which they are settled, they return what `RedisLeaseStore` returns for the same calls one after
the other.  A step of the proof compares one call on a document with the call on the hash that has
the same fields.
-/

namespace Boutique

open CasLoop

/-! ## Calls on the shared document -/

/-- A call of `KVLeaseStore` or of the bootstrap claim. -/
inductive SharedCall where
  | go (call : LeaseCall)
  | node (call : ClaimCall ℤ)

/-- What a call returns. -/
inductive SharedResult where
  | go (result : LeaseResult)
  | node (result : ClaimResult ℤ)
  deriving DecidableEq

/-- The decision of an attempt, seen from a larger type of calls. -/
def embedDecision {ι ι' V ρ ρ' : Type*} (f : ι → ι') (g : ρ → ρ') :
    Decision ι V ρ → Decision ι' V ρ'
  | .finish result => .finish (g result)
  | .write input value result => .write (f input) value (g result)

/-- The operations of both implementations on one document. -/
def sharedLeaseLoop : Loop SharedCall (LeaseRecord ℤ) SharedResult where
  decide
    | .go call => fun current => embedDecision .go .go (kvLeaseLoop.decide call current)
    | .node call => fun current =>
      embedDecision .node .node ((claimLoop (· + ·)).decide call current)
  maxAttempts := 32

/-! ## The same calls in Redis -/

/-- The claim that `acquire` of the bootstrap claim makes of a reply of `acquireLeaseScript` and the
hash that the script leaves. -/
def claimOfReply (hash : LeaseHash) (reply : LeaseReply) : BootstrapClaim ℤ where
  record := { owner := reply.owner, token := reply.token, attempts := reply.attempts,
              leaseUntil := hash.leaseUntil, completed := hash.completed,
              completedAt := hash.completedAt }
  complete := reply.status = .complete
  held := reply.status = .held

/-- `acquire` of the bootstrap claim, by `acquireLeaseScript`. -/
def redisClaimAcquire (hash : LeaseHash) (workId workerId : String) (now duration : ℤ) :
    LeaseHash × ClaimResult ℤ :=
  if workerId = "" || duration ≤ 0 then
    (hash, .error "worker ID, current time, and positive claim duration are required")
  else if workId = "" then (hash, .error "bootstrap claim prefix and work ID are required")
  else
    let (hash, reply) := acquireLeaseScript hash workerId now duration
    (hash, .claim (claimOfReply hash reply))

/-- `complete` of the bootstrap claim, by `completeLeaseScript`: completed work is a success. -/
def redisClaimComplete (hash : LeaseHash) (claim : BootstrapClaim ℤ) (now : ℤ) :
    LeaseHash × ClaimResult ℤ :=
  let (hash, status) := completeLeaseScript hash claim.record.owner claim.record.token now
  if status = 1 then (hash, .error "bootstrap claim was lost") else (hash, .completed)

/-- A call in Redis. -/
def redisSharedCall (hash : LeaseHash) : SharedCall → LeaseHash × SharedResult
  | .go call => Prod.map id .go (redisLeaseCall hash call)
  | .node (.acquire workId workerId now duration) =>
    Prod.map id .node (redisClaimAcquire hash workId workerId now duration)
  | .node (.complete claim now) => Prod.map id .node (redisClaimComplete hash claim now)

/-- Calls in Redis one after the other: the hash they leave, and their results. -/
def redisSharedRun (calls : List SharedCall) : LeaseHash × List SharedResult :=
  calls.foldl (fun s call => Prod.map id (fun result => s.2 ++ [result]) (redisSharedCall s.1 call))
    ({}, [])

/-- The hash with the fields of a document. -/
def LeaseRecord.hash : Option (LeaseRecord ℤ) → LeaseHash
  | none => {}
  | some record =>
    { owner := some record.owner, token := record.token, attempts := record.attempts,
      leaseUntil := record.leaseUntil, completed := record.completed,
      completedAt := record.completedAt }

/-! ## Times that both stores represent -/

/-- The times of a call: positive, and an expiry between `2` and `2 ^ 53`. -/
def LeaseCall.InRange : LeaseCall → Prop
  | .acquire _ _ now duration | .renew _ now duration =>
    0 < unixMilli now ∧ 2 < unixMilli now + duration.milliseconds ∧
      unixMilli now + duration.milliseconds < 2 ^ 53
  | .complete _ now => 0 < unixMilli now

/-- The times of a call of the bootstrap claim. -/
def ClaimCall.InRange : ClaimCall ℤ → Prop
  | .acquire _ _ now duration => 0 < now ∧ 2 < now + duration ∧ now + duration < 2 ^ 53
  | .complete _ now => 0 < now

/-- The times of a call of either implementation. -/
def SharedCall.InRange : SharedCall → Prop
  | .go call => call.InRange
  | .node call => call.InRange

/-- The lease that a result carries. -/
def SharedResult.lease : SharedResult → Option Lease
  | .go (.acquired lease) => some lease
  | .go (.completeError lease) => lease
  | _ => none

/-- The lease that a call renews. -/
def SharedCall.renews : SharedCall → Option Lease
  | .go (.renew lease _ _) => some lease
  | _ => none

/-- An expiry in the range is not wrapped. -/
lemma wrapInt64_of_inRange {x : ℤ} (hlower : 2 < x) (hupper : x < 2 ^ 53) : wrapInt64 x = x := by
  rw [wrapInt64, Int.bmod_eq_of_le] <;> omega

/-- A script compares an expiry in the range with a positive time as they are. -/
lemma le_luaInt_iff {now expiry : ℤ} (hnow : 0 < now) (hexpiry : expiry < 2 ^ 53) :
    expiry ≤ luaInt now ↔ expiry ≤ now := by
  rcases le_or_gt now.natAbs (2 ^ 53) with hle | hgt
  · rw [luaInt_of_le hle]
  · -- both times are later than every expiry
    have hlua : 2 ^ 53 ≤ luaInt now := by
      have hmono := luaNumber_mono hgt.le
      have hbound : luaNumber (2 ^ 53) = 2 ^ 53 := by decide
      rw [hbound] at hmono
      rw [luaInt, Int.sign_eq_one_of_pos hnow, one_mul]
      exact_mod_cast hmono
    constructor
    · intro _
      omega
    · intro _
      omega

/-- The scripts add times in the range exactly. -/
lemma luaInt_add {now duration : ℤ} (hnow : 0 < now) (hduration : 0 ≤ duration)
    (hupper : now + duration < 2 ^ 53) : luaInt (luaInt now + luaInt duration) = now + duration := by
  rw [luaInt_of_le (n := now) (by omega), luaInt_of_le (n := duration) (by omega),
    luaInt_of_le (by omega)]

/-- A positive duration has a number of milliseconds that is not negative. -/
lemma Duration.milliseconds_nonneg {d : Duration} (h : ¬ d.nanos ≤ 0) : 0 ≤ d.milliseconds :=
  Int.tdiv_nonneg (by omega) (by decide)

/-! ## One call -/

/-- What both stores keep true of a document. -/
structure LeaseRecord.Sound (record : LeaseRecord ℤ) : Prop where
  token : 0 < record.token
  attempts : record.attempts = record.token
  expiry : record.leaseUntil < 2 ^ 53
  completed : record.completed = true → record.leaseUntil = 0

/-- A sound document is complete. -/
lemma LeaseRecord.Sound.incomplete {record : LeaseRecord ℤ} (h : record.Sound) :
    record.incomplete = false := by
  have htoken := h.token
  have hattempts := h.attempts
  simp only [LeaseRecord.incomplete, Bool.or_eq_false_iff, decide_eq_false_iff_not]
  omega

/-- Both stores refuse the same claims. -/
lemma LeaseRecord.Sound.lost_hash {record : LeaseRecord ℤ} (h : record.Sound) {owner : String}
    {token : ℕ} {now : ℤ} (hnow : 0 < now) :
    (LeaseRecord.hash (some record)).lost owner token now =
      (record.owner ≠ owner || record.token ≠ token || record.leaseUntil ≤ now) := by
  have hexpiry := le_luaInt_iff hnow h.expiry
  change (decide (some record.owner ≠ some owner) || decide (record.token ≠ token) ||
    decide (record.leaseUntil ≤ luaInt now)) = _
  simp [hexpiry]

section Calls

variable {value : Option (LeaseRecord ℤ)}

/-- `acquireLeaseScript` on an absent key. -/
lemma acquireLeaseScript_none {owner : String} {now duration : ℤ} (hnow : 0 < now)
    (hduration : 0 ≤ duration) (hupper : now + duration < 2 ^ 53) :
    acquireLeaseScript (LeaseRecord.hash none) owner now duration =
      (LeaseRecord.hash (some { owner := owner, token := 1, attempts := 1,
                                leaseUntil := now + duration, completed := false, completedAt := 0 }),
        { status := .granted, token := 1, leaseUntil := now + duration, attempts := 1,
          owner := owner }) := by
  have hheld : ¬ luaInt now < 0 := by
    rw [luaInt_of_le (by omega)]
    omega
  simp [acquireLeaseScript, LeaseRecord.hash, hheld, luaInt_add hnow hduration hupper]

/-- `acquireLeaseScript` on a document. -/
lemma acquireLeaseScript_some {record : LeaseRecord ℤ} (h : record.Sound) {owner : String}
    {now duration : ℤ} (hnow : 0 < now) (hduration : 0 ≤ duration)
    (hupper : now + duration < 2 ^ 53) :
    acquireLeaseScript (LeaseRecord.hash (some record)) owner now duration =
      if record.completed then
        (LeaseRecord.hash (some record),
          { status := .complete, token := record.token, leaseUntil := 0,
            attempts := record.attempts, owner := record.owner })
      else if now < record.leaseUntil then
        (LeaseRecord.hash (some record),
          { status := .held, token := record.token, leaseUntil := record.leaseUntil,
            attempts := record.attempts, owner := record.owner })
      else
        (LeaseRecord.hash (some { record with owner := owner, token := record.token + 1,
                                              attempts := record.attempts + 1,
                                              leaseUntil := now + duration }),
          { status := .granted, token := record.token + 1, leaseUntil := now + duration,
            attempts := record.attempts + 1, owner := owner }) := by
  unfold acquireLeaseScript
  by_cases hcompleted : record.completed = true
  · simp [LeaseRecord.hash, hcompleted]
  · have hheld : luaInt now < record.leaseUntil ↔ now < record.leaseUntil := by
      rw [← not_le, ← not_le, le_luaInt_iff hnow h.expiry]
    by_cases hlt : now < record.leaseUntil
    · simp [LeaseRecord.hash, hcompleted, hheld, hlt]
    · simp [LeaseRecord.hash, hcompleted, hheld, hlt, luaInt_add hnow hduration hupper]

/-- `Acquire` in both stores. -/
lemma redis_acquireLease (hvalue : ∀ record, value = some record → record.Sound)
    {workId workerId : String} {now : Time} {duration : Duration}
    (hrange : (LeaseCall.acquire workId workerId now duration).InRange) :
    acquireLease (LeaseRecord.hash value) workId workerId now duration =
      Prod.map LeaseRecord.hash id
        (kvLeaseLoop.apply value (.acquire workId workerId now duration)) := by
  obtain ⟨hnow, hlower, hupper⟩ := hrange
  simp only [acquireLease, Loop.apply, kvLeaseLoop, kvAcquireLease]
  by_cases hargs : (isBlank workerId || decide (now = 0) || decide (duration.nanos ≤ 0)) = true
  · rw [if_pos hargs, if_pos hargs]
    rfl
  rw [if_neg hargs, if_neg hargs]
  by_cases hwork : isBlank workId = true
  · rw [if_pos hwork, if_pos hwork]
    rfl
  rw [if_neg hwork, if_neg hwork]
  have hduration : 0 ≤ duration.milliseconds := by
    refine Duration.milliseconds_nonneg fun hle => hargs ?_
    rw [Bool.or_eq_true, decide_eq_true hle]
    exact .inr rfl
  cases value with
  | none =>
    rw [acquireLeaseScript_none hnow hduration hupper]
    simp [acquireResult, parseLeaseResponse, LeaseRecord.lease, wrapInt64_of_inRange hlower hupper]
  | some record =>
    have hsound := hvalue record rfl
    rw [acquireLeaseScript_some hsound hnow hduration hupper]
    simp only [hsound.incomplete, Bool.false_eq_true, if_false]
    by_cases hcompleted : record.completed = true
    · simp [hcompleted, acquireResult, parseLeaseResponse, LeaseRecord.lease,
        hsound.completed hcompleted]
    · by_cases hheld : unixMilli now < record.leaseUntil
      · simp [hcompleted, hheld, acquireResult, parseLeaseResponse]
      · simp [hcompleted, hheld, acquireResult, parseLeaseResponse, LeaseRecord.lease,
          wrapInt64_of_inRange hlower hupper]

/-- `Renew` in both stores.  The lease has been returned by an earlier call, so its attempts are
those of its token, and it is completed only if the document is. -/
lemma redis_renewLease (hvalue : ∀ record, value = some record → record.Sound) {lease : Lease}
    {now : Time} {duration : Duration} (hrange : (LeaseCall.renew lease now duration).InRange)
    (hattempts : lease.attempts = lease.token)
    (hcompleted : lease.completed = true → ∃ record, value = some record ∧ record.completed = true) :
    renewLease (LeaseRecord.hash value) lease now duration =
      Prod.map LeaseRecord.hash id (kvLeaseLoop.apply value (.renew lease now duration)) := by
  obtain ⟨hnow, hlower, hupper⟩ := hrange
  simp only [renewLease, Loop.apply, kvLeaseLoop, kvRenewLease]
  by_cases hargs : (decide (lease.token = 0) || decide (now = 0) ||
      decide (duration.nanos ≤ 0)) = true
  · rw [if_pos hargs, if_pos hargs]
    rfl
  rw [if_neg hargs, if_neg hargs]
  by_cases hwork : isBlank lease.workId = true
  · rw [if_pos hwork, if_pos hwork]
    rfl
  rw [if_neg hwork, if_neg hwork]
  have hduration : 0 ≤ duration.milliseconds := by
    refine Duration.milliseconds_nonneg fun hle => hargs ?_
    rw [Bool.or_eq_true, decide_eq_true hle]
    exact .inr rfl
  have hsum := luaInt_add hnow hduration hupper
  cases value with
  | none => simp [renewLeaseScript, LeaseRecord.hash, LeaseHash.lost]
  | some record =>
    have hsound := hvalue record rfl
    have hlost : (LeaseRecord.hash (some record)).lost lease.workerId lease.token (unixMilli now) =
        record.lost lease (unixMilli now) := hsound.lost_hash hnow
    unfold renewLeaseScript
    rw [hlost, hsum]
    simp only [hsound.incomplete, Bool.false_eq_true, if_false]
    by_cases hdone : record.completed = true
    · simp [LeaseRecord.hash, hdone]
    by_cases hrefused : record.lost lease (unixMilli now) = true
    · simp [LeaseRecord.hash, hdone, hrefused]
    · obtain ⟨howner, htoken, -⟩ := LeaseRecord.lost_eq_false.mp (Bool.eq_false_iff.mpr hrefused)
      have hopen : lease.completed = false := by
        refine Bool.eq_false_iff.mpr fun hc => ?_
        obtain ⟨_, ⟨⟩, hr⟩ := hcompleted hc
        exact hdone hr
      have hone : unixMilli now + duration.milliseconds ≠ 1 := by omega
      have htwo : unixMilli now + duration.milliseconds ≠ 2 := by omega
      have hpos : 0 < unixMilli now + duration.milliseconds := by omega
      simp [LeaseRecord.hash, hdone, hrefused, hone, htwo, LeaseRecord.lease, leaseTime, hpos,
        wrapInt64_of_inRange hlower hupper, howner, htoken, hopen, hsound.attempts, hattempts]

/-- `Complete` in both stores. -/
lemma redis_completeLease (hvalue : ∀ record, value = some record → record.Sound) {lease : Lease}
    {now : Time} (hrange : (LeaseCall.complete lease now).InRange) :
    completeLease (LeaseRecord.hash value) lease now =
      Prod.map LeaseRecord.hash id (kvLeaseLoop.apply value (.complete lease now)) := by
  simp only [completeLease, Loop.apply, kvLeaseLoop, kvCompleteLease]
  by_cases hargs : (decide (lease.token = 0) || decide (now = 0)) = true
  · rw [if_pos hargs, if_pos hargs]
    rfl
  rw [if_neg hargs, if_neg hargs]
  by_cases hwork : isBlank lease.workId = true
  · rw [if_pos hwork, if_pos hwork]
    rfl
  rw [if_neg hwork, if_neg hwork]
  cases value with
  | none => simp [completeLeaseScript, LeaseRecord.hash, LeaseHash.lost]
  | some record =>
    have hsound := hvalue record rfl
    have hlost : (LeaseRecord.hash (some record)).lost lease.workerId lease.token (unixMilli now) =
        record.lost lease (unixMilli now) := hsound.lost_hash hrange
    unfold completeLeaseScript
    rw [hlost]
    simp only [hsound.incomplete, Bool.false_eq_true, if_false]
    by_cases hdone : record.completed = true
    · simp [LeaseRecord.hash, hdone]
    by_cases hrefused : record.lost lease (unixMilli now) = true
    · simp [LeaseRecord.hash, hdone, hrefused]
    · simp [LeaseRecord.hash, hdone, hrefused]

/-- `acquire` of the bootstrap claim on the document and on the hash. -/
lemma redis_claimAcquire (hvalue : ∀ record, value = some record → record.Sound)
    {workId workerId : String} {now duration : ℤ}
    (hrange : (ClaimCall.acquire workId workerId now duration).InRange) :
    redisClaimAcquire (LeaseRecord.hash value) workId workerId now duration =
      Prod.map LeaseRecord.hash id
        ((claimLoop (· + ·)).apply value (.acquire workId workerId now duration)) := by
  obtain ⟨hnow, hlower, hupper⟩ := hrange
  simp only [redisClaimAcquire, Loop.apply, claimLoop, claimAcquire]
  by_cases hargs : (decide (workerId = "") || decide (duration ≤ 0)) = true
  · rw [if_pos hargs, if_pos hargs]
    rfl
  rw [if_neg hargs, if_neg hargs]
  by_cases hwork : workId = ""
  · rw [if_pos hwork, if_pos hwork]
    rfl
  rw [if_neg hwork, if_neg hwork]
  have hduration : 0 ≤ duration := by
    rw [Bool.or_eq_true, decide_eq_true_eq, decide_eq_true_eq, not_or] at hargs
    omega
  cases value with
  | none =>
    rw [acquireLeaseScript_none hnow hduration hupper]
    simp [claimOfReply, LeaseRecord.hash]
  | some record =>
    have hsound := hvalue record rfl
    rw [acquireLeaseScript_some hsound hnow hduration hupper]
    by_cases hcompleted : record.completed = true
    · simp only [if_pos hcompleted]
      rfl
    · by_cases hheld : now < record.leaseUntil
      · simp only [if_neg hcompleted, if_pos hheld]
        rfl
      · simp only [if_neg hcompleted, if_neg hheld]
        rfl

/-- `complete` of the bootstrap claim on the document and on the hash. -/
lemma redis_claimComplete (hvalue : ∀ record, value = some record → record.Sound)
    {claim : BootstrapClaim ℤ} {now : ℤ} (hrange : (ClaimCall.complete claim now).InRange) :
    redisClaimComplete (LeaseRecord.hash value) claim now =
      Prod.map LeaseRecord.hash id ((claimLoop (· + ·)).apply value (.complete claim now)) := by
  simp only [redisClaimComplete, Loop.apply, claimLoop, claimComplete]
  cases value with
  | none => simp [completeLeaseScript, LeaseRecord.hash, LeaseHash.lost]
  | some record =>
    have hsound := hvalue record rfl
    unfold completeLeaseScript
    rw [hsound.lost_hash hrange]
    by_cases hdone : record.completed = true
    · simp [LeaseRecord.hash, hdone]
    by_cases hrefused : (decide (record.owner ≠ claim.record.owner) ||
        decide (record.token ≠ claim.record.token) || decide (record.leaseUntil ≤ now)) = true
    · simp only [LeaseRecord.hash, if_neg hdone, if_pos hrefused]
      rfl
    · simp only [LeaseRecord.hash, if_neg hdone, if_neg hrefused]
      rfl

/-- A call in one step, seen from a larger type of calls. -/
lemma apply_go (call : LeaseCall) :
    sharedLeaseLoop.apply value (.go call) = Prod.map id .go (kvLeaseLoop.apply value call) := by
  simp only [Loop.apply, sharedLeaseLoop]
  cases kvLeaseLoop.decide call value <;> rfl

/-- A call of the bootstrap claim in one step, seen from a larger type of calls. -/
lemma apply_node (call : ClaimCall ℤ) :
    sharedLeaseLoop.apply value (.node call) =
      Prod.map id .node ((claimLoop (· + ·)).apply value call) := by
  simp only [Loop.apply, sharedLeaseLoop]
  cases (claimLoop (· + ·)).decide call value <;> rfl

/-- What is known of a lease that a call returned. -/
structure Lease.Returned (lease : Lease) (value : Option (LeaseRecord ℤ)) : Prop where
  attempts : lease.attempts = lease.token
  completed : lease.completed = true → ∃ record, value = some record ∧ record.completed = true

/-- A call returns the same in both stores, and leaves the same fields. -/
lemma redis_sharedCall (hvalue : ∀ record, value = some record → record.Sound) {call : SharedCall}
    (hrange : call.InRange) (hlease : ∀ lease, call.renews = some lease → lease.Returned value) :
    redisSharedCall (LeaseRecord.hash value) call =
      Prod.map LeaseRecord.hash id (sharedLeaseLoop.apply value call) := by
  cases call with
  | go call =>
    have hcall : redisLeaseCall (LeaseRecord.hash value) call =
        Prod.map LeaseRecord.hash id (kvLeaseLoop.apply value call) := by
      cases call with
      | acquire workId workerId now duration => exact redis_acquireLease hvalue hrange
      | renew lease now duration =>
        have hreturned := hlease lease rfl
        exact redis_renewLease hvalue hrange hreturned.attempts hreturned.completed
      | complete lease now => exact redis_completeLease hvalue hrange
    simp only [redisSharedCall, hcall, apply_go]
    rfl
  | node call =>
    cases call with
    | acquire workId workerId now duration =>
      simp only [redisSharedCall, redis_claimAcquire hvalue hrange, apply_node]
      rfl
    | complete claim now =>
      simp only [redisSharedCall, redis_claimComplete hvalue hrange, apply_node]
      rfl

end Calls

/-! ## What a call keeps -/

/-- What a call in one step leaves. -/
structure SharedStep (value value' : Option (LeaseRecord ℤ)) (result : SharedResult) : Prop where
  sound : ∀ record, value' = some record → record.Sound
  completed : ∀ record, value = some record → record.completed = true → value' = value
  lease : ∀ lease, result.lease = some lease → lease.Returned value'

section Keeps

variable {value : Option (LeaseRecord ℤ)} {record : LeaseRecord ℤ}

/-- A new claim is sound. -/
lemma LeaseRecord.Claims.sound {worker : String} {now : ℤ} (h : record.Claims value worker now)
    (hvalue : ∀ record, value = some record → record.Sound) (hexpiry : record.leaseUntil < 2 ^ 53) :
    record.Sound := by
  have hopen := h.completed
  cases value with
  | none =>
    obtain ⟨htoken, hattempts⟩ := h.first rfl
    exact ⟨by omega, by omega, hexpiry, by simp [hopen]⟩
  | some old =>
    obtain ⟨-, -, htoken, hattempts⟩ := h.next old rfl
    have hold := (hvalue old rfl).attempts
    exact ⟨by omega, by omega, hexpiry, by simp [hopen]⟩

/-- The lease of a sound document. -/
lemma LeaseRecord.Sound.returned (h : record.Sound) (workId : String) :
    (record.lease workId).Returned (some record) :=
  ⟨h.attempts, fun hc => ⟨record, rfl, hc⟩⟩

/-- A write that replaces a document that is not completed. -/
lemma SharedStep.write {result : SharedResult} (hsound : record.Sound)
    (hopen : ∀ old, value = some old → old.completed = false)
    (hresult : ∀ lease, result.lease = some lease → ∃ workId, lease = record.lease workId) :
    SharedStep value (some record) result where
  sound := by
    rintro _ ⟨⟩
    exact hsound
  completed := by
    intro old hold hc
    rw [hopen old hold] at hc
    cases hc
  lease := by
    intro lease hlease
    obtain ⟨workId, rfl⟩ := hresult lease hlease
    exact hsound.returned workId

/-- A call that does not write. -/
lemma SharedStep.finish {result : SharedResult}
    (hvalue : ∀ record, value = some record → record.Sound)
    (hresult : ∀ lease, result.lease = some lease →
      ∃ record workId, value = some record ∧ lease = record.lease workId) :
    SharedStep value value result where
  sound := hvalue
  completed := fun _ _ _ => rfl
  lease := by
    intro lease hlease
    obtain ⟨record, workId, rfl, rfl⟩ := hresult lease hlease
    exact (hvalue record rfl).returned workId

/-- Only `Acquire` returns a lease without writing, that of the document. -/
lemma kvLeaseLoop_finish_lease {call : LeaseCall} {result : LeaseResult} {lease : Lease}
    (h : kvLeaseLoop.decide call value = .finish result)
    (hlease : (SharedResult.go result).lease = some lease) :
    ∃ record workId, value = some record ∧ lease = record.lease workId := by
  cases call with
  | acquire workId workerId now duration =>
    simp only [kvLeaseLoop, kvAcquireLease] at h
    split_ifs at h
    · cases h
      cases hlease
    · cases h
      cases hlease
    · cases value with
      | none => cases h
      | some record =>
        dsimp only at h
        split_ifs at h <;> cases h <;> cases hlease
        exact ⟨record, workId, rfl, rfl⟩
  | renew lease now duration =>
    simp only [kvLeaseLoop, kvRenewLease] at h
    split_ifs at h
    · cases h
      cases hlease
    · cases h
      cases hlease
    · cases value with
      | none =>
        cases h
        cases hlease
      | some record =>
        dsimp only at h
        split_ifs at h <;> cases h <;> cases hlease
  | complete lease now =>
    simp only [kvLeaseLoop, kvCompleteLease] at h
    split_ifs at h
    · cases h
      cases hlease
    · cases h
      cases hlease
    · cases value with
      | none =>
        cases h
        cases hlease
      | some record =>
        dsimp only at h
        split_ifs at h <;> cases h <;> cases hlease

/-- A call of `KVLeaseStore` keeps the document sound. -/
lemma kvLeaseLoop_sharedStep (hvalue : ∀ record, value = some record → record.Sound)
    {call : LeaseCall} (hrange : call.InRange) :
    SharedStep value (kvLeaseLoop.apply value call).1 (.go (kvLeaseLoop.apply value call).2) := by
  cases hdecide : kvLeaseLoop.decide call value with
  | finish result =>
    simp only [Loop.apply, hdecide]
    exact .finish hvalue fun lease hlease => kvLeaseLoop_finish_lease hdecide hlease
  | write next written result =>
    simp only [Loop.apply, hdecide]
    cases call with
    | acquire workId workerId now duration =>
      obtain ⟨-, rfl, hexpiry, hclaims⟩ := kvAcquireLease_write hdecide
      rw [wrapInt64_of_inRange hrange.2.1 hrange.2.2] at hexpiry
      refine .write (hclaims.sound hvalue (hexpiry ▸ hrange.2.2))
        (fun old hold => (hclaims.next old hold).1) ?_
      rintro lease ⟨⟩
      exact ⟨workId, rfl⟩
    | renew lease now duration =>
      obtain ⟨-, rfl, old, rfl, hopen, -, rfl⟩ := kvRenewLease_write hdecide
      have hold := hvalue old rfl
      rw [wrapInt64_of_inRange hrange.2.1 hrange.2.2]
      refine .write ⟨hold.token, hold.attempts, hrange.2.2, fun hc => ?_⟩ ?_ ?_
      · rw [hopen] at hc
        cases hc
      · rintro _ ⟨⟩
        exact hopen
      · rintro renewed ⟨⟩
        exact ⟨lease.workId, rfl⟩
    | complete lease now =>
      obtain ⟨-, rfl, old, rfl, hopen, -, rfl⟩ := kvCompleteLease_write hdecide
      have hold := hvalue old rfl
      refine .write ⟨hold.token, hold.attempts, by norm_num, fun _ => rfl⟩ ?_ ?_
      · rintro _ ⟨⟩
        exact hopen
      · rintro renewed ⟨⟩

/-- A call of the bootstrap claim keeps the document sound. -/
lemma claimLoop_sharedStep (hvalue : ∀ record, value = some record → record.Sound)
    {call : ClaimCall ℤ} (hrange : call.InRange) :
    SharedStep value ((claimLoop (· + ·)).apply value call).1
      (.node ((claimLoop (· + ·)).apply value call).2) := by
  cases hdecide : (claimLoop (· + ·)).decide call value with
  | finish result =>
    simp only [Loop.apply, hdecide]
    exact .finish hvalue fun lease hlease => by cases hlease
  | write next written result =>
    simp only [Loop.apply, hdecide]
    cases call with
    | acquire workId workerId now duration =>
      obtain ⟨-, -, hexpiry, hclaims⟩ := claimAcquire_write hdecide
      exact .write (hclaims.sound hvalue (hexpiry ▸ hrange.2.2))
        (fun old hold => (hclaims.next old hold).1) (fun lease hlease => by cases hlease)
    | complete claim now =>
      obtain ⟨-, -, old, rfl, hopen, -, -, -, rfl⟩ := claimComplete_write hdecide
      have hold := hvalue old rfl
      refine .write ⟨hold.token, hold.attempts, by norm_num, fun _ => rfl⟩ ?_
        (fun lease hlease => by cases hlease)
      rintro _ ⟨⟩
      exact hopen

/-- A call keeps the document sound. -/
lemma sharedLeaseLoop_sharedStep (hvalue : ∀ record, value = some record → record.Sound)
    {call : SharedCall} (hrange : call.InRange) :
    SharedStep value (sharedLeaseLoop.apply value call).1 (sharedLeaseLoop.apply value call).2 := by
  cases call with
  | go call =>
    rw [apply_go]
    exact kvLeaseLoop_sharedStep hvalue hrange
  | node call =>
    rw [apply_node]
    exact claimLoop_sharedStep hvalue hrange

end Keeps

/-! ## All calls -/

section Runs

variable {κ : Type*}

/-- The call has times in the range, and renews a lease that one of the calls before it returned. -/
def Supplies (done : List (κ × SharedCall × SharedResult)) (call : SharedCall) : Prop :=
  call.InRange ∧ ∀ lease, call.renews = some lease → ∃ x ∈ done, x.2.2.lease = some lease

/-- A call of a sequence and the call in Redis. -/
lemma redisSharedRun_concat (calls : List SharedCall) (call : SharedCall) :
    redisSharedRun (calls ++ [call]) =
      Prod.map id (fun result => (redisSharedRun calls).2 ++ [result])
        (redisSharedCall (redisSharedRun calls).1 call) := by
  rw [redisSharedRun, List.foldl_append]
  rfl

/-- Calls one after the other return the same in both stores. -/
lemma redis_sequence {done : List (κ × SharedCall × SharedResult)} {value : Option (LeaseRecord ℤ)}
    (h : Sequence sharedLeaseLoop done value)
    (hcalls : ∀ pre c call result post, done = pre ++ (c, call, result) :: post →
      Supplies pre call) :
    redisSharedRun (done.map fun x => x.2.1) = (LeaseRecord.hash value, done.map fun x => x.2.2) ∧
      (∀ record, value = some record → record.Sound) ∧
      ∀ x ∈ done, ∀ lease, x.2.2.lease = some lease → lease.Returned value := by
  induction h with
  | nil => exact ⟨rfl, by simp, by simp⟩
  | @snoc done value value' c call result hseq happly ih =>
    obtain ⟨hredis, hsound, hleases⟩ := ih fun pre c' call' result' post heq =>
      hcalls pre c' call' result' (post ++ [(c, call, result)]) (by simp [heq])
    obtain ⟨hrange, hrenews⟩ := hcalls done c call result [] rfl
    have hlease : ∀ lease, call.renews = some lease → lease.Returned value := by
      intro lease hl
      obtain ⟨x, hx, hxl⟩ := hrenews lease hl
      exact hleases x hx lease hxl
    have hcall := redis_sharedCall hsound hrange hlease
    have hstep := sharedLeaseLoop_sharedStep hsound hrange
    rw [happly] at hcall hstep
    refine ⟨?_, hstep.sound, fun x hx lease hl => ?_⟩
    · rw [List.map_append, List.map_singleton, redisSharedRun_concat, hredis, hcall,
        List.map_append, List.map_singleton]
      rfl
    · rcases List.mem_append.mp hx with hx | hx
      · have hbefore := hleases x hx lease hl
        refine ⟨hbefore.attempts, fun hc => ?_⟩
        obtain ⟨record, hrecord, hcompleted⟩ := hbefore.completed hc
        exact ⟨record, (hstep.completed record hrecord hcompleted).trans hrecord, hcompleted⟩
      · rw [List.mem_singleton.mp hx] at hl
        exact hstep.lease lease hl

/-- An attempt that is refused goes on with the same call. -/
lemma sharedLeaseLoop_next {call next : SharedCall} {current : Option (LeaseRecord ℤ)}
    {value : LeaseRecord ℤ} {result : SharedResult}
    (h : sharedLeaseLoop.decide call current = .write next value result) : next = call := by
  cases call with
  | go call =>
    simp only [sharedLeaseLoop] at h
    cases hdecide : kvLeaseLoop.decide call current with
    | finish => simp [hdecide, embedDecision] at h
    | write next' value' result' =>
      rw [hdecide] at h
      cases h
      rw [kvLeaseLoop_next hdecide]
  | node call =>
    simp only [sharedLeaseLoop] at h
    cases hdecide : (claimLoop (· + ·)).decide call current with
    | finish => simp [hdecide, embedDecision] at h
    | write next' value' result' =>
      rw [hdecide] at h
      cases h
      cases call with
      | acquire => rw [(claimAcquire_write hdecide).1]
      | complete => rw [(claimComplete_write hdecide).1]

variable [DecidableEq κ] {acts : List (Action κ Unit SharedCall)}
  {s : State κ Unit SharedCall (LeaseRecord ℤ) SharedResult}

/-- The leases in a bucket refine those in Redis.  In every run in which the times are in the range
and only leases are renewed that a call has returned, there is an order of the calls that contains
each call that has returned, with its result, and besides only calls that have written; that puts a
call that returned before another started in front of it; and in which Redis returns the same results
and is left with the fields of the document. -/
theorem kv_leases_refine_redis
    (hrun : StepSystem.run (step sharedLeaseLoop (.plain κ)) {} acts = some s)
    (hrange : ∀ c call, Action.start c call ∈ acts → call.InRange)
    (hleases : StepSystem.Along (step sharedLeaseLoop (.plain κ))
      (fun s a => ∀ c call lease, a = .start c call → call.renews = some lease →
        ∃ d call' result, s.phase d = .returned call' (some result) ∧ result.lease = some lease)
      {} acts) :
    ∃ order : List (κ × SharedCall × SharedResult),
      (order.map Prod.fst).Nodup ∧
      (∀ c call result, s.phase c = .returned call (some result) → (c, call, result) ∈ order) ∧
      (∀ c call result, (c, call, result) ∈ order → .start c call ∈ acts ∧
        (s.phase c = .returned call (some result) ∨ ∃ w ∈ s.log, w.caller = c ∧ w.input = call)) ∧
      (∀ c d, Precedes sharedLeaseLoop acts c d →
        ∃ pre post, order = pre ++ post ∧ c ∈ pre.map Prod.fst ∧ d ∉ pre.map Prod.fst) ∧
      redisSharedRun (order.map fun x => x.2.1) =
        (LeaseRecord.hash (current s.log), order.map fun x => x.2.2) := by
  have hlinear := linear_of_run hrun
  have hstarted : StepSystem.Along (step sharedLeaseLoop (.plain κ))
      (fun _ a => a ∈ acts) {} acts := .of_forall (fun a ha _ => ha) _
  have hsupplied : Supplied (fun done c call => .start c call ∈ acts ∧ Supplies done call) s := by
    refine supplied_of_run (fun done x c call h => ?_) ?_ ((hleases.and hstarted).mono ?_) hrun
    · refine ⟨h.1, h.2.1, fun lease hl => ?_⟩
      obtain ⟨y, hy, hyl⟩ := h.2.2 lease hl
      exact ⟨y, List.mem_append_left _ hy, hyl⟩
    · intro done c call v next value result h hdecide
      rw [sharedLeaseLoop_next hdecide]
      exact h
    · rintro t a ⟨hlease, ha⟩ c call rfl ht
      refine ⟨ha, hrange c call ha, fun lease hl => ?_⟩
      obtain ⟨d, call', result, hd, hresult⟩ := hlease c call lease rfl hl
      exact ⟨_, ht.of_phase hd, hresult⟩
  refine ⟨s.done, hlinear.nodup, fun c call result hc => hlinear.of_phase hc, ?_,
    fun c d => done_of_precedes hrun, ?_⟩
  · intro c call result hmem
    refine ⟨?_, settled_of_run hrun c call result hmem⟩
    obtain ⟨pre, post, hsplit⟩ := List.append_of_mem hmem
    exact (hsupplied.done pre c call result post hsplit).1
  · exact (redis_sequence hlinear.sequence fun pre c call result post heq =>
      (hsupplied.done pre c call result post heq).2).1

/-- Four milliseconds are in the range. -/
lemma fourMillis_lower : -2 ^ 63 ≤ (4000000 : ℤ) := by decide

lemma fourMillis_upper : (4000000 : ℤ) < 2 ^ 63 := by decide

/-- Two workers race for a claim of four milliseconds, and the one that got it renews it. -/
def sampleLeaseRun : List (Action ℕ Unit SharedCall) :=
  let duration : Duration := { nanos := 4000000, lower := fourMillis_lower, upper := fourMillis_upper }
  [.start 0 (.go (.acquire "catalog" "a" (timeOfUnixMilli 5) duration)),
    .start 1 (.node (.acquire "catalog" "b" 6 4)),
    .lookup 0, .lookup 1, .fetch 0, .fetch 1, .write 0, .write 1, .store 0, .invalidate 1,
    .start 2 (.go (.renew ⟨"catalog", "a", 1, 1, timeOfUnixMilli 9, false⟩ (timeOfUnixMilli 7)
      duration)),
    .lookup 2, .fetch 2, .write 2, .store 2, .lookup 1, .fetch 1]

/-- The worker that lost the race finds the claim held until its renewed expiry. -/
theorem raced_lease_refines :
    ∃ s : State ℕ Unit SharedCall (LeaseRecord ℤ) SharedResult,
      StepSystem.run (step sharedLeaseLoop (.plain ℕ)) {} sampleLeaseRun = some s ∧
      s.done.map (fun x => (x.1, x.2.2)) =
        [(0, .go (.acquired ⟨"catalog", "a", 1, 1, timeOfUnixMilli 9, false⟩)),
          (2, .go (.acquired ⟨"catalog", "a", 1, 1, timeOfUnixMilli 11, false⟩)),
          (1, .node (.claim ⟨⟨"a", 1, 1, 11, false, 0⟩, false, true⟩))] ∧
      ∃ order : List (ℕ × SharedCall × SharedResult),
        (∀ c call result, s.phase c = .returned call (some result) → (c, call, result) ∈ order) ∧
        redisSharedRun (order.map fun x => x.2.1) =
          (LeaseRecord.hash (current s.log), order.map fun x => x.2.2) := by
  have hrange : ∀ c call, Action.start c call ∈ sampleLeaseRun → call.InRange := by
    intro c call hmem
    simp only [sampleLeaseRun, List.mem_cons, reduceCtorEq, Action.start.injEq, List.not_mem_nil,
      or_false, false_or] at hmem
    rcases hmem with ⟨-, rfl⟩ | ⟨-, rfl⟩ | ⟨-, rfl⟩
    · exact And.intro (by decide +kernel) (And.intro (by decide +kernel) (by decide +kernel))
    · exact And.intro (by decide) (And.intro (by decide) (by decide))
    · exact And.intro (by decide +kernel) (And.intro (by decide +kernel) (by decide +kernel))
  have hleases : StepSystem.Along (step sharedLeaseLoop (.plain ℕ))
      (fun s a => ∀ c call lease, a = .start c call → call.renews = some lease →
        ∃ d call' result, s.phase d = .returned call' (some result) ∧ result.lease = some lease)
      {} sampleLeaseRun := by
    change StepSystem.Along _ _ _ (sampleLeaseRun.take 10 ++ sampleLeaseRun.drop 10)
    refine StepSystem.Along.append (.of_forall ?_ _) ?_
    · intro a ha s c call lease hstart hl
      subst hstart
      simp [sampleLeaseRun] at ha
      rcases ha with ⟨-, rfl⟩ | ⟨-, rfl⟩ <;> cases hl
    · rintro t ⟨⟩
      refine And.intro ?_ (.of_forall ?_ _)
      · rintro c call lease ⟨⟩ ⟨⟩
        exact ⟨0, _, _, rfl, rfl⟩
      · intro a ha s c call lease hstart hl
        subst hstart
        simp at ha
  obtain ⟨s, hrun, hdone⟩ : ∃ s : State ℕ Unit SharedCall (LeaseRecord ℤ) SharedResult,
      StepSystem.run (step sharedLeaseLoop (.plain ℕ)) {} sampleLeaseRun = some s ∧
      s.done.map (fun x => (x.1, x.2.2)) =
        [(0, .go (.acquired ⟨"catalog", "a", 1, 1, timeOfUnixMilli 9, false⟩)),
          (2, .go (.acquired ⟨"catalog", "a", 1, 1, timeOfUnixMilli 11, false⟩)),
          (1, .node (.claim ⟨⟨"a", 1, 1, 11, false, 0⟩, false, true⟩))] :=
    ⟨_, rfl, by decide +kernel⟩
  obtain ⟨order, -, hreturned, -, -, hredis⟩ := kv_leases_refine_redis hrun hrange hleases
  exact ⟨s, hrun, hdone, order, hreturned, hredis⟩

end Runs

end Boutique
