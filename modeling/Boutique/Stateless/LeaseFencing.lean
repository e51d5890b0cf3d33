import Boutique.Stateless.LeaseLoops
import Boutique.Lib.FencedLease

/-!
# Leases are fenced

For one work item, the writes of the lease operations follow the rules of `FencedLease`, whatever the
times of the workers are and however their calls interleave.  So acquisitions get increasing tokens
and do not take over a lease that has not expired, only the holder of the latest claim renews or
completes it in time, and a completion is the last write.

The Go stores send a time as a number of milliseconds in an `int64`, and the Redis scripts compare
these numbers as doubles, so there the callers' times have to be such numbers.
-/

namespace Boutique

open CasLoop FencedLease

/-! ## The writes of a call -/

/-- What a call writes for, at its own time. -/
def LeaseCall.op : LeaseCall → Op ℤ
  | .acquire _ workerId now _ => .acquire workerId (epochMillis now)
  | .renew lease now _ => .renew lease.workerId lease.token (epochMillis now)
  | .complete lease now => .complete lease.workerId lease.token (epochMillis now)

/-- The time of a call, in milliseconds. -/
def LeaseCall.now : LeaseCall → ℤ
  | .acquire _ _ now _ | .renew _ now _ | .complete _ now => epochMillis now

/-- The time of a call is an `int64` in milliseconds. -/
def LeaseCall.Representable (call : LeaseCall) : Prop := -2 ^ 63 ≤ call.now ∧ call.now < 2 ^ 63

/-- The time of a call is a double in the scripts. -/
def LeaseCall.Exact (call : LeaseCall) : Prop := call.now.natAbs ≤ 2 ^ 53

instance : DecidablePred LeaseCall.Exact :=
  fun call => inferInstanceAs (Decidable (call.now.natAbs ≤ 2 ^ 53))

/-- The times of the scripts are numbers of milliseconds of the stores. -/
lemma LeaseCall.Exact.representable {call : LeaseCall} (h : call.Exact) : call.Representable := by
  unfold LeaseCall.Exact at h
  exact ⟨by omega, by omega⟩

/-- What a call of the bootstrap claim writes for. -/
def ClaimCall.op {τ : Type*} : ClaimCall τ → Op τ
  | .acquire _ workerId now _ => .acquire workerId now
  | .complete claim now => .complete claim.record.owner claim.record.token now

/-- The claim in a hash. -/
def LeaseHash.claim (hash : LeaseHash) : Record ℤ where
  owner := hash.owner.getD ""
  token := hash.token
  expiry := hash.leaseUntil
  completed := hash.completed

/-- The claim in a document. -/
def LeaseRecord.claim {τ : Type*} (record : LeaseRecord τ) : Record τ where
  owner := record.owner
  token := record.token
  expiry := record.leaseUntil
  completed := record.completed

/-! ## Documents in a bucket -/

section Loop

variable {κ ι V ρ τ : Type*} [LinearOrder τ] {L : Loop ι V ρ} {op : ι → Op τ} {claim : V → Record τ}

/-- The writes of update loops, with what they are for. -/
def leaseWrites (op : ι → Op τ) (claim : V → Record τ) (log : List (Write κ ι V)) :
    List (Op τ × Record τ) :=
  log.map fun w => (op w.input, claim w.value)

omit [LinearOrder τ] in
/-- The last claim is that of the current document. -/
lemma last_leaseWrites (log : List (Write κ ι V)) :
    last (leaseWrites op claim log) = (current log).map claim := by
  simp [last, leaseWrites, current, List.getLast?_map, Function.comp_def]

/-- When every attempt with an input of a run writes by the rules, so does the whole run. -/
lemma history_of_written {P : ι → Prop}
    (hwrite : ∀ input value? next value result, P input →
      L.decide input value? = .write next value result →
      (op input).Allows (value?.map claim) (claim value))
    {log : List (Write κ ι V)} (hlog : Written L log) (hinputs : ∀ w ∈ log, P w.input) :
    History (leaseWrites op claim log) := by
  intro pre o r post heq
  obtain ⟨pre', w, post', rfl, rfl, hw, rfl⟩ :
      ∃ pre' w post', log = pre' ++ w :: post' ∧ pre = leaseWrites op claim pre' ∧
        (o, r) = (op w.input, claim w.value) ∧ post = leaseWrites op claim post' := by
    obtain ⟨pre', rest, rfl, rfl, hrest⟩ := List.map_eq_append_iff.mp heq
    obtain ⟨w, post', rfl, hw, rfl⟩ := List.map_eq_cons_iff.mp hrest
    exact ⟨pre', w, post', rfl, rfl, hw.symm, rfl⟩
  cases hw
  obtain ⟨next, result, hdecide⟩ := hlog pre' w post' rfl
  rw [last_leaseWrites]
  exact hwrite _ _ _ _ _ (hinputs w (List.mem_append_right _ List.mem_cons_self)) hdecide

end Loop

/-- A new claim is written by the rules. -/
lemma LeaseRecord.Claims.allows {τ : Type*} [LinearOrder τ] {value : LeaseRecord τ}
    {current : Option (LeaseRecord τ)} {worker : String} {now : τ}
    (h : value.Claims current worker now) :
    (Op.acquire worker now).Allows (current.map LeaseRecord.claim) value.claim := by
  cases current with
  | none => exact ⟨h.owner, h.completed⟩
  | some record =>
    obtain ⟨hopen, hexpired, htoken, -⟩ := h.next record rfl
    have hlt : record.token < value.token := htoken ▸ Nat.lt_succ_self _
    exact ⟨⟨hexpired, hopen⟩, hlt, h.owner, h.completed⟩

/-- `KVLeaseStore` writes by the rules. -/
lemma kvLeaseLoop_allows {call next : LeaseCall} {current : Option (LeaseRecord ℤ)}
    {value : LeaseRecord ℤ} {result : LeaseResult} (hnow : call.Representable)
    (h : kvLeaseLoop.decide call current = .write next value result) :
    call.op.Allows (current.map LeaseRecord.claim) value.claim := by
  cases call with
  | acquire workId workerId now duration =>
    obtain ⟨-, -, -, hclaims⟩ := kvAcquireLease_write h
    rw [unixMilli_of_inRange hnow.1 hnow.2] at hclaims
    exact hclaims.allows
  | renew lease now duration =>
    obtain ⟨-, -, record, rfl, hopen, hlost, rfl⟩ := kvRenewLease_write h
    rw [unixMilli_of_inRange hnow.1 hnow.2] at hlost
    obtain ⟨howner, htoken, hexpiry⟩ := LeaseRecord.lost_eq_false.mp hlost
    exact ⟨⟨howner, htoken, hexpiry, hopen⟩, howner, htoken, hopen⟩
  | complete lease now =>
    obtain ⟨-, -, record, rfl, hopen, hlost, rfl⟩ := kvCompleteLease_write h
    rw [unixMilli_of_inRange hnow.1 hnow.2] at hlost
    obtain ⟨howner, htoken, hexpiry⟩ := LeaseRecord.lost_eq_false.mp hlost
    exact ⟨⟨howner, htoken, hexpiry, hopen⟩, howner, htoken, rfl⟩

/-- The bootstrap claim writes by the rules. -/
lemma claimLoop_allows {τ : Type*} [LinearOrder τ] [Zero τ] {add : τ → τ → τ}
    {call next : ClaimCall τ} {current : Option (LeaseRecord τ)} {value : LeaseRecord τ}
    {result : ClaimResult τ} (h : (claimLoop add).decide call current = .write next value result) :
    call.op.Allows (current.map LeaseRecord.claim) value.claim := by
  cases call with
  | acquire workId workerId now duration =>
    obtain ⟨-, -, -, hclaims⟩ := claimAcquire_write h
    exact hclaims.allows
  | complete claim now =>
    obtain ⟨-, -, record, rfl, hopen, howner, htoken, hexpiry, rfl⟩ := claimComplete_write h
    exact ⟨⟨howner, htoken, hexpiry, hopen⟩, howner, htoken, rfl⟩

/-! ## The Redis hash -/

/-- The result of a call that acquired, renewed or completed a lease. -/
def LeaseResult.succeeded : LeaseResult → Bool
  | .acquired _ | .completed => true
  | _ => false

/-- The hash of a work item, and the writes that led to it.  A call has written when it succeeds or
changes the hash. -/
structure RedisLease where
  hash : LeaseHash := {}
  writes : List (Op ℤ × Record ℤ) := []

/-- One more call. -/
def RedisLease.call (s : RedisLease) (call : LeaseCall) : RedisLease :=
  let (hash, result) := redisLeaseCall s.hash call
  { hash := hash
    writes := if result.succeeded ∨ hash ≠ s.hash then s.writes ++ [(call.op, hash.claim)]
              else s.writes }

/-- Calls of `RedisLeaseStore` one after the other. -/
def redisLeaseRun (calls : List LeaseCall) : RedisLease := calls.foldl RedisLease.call {}

/-- The claim in a hash, unless the key is absent. -/
def LeaseHash.claim? (hash : LeaseHash) : Option (Record ℤ) :=
  hash.owner.map fun _ => hash.claim

/-- A claim that the scripts do not refuse is the one that is stored. -/
lemma LeaseHash.lost_eq_false {hash : LeaseHash} {owner : String} {token : ℕ} {now : ℤ} :
    hash.lost owner token now = false ↔
      hash.owner = some owner ∧ hash.token = token ∧ luaInt now < hash.leaseUntil := by
  simp [LeaseHash.lost, and_assoc]

/-- What holds of the hash before and after a call that wrote. -/
structure RedisWrite (hash hash' : LeaseHash) (op : Op ℤ) (result : LeaseResult) : Prop where
  allows : op.Allows hash.claim? hash'.claim
  owner : hash'.owner.isSome = true
  token : ∀ lease, result = .acquired lease → lease.token = hash'.token

section Scripts

variable {hash hash' : LeaseHash} {result : LeaseResult} {now : Time} {duration : Duration}

/-- When `Acquire` writes. -/
lemma acquireLease_write {workId workerId : String}
    (hexact : (LeaseCall.acquire workId workerId now duration).Exact)
    (h : acquireLease hash workId workerId now duration = (hash', result)) :
    (hash' = hash ∧ result.succeeded = false) ∨
      RedisWrite hash hash' (.acquire workerId (epochMillis now)) result := by
  have hnow : unixMilli now = epochMillis now :=
    unixMilli_of_inRange hexact.representable.1 hexact.representable.2
  unfold acquireLease at h
  rw [hnow] at h
  split_ifs at h
  · cases h
    exact .inl ⟨rfl, rfl⟩
  · cases h
    exact .inl ⟨rfl, rfl⟩
  · unfold acquireLeaseScript at h
    split_ifs at h with hcompleted hheld
    · cases h
      exact .inl ⟨rfl, rfl⟩
    · cases h
      exact .inl ⟨rfl, rfl⟩
    · cases h
      refine .inr ⟨?_, rfl, ?_⟩
      swap
      · rintro lease ⟨⟩
        rfl
      have hexpired : hash.leaseUntil ≤ epochMillis now := by
        rw [← luaInt_of_le (show (epochMillis now).natAbs ≤ 2 ^ 53 from hexact)]
        exact not_lt.mp hheld
      cases howner : hash.owner with
      | none =>
        rw [LeaseHash.claim?, howner]
        exact ⟨rfl, rfl⟩
      | some owner =>
        rw [LeaseHash.claim?, howner]
        exact ⟨⟨hexpired, Bool.eq_false_iff.mpr hcompleted⟩, Nat.lt_succ_self _, rfl, rfl⟩

/-- The claim that `Renew` and `Complete` find. -/
lemma LeaseHash.heldBy_of_not_lost {owner : String} {token : ℕ} {now : ℤ}
    (hnow : now.natAbs ≤ 2 ^ 53) (hopen : ¬ hash.completed = true)
    (hlost : ¬ hash.lost owner token now = true) :
    hash.claim? = some hash.claim ∧ hash.claim.HeldBy owner token now := by
  obtain ⟨howner, htoken, hexpiry⟩ := LeaseHash.lost_eq_false.mp (Bool.eq_false_iff.mpr hlost)
  rw [luaInt_of_le hnow] at hexpiry
  refine ⟨by rw [LeaseHash.claim?, howner, Option.map_some], ?_, htoken, hexpiry,
    Bool.eq_false_iff.mpr hopen⟩
  simp [LeaseHash.claim, howner]

/-- When `Renew` writes. -/
lemma renewLease_write {lease : Lease} (hexact : (LeaseCall.renew lease now duration).Exact)
    (h : renewLease hash lease now duration = (hash', result)) :
    (hash' = hash ∧ result.succeeded = false) ∨
      RedisWrite hash hash' (.renew lease.workerId lease.token (epochMillis now)) result := by
  have hnow : unixMilli now = epochMillis now :=
    unixMilli_of_inRange hexact.representable.1 hexact.representable.2
  unfold renewLease at h
  rw [hnow] at h
  split_ifs at h
  · cases h
    exact .inl ⟨rfl, rfl⟩
  · cases h
    exact .inl ⟨rfl, rfl⟩
  · unfold renewLeaseScript at h
    by_cases hcompleted : hash.completed = true
    · rw [if_pos hcompleted] at h
      cases h
      exact .inl ⟨rfl, rfl⟩
    by_cases hlost : hash.lost lease.workerId lease.token (epochMillis now) = true
    · rw [if_neg hcompleted, if_pos hlost] at h
      cases h
      exact .inl ⟨rfl, rfl⟩
    · -- the hash is written even when the new expiry is taken for an error code
      obtain ⟨hclaim, hheld⟩ := LeaseHash.heldBy_of_not_lost hexact hcompleted hlost
      obtain ⟨howner, htoken, -⟩ := LeaseHash.lost_eq_false.mp (Bool.eq_false_iff.mpr hlost)
      have hhash : hash' = { hash with leaseUntil := luaInt (luaInt (epochMillis now) +
          luaInt duration.milliseconds) } := by
        rw [if_neg hcompleted, if_neg hlost] at h
        dsimp only at h
        split_ifs at h <;> exact (congrArg Prod.fst h).symm
      have hresult : ∀ renewed, result = .acquired renewed → renewed.token = lease.token := by
        rintro renewed rfl
        rw [if_neg hcompleted, if_neg hlost] at h
        dsimp only at h
        split_ifs at h <;> cases h
        rfl
      subst hhash
      refine .inr ⟨?_, by simp [howner], fun renewed hr => (hresult renewed hr).trans htoken.symm⟩
      rw [hclaim]
      exact ⟨hheld, hheld.owner, hheld.token, hheld.completed⟩

/-- When `Complete` writes. -/
lemma completeLease_write {lease : Lease} (hexact : (LeaseCall.complete lease now).Exact)
    (h : completeLease hash lease now = (hash', result)) :
    (hash' = hash ∧ result.succeeded = false) ∨
      RedisWrite hash hash' (.complete lease.workerId lease.token (epochMillis now)) result := by
  have hnow : unixMilli now = epochMillis now :=
    unixMilli_of_inRange hexact.representable.1 hexact.representable.2
  unfold completeLease at h
  rw [hnow] at h
  split_ifs at h
  · cases h
    exact .inl ⟨rfl, rfl⟩
  · cases h
    exact .inl ⟨rfl, rfl⟩
  · unfold completeLeaseScript at h
    by_cases hcompleted : hash.completed = true
    · rw [if_pos hcompleted] at h
      cases h
      exact .inl ⟨rfl, rfl⟩
    by_cases hlost : hash.lost lease.workerId lease.token (epochMillis now) = true
    · rw [if_neg hcompleted, if_pos hlost] at h
      cases h
      exact .inl ⟨rfl, rfl⟩
    · obtain ⟨hclaim, hheld⟩ := LeaseHash.heldBy_of_not_lost hexact hcompleted hlost
      obtain ⟨howner, -⟩ := LeaseHash.lost_eq_false.mp (Bool.eq_false_iff.mpr hlost)
      rw [if_neg hcompleted, if_neg hlost] at h
      cases h
      refine .inr ⟨?_, by simp [howner], fun lease hlease => by cases hlease⟩
      rw [hclaim]
      exact ⟨hheld, hheld.owner, hheld.token, rfl⟩

/-- A call that has not written leaves the hash, and one that has follows the rules. -/
lemma redisLeaseCall_write {call : LeaseCall} (hexact : call.Exact)
    (h : redisLeaseCall hash call = (hash', result)) :
    (hash' = hash ∧ result.succeeded = false) ∨ RedisWrite hash hash' call.op result := by
  cases call with
  | acquire workId workerId now duration => exact acquireLease_write hexact h
  | renew lease now duration => exact renewLease_write hexact h
  | complete lease now => exact completeLease_write hexact h

end Scripts

/-- The writes follow the rules, and the last one left the hash. -/
structure RedisLease.Inv (s : RedisLease) : Prop where
  history : History s.writes
  last : last s.writes = s.hash.claim?

/-- Every call keeps the invariant. -/
lemma RedisLease.Inv.call {s : RedisLease} (h : s.Inv) {call : LeaseCall} (hexact : call.Exact) :
    (s.call call).Inv := by
  unfold RedisLease.call
  cases hcall : redisLeaseCall s.hash call with
  | mk hash result =>
    dsimp only
    split_ifs with hwrote
    · rcases redisLeaseCall_write hexact hcall with ⟨rfl, hfailed⟩ | hwrite
      · simp [hfailed] at hwrote
      · refine ⟨h.history.concat (h.last ▸ hwrite.allows), ?_⟩
        rw [last_concat, LeaseHash.claim?]
        obtain ⟨owner, howner⟩ := Option.isSome_iff_exists.mp hwrite.owner
        rw [howner, Option.map_some]
    · rw [not_or, not_not] at hwrote
      rw [hwrote.2]
      exact ⟨h.history, h.last⟩

/-- Whole runs keep the invariant. -/
lemma redisLeaseRun_inv {calls : List LeaseCall} (hexact : ∀ call ∈ calls, call.Exact) :
    (redisLeaseRun calls).Inv := by
  induction calls using List.reverseRecOn with
  | nil => exact ⟨fun pre op r post heq => by simp [redisLeaseRun] at heq, rfl⟩
  | append_singleton calls call ih =>
    rw [redisLeaseRun, List.foldl_append]
    exact (ih fun c hc => hexact c (List.mem_append_left _ hc)).call
      (hexact call (List.mem_append_right _ (List.mem_singleton_self call)))

/-! ## Results -/

/-- The claim was acquired, and not found completed or held. -/
def BootstrapClaim.acquired {τ : Type*} (claim : BootstrapClaim τ) : Bool :=
  !claim.complete && !claim.held

/-- `KVLeaseStore` does not succeed without writing. -/
lemma kvLeaseLoop_finish {call : LeaseCall} {current : Option (LeaseRecord ℤ)}
    {result : LeaseResult} (h : kvLeaseLoop.decide call current = .finish result) :
    result.succeeded = false := by
  cases call with
  | acquire workId workerId now duration =>
    simp only [kvLeaseLoop, kvAcquireLease] at h
    split_ifs at h
    · cases h
      rfl
    · cases h
      rfl
    · cases current with
      | none => cases h
      | some record =>
        dsimp only at h
        split_ifs at h <;> cases h <;> rfl
  | renew lease now duration =>
    simp only [kvLeaseLoop, kvRenewLease] at h
    split_ifs at h
    · cases h
      rfl
    · cases h
      rfl
    · cases current with
      | none =>
        cases h
        rfl
      | some record =>
        dsimp only at h
        split_ifs at h <;> cases h <;> rfl
  | complete lease now =>
    simp only [kvLeaseLoop, kvCompleteLease] at h
    split_ifs at h
    · cases h
      rfl
    · cases h
      rfl
    · cases current with
      | none =>
        cases h
        rfl
      | some record =>
        dsimp only at h
        split_ifs at h <;> cases h <;> rfl

/-- The bootstrap claim is not acquired without writing. -/
lemma claimLoop_finish {τ : Type*} [LinearOrder τ] [Zero τ] {add : τ → τ → τ} {call : ClaimCall τ}
    {current : Option (LeaseRecord τ)} {claim : BootstrapClaim τ}
    (h : (claimLoop add).decide call current = .finish (.claim claim)) :
    claim.acquired = false := by
  cases call with
  | acquire workId workerId now duration =>
    simp only [claimLoop, claimAcquire] at h
    split_ifs at h
    · cases h
    · cases h
    · cases current with
      | none => cases h
      | some record =>
        dsimp only at h
        split_ifs at h <;> cases h <;> rfl
  | complete claim now =>
    simp only [claimLoop, claimComplete] at h
    cases current with
    | none => cases h
    | some record =>
      dsimp only at h
      split_ifs at h <;> cases h

section Results

variable {κ : Type*} [DecidableEq κ]

/-- A call of `KVLeaseStore` that succeeds has written, and its claim has the token it wrote. -/
lemma kvLease_wrote {acts : List (Action κ Unit LeaseCall)}
    {s : State κ Unit LeaseCall (LeaseRecord ℤ) LeaseResult}
    (hrun : StepSystem.run (step kvLeaseLoop (.plain κ)) {} acts = some s) {c : κ}
    {call : LeaseCall} {result : LeaseResult} (hc : s.phase c = .returned call (some result))
    (hresult : result.succeeded = true) :
    ∃ w ∈ s.log, w.caller = c ∧ w.input = call ∧
      ∀ lease, result = .acquired lease → lease.token = w.value.token := by
  rcases (sound_of_run hrun).of_phase hc with ⟨pre, value, post, next, hlog, hdecide⟩ | hfinish
  · refine ⟨_, by rw [hlog]; exact List.mem_append_right _ List.mem_cons_self, rfl, rfl, ?_⟩
    rintro lease rfl
    cases call with
    | acquire =>
      obtain ⟨-, hlease, -⟩ := kvAcquireLease_write hdecide
      cases hlease
      rfl
    | renew =>
      obtain ⟨-, hlease, -⟩ := kvRenewLease_write hdecide
      cases hlease
      rfl
    | complete =>
      obtain ⟨-, hlease, -⟩ := kvCompleteLease_write hdecide
      cases hlease
  · obtain ⟨revision, -, hdecide⟩ := hfinish
    rw [kvLeaseLoop_finish hdecide] at hresult
    cases hresult

/-- A bootstrap claim that was acquired has been written. -/
lemma claim_wrote {τ : Type*} [LinearOrder τ] [Zero τ] {add : τ → τ → τ}
    {acts : List (Action κ Unit (ClaimCall τ))}
    {s : State κ Unit (ClaimCall τ) (LeaseRecord τ) (ClaimResult τ)}
    (hrun : StepSystem.run (step (claimLoop add) (.plain κ)) {} acts = some s) {c : κ}
    {call : ClaimCall τ} {claim : BootstrapClaim τ}
    (hc : s.phase c = .returned call (some (.claim claim))) (hclaim : claim.acquired = true) :
    ∃ w ∈ s.log, w.caller = c ∧ w.input = call ∧ w.value = claim.record := by
  rcases (sound_of_run hrun).of_phase hc with ⟨pre, value, post, next, hlog, hdecide⟩ | hfinish
  · refine ⟨_, by rw [hlog]; exact List.mem_append_right _ List.mem_cons_self, rfl, rfl, ?_⟩
    cases call with
    | acquire =>
      obtain ⟨-, hresult, -⟩ := claimAcquire_write hdecide
      cases hresult
      rfl
    | complete =>
      obtain ⟨-, hresult, -⟩ := claimComplete_write hdecide
      cases hresult
  · obtain ⟨revision, -, hdecide⟩ := hfinish
    rw [claimLoop_finish hdecide] at hclaim
    cases hclaim

/-- The calls of a run of `KVLeaseStore` keep their times. -/
lemma kvLease_representable {acts : List (Action κ Unit LeaseCall)}
    {s : State κ Unit LeaseCall (LeaseRecord ℤ) LeaseResult}
    (hrun : StepSystem.run (step kvLeaseLoop (.plain κ)) {} acts = some s)
    (htimes : ∀ c call, Action.start c call ∈ acts → call.Representable) :
    ∀ w ∈ s.log, w.input.Representable := by
  have hclosed : Closed kvLeaseLoop LeaseCall.Representable := by
    intro call _ next value result hcall hdecide
    rw [kvLeaseLoop_next hdecide]
    exact hcall
  exact (inputs_of_run (P := fun _ call => call.Representable) (fun _ => hclosed) htimes hrun).log

/-- The leases of a work item are fenced: in `RedisLeaseStore` for every sequence of calls at exact
times, in `KVLeaseStore` for every interleaving of calls at times that are an `int64` in
milliseconds, and in the bootstrap claim for every interleaving of calls.  The claim of a call that
acquires has the token that the call wrote. -/
theorem leases_fenced {τ : Type*} [LinearOrder τ] [Zero τ] (add : τ → τ → τ) :
    (∀ calls : List LeaseCall, (∀ call ∈ calls, call.Exact) →
      Fenced (redisLeaseRun calls).writes ∧
      last (redisLeaseRun calls).writes = (redisLeaseRun calls).hash.claim? ∧
      ∀ call hash lease, call.Exact →
        redisLeaseCall (redisLeaseRun calls).hash call = (hash, .acquired lease) →
        lease.token = hash.token) ∧
    (∀ (acts : List (Action κ Unit LeaseCall)) s,
      StepSystem.run (step kvLeaseLoop (.plain κ)) {} acts = some s →
      ((∀ c call, Action.start c call ∈ acts → call.Representable) →
        Fenced (leaseWrites LeaseCall.op LeaseRecord.claim s.log)) ∧
      ∀ c call result, s.phase c = .returned call (some result) → result.succeeded = true →
        ∃ w ∈ s.log, w.caller = c ∧ w.input = call ∧
          ∀ lease, result = .acquired lease → lease.token = w.value.token) ∧
    (∀ (acts : List (Action κ Unit (ClaimCall τ))) s,
      StepSystem.run (step (claimLoop add) (.plain κ)) {} acts = some s →
      Fenced (leaseWrites ClaimCall.op LeaseRecord.claim s.log) ∧
      ∀ c call claim, s.phase c = .returned call (some (.claim claim)) → claim.acquired = true →
        ∃ w ∈ s.log, w.caller = c ∧ w.input = call ∧ w.value = claim.record) := by
  refine ⟨fun calls hexact => ?_, fun acts s hrun => ⟨fun htimes => ?_, ?_⟩,
    fun acts s hrun => ⟨?_, ?_⟩⟩
  · have hinv := redisLeaseRun_inv hexact
    refine ⟨hinv.history.fenced, hinv.last, fun call hash lease hcall hresult => ?_⟩
    rcases redisLeaseCall_write hcall hresult with ⟨-, hfailed⟩ | hwrite
    · cases hfailed
    · exact hwrite.token lease rfl
  · have hwritten := (sound_of_run hrun).written
    exact (history_of_written (fun _ _ _ _ _ hnow h => kvLeaseLoop_allows hnow h) hwritten
      (kvLease_representable hrun htimes)).fenced
  · intro c call result hc hresult
    exact kvLease_wrote hrun hc hresult
  · have hwritten := (sound_of_run hrun).written
    exact (history_of_written (P := fun _ => True) (fun _ _ _ _ _ _ h => claimLoop_allows h)
      hwritten fun _ _ => trivial).fenced
  · intro c call claim hc hclaim
    exact claim_wrote hrun hc hclaim

end Results

/-! ## Times out of the range -/

/-- A claim of four milliseconds at a time of so many milliseconds. -/
def sampleAcquire (worker : String) (millis : ℤ) : LeaseCall :=
  .acquire "catalog" worker (timeOfUnixMilli millis)
    { nanos := 4000000, lower := by decide, upper := by decide }

/-- Calls of `KVLeaseStore` one after the other, each of which writes. -/
def sampleKVRun (calls : List LeaseCall) : List (Action ℕ Unit LeaseCall) :=
  calls.zipIdx.flatMap fun x =>
    [.start x.2 x.1, .lookup x.2, .fetch x.2, .write x.2, .store x.2]

/-- A worker acquires the lease at a time before its expiry: in Redis one that the script rounds up,
and in a bucket one so long ago that its milliseconds wrap around. -/
theorem lease_taken_before_expiry :
    (¬ ∀ calls : List LeaseCall, Fenced (redisLeaseRun calls).writes) ∧
    ¬ ∀ (acts : List (Action ℕ Unit LeaseCall)) s,
      StepSystem.run (step kvLeaseLoop (.plain ℕ)) {} acts = some s →
      Fenced (leaseWrites LeaseCall.op LeaseRecord.claim s.log) := by
  constructor
  · intro h
    have hfenced := h [sampleAcquire "a" (2 ^ 53), sampleAcquire "b" (2 ^ 53 + 3)]
    have hwrites :
        (redisLeaseRun [sampleAcquire "a" (2 ^ 53), sampleAcquire "b" (2 ^ 53 + 3)]).writes =
          [(.acquire "a" (2 ^ 53), ⟨"a", 1, 2 ^ 53 + 4, false⟩)] ++
            (.acquire "b" (2 ^ 53 + 3), ⟨"b", 2, 2 ^ 53 + 8, false⟩) :: [] := by
      decide +kernel
    have hexclusive := hfenced.exclusive _ "b" (2 ^ 53 + 3) _ _ hwrites
    exact hexclusive ⟨"a", 1, 2 ^ 53 + 4, false⟩ rfl (by decide)
  · intro h
    obtain ⟨s, hrun, hwrites⟩ : ∃ s, StepSystem.run (step kvLeaseLoop (.plain ℕ)) {}
          (sampleKVRun [sampleAcquire "a" 1, sampleAcquire "b" (-9300000000000000000)]) = some s ∧
        leaseWrites LeaseCall.op LeaseRecord.claim s.log =
          [(.acquire "a" 1, ⟨"a", 1, 5, false⟩)] ++
            (.acquire "b" (-9300000000000000000), ⟨"b", 2, 9146744073709551620, false⟩) :: [] :=
      ⟨_, rfl, by decide +kernel⟩
    have hexclusive := (h _ s hrun).exclusive _ "b" (-9300000000000000000) _ _ hwrites
    exact hexclusive ⟨"a", 1, 5, false⟩ rfl (by decide)

/-- In Redis three workers, the second of which finds the lease held and the third finds it expired;
in a bucket a worker that finds it expired. -/
theorem expired_lease_taken_over :
    ((redisLeaseRun [sampleAcquire "a" 1, sampleAcquire "b" 3, sampleAcquire "c" 5]).writes =
        [(.acquire "a" 1, ⟨"a", 1, 5, false⟩), (.acquire "c" 5, ⟨"c", 2, 9, false⟩)] ∧
      Fenced
        (redisLeaseRun [sampleAcquire "a" 1, sampleAcquire "b" 3, sampleAcquire "c" 5]).writes) ∧
    ∃ s, StepSystem.run (step kvLeaseLoop (.plain ℕ)) {}
        (sampleKVRun [sampleAcquire "a" 1, sampleAcquire "c" 5]) = some s ∧
      leaseWrites LeaseCall.op LeaseRecord.claim s.log =
        [(.acquire "a" 1, ⟨"a", 1, 5, false⟩), (.acquire "c" 5, ⟨"c", 2, 9, false⟩)] ∧
      Fenced (leaseWrites LeaseCall.op LeaseRecord.claim s.log) := by
  obtain ⟨hredis, hkv, -⟩ := leases_fenced (κ := ℕ) ((· + ·) : ℤ → ℤ → ℤ)
  refine ⟨⟨by decide +kernel, (hredis _ (by decide +kernel)).1⟩, ?_⟩
  obtain ⟨s, hrun, hwrites⟩ : ∃ s, StepSystem.run (step kvLeaseLoop (.plain ℕ)) {}
        (sampleKVRun [sampleAcquire "a" 1, sampleAcquire "c" 5]) = some s ∧
      leaseWrites LeaseCall.op LeaseRecord.claim s.log =
        [(.acquire "a" 1, ⟨"a", 1, 5, false⟩), (.acquire "c" 5, ⟨"c", 2, 9, false⟩)] :=
    ⟨_, rfl, by decide +kernel⟩
  refine ⟨s, hrun, hwrites, (hkv _ s hrun).1 fun c call hmem => ?_⟩
  simp only [sampleKVRun, List.zipIdx_cons, List.zipIdx_nil, List.flatMap_cons, List.flatMap_nil,
    List.cons_append, List.nil_append, List.mem_cons, reduceCtorEq, Action.start.injEq,
    List.not_mem_nil, or_false, false_or] at hmem
  rcases hmem with ⟨-, rfl⟩ | ⟨-, rfl⟩
  · exact And.intro (by decide +kernel) (by decide +kernel)
  · exact And.intro (by decide +kernel) (by decide +kernel)

end Boutique
