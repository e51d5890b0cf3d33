import Boutique.Benchmark.Control

/-!
# The lease after a failed start

One call of `start` without other controllers, in which one call to the store fails once, before or
after its write takes effect, and `_with_recovery` tries it again.  A second try of a write that took
effect is refused, and its caller reads again.  `_acquire_lease` then finds its own lease and takes it
for that of another run, outside the `try` block that would release it.

A start that raises leaves no lease, except when the reply of its first write of the lease was lost and
the lease has not expired until it reads again.
-/

namespace Boutique.Benchmark

open StoreProgram Program

/-! ## Runs with one failure -/

/-- Whether a call to the store fails before or after it takes effect. -/
inductive Fault where
  | before | after
deriving DecidableEq, Repr

/-- What happens around a call: the call to the store that fails once, if any, the readings of the
clock, and the answers of Kubernetes. -/
structure Surroundings where
  fault : Option (ℕ × Fault)
  clock : ℕ → ℕ
  answer : (query : Query) → query.Result

/-- The store, with the number of calls to it and of readings of the clock. -/
structure World where
  store : Store Value
  calls : ℕ := 0
  readings : ℕ := 0

/-- `_with_recovery`: a call that failed is tried again, and the reply is that of the last try. -/
def withRecovery {α : Type} (fault : Option Fault) (operation : Store Value → α × Store Value)
    (s : Store Value) : α × Store Value :=
  match fault with
  | none => operation s
  | some .before => operation s
  | some .after => operation (operation s).2

/-- How the call to the store with a number fails. -/
def Surroundings.faultAt (c : Surroundings) (call : ℕ) : Option Fault :=
  match c.fault with
  | none => none
  | some (number, fault) => if number = call then some fault else none

/-- One call to the store. -/
def World.perform {α : Type} (c : Surroundings) (w : World)
    (operation : Store Value → α × Store Value) : α × World :=
  ((withRecovery (c.faultAt w.calls) operation w.store).1,
    { w with
      store := (withRecovery (c.faultAt w.calls) operation w.store).2
      calls := w.calls + 1 })

/-- One operation of a program. -/
def exec (c : Surroundings) : (op : Op Value Query) → World → Reply Query.Result op × World
  | .get k, w => w.perform c fun s => (s.get k, s)
  | .create k value, w => w.perform c fun s => s.create k value
  | .update k value revision, w => w.perform c fun s => s.update k value revision
  | .outside .clock, w => (c.clock w.readings, { w with readings := w.readings + 1 })
  | .outside query, w => (c.answer query, w)

/-- A call of `start` from a store. -/
def startRun (c : Surroundings) (request : Except String BenchmarkConfig) (runId : String)
    (s : Store Value) : Except Failure RunRecord × World :=
  run (exec c) (start request runId) { store := s }

/-- The lease is held for a run at a time. -/
def HeldUnexpired (s : Store Value) (runId : String) (time : ℕ) : Prop :=
  ∃ entry, s.record .lease = some entry ∧ Lease.runId entry.value = runId ∧
    time < Lease.leaseUntil entry.value

/-! ## Single operations -/

section Operations

variable {c : Surroundings} {w : World}

/-- The reply of a write is lost. -/
def Lost (c : Surroundings) (w : World) : Prop := c.fault = some (w.calls, .after)

/-- The world after a call to the store that writes nothing. -/
def World.called (w : World) : World := { w with calls := w.calls + 1 }

/-- The world after a reading of the clock. -/
def World.read (w : World) : World := { w with readings := w.readings + 1 }

/-- A call to the store, by what `_with_recovery` makes of it. -/
lemma perform_eq {α : Type} {operation : Store Value → α × Store Value} {reply : α}
    {s : Store Value} (h : withRecovery (c.faultAt w.calls) operation w.store = (reply, s)) :
    w.perform c operation = (reply, { w with store := s, calls := w.calls + 1 }) := by
  rw [World.perform, h]

/-- A read, whatever fails. -/
lemma exec_get (k : Key) : exec c (.get k) w = (w.store.get k, w.called) := by
  have hread : ∀ fault, withRecovery fault (fun s : Store Value => (s.get k, s)) w.store =
      (w.store.get k, w.store) := by
    intro fault
    rcases fault with _ | _ | _ <;> rfl
  exact perform_eq (hread _)

/-- Only a lost reply makes a difference. -/
lemma withRecovery_of_not_lost {α : Type} (h : ¬Lost c w)
    (operation : Store Value → α × Store Value) (s : Store Value) :
    withRecovery (c.faultAt w.calls) operation s = operation s := by
  unfold Surroundings.faultAt
  cases hfault : c.fault with
  | none => rfl
  | some failure =>
    obtain ⟨number, fault⟩ := failure
    by_cases hnumber : number = w.calls
    · cases fault with
      | before => simp [hnumber, withRecovery]
      | after => exact absurd (by rw [Lost, hfault, hnumber]) h
    · simp [hnumber, withRecovery]

/-- A lost reply is replaced by that of a second try. -/
lemma withRecovery_of_lost {α : Type} (h : Lost c w)
    (operation : Store Value → α × Store Value) (s : Store Value) :
    withRecovery (c.faultAt w.calls) operation s = operation (operation s).2 := by
  rw [Surroundings.faultAt, h]
  simp [withRecovery]

/-- The world after a call that writes. -/
def World.wrote (w : World) (k : Key) (value : Value k) : World :=
  { w with store := w.store.put k value, calls := w.calls + 1 }

/-- An update of the record that was read takes effect; the replay of a lost one is refused. -/
lemma exec_update_current {k : Key} {entry : Entry (Value k)} (h : w.store.record k = some entry)
    (value : Value k) :
    (¬Lost c w → exec c (.update k value entry.revision) w =
        (Answer.done (w.store.sequence + 1), w.wrote k value)) ∧
      (Lost c w → exec c (.update k value entry.revision) w =
        (Answer.refused, w.wrote k value)) := by
  have hfirst : w.store.update k value entry.revision =
      (.done (w.store.sequence + 1), w.store.put k value) := by
    simp [Store.update, h]
  have hsecond : (w.store.put k value).update k value entry.revision =
      (.refused, w.store.put k value) := by
    have hbound := w.store.bounded k entry h
    have hne : w.store.sequence + 1 ≠ entry.revision := by omega
    simp [Store.update, hne]
  constructor
  · intro hlost
    exact perform_eq ((withRecovery_of_not_lost hlost _ _).trans hfirst)
  · intro hlost
    refine perform_eq ((withRecovery_of_lost hlost _ _).trans ?_)
    simp only [hfirst, hsecond]

/-- A creation of an absent record takes effect; the replay of a lost one is refused. -/
lemma exec_create_absent {k : Key} (h : w.store.record k = none) (value : Value k) :
    (¬Lost c w → exec c (.create k value) w =
        (Answer.done (w.store.sequence + 1), w.wrote k value)) ∧
      (Lost c w → exec c (.create k value) w = (Answer.refused, w.wrote k value)) := by
  have hfirst : w.store.create k value =
      (.done (w.store.sequence + 1), w.store.put k value) := by
    simp [Store.create, h]
  have hsecond : (w.store.put k value).create k value = (.refused, w.store.put k value) := by
    simp [Store.create]
  constructor
  · intro hlost
    exact perform_eq ((withRecovery_of_not_lost hlost _ _).trans hfirst)
  · intro hlost
    refine perform_eq ((withRecovery_of_lost hlost _ _).trans ?_)
    simp only [hfirst, hsecond]

/-- After a lost reply nothing else fails. -/
lemma Lost.not_lost_later (h : Lost c w) {w' : World} (hcalls : w.calls < w'.calls) :
    ¬Lost c w' := by
  intro hlost
  rw [Lost, h] at hlost
  injection hlost with hpair
  injection hpair with hnumber
  omega

variable {α : Type}

/-- A program that reads a record. -/
lemma run_get_bind (k : Key) (f : Answer (Entry (Value k)) → Prog α) :
    run (exec c) (get k >>= f) w = run (exec c) (f (w.store.get k)) w.called := by
  have hstep : run (exec c) (get k >>= f) w =
      run (exec c) (f (exec c (.get k) w).1) (exec c (.get k) w).2 := rfl
  rw [hstep, exec_get]

/-- A program that reads the clock. -/
lemma run_clock_bind (f : ℕ → Prog α) :
    run (exec c) (clock >>= f) w = run (exec c) (f (c.clock w.readings)) w.read := rfl

/-- A program that updates the record it read. -/
lemma run_update_bind {k : Key} {entry : Entry (Value k)} (h : w.store.record k = some entry)
    (value : Value k) (f : Answer ℕ → Prog α) (hlost : ¬Lost c w) :
    run (exec c) (update k value entry.revision >>= f) w =
      run (exec c) (f (.done (w.store.sequence + 1))) (w.wrote k value) := by
  have hstep : run (exec c) (update k value entry.revision >>= f) w =
      run (exec c) (f (exec c (.update k value entry.revision) w).1)
        (exec c (.update k value entry.revision) w).2 := rfl
  rw [hstep, (exec_update_current h value).1 hlost]

/-- A program whose update is lost. -/
lemma run_update_bind_of_lost {k : Key} {entry : Entry (Value k)}
    (h : w.store.record k = some entry) (value : Value k) (f : Answer ℕ → Prog α)
    (hlost : Lost c w) :
    run (exec c) (update k value entry.revision >>= f) w =
      run (exec c) (f .refused) (w.wrote k value) := by
  have hstep : run (exec c) (update k value entry.revision >>= f) w =
      run (exec c) (f (exec c (.update k value entry.revision) w).1)
        (exec c (.update k value entry.revision) w).2 := rfl
  rw [hstep, (exec_update_current h value).2 hlost]

/-- A program that creates an absent record. -/
lemma run_create_bind {k : Key} (h : w.store.record k = none) (value : Value k)
    (f : Answer ℕ → Prog α) (hlost : ¬Lost c w) :
    run (exec c) (create k value >>= f) w =
      run (exec c) (f (.done (w.store.sequence + 1))) (w.wrote k value) := by
  have hstep : run (exec c) (create k value >>= f) w =
      run (exec c) (f (exec c (.create k value) w).1) (exec c (.create k value) w).2 := rfl
  rw [hstep, (exec_create_absent h value).1 hlost]

/-- A program whose creation is lost. -/
lemma run_create_bind_of_lost {k : Key} (h : w.store.record k = none) (value : Value k)
    (f : Answer ℕ → Prog α) (hlost : Lost c w) :
    run (exec c) (create k value >>= f) w = run (exec c) (f .refused) (w.wrote k value) := by
  have hstep : run (exec c) (create k value >>= f) w =
      run (exec c) (f (exec c (.create k value) w).1) (exec c (.create k value) w).2 := rfl
  rw [hstep, (exec_create_absent h value).2 hlost]

end Operations

/-! ## The lease -/

section Lease

variable {c : Surroundings} {w : World} {runId : String}

/-- The lease that `_release_lease` writes. -/
def Lease.release (lease : Lease) : Lease := { lease with leaseUntil := 0, released := true }

/-- A lease that is not held for the run at any time. -/
def NotHeld (s : Store Value) (runId : String) : Prop := ∀ time, ¬HeldUnexpired s runId time

/-- A store with the lease of another run, or an ended one. -/
lemma notHeld_of_forall {s : Store Value}
    (h : ∀ entry, s.record .lease = some entry → Lease.runId entry.value ≠ runId ∨
      Lease.leaseUntil entry.value = 0) : NotHeld s runId := by
  rintro time ⟨entry, hentry, hrun, htime⟩
  rcases h entry hentry with hother | hended
  · exact hother hrun
  · omega

/-- An attempt of `_release_lease` ends with the lease given up, unless its reply is lost. -/
lemma run_releaseLease_succ (c : Surroundings) (w : World) (runId : String) (attempts : ℕ) :
    (∃ w', run (exec c) (releaseLease runId (attempts + 1)) w = (.ok (), w') ∧
        NotHeld w'.store runId) ∨
      ∃ w', Lost c w.called ∧ w.called.calls < w'.calls ∧
        run (exec c) (releaseLease runId (attempts + 1)) w =
          run (exec c) (releaseLease runId attempts) w' := by
  rw [releaseLease, run_get_bind]
  unfold Store.get
  cases hrecord : w.store.record .lease with
  | none =>
    refine Or.inl ⟨w.called, rfl, notHeld_of_forall fun entry hentry => ?_⟩
    rw [World.called, hrecord] at hentry
    cases hentry
  | some entry =>
    by_cases hrun : Lease.runId entry.value = runId
    · have hcalled : w.called.store.record .lease = some entry := hrecord
      subst hrun
      simp only [ne_eq, not_true_eq_false, if_false]
      by_cases hlost : Lost c w.called
      · rw [run_update_bind_of_lost hcalled _ _ hlost]
        exact Or.inr ⟨_, hlost, Nat.lt_succ_self _, rfl⟩
      · rw [run_update_bind hcalled _ _ hlost]
        refine Or.inl ⟨_, rfl, notHeld_of_forall fun ended hended => Or.inr ?_⟩
        rw [World.wrote, Store.put_record_self] at hended
        cases hended
        rfl
    · refine Or.inl ⟨w.called, ?_, notHeld_of_forall fun other hother => Or.inl ?_⟩
      · simp only [ne_eq, hrun, not_false_eq_true, if_true]
        rfl
      · rw [World.called, hrecord] at hother
        cases hother
        exact hrun

/-- `_release_lease` gives up the lease. -/
lemma run_releaseLease (c : Surroundings) (w : World) (runId : String) (attempts : ℕ) :
    ∃ w', run (exec c) (releaseLease runId (attempts + 2)) w = (.ok (), w') ∧
      NotHeld w'.store runId := by
  rcases run_releaseLease_succ c w runId (attempts + 1) with hdone | ⟨w', hlost, hcalls, heq⟩
  · exact hdone
  · -- the second attempt cannot fail
    rw [heq]
    rcases run_releaseLease_succ c w' runId attempts with hdone | ⟨w'', hagain, -, -⟩
    · exact hdone
    · exact absurd hagain (hlost.not_lost_later (hcalls.trans (Nat.lt_succ_self _)))

/-- The lease is absent or expired at a time. -/
def Free (s : Store Value) (now : ℕ) : Prop :=
  ∀ entry, s.record .lease = some entry → Lease.leaseUntil entry.value ≤ now

/-- The lease that an attempt of `_acquire_lease` writes. -/
def World.newLease (c : Surroundings) (w : World) (runId : String) (duration : ℕ) : Lease :=
  { runId := runId, leaseUntil := c.clock w.readings + duration }

/-- An attempt that finds the lease free takes it. -/
lemma run_acquireLease_of_free (runId : String) (duration : ℕ)
    (hfree : Free w.store (c.clock w.readings))
    (hlost : ¬Lost c w.read.called) (attempts : ℕ) :
    run (exec c) (acquireLease runId duration (attempts + 1)) w =
      (.ok (), w.read.called.wrote .lease (w.newLease c runId duration)) := by
  rw [acquireLease, run_clock_bind, run_get_bind]
  unfold Store.get
  cases hrecord : w.read.store.record .lease with
  | none =>
    have hcalled : w.read.called.store.record .lease = none := hrecord
    simp only
    rw [run_create_bind hcalled _ _ hlost]
    rfl
  | some entry =>
    have hcalled : w.read.called.store.record .lease = some entry := hrecord
    have hexpired : ¬c.clock w.readings < entry.value.leaseUntil := not_lt.mpr (hfree entry hrecord)
    simp only [hexpired, if_false]
    rw [run_update_bind hcalled _ _ hlost]
    rfl

/-- An attempt whose write is lost is followed by another. -/
lemma run_acquireLease_of_lost (runId : String) (duration : ℕ)
    (hfree : Free w.store (c.clock w.readings))
    (hlost : Lost c w.read.called) (attempts : ℕ) :
    run (exec c) (acquireLease runId duration (attempts + 1)) w =
      run (exec c) (acquireLease runId duration attempts)
        (w.read.called.wrote .lease (w.newLease c runId duration)) := by
  rw [acquireLease, run_clock_bind, run_get_bind]
  unfold Store.get
  cases hrecord : w.read.store.record .lease with
  | none =>
    have hcalled : w.read.called.store.record .lease = none := hrecord
    simp only
    rw [run_create_bind_of_lost hcalled _ _ hlost]
    rfl
  | some entry =>
    have hcalled : w.read.called.store.record .lease = some entry := hrecord
    have hexpired : ¬c.clock w.readings < entry.value.leaseUntil := not_lt.mpr (hfree entry hrecord)
    simp only [hexpired, if_false]
    rw [run_update_bind_of_lost hcalled _ _ hlost]
    rfl

/-- An attempt that finds an unexpired lease raises. -/
lemma run_acquireLease_of_held (runId : String) (duration : ℕ) {entry : Entry Lease}
    (hrecord : w.store.record .lease = some entry)
    (hheld : c.clock w.readings < entry.value.leaseUntil) (attempts : ℕ) :
    run (exec c) (acquireLease runId duration (attempts + 1)) w =
      (.error (.runConflict ("run " ++ entry.value.runId ++ " is still active")),
        w.read.called) := by
  have hread : w.read.store.record .lease = some entry := hrecord
  rw [acquireLease, run_clock_bind, run_get_bind]
  unfold Store.get
  rw [hread]
  simp only [hheld, if_true]
  rfl

/-- The lease is free, or held by some run. -/
lemma free_or_held (s : Store Value) (now : ℕ) :
    Free s now ∨ ∃ entry, s.record .lease = some entry ∧ now < Lease.leaseUntil entry.value := by
  by_cases hfree : Free s now
  · exact Or.inl hfree
  · right
    unfold Free at hfree
    push Not at hfree
    exact hfree

end Lease

/-! ## The record of the run -/

section Record

variable {c : Surroundings} {w : World} {runId : String}

/-- `_get` reads the record or raises `RunNotFound`. -/
lemma run_getRun (c : Surroundings) (w : World) (runId : String) :
    (∃ entry, run (exec c) (getRun runId) w = (.ok entry, w.called) ∧
        w.store.record .run = some entry) ∨
      ∃ w', run (exec c) (getRun runId) w = (.error (.runNotFound runId), w') ∧
        w'.store = w.store := by
  unfold getRun
  split_ifs with hid
  · exact Or.inr ⟨w, rfl, rfl⟩
  · rw [run_get_bind]
    unfold Store.get
    cases hrecord : w.store.record .run with
    | none => exact Or.inr ⟨w.called, rfl, rfl⟩
    | some entry =>
      by_cases hrun : RunRecord.runId entry.value ≠ runId
      · refine Or.inr ⟨w.called, ?_, rfl⟩
        simp only [ne_eq, hrun, not_false_eq_true, if_true]
        rfl
      · refine Or.inl ⟨entry, ?_, rfl⟩
        simp only [hrun, if_false]
        rfl

/-- The exceptions that `start` passes over when it records a failure. -/
def Failure.passedOver : Failure → Prop
  | .runNotFound _ | .runConflict _ => True
  | _ => False

/-- `mutate` leaves the lease alone, and raises only what `start` passes over. -/
lemma run_mutate (c : Surroundings) (w : World) (runId : String) (change : Status → Status)
    (attempts : ℕ) :
    ∃ result w', run (exec c) (mutate runId change attempts) w = (result, w') ∧
      ∀ e, result = .error e → e.passedOver := by
  induction attempts generalizing w with
  | zero =>
    refine ⟨_, w, rfl, ?_⟩
    rintro e ⟨⟩
    exact trivial
  | succ attempts ih =>
    rw [mutate]
    rcases run_getRun c w runId with
      ⟨entry, hget, hrecord⟩ | ⟨w', hget, -⟩
    · rw [run_bind_ok hget]
      have hcalled : w.called.store.record .run = some entry := hrecord
      by_cases hlost : Lost c w.called
      · rw [run_update_bind_of_lost hcalled _ _ hlost]
        exact ih _
      · rw [run_update_bind hcalled _ _ hlost]
        refine ⟨_, _, rfl, ?_⟩
        rintro e ⟨⟩
    · rw [run_bind_error hget]
      refine ⟨_, _, rfl, ?_⟩
      rintro e ⟨⟩
      exact trivial

/-- The `except` block of `start` raises the error again and leaves the lease given up. -/
lemma run_abandon (c : Surroundings) (w : World) (runId : String) (error : Failure) :
    ∃ w', run (exec c) (abandon runId error) w = (.error error, w') ∧ NotHeld w'.store runId := by
  obtain ⟨w₁, hrecorded⟩ : ∃ w₁, run (exec c) (recordFailure runId error) w = (.ok (), w₁) := by
    obtain ⟨result, w₁, hmutate, hpassed⟩ := run_mutate c w runId
      (fun status => { status with
        state := .failed, message := some ("could not submit benchmark Job: " ++ error.text) }) 12
    refine ⟨w₁, ?_⟩
    cases result with
    | ok record => exact run_handle_ok (run_bind_ok hmutate _) _
    | error e =>
      have he := hpassed e rfl
      refine (run_handle_error (run_bind_error hmutate _) _).trans ?_
      cases e with
      | runNotFound text => rfl
      | runConflict text => rfl
      | config text => exact absurd he id
      | recordNotFound text => exact absurd he id
      | revisionConflict text => exact absurd he id
      | store => exact absurd he id
      | outside text => exact absurd he id
  obtain ⟨w₂, hreleased, hheld⟩ := run_releaseLease c w₁ runId 10
  refine ⟨w₂, ?_, hheld⟩
  rw [abandon, run_bind_ok hrecorded, run_bind_ok hreleased]
  rfl

end Record

/-! ## A call of `start` -/

section Start

variable {c : Surroundings} {w : World} {runId : String} {config : BenchmarkConfig}

/-- Once the lease is acquired, a start that raises gives it up. -/
lemma notHeld_of_acquired {s : Store Value} {w' : World} {error : Failure}
    (hacquired : run (exec c) (acquireLease runId config.maximumTime 12) { store := s } = (.ok (), w))
    (hraised : startRun c (.ok config) runId s = (.error error, w')) : NotHeld w'.store runId := by
  have hrest : startRun c (.ok config) runId s =
      run (exec c) ((submit runId config (c.clock w.readings)).handle (abandon runId)) w.read :=
    run_bind_ok hacquired _
  rw [hrest] at hraised
  cases hsubmit : run (exec c) (submit runId config (c.clock w.readings)) w.read with
  | mk result w₁ =>
    cases result with
    | ok record =>
      rw [run_handle_ok hsubmit] at hraised
      cases hraised
    | error e =>
      obtain ⟨w₂, habandon, hheld⟩ := run_abandon c w₁ runId e
      rw [run_handle_error hsubmit, habandon] at hraised
      cases hraised
      exact hheld

/-- The lease is not acquired. -/
lemma startRun_of_error {s : Store Value} {error : Failure}
    (h : run (exec c) (acquireLease runId config.maximumTime 12) { store := s } = (.error error, w)) :
    startRun c (.ok config) runId s = (.error error, w) :=
  run_bind_error h _

/-- The reply to the first write of the lease is lost, and the lease that it wrote has not expired
when the clock is read again. -/
def LeaseWriteLost (c : Surroundings) (request : Except String BenchmarkConfig) (s : Store Value) :
    Prop :=
  ∃ config, request = .ok config ∧ c.fault = some (1, .after) ∧ Free s (c.clock 0) ∧
    c.clock 1 < c.clock 0 + config.maximumTime

/-- Such a start raises and leaves its lease. -/
lemma startRun_of_leaseWriteLost (runId : String) {s : Store Value}
    {request : Except String BenchmarkConfig}
    (h : LeaseWriteLost c request s) :
    ∃ error w', startRun c request runId s = (.error error, w') ∧ w'.readings = 2 ∧
      HeldUnexpired w'.store runId (c.clock 1) := by
  obtain ⟨config, rfl, hfault, hfree, hunexpired⟩ := h
  have hlost : Lost c (World.mk s 0 0).read.called := hfault
  have hown : ((World.mk s 0 0).read.called.wrote .lease
      ((World.mk s 0 0).newLease c runId config.maximumTime)).store.record .lease =
      some ⟨{ runId := runId, leaseUntil := c.clock 0 + config.maximumTime }, s.sequence + 1⟩ :=
    Store.put_record_self _ _ _
  have hconflict := run_acquireLease_of_held runId config.maximumTime hown
    hunexpired 10
  rw [← run_acquireLease_of_lost runId config.maximumTime hfree hlost] at hconflict
  exact ⟨_, _, startRun_of_error hconflict, rfl, _, hown, rfl, hunexpired⟩

/-- A start that is not cut off from the reply to its first write of the lease raises without a
lease. -/
lemma notHeld_of_not_leaseWriteLost {s : Store Value} {request : Except String BenchmarkConfig}
    (hfresh : ∀ entry, s.record .lease = some entry → Lease.runId entry.value ≠ runId)
    (h : ¬LeaseWriteLost c request s) {error : Failure} {w' : World}
    (hraised : startRun c request runId s = (.error error, w')) : NotHeld w'.store runId := by
  have hforeign : NotHeld s runId :=
    notHeld_of_forall fun entry hentry => Or.inl (hfresh entry hentry)
  cases request with
  | error text =>
    cases hraised
    exact hforeign
  | ok config =>
    rcases free_or_held s (c.clock 0) with hfree | ⟨entry, hrecord, hheld⟩
    · by_cases hlost : Lost c (World.mk s 0 0).read.called
      · -- the second attempt finds the lease of the first, which has expired
        have hexpired : c.clock 0 + config.maximumTime ≤ c.clock 1 := by
          by_contra hunexpired
          exact h ⟨config, rfl, hlost, hfree, not_le.mp hunexpired⟩
        have hfree' : Free ((World.mk s 0 0).read.called.wrote .lease
            ((World.mk s 0 0).newLease c runId config.maximumTime)).store (c.clock 1) := by
          intro entry hentry
          rw [World.wrote, Store.put_record_self] at hentry
          cases hentry
          exact hexpired
        have hsecond := run_acquireLease_of_free runId config.maximumTime
          hfree' (hlost.not_lost_later (show 1 < 3 by decide)) 10
        rw [← run_acquireLease_of_lost runId config.maximumTime hfree hlost] at hsecond
        exact notHeld_of_acquired hsecond hraised
      · exact notHeld_of_acquired (run_acquireLease_of_free runId config.maximumTime hfree hlost 11) hraised
    · have hconflict := run_acquireLease_of_held (c := c) (w := { store := s }) runId
        config.maximumTime hrecord hheld 11
      rw [startRun_of_error hconflict] at hraised
      cases hraised
      exact hforeign

/-- A start with one failure of the store that raises does not leave the lease unexpired under its run
ID, exactly if the reply to its first write of the lease was not lost or that lease had expired when
the clock was read again. -/
theorem failed_start_releases_lease_iff (c : Surroundings)
    (request : Except String BenchmarkConfig) (runId : String) (s : Store Value)
    (hfresh : ∀ entry, s.record .lease = some entry → Lease.runId entry.value ≠ runId) :
    (∀ error w, startRun c request runId s = (.error error, w) →
        ∀ time, c.clock (w.readings - 1) ≤ time → ¬HeldUnexpired w.store runId time) ↔
      ¬LeaseWriteLost c request s := by
  constructor
  · intro hreleases hlost
    obtain ⟨error, w', hraised, hreadings, hheld⟩ :=
      startRun_of_leaseWriteLost runId hlost
    refine hreleases error w' hraised (c.clock 1) ?_ hheld
    rw [hreadings]
  · intro hnotLost error w hraised time _
    exact notHeld_of_not_leaseWriteLost hfresh hnotLost hraised time

end Start

/-- A store without records. -/
def emptyStore : Store Value where
  record := fun _ => none
  sequence := 0
  bounded := by simp

/-- One failure, a clock that stands, and a cluster that refuses the Job. -/
def refusingCluster (fault : ℕ × Fault) : Surroundings where
  fault := some fault
  clock := fun _ => 1700000000000000000
  answer
    | .clock => 0
    | .jobsCreate _ _ => .error "forbidden"
    | .jobsState _ => .notFound
    | .jobsDelete _ => .ok ()
    | .work => .ok ()
    | .report => .error "no report"
    | .heartbeatStop => true

/-- A start whose Job is refused releases its lease, with a failure before the write of the lease. -/
theorem refused_start_releases_lease :
    ∃ error w, startRun (refusingCluster (1, .before)) (.ok ⟨60, 1⟩) "run-1" emptyStore =
        (.error error, w) ∧
      ∀ time, 1700000000000000000 ≤ time → ¬HeldUnexpired w.store "run-1" time := by
  refine ⟨_, _, rfl, ?_⟩
  refine (failed_start_releases_lease_iff (refusingCluster (1, .before)) (.ok ⟨60, 1⟩) "run-1"
    emptyStore ?_).mpr ?_ _ _ rfl
  · rintro entry ⟨⟩
  · rintro ⟨config, -, hfault, -⟩
    cases hfault

/-- The reply to the creation of the lease is lost: the start raises and its lease is held. -/
theorem lost_lease_write_blocks :
    ∃ error w, startRun (refusingCluster (1, .after)) (.ok ⟨60, 1⟩) "run-1" emptyStore =
        (.error error, w) ∧
      HeldUnexpired w.store "run-1" 1700000000000000000 :=
  ⟨_, _, rfl, _, rfl, rfl, by decide⟩

end Boutique.Benchmark
