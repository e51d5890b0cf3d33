import Boutique.Lib.Run
import Mathlib.Order.Lattice
import Mathlib.Logic.Function.Basic
import Mathlib.Order.Nat
import Mathlib.Data.List.Induction

/-!
# Update loops on one key of a revisioned store

Many callers update one key of a store.  A call reads the value and its revision, decides on what it
read whether to return or to write, and writes under the condition that the key still has the
revision it read.  A refused write starts the next attempt, possibly with a changed input.

A caller may read through the cache of its replica, which keeps what some call of the replica read or
wrote.  Reading the store, filling the cache, writing and invalidating are separate steps, between
which other calls act.  The revision of a value is its number among the writes to the key.
-/

namespace CasLoop

/-! ## Loops -/

/-- What an attempt does with the value it read. -/
inductive Decision (ι V ρ : Type*) where
  /-- Return without writing. -/
  | finish (result : ρ)
  /-- Write `value` and return `result`, or go on with `input` when the write is refused. -/
  | write (input : ι) (value : V) (result : ρ)

/-- A loop: the decision on the value that was read, and the number of attempts. -/
structure Loop (ι V ρ : Type*) where
  decide : ι → Option V → Decision ι V ρ
  maxAttempts : ℕ

/-- A successful write, with the call that made it and the input of its attempt. -/
structure Write (κ ι V : Type*) where
  caller : κ
  input : ι
  value : V

/-- Where a call is. -/
inductive Phase (ι V ρ : Type*) where
  | idle
  | lookup (input : ι) (attempt : ℕ)
  | fetch (input : ι) (attempt : ℕ)
  | keep (input : ι) (attempt revision : ℕ) (value : V)
  | write (input : ι) (attempt revision : ℕ) (next : ι) (value : V) (result : ρ)
  | wrote (input : ι) (revision : ℕ) (value : V) (result : ρ)
  | refused (next : ι) (attempt : ℕ) (conflict : Bool)
  /-- The call returned a result, or `none` for an error of the store or too many attempts. -/
  | returned (input : ι) (result : Option ρ)

/-- The replica of each call, and whether the replicas read through a cache. -/
structure Net (κ R : Type*) where
  replica : κ → R
  cached : Bool

/-- Calls that read the store without a cache. -/
def Net.plain (κ : Type*) : Net κ Unit where
  replica := fun _ => ()
  cached := false

/-- The writes to the key, the caches of the replicas and the calls.  `done` records, in order, the
attempts that settled a call. -/
structure State (κ R ι V ρ : Type*) where
  log : List (Write κ ι V) := []
  cache : R → Option (ℕ × V) := fun _ => none
  phase : κ → Phase ι V ρ := fun _ => .idle
  done : List (κ × ι × ρ) := []

/-- The steps of calls and caches.  In a step `lose` the write takes effect and its reply is lost,
and in a step `fail` the call ends with an error of the store. -/
inductive Action (κ R ι : Type*) where
  | start (c : κ) (input : ι)
  | lookup (c : κ) | fetch (c : κ) | keep (c : κ)
  | write (c : κ) | lose (c : κ) | store (c : κ) | invalidate (c : κ)
  | fail (c : κ)
  | evict (r : R)

section System

variable {κ R ι V ρ : Type*}

/-- The value that the writes leave. -/
def current (log : List (Write κ ι V)) : Option V := log.getLast?.map Write.value

/-- The value with a revision, `none` for revision 0. -/
def valueAt (log : List (Write κ ι V)) (revision : ℕ) : Option V := current (log.take revision)

variable [DecidableEq κ] [DecidableEq R] (L : Loop ι V ρ) (N : Net κ R)

/-- The state with another phase of a call. -/
def State.setPhase (s : State κ R ι V ρ) (c : κ) (phase : Phase ι V ρ) : State κ R ι V ρ :=
  { s with phase := Function.update s.phase c phase }

/-- The cache of the replica of `c` gets an entry, or none. -/
def State.setCache (s : State κ R ι V ρ) (c : κ) (entry : Option (ℕ × V)) : State κ R ι V ρ :=
  if N.cached then { s with cache := Function.update s.cache (N.replica c) entry } else s

/-- A call decides on what it read. -/
def State.settle (s : State κ R ι V ρ) (c : κ) (input : ι) (attempt revision : ℕ)
    (value : Option V) : State κ R ι V ρ :=
  match L.decide input value with
  | .finish result =>
    { s.setPhase c (.returned input (some result)) with done := s.done ++ [(c, input, result)] }
  | .write next value result => s.setPhase c (.write input attempt revision next value result)

/-- The state after a write to the key. -/
def State.commit (s : State κ R ι V ρ) (c : κ) (input : ι) (value : V) (result : ρ)
    (phase : Phase ι V ρ) : State κ R ι V ρ :=
  { s.setPhase c phase with
    log := s.log ++ [{ caller := c, input := input, value := value }]
    done := s.done ++ [(c, input, result)] }

/-- One step. -/
def step (s : State κ R ι V ρ) : Action κ R ι → Option (State κ R ι V ρ)
  | .start c input =>
    match s.phase c with
    | .idle => some (s.setPhase c (.lookup input 0))
    | _ => none
  | .lookup c =>
    match s.phase c with
    | .lookup input n =>
      match s.cache (N.replica c) with
      | some (revision, value) => some (s.settle L c input n revision (some value))
      | none => some (s.setPhase c (.fetch input n))
    | _ => none
  | .fetch c =>
    match s.phase c with
    | .fetch input n =>
      match current s.log with
      | some value =>
        if N.cached then some (s.setPhase c (.keep input n s.log.length value))
        else some (s.settle L c input n s.log.length (some value))
      | none => some (s.settle L c input n 0 none)
    | _ => none
  | .keep c =>
    match s.phase c with
    | .keep input n revision value =>
      some ((s.setCache N c (some (revision, value))).settle L c input n revision (some value))
    | _ => none
  | .write c =>
    match s.phase c with
    | .write input n revision next value result =>
      if revision = s.log.length then
        some (s.commit c input value result (.wrote input (s.log.length + 1) value result))
      else some (s.setPhase c (.refused next n true))
    | _ => none
  | .lose c =>
    match s.phase c with
    | .write input n revision next value result =>
      if revision = s.log.length then
        some (s.commit c input value result (.refused next n false))
      else none
    | _ => none
  | .store c =>
    match s.phase c with
    | .wrote input revision value result =>
      some ((s.setCache N c (some (revision, value))).setPhase c (.returned input (some result)))
    | _ => none
  | .invalidate c =>
    match s.phase c with
    | .refused next n conflict =>
      some ((s.setCache N c none).setPhase c
        (if conflict = true ∧ n + 1 < L.maxAttempts then .lookup next (n + 1)
        else .returned next none))
    | _ => none
  | .fail c =>
    match s.phase c with
    | .lookup input _ | .fetch input _ | .keep input _ _ _ | .write input _ _ _ _ _ =>
      some (s.setPhase c (.returned input none))
    | _ => none
  | .evict r => some { s with cache := Function.update s.cache r none }

end System

/-! ## The parts of a changed state -/

section Accessors

variable {κ R ι V ρ : Type*} {L : Loop ι V ρ} {N : Net κ R} (s : State κ R ι V ρ) (c : κ)
  (p : Phase ι V ρ) (entry : Option (ℕ × V))

@[simp] lemma setPhase_log [DecidableEq κ] : (s.setPhase c p).log = s.log := rfl

@[simp] lemma setPhase_cache [DecidableEq κ] : (s.setPhase c p).cache = s.cache := rfl

@[simp] lemma setPhase_phase [DecidableEq κ] :
    (s.setPhase c p).phase = Function.update s.phase c p := rfl

@[simp] lemma setPhase_done [DecidableEq κ] : (s.setPhase c p).done = s.done := rfl

@[simp] lemma setCache_log [DecidableEq R] : (s.setCache N c entry).log = s.log := by
  unfold State.setCache
  split_ifs <;> rfl

@[simp] lemma setCache_phase [DecidableEq R] : (s.setCache N c entry).phase = s.phase := by
  unfold State.setCache
  split_ifs <;> rfl

@[simp] lemma setCache_done [DecidableEq R] : (s.setCache N c entry).done = s.done := by
  unfold State.setCache
  split_ifs <;> rfl

@[simp] lemma settle_log [DecidableEq κ] (input : ι) (n revision : ℕ) (value : Option V) :
    (s.settle L c input n revision value).log = s.log := by
  unfold State.settle
  split <;> rfl

end Accessors

/-! ## What a step does -/

section Moves

variable {κ R ι V ρ : Type*} [DecidableEq κ] [DecidableEq R]

/-- The steps by what they do. -/
inductive Move (L : Loop ι V ρ) (N : Net κ R) (s : State κ R ι V ρ) :
    Action κ R ι → State κ R ι V ρ → Prop where
  | start {c input} (h : s.phase c = .idle) :
      Move L N s (.start c input) (s.setPhase c (.lookup input 0))
  | hit {c input n revision value} (h : s.phase c = .lookup input n)
      (hcache : s.cache (N.replica c) = some (revision, value)) :
      Move L N s (.lookup c) (s.settle L c input n revision (some value))
  | miss {c input n} (h : s.phase c = .lookup input n) (hcache : s.cache (N.replica c) = none) :
      Move L N s (.lookup c) (s.setPhase c (.fetch input n))
  | found {c input n value} (h : s.phase c = .fetch input n) (hvalue : current s.log = some value)
      (hN : N.cached = true) :
      Move L N s (.fetch c) (s.setPhase c (.keep input n s.log.length value))
  | read {c input n value} (h : s.phase c = .fetch input n) (hvalue : current s.log = some value)
      (hN : N.cached = false) :
      Move L N s (.fetch c) (s.settle L c input n s.log.length (some value))
  | absent {c input n} (h : s.phase c = .fetch input n) (hvalue : current s.log = none) :
      Move L N s (.fetch c) (s.settle L c input n 0 none)
  | kept {c input n revision value} (h : s.phase c = .keep input n revision value) :
      Move L N s (.keep c)
        ((s.setCache N c (some (revision, value))).settle L c input n revision (some value))
  | committed {c input n next value result}
      (h : s.phase c = .write input n s.log.length next value result) :
      Move L N s (.write c)
        (s.commit c input value result (.wrote input (s.log.length + 1) value result))
  | conflict {c input n revision next value result}
      (h : s.phase c = .write input n revision next value result)
      (hrevision : revision ≠ s.log.length) :
      Move L N s (.write c) (s.setPhase c (.refused next n true))
  | lost {c input n next value result}
      (h : s.phase c = .write input n s.log.length next value result) :
      Move L N s (.lose c) (s.commit c input value result (.refused next n false))
  | stored {c input revision value result} (h : s.phase c = .wrote input revision value result) :
      Move L N s (.store c) ((s.setCache N c (some (revision, value))).setPhase c
        (.returned input (some result)))
  | again {c next n} (h : s.phase c = .refused next n true) (hn : n + 1 < L.maxAttempts) :
      Move L N s (.invalidate c) ((s.setCache N c none).setPhase c (.lookup next (n + 1)))
  | gaveUp {c next n conflict} (h : s.phase c = .refused next n conflict) :
      Move L N s (.invalidate c) ((s.setCache N c none).setPhase c (.returned next none))
  | failed {c input} (h : (∃ n, s.phase c = .lookup input n) ∨ (∃ n, s.phase c = .fetch input n) ∨
        (∃ n revision value, s.phase c = .keep input n revision value) ∨
        ∃ n revision next value result, s.phase c = .write input n revision next value result) :
      Move L N s (.fail c) (s.setPhase c (.returned input none))
  | evicted {r} : Move L N s (.evict r) { s with cache := Function.update s.cache r none }

variable {L : Loop ι V ρ} {N : Net κ R} {s s' : State κ R ι V ρ} {a : Action κ R ι}

/-- Every step is one of the moves. -/
theorem step_move (h : step L N s a = some s') : Move L N s a s' := by
  cases a with
  | start c input =>
    simp only [step] at h
    split at h <;> cases h
    exact .start ‹_›
  | lookup c =>
    simp only [step] at h
    split at h
    · split at h <;> cases h
      · exact .hit ‹_› ‹_›
      · exact .miss ‹_› ‹_›
    · cases h
  | fetch c =>
    simp only [step] at h
    split at h
    · split at h
      · split_ifs at h with hN <;> cases h
        · exact .found ‹_› ‹_› hN
        · exact .read ‹_› ‹_› (Bool.eq_false_iff.mpr hN)
      · cases h
        exact .absent ‹_› ‹_›
    · cases h
  | keep c =>
    simp only [step] at h
    split at h <;> cases h
    exact .kept ‹_›
  | write c =>
    simp only [step] at h
    split at h
    · next hphase =>
      split_ifs at h with hrevision <;> cases h
      · subst hrevision
        exact .committed hphase
      · exact .conflict hphase hrevision
    · cases h
  | lose c =>
    simp only [step] at h
    split at h
    · next hphase =>
      split_ifs at h with hrevision
      cases h
      subst hrevision
      exact .lost hphase
    · cases h
  | store c =>
    simp only [step] at h
    split at h <;> cases h
    exact .stored ‹_›
  | invalidate c =>
    simp only [step] at h
    split at h
    · next hphase =>
      cases h
      split_ifs with hagain
      · obtain ⟨rfl, hn⟩ := hagain
        exact .again hphase hn
      · exact .gaveUp hphase
    · cases h
  | fail c =>
    simp only [step] at h
    split at h <;> cases h
    · exact .failed (.inl ⟨_, ‹_›⟩)
    · exact .failed (.inr (.inl ⟨_, ‹_›⟩))
    · exact .failed (.inr (.inr (.inl ⟨_, _, _, ‹_›⟩)))
    · exact .failed (.inr (.inr (.inr ⟨_, _, _, _, _, ‹_›⟩)))
  | evict r =>
    cases h
    exact .evicted

end Moves

/-! ## Values and revisions -/

section Values

variable {κ ι V : Type*} {log : List (Write κ ι V)} {n : ℕ}

/-- Later writes do not change the value of a revision. -/
lemma valueAt_append (h : n ≤ log.length) (rest : List (Write κ ι V)) :
    valueAt (log ++ rest) n = valueAt log n := by
  rw [valueAt, List.take_append_of_le_length h]
  rfl

/-- The last revision is the current value. -/
lemma valueAt_length : valueAt log log.length = current log := by
  rw [valueAt, List.take_length]

/-- A written value is the value of the next revision. -/
lemma current_concat (log : List (Write κ ι V)) (w : Write κ ι V) : current (log ++ [w]) = some w.value := by
  simp [current]

/-- There is no value before the first write. -/
lemma current_eq_none : current log = none ↔ log = [] := by
  rw [current, Option.map_eq_none_iff, List.getLast?_eq_none_iff]

/-- Without a value there was none before. -/
lemma valueAt_eq_none_of_le {m : ℕ} (hm : m ≤ n) (h : valueAt log n = none) :
    valueAt log m = none := by
  rw [valueAt, current_eq_none] at h ⊢
  rw [← Nat.min_eq_left hm, ← List.take_take, h, List.take_nil]

/-- A value is one of those written. -/
lemma valueAt_mem {v : V} (h : valueAt log n = some v) : ∃ w ∈ log, w.value = v := by
  obtain ⟨w, hw, rfl⟩ := Option.map_eq_some_iff.mp h
  exact ⟨w, List.mem_of_mem_take (List.mem_of_getLast? hw), rfl⟩

end Values

/-! ## The invariant -/

section Invariant

variable {κ R ι V ρ : Type*}

/-- Every write is what its attempt decides on the value before it. -/
def Written (L : Loop ι V ρ) (log : List (Write κ ι V)) : Prop :=
  ∀ pre w post, log = pre ++ w :: post →
    ∃ next result, L.decide w.input (current pre) = .write next w.value result

/-- The value was current once, with this revision. -/
def Stored (log : List (Write κ ι V)) (revision : ℕ) (value : V) : Prop :=
  revision ≤ log.length ∧ valueAt log revision = some value

/-- The call has written, with this input and this result. -/
def Wrote (L : Loop ι V ρ) (log : List (Write κ ι V)) (c : κ) (input : ι) (result : ρ) : Prop :=
  ∃ pre value post next, log = pre ++ { caller := c, input := input, value := value } :: post ∧
    L.decide input (current pre) = .write next value result

/-- What the phase of a call says about the writes so far. -/
def Phase.Sound (L : Loop ι V ρ) (log : List (Write κ ι V)) (c : κ) : Phase ι V ρ → Prop
  | .keep _ _ revision value => Stored log revision value
  | .write input _ revision next value result =>
    revision ≤ log.length ∧ L.decide input (valueAt log revision) = .write next value result
  | .wrote input revision value result =>
    Stored log revision value ∧ Wrote L log c input result
  | .returned input (some result) =>
    Wrote L log c input result ∨
      ∃ revision ≤ log.length, L.decide input (valueAt log revision) = .finish result
  | _ => True

/-- Caches and calls hold values that were current once. -/
structure Sound (L : Loop ι V ρ) (s : State κ R ι V ρ) : Prop where
  cache : ∀ r revision value, s.cache r = some (revision, value) → Stored s.log revision value
  phases : ∀ c, (s.phase c).Sound L s.log c
  written : Written L s.log

variable {L : Loop ι V ρ} {log : List (Write κ ι V)} {c : κ}

/-- A write is added to a list of writes. -/
lemma Written.concat {w : Write κ ι V} {next : ι} {result : ρ} (h : Written L log)
    (hw : L.decide w.input (current log) = .write next w.value result) :
    Written L (log ++ [w]) := by
  intro pre w' post heq
  rcases List.append_eq_append_iff.mp heq with ⟨mid, rfl, hmid⟩ | ⟨mid, rfl, hmid⟩
  · cases mid with
    | nil =>
      obtain ⟨rfl, -⟩ := List.cons.inj hmid
      rw [List.append_nil] 
      exact ⟨next, result, hw⟩
    | cons _ mid => simp at hmid
  · cases mid with
    | nil =>
      obtain ⟨rfl, -⟩ := List.cons.inj hmid
      rw [List.append_nil] at hw
      exact ⟨next, result, hw⟩
    | cons x mid =>
      obtain ⟨rfl, -⟩ := List.cons.inj hmid
      exact h pre _ mid rfl

/-- The earlier writes. -/
lemma Written.left {pre post : List (Write κ ι V)} (h : Written L (pre ++ post)) :
    Written L pre := by
  intro pre' w post' heq
  exact h pre' w (post' ++ post) (by rw [heq, List.append_assoc, List.cons_append])

/-- What was current once stays so. -/
lemma Stored.append {revision : ℕ} {value : V} (h : Stored log revision value)
    (rest : List (Write κ ι V)) : Stored (log ++ rest) revision value := by
  refine ⟨h.1.trans (by simp), ?_⟩
  rw [valueAt_append h.1]
  exact h.2

/-- The current value is stored with the last revision. -/
lemma Stored.current {value : V} (h : current log = some value) :
    Stored log log.length value := by
  refine ⟨le_rfl, ?_⟩
  rw [valueAt_length]
  exact h

/-- What was written stays written. -/
lemma Wrote.append {input : ι} {result : ρ} (h : Wrote L log c input result)
    (rest : List (Write κ ι V)) : Wrote L (log ++ rest) c input result := by
  obtain ⟨pre, value, post, next, rfl, hdecide⟩ := h
  exact ⟨pre, value, post ++ rest, next, by simp, hdecide⟩

/-- What a phase says stays true. -/
lemma Phase.Sound.append {phase : Phase ι V ρ} (h : phase.Sound L log c)
    (rest : List (Write κ ι V)) : phase.Sound L (log ++ rest) c := by
  cases phase with
  | keep => exact Stored.append h rest
  | write =>
    refine ⟨h.1.trans (by simp), ?_⟩
    rw [valueAt_append h.1]
    exact h.2
  | wrote => exact ⟨Stored.append h.1 rest, Wrote.append h.2 rest⟩
  | returned input result =>
    cases result with
    | none => trivial
    | some result =>
      rcases h with hwrote | ⟨revision, hle, hdecide⟩
      · exact .inl (hwrote.append rest)
      · refine .inr ⟨revision, hle.trans (by simp), ?_⟩
        rw [valueAt_append hle]
        exact hdecide
  | idle | lookup | fetch | refused => trivial

variable [DecidableEq κ] [DecidableEq R] {N : Net κ R} {s s' : State κ R ι V ρ} {a : Action κ R ι}

omit [DecidableEq R] in
/-- Something that holds of the phases of all calls holds after a call has moved on. -/
lemma forall_setPhase {Q : κ → Phase ι V ρ → Prop} {p : Phase ι V ρ} (h : ∀ c, Q c (s.phase c))
    (hp : Q c p) : ∀ d, Q d ((s.setPhase c p).phase d) := by
  intro d
  by_cases hd : d = c
  · subst hd
    rw [setPhase_phase, Function.update_self]
    exact hp
  · rw [setPhase_phase, Function.update_of_ne hd]
    exact h d

omit [DecidableEq κ] [DecidableEq R] in
/-- What the invariant says about a call whose phase is known. -/
lemma Sound.of_phase (h : Sound L s) {p : Phase ι V ρ} (hc : s.phase c = p) :
    p.Sound L s.log c :=
  hc ▸ h.phases c

omit [DecidableEq R] in
/-- A call moves on and nothing else changes. -/
lemma Sound.setPhase (h : Sound L s) {p : Phase ι V ρ} (hp : p.Sound L s.log c) :
    Sound L (s.setPhase c p) :=
  ⟨h.cache, forall_setPhase (Q := fun c p => p.Sound L s.log c) h.phases hp, h.written⟩

omit [DecidableEq κ] in
/-- A cache entry is set or dropped. -/
lemma Sound.setCache (h : Sound L s) (entry : Option (ℕ × V))
    (hentry : ∀ revision value, entry = some (revision, value) → Stored s.log revision value) :
    Sound L (s.setCache N c entry) := by
  unfold State.setCache
  split_ifs
  · refine ⟨fun r revision value hr => ?_, h.phases, h.written⟩
    change Function.update s.cache (N.replica c) entry r = some (revision, value) at hr
    by_cases heq : r = N.replica c
    · subst heq
      rw [Function.update_self] at hr
      exact hentry revision value hr
    · rw [Function.update_of_ne heq] at hr
      exact h.cache r revision value hr
  · exact h

omit [DecidableEq R] in
/-- A call decides on a value that was current once. -/
lemma Sound.settle (h : Sound L s) {input : ι} {n revision : ℕ} {value : Option V}
    (hrevision : revision ≤ s.log.length) (hvalue : valueAt s.log revision = value) :
    Sound L (s.settle L c input n revision value) := by
  subst hvalue
  unfold State.settle
  split
  · next result hdecide =>
    have hphase := h.setPhase (c := c) (p := .returned input (some result))
      (.inr ⟨revision, hrevision, hdecide⟩)
    exact ⟨hphase.cache, hphase.phases, hphase.written⟩
  · next next value result hdecide => exact h.setPhase ⟨hrevision, hdecide⟩

omit [DecidableEq R] in
/-- A write on the current revision. -/
lemma Sound.commit (h : Sound L s) {input next : ι} {n : ℕ} {value : V} {result : ρ}
    {p : Phase ι V ρ} (hc : s.phase c = .write input n s.log.length next value result)
    (hp : p.Sound L (s.log ++ [{ caller := c, input := input, value := value }]) c) :
    Sound L (s.commit c input value result p) := by
  have hwrite := h.of_phase hc
  refine ⟨fun r revision v hr => (h.cache r revision v hr).append _,
    forall_setPhase (Q := fun d p => p.Sound L _ d) (fun d => (h.phases d).append _) hp,
    h.written.concat (?_ : L.decide input (current s.log) = .write next value result)⟩
  rw [← valueAt_length]
  exact hwrite.2

/-- Every step keeps the invariant. -/
theorem Sound.step (h : Sound L s) (hmove : Move L N s a s') : Sound L s' := by
  cases hmove with
  | start hc => exact h.setPhase trivial
  | hit hc hcache =>
    obtain ⟨hle, hvalue⟩ := h.cache _ _ _ hcache
    exact h.settle hle hvalue
  | miss hc hcache => exact h.setPhase trivial
  | found hc hvalue => exact h.setPhase (Stored.current hvalue)
  | read hc hvalue =>
    obtain ⟨hle, hvalue⟩ := Stored.current hvalue
    exact h.settle hle hvalue
  | absent hc hvalue => exact h.settle (Nat.zero_le _) rfl
  | @kept c _ _ revision value hc =>
    have hstored := h.of_phase hc
    have hcached := h.setCache (N := N) (c := c) (some (revision, value)) (by
      rintro _ _ ⟨⟩
      exact hstored)
    exact hcached.settle (by simpa using hstored.1) (by simpa using hstored.2)
  | @committed c input n next value result hc =>
    have hdecide := (h.of_phase hc).2
    rw [valueAt_length] at hdecide
    refine h.commit hc ⟨?_, s.log, value, [], next, rfl, hdecide⟩
    have hlast := Stored.current (current_concat s.log
      { caller := c, input := input, value := value })
    simpa using hlast
  | conflict hc hrevision => exact h.setPhase trivial
  | lost hc => exact h.commit hc trivial
  | @stored c input revision value result hc =>
    have hwrote := h.of_phase hc
    have hcached := h.setCache (N := N) (c := c) (some (revision, value)) (by
      rintro _ _ ⟨⟩
      exact hwrote.1)
    exact hcached.setPhase (.inl (by simpa using hwrote.2))
  | again hc hn => exact (h.setCache none (by rintro _ _ ⟨⟩)).setPhase trivial
  | gaveUp hc => exact (h.setCache none (by rintro _ _ ⟨⟩)).setPhase trivial
  | failed hc => exact h.setPhase trivial
  | @evicted r =>
    refine ⟨fun r' revision value hr => ?_, h.phases, h.written⟩
    change Function.update s.cache r none r' = some (revision, value) at hr
    by_cases heq : r' = r
    · subst heq
      rw [Function.update_self] at hr
      cases hr
    · rw [Function.update_of_ne heq] at hr
      exact h.cache r' revision value hr

omit [DecidableEq κ] [DecidableEq R] in
/-- The invariant holds before the first step. -/
lemma Sound.init : Sound L ({} : State κ R ι V ρ) := by
  refine ⟨by rintro _ _ _ ⟨⟩, fun _ => trivial, ?_⟩
  intro pre w post h
  simp at h

/-- The invariant holds in every state that is reached. -/
theorem sound_of_run {acts : List (Action κ R ι)}
    (hrun : StepSystem.run (step L N) {} acts = some s) : Sound L s :=
  StepSystem.run_invariant_of_step (fun _ _ _ h hstep => h.step (step_move hstep)) .init hrun

end Invariant

/-! ## The inputs of the attempts -/

section Inputs

variable {κ R ι V ρ : Type*} {L : Loop ι V ρ} {P : κ → ι → Prop}

/-- The inputs of a call satisfy `P`. -/
def Phase.Inputs (P : ι → Prop) : Phase ι V ρ → Prop
  | .idle => True
  | .lookup input _ | .fetch input _ | .keep input _ _ _ | .wrote input _ _ _
  | .refused input _ _ | .returned input _ => P input
  | .write input _ _ next _ _ => P input ∧ P next

/-- The inputs of every call satisfy `P`, which may depend on the call. -/
structure Inputs (P : κ → ι → Prop) (s : State κ R ι V ρ) : Prop where
  phases : ∀ c, (s.phase c).Inputs (P c)
  log : ∀ w ∈ s.log, P w.caller w.input

/-- No attempt leads out of `P`. -/
def Closed (L : Loop ι V ρ) (P : ι → Prop) : Prop :=
  ∀ input v next value result, P input → L.decide input v = .write next value result → P next

variable [DecidableEq κ] [DecidableEq R] {N : Net κ R} {s s' : State κ R ι V ρ} {a : Action κ R ι}
  {c : κ}

omit [DecidableEq κ] [DecidableEq R] in
/-- The inputs of a call whose phase is known. -/
lemma Inputs.of_phase (h : Inputs P s) {p : Phase ι V ρ} (hc : s.phase c = p) : p.Inputs (P c) :=
  hc ▸ h.phases c

omit [DecidableEq R] in
/-- A call moves on. -/
lemma Inputs.setPhase (h : Inputs P s) {p : Phase ι V ρ} (hp : p.Inputs (P c)) :
    Inputs P (s.setPhase c p) :=
  ⟨forall_setPhase (Q := fun c p => p.Inputs (P c)) h.phases hp, h.log⟩

omit [DecidableEq R] in
/-- A call decides. -/
lemma Inputs.settle (h : Inputs P s) {input : ι} {n revision : ℕ} {value : Option V}
    (hclosed : Closed L (P c)) (hinput : P c input) :
    Inputs P (s.settle L c input n revision value) := by
  unfold State.settle
  split
  · exact ⟨(h.setPhase (c := c) (p := .returned input _) hinput).phases, h.log⟩
  · next next value result hdecide =>
    exact h.setPhase ⟨hinput, hclosed input _ next value result hinput hdecide⟩

omit [DecidableEq R] in
/-- A call writes. -/
lemma Inputs.commit (h : Inputs P s) {input : ι} {value : V} {result : ρ} {p : Phase ι V ρ}
    (hinput : P c input) (hp : p.Inputs (P c)) : Inputs P (s.commit c input value result p) := by
  refine ⟨(h.setPhase (c := c) hp).phases, fun w hw => ?_⟩
  rcases List.mem_append.mp hw with hw | hw
  · exact h.log w hw
  · rw [List.mem_singleton.mp hw]
    exact hinput

omit [DecidableEq κ] in
/-- Caches hold no inputs. -/
lemma Inputs.setCache (h : Inputs P s) {entry : Option (ℕ × V)} :
    Inputs P (s.setCache N c entry) :=
  ⟨by simpa using h.phases, by simpa using h.log⟩

/-- Every step keeps the inputs in `P`. -/
lemma Inputs.step (h : Inputs P s) (hclosed : ∀ c, Closed L (P c))
    (hstart : ∀ c input, a = .start c input → P c input) (hmove : Move L N s a s') :
    Inputs P s' := by
  cases hmove with
  | start hc => exact h.setPhase (hstart _ _ rfl)
  | hit hc hcache =>
    have hinput := h.of_phase hc
    exact h.settle (hclosed _) hinput
  | miss hc hcache =>
    have hinput := h.of_phase hc
    exact h.setPhase hinput
  | found hc hvalue =>
    have hinput := h.of_phase hc
    exact h.setPhase hinput
  | read hc hvalue =>
    have hinput := h.of_phase hc
    exact h.settle (hclosed _) hinput
  | absent hc hvalue =>
    have hinput := h.of_phase hc
    exact h.settle (hclosed _) hinput
  | kept hc =>
    have hinput := h.of_phase hc
    exact h.setCache.settle (hclosed _) hinput
  | committed hc =>
    have hinput := h.of_phase hc
    exact h.commit hinput.1 hinput.1
  | conflict hc hrevision =>
    have hinput := h.of_phase hc
    exact h.setPhase hinput.2
  | lost hc =>
    have hinput := h.of_phase hc
    exact h.commit hinput.1 hinput.2
  | stored hc =>
    have hinput := h.of_phase hc
    exact h.setCache.setPhase hinput
  | again hc hn =>
    have hinput := h.of_phase hc
    exact h.setCache.setPhase hinput
  | gaveUp hc =>
    have hinput := h.of_phase hc
    exact h.setCache.setPhase hinput
  | failed hc =>
    refine h.setPhase ?_
    rcases hc with ⟨_, hc⟩ | ⟨_, hc⟩ | ⟨_, _, _, hc⟩ | ⟨_, _, _, _, _, hc⟩ <;>
      have hinput := h.of_phase hc
    · exact hinput
    · exact hinput
    · exact hinput
    · exact hinput.1
  | evicted => exact ⟨h.phases, h.log⟩

/-- If the calls start with inputs in `P` and an attempt does not lead out of `P`, all inputs stay in
`P`. -/
theorem inputs_of_run {acts : List (Action κ R ι)} (hclosed : ∀ c, Closed L (P c))
    (hstart : ∀ c input, Action.start c input ∈ acts → P c input)
    (hrun : StepSystem.run (step L N) {} acts = some s) : Inputs P s := by
  refine StepSystem.run_invariant (P := fun _ a => ∀ c input, a = .start c input → P c input)
    (fun s a s' h hok hstep => h.step hclosed hok (step_move hstep)) ?_
    (StepSystem.Along.of_forall ?_ _) hrun
  · exact ⟨fun _ => trivial, by simp⟩
  · rintro a ha _ c input rfl
    exact hstart c input ha

end Inputs

/-! ## The writes of a call -/

section Callers

variable {κ R ι V ρ : Type*} {L : Loop ι V ρ}

/-- The call will not write any more. -/
def Phase.Settled : Phase ι V ρ → Prop
  | .wrote _ _ _ _ | .refused _ _ false | .returned _ _ => True
  | _ => False

/-- A call that has written is settled, and no call has written twice. -/
structure Callers (s : State κ R ι V ρ) : Prop where
  settled : ∀ w ∈ s.log, (s.phase w.caller).Settled
  nodup : (s.log.map Write.caller).Nodup

variable [DecidableEq κ] [DecidableEq R] {N : Net κ R} {s s' : State κ R ι V ρ} {a : Action κ R ι}
  {c : κ}

omit [DecidableEq R] in
/-- A call that is not settled, or stays settled, moves on. -/
lemma Callers.setPhase (h : Callers s) {p : Phase ι V ρ}
    (hp : ¬ (s.phase c).Settled ∨ p.Settled) : Callers (s.setPhase c p) := by
  refine ⟨fun w hw => ?_, h.nodup⟩
  have hsettled := h.settled w hw
  by_cases hwc : w.caller = c
  · rw [hwc] at hsettled ⊢
    rw [setPhase_phase, Function.update_self]
    exact hp.resolve_left (not_not_intro hsettled)
  · rw [setPhase_phase, Function.update_of_ne hwc]
    exact hsettled

omit [DecidableEq R] in
/-- A call decides. -/
lemma Callers.settle (h : Callers s) {input : ι} {n revision : ℕ} {value : Option V}
    (hc : ¬ (s.phase c).Settled) : Callers (s.settle L c input n revision value) := by
  unfold State.settle
  split
  · next result _ =>
    have hphase := h.setPhase (c := c) (p := .returned input (some result)) (.inl hc)
    exact ⟨hphase.settled, hphase.nodup⟩
  · exact h.setPhase (.inl hc)

omit [DecidableEq R] in
/-- A call writes. -/
lemma Callers.commit (h : Callers s) {input : ι} {value : V} {result : ρ} {p : Phase ι V ρ}
    (hc : ¬ (s.phase c).Settled) (hp : p.Settled) :
    Callers (s.commit c input value result p) := by
  have hphase := h.setPhase (c := c) (p := p) (.inl hc)
  refine ⟨fun w hw => ?_, ?_⟩
  · rcases List.mem_append.mp hw with hw | hw
    · exact hphase.settled w hw
    · rw [List.mem_singleton.mp hw]
      change (Function.update s.phase c p c).Settled
      rw [Function.update_self]
      exact hp
  · change ((s.log ++ [_]).map Write.caller).Nodup
    rw [List.map_append, List.nodup_append]
    refine ⟨h.nodup, by simp, ?_⟩
    rintro d hd e he rfl
    obtain ⟨w, hw, rfl⟩ := List.mem_map.mp hd
    rw [List.map_singleton, List.mem_singleton] at he
    change w.caller = c at he
    exact hc (he ▸ h.settled w hw)

omit [DecidableEq κ] in
/-- Caches do not write. -/
lemma Callers.setCache (h : Callers s) {entry : Option (ℕ × V)} :
    Callers (s.setCache N c entry) :=
  ⟨by simpa using h.settled, by simpa using h.nodup⟩

/-- Every step keeps the callers apart. -/
lemma Callers.step (h : Callers s) (hmove : Move L N s a s') : Callers s' := by
  cases hmove with
  | start hc => exact h.setPhase (.inl (by simp [hc, Phase.Settled]))
  | hit hc hcache => exact h.settle (by simp [hc, Phase.Settled])
  | miss hc hcache => exact h.setPhase (.inl (by simp [hc, Phase.Settled]))
  | found hc hvalue => exact h.setPhase (.inl (by simp [hc, Phase.Settled]))
  | read hc hvalue => exact h.settle (by simp [hc, Phase.Settled])
  | absent hc hvalue => exact h.settle (by simp [hc, Phase.Settled])
  | kept hc => exact h.setCache.settle (by simp [hc, Phase.Settled])
  | committed hc => exact h.commit (by simp [hc, Phase.Settled]) trivial
  | conflict hc hrevision => exact h.setPhase (.inl (by simp [hc, Phase.Settled]))
  | lost hc => exact h.commit (by simp [hc, Phase.Settled]) trivial
  | stored hc => exact h.setCache.setPhase (.inr trivial)
  | again hc hn => exact h.setCache.setPhase (.inl (by simp [hc, Phase.Settled]))
  | gaveUp hc => exact h.setCache.setPhase (.inr trivial)
  | failed hc => exact h.setPhase (.inr trivial)
  | evicted => exact ⟨h.settled, h.nodup⟩

/-- No call writes twice. -/
theorem callers_of_run {acts : List (Action κ R ι)}
    (hrun : StepSystem.run (CasLoop.step L N) {} acts = some s) : Callers s :=
  StepSystem.run_invariant_of_step (fun _ _ _ h hstep => h.step (step_move hstep))
    ⟨by simp, by simp⟩ hrun

end Callers

/-! ## Started calls -/

section Started

variable {κ R ι V ρ : Type*} [DecidableEq κ] [DecidableEq R] {L : Loop ι V ρ} {N : Net κ R}
  {s s' : State κ R ι V ρ} {a : Action κ R ι} {c : κ}

/-- A step makes no call idle. -/
lemma Move.phase_ne_idle (hmove : Move L N s a s') (h : s.phase c ≠ .idle) :
    s'.phase c ≠ .idle := by
  have hset : ∀ (t : State κ R ι V ρ) d p, t.phase c ≠ .idle → p ≠ .idle →
      (t.setPhase d p).phase c ≠ .idle := by
    intro t d p ht hp
    rw [setPhase_phase]
    by_cases hcd : c = d
    · subst hcd
      rw [Function.update_self]
      exact hp
    · rw [Function.update_of_ne hcd]
      exact ht
  have hsettle : ∀ (t : State κ R ι V ρ) d input n revision value, t.phase c ≠ .idle →
      (t.settle L d input n revision value).phase c ≠ .idle := by
    intro t d input n revision value ht
    unfold State.settle
    split
    · exact hset t d _ ht (by simp)
    · exact hset t d _ ht (by simp)
  cases hmove with
  | start | miss | found | conflict | failed => exact hset _ _ _ h (by simp)
  | hit | read | absent => exact hsettle _ _ _ _ _ _ h
  | kept => exact hsettle _ _ _ _ _ _ (by simpa using h)
  | committed | lost => exact hset _ _ _ h (by simp)
  | stored | again | gaveUp => exact hset _ _ _ (by simpa using h) (by simp)
  | evicted => exact h

/-- A call that was started and whose attempts keep their input still has that input. -/
lemma started_input {acts : List (Action κ R ι)} {input : ι}
    (hkeep : ∀ input v next value result, L.decide input v = .write next value result →
      next = input)
    (hrun : StepSystem.run (step L N) {} acts = some s) (hstart : Action.start c input ∈ acts) :
    s.phase c ≠ .idle ∧ (s.phase c).Inputs (· = input) := by
  obtain ⟨pre, post, rfl⟩ := List.append_of_mem hstart
  obtain ⟨t, ht, hpost⟩ := StepSystem.run_append.mp hrun
  obtain ⟨u, hu, hpost⟩ := StepSystem.run_cons.mp hpost
  have hsettled := (callers_of_run ht).settled
  have hmove := step_move hu
  cases hmove with
  | start hc =>
    -- after its start the call is not idle, so it is not started again
    have hinv := StepSystem.run_invariant_of_step
      (I := fun s => s.phase c ≠ .idle ∧ Inputs (fun d i => d = c → i = input) s)
      (fun s a s' h hstep => ⟨(step_move hstep).phase_ne_idle h.1, h.2.step
        (fun d i v next value result hi hdecide hd =>
          (hkeep i v next value result hdecide).trans (hi hd)) (by
          rintro d i rfl rfl
          have hmove := step_move hstep
          cases hmove with
          | start hidle => exact absurd hidle h.1) (step_move hstep)⟩)
      (s := t.setPhase c (.lookup input 0)) ⟨by simp, ?_⟩ hpost
    · refine ⟨hinv.1, ?_⟩
      have hphase := hinv.2.phases c
      simpa using hphase
    · refine ⟨fun d => ?_, fun w hw hwc => ?_⟩
      · by_cases hd : d = c
        · subst hd
          simp [Phase.Inputs]
        · rw [setPhase_phase, Function.update_of_ne hd]
          cases t.phase d <;> simp [Phase.Inputs, hd]
      · have hbad := hsettled w hw
        rw [hwc, hc] at hbad
        exact absurd hbad (by simp [Phase.Settled])

end Started

/-! ## Values along the writes -/

section Along

variable {κ ι V ρ : Type*} {L : Loop ι V ρ} {log : List (Write κ ι V)} {r : V → V → Prop}

/-- If every write moves up in a transitive relation, the values only move up. -/
theorem Written.pairwise (htrans : ∀ u v w, r u v → r v w → r u w) (hlog : Written L log)
    (hwrite : ∀ w ∈ log, ∀ u ∈ log, ∀ next result,
      L.decide w.input (some u.value) = .write next w.value result → r u.value w.value) :
    (log.map Write.value).Pairwise r := by
  induction log using List.reverseRecOn with
  | nil => exact .nil
  | append_singleton log last ih =>
    have hpairwise := ih hlog.left fun w hw u hu =>
      hwrite w (List.mem_append_left _ hw) u (List.mem_append_left _ hu)
    rw [List.map_append, List.pairwise_append]
    refine ⟨hpairwise, by simp, ?_⟩
    intro v hv v' hv'
    rw [List.map_singleton, List.mem_singleton] at hv'
    subst hv'
    obtain ⟨next, result, hdecide⟩ := hlog log last [] rfl
    obtain ⟨w, hw, rfl⟩ := List.mem_map.mp hv
    -- the value before the last write is the last of the earlier ones
    rcases log.eq_nil_or_concat with rfl | ⟨init, u, rfl⟩
    · simp at hw
    · rw [List.concat_eq_append] at hw hpairwise hdecide
      rw [current_concat] at hdecide
      have hlast : r u.value last.value :=
        hwrite last (by simp) u (by simp) next result hdecide
      rcases List.mem_append.mp hw with hw | hw
      · rw [List.map_append, List.pairwise_append] at hpairwise
        exact htrans _ _ _ (hpairwise.2.2 _ (List.mem_map_of_mem hw) _ (by simp)) hlast
      · rw [List.mem_singleton.mp hw]
        exact hlast

/-- Then all values are related to the current one. -/
lemma Written.rel_current (hrefl : ∀ v, r v v) (htrans : ∀ u v w, r u v → r v w → r u w)
    (hlog : Written L log)
    (hwrite : ∀ w ∈ log, ∀ u ∈ log, ∀ next result,
      L.decide w.input (some u.value) = .write next w.value result → r u.value w.value)
    {w : Write κ ι V} (hw : w ∈ log) : ∃ v, current log = some v ∧ r w.value v := by
  have hpairwise := hlog.pairwise htrans hwrite
  rcases log.eq_nil_or_concat with rfl | ⟨init, last, rfl⟩
  · simp at hw
  · rw [List.concat_eq_append] at hw hpairwise ⊢
    refine ⟨last.value, current_concat _ last, ?_⟩
    rcases List.mem_append.mp hw with hw | hw
    · rw [List.map_append, List.pairwise_append] at hpairwise
      exact hpairwise.2.2 _ (List.mem_map_of_mem hw) _ (by simp)
    · rw [List.mem_singleton.mp hw]
      exact hrefl _

/-- A value is related to the values of later revisions. -/
lemma Written.rel_valueAt (hrefl : ∀ v, r v v) (htrans : ∀ u v w, r u v → r v w → r u w)
    (hlog : Written L log)
    (hwrite : ∀ w ∈ log, ∀ u ∈ log, ∀ next result,
      L.decide w.input (some u.value) = .write next w.value result → r u.value w.value)
    {i j : ℕ} (hij : i ≤ j) {u v : V} (hu : valueAt log i = some u) (hv : valueAt log j = some v) :
    r u v := by
  obtain ⟨w, hw, rfl⟩ := Option.map_eq_some_iff.mp hu
  have hmem : w ∈ log.take j := (List.take_subset_take_left log hij) (List.mem_of_getLast? hw)
  have hleft : Written L (log.take j) := by
    rw [← List.take_append_drop j log] at hlog
    exact hlog.left
  obtain ⟨v', hv', hrel⟩ := hleft.rel_current hrefl htrans
    (fun w hw u hu => hwrite w (List.mem_of_mem_take hw) u (List.mem_of_mem_take hu)) hmem
  rw [valueAt, hv'] at hv
  cases hv
  exact hrel

/-- What every write establishes or preserves holds of all values. -/
lemma Written.forall_value {Q : V → Prop} (hlog : Written L log)
    (hwrite : ∀ w ∈ log, ∀ v next result, (∀ u, v = some u → Q u) →
      L.decide w.input v = .write next w.value result → Q w.value) :
    ∀ w ∈ log, Q w.value := by
  induction log using List.reverseRecOn with
  | nil => simp
  | append_singleton log last ih =>
    have hold := ih hlog.left fun w hw => hwrite w (List.mem_append_left _ hw)
    intro w hw
    rcases List.mem_append.mp hw with hw | hw
    · exact hold w hw
    · rw [List.mem_singleton.mp hw]
      obtain ⟨next, result, hdecide⟩ := hlog log last [] rfl
      refine hwrite last (by simp) _ next result (fun u hu => ?_) hdecide
      obtain ⟨w, hw, rfl⟩ := Option.map_eq_some_iff.mp hu
      exact hold w (List.mem_of_getLast? hw)

end Along

end CasLoop
