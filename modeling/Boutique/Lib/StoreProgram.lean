import Boutique.Lib.Run
import Mathlib.Logic.Function.Basic
import Mathlib.Order.Nat

/-!
# Programs over a revisioned store

A program calls operations one after the other, reads their replies, and returns a value or raises an
error.  The operations are those of a store of revisioned records (`get`, `create` and `update` under
the condition of a revision) and calls to the world outside, whose replies are arbitrary.

A program runs alone under a handler, or in a pool with other programs, where each operation is one
step.  In a pool, a program that writes only what it has just read (`Careful`) writes on the value it
read: `value_step` turns what holds of every read into what holds of every write.  A pool may carry
notes of what its programs have read (`Noted`), for conditions that speak of it.
-/

namespace StoreProgram

/-! ## Programs -/

/-- A program with operations `Op`, errors `ε` and results `α`. -/
inductive Program {Op : Type} (Reply : Op → Type) (ε α : Type) : Type where
  | ret (result : α)
  | raise (error : ε)
  | call (op : Op) (next : Reply op → Program Reply ε α)

namespace Program

variable {Op : Type} {Reply : Op → Type} {ε α β : Type}

/-- Go on with the result. -/
def bind : Program Reply ε α → (α → Program Reply ε β) → Program Reply ε β
  | .ret a, f => f a
  | .raise e, _ => .raise e
  | .call op next, f => .call op fun r => (next r).bind f

/-- Go on with the error. -/
def handle : Program Reply ε α → (ε → Program Reply ε α) → Program Reply ε α
  | .ret a, _ => .ret a
  | .raise e, f => f e
  | .call op next, f => .call op fun r => (next r).handle f

instance : Monad (Program Reply ε) where
  pure := .ret
  bind := bind

instance : MonadExceptOf ε (Program Reply ε) where
  throw := .raise
  tryCatch := handle

section Alone

variable {σ : Type} (exec : (op : Op) → σ → Reply op × σ)

/-- The result of a program that runs alone, and the state it leaves. -/
def run : Program Reply ε α → σ → Except ε α × σ
  | .ret a, s => (.ok a, s)
  | .raise e, s => (.error e, s)
  | .call op next, s => run (next (exec op s).1) (exec op s).2

variable {exec} {s s' : σ}

@[simp] lemma run_ret (a : α) : run exec (.ret a : Program Reply ε α) s = (.ok a, s) := rfl

@[simp] lemma run_raise (e : ε) : run exec (.raise e : Program Reply ε α) s = (.error e, s) := rfl

@[simp] lemma run_pure (a : α) : run exec (pure a : Program Reply ε α) s = (.ok a, s) := rfl

@[simp] lemma run_throw (e : ε) : run exec (throw e : Program Reply ε α) s = (.error e, s) := rfl

/-- What follows a result. -/
lemma run_bind_ok {p : Program Reply ε α} {a : α} (h : run exec p s = (.ok a, s'))
    (f : α → Program Reply ε β) : run exec (p >>= f) s = run exec (f a) s' := by
  induction p generalizing s with
  | ret b =>
    cases h
    rfl
  | raise e => cases h
  | call op next ih => exact ih _ h

/-- An error ends a program. -/
lemma run_bind_error {p : Program Reply ε α} {e : ε} (h : run exec p s = (.error e, s'))
    (f : α → Program Reply ε β) : run exec (p >>= f) s = (.error e, s') := by
  induction p generalizing s with
  | ret b => cases h
  | raise e' =>
    cases h
    rfl
  | call op next ih => exact ih _ h

/-- A result is not handled. -/
lemma run_handle_ok {p : Program Reply ε α} {a : α} (h : run exec p s = (.ok a, s'))
    (f : ε → Program Reply ε α) : run exec (p.handle f) s = (.ok a, s') := by
  induction p generalizing s with
  | ret b => exact h
  | raise e => cases h
  | call op next ih => exact ih _ h

/-- An error is handled. -/
lemma run_handle_error {p : Program Reply ε α} {e : ε} (h : run exec p s = (.error e, s'))
    (f : ε → Program Reply ε α) : run exec (p.handle f) s = run exec (f e) s' := by
  induction p generalizing s with
  | ret b => cases h
  | raise e' =>
    cases h
    rfl
  | call op next ih => exact ih _ h

end Alone

end Program

/-! ## Protocols -/

/-- A protocol: the operations that are allowed in a state, and the state after a reply. -/
structure Protocol {Op : Type} (Reply : Op → Type) (St : Type) where
  allowed : St → Op → Prop
  after : St → (op : Op) → Reply op → St

section Protocol

variable {Op : Type} {Reply : Op → Type} {ε α β St : Type} {A : Protocol Reply St}

/-- A program makes only allowed operations, whatever the replies, and `Q` holds of its result and of
the state in which it returns. -/
def Follows (A : Protocol Reply St) (Q : α → St → Prop) : St → Program Reply ε α → Prop
  | st, .ret a => Q a st
  | _, .raise _ => True
  | st, .call op next => A.allowed st op ∧ ∀ r, Follows A Q (A.after st op r) (next r)

variable {Q : α → St → Prop} {st : St} {p : Program Reply ε α}

/-- One operation. -/
lemma Follows.call {op : Op} {next : Reply op → Program Reply ε α} (hallowed : A.allowed st op)
    (hnext : ∀ r, Follows A Q (A.after st op r) (next r)) : Follows A Q st (.call op next) :=
  ⟨hallowed, hnext⟩

/-- A program followed by another. -/
lemma Follows.bind {P : β → St → Prop} {f : α → Program Reply ε β} (h : Follows A Q st p)
    (hf : ∀ a st', Q a st' → Follows A P st' (f a)) : Follows A P st (p >>= f) := by
  induction p generalizing st with
  | ret a => exact hf a st h
  | raise e => exact trivial
  | call op next ih => exact ⟨h.1, fun r => ih r (h.2 r)⟩

/-- A program with a handler. -/
lemma Follows.handle {f : ε → Program Reply ε α} (h : Follows A Q st p)
    (hf : ∀ e st', Follows A Q st' (f e)) : Follows A Q st (p.handle f) := by
  induction p generalizing st with
  | ret a => exact h
  | raise e => exact hf e st
  | call op next ih => exact ⟨h.1, fun r => ih r (h.2 r)⟩

end Protocol

/-! ## The store -/

/-- A record with its revision. -/
structure Entry (V : Type) where
  value : V
  revision : ℕ
deriving DecidableEq, Repr

section Store

variable {K : Type} {V : K → Type} {X : Type} {R : X → Type}

/-- The operations on records, and the calls to the world outside. -/
inductive Op (V : K → Type) (X : Type) where
  | get (k : K)
  | create (k : K) (value : V k)
  | update (k : K) (value : V k) (revision : ℕ)
  | outside (x : X)

/-- How the store answers: `refused` is an absent record for `get` and a conflict for a write. -/
inductive Answer (α : Type) where
  | done (a : α)
  | refused
  | failed
deriving DecidableEq, Repr

/-- What an operation returns. -/
abbrev Reply (R : X → Type) : Op V X → Type
  | .get k => Answer (Entry (V k))
  | .create _ _ => Answer ℕ
  | .update _ _ _ => Answer ℕ
  | .outside x => R x

/-- The records of a bucket, and the sequence number of its last write. -/
structure Store (V : K → Type) where
  record : (k : K) → Option (Entry (V k))
  sequence : ℕ
  bounded : ∀ k entry, record k = some entry → entry.revision ≤ sequence

variable [DecidableEq K]

/-- Write a record. -/
def Store.put (s : Store V) (k : K) (value : V k) : Store V where
  record := Function.update s.record k (some ⟨value, s.sequence + 1⟩)
  sequence := s.sequence + 1
  bounded := by
    intro k' entry hentry
    by_cases hk : k' = k
    · subst hk
      rw [Function.update_self] at hentry
      cases hentry
      exact le_rfl
    · rw [Function.update_of_ne hk] at hentry
      exact le_trans (s.bounded k' entry hentry) (Nat.le_succ _)

/-- Read a record. -/
def Store.get (s : Store V) (k : K) : Answer (Entry (V k)) :=
  match s.record k with
  | none => .refused
  | some entry => .done entry

/-- Write a record that is absent. -/
def Store.create (s : Store V) (k : K) (value : V k) : Answer ℕ × Store V :=
  match s.record k with
  | none => (.done (s.sequence + 1), s.put k value)
  | some _ => (.refused, s)

/-- Write a record that still has a revision. -/
def Store.update (s : Store V) (k : K) (value : V k) (revision : ℕ) : Answer ℕ × Store V :=
  match s.record k with
  | none => (.refused, s)
  | some entry =>
    if entry.revision = revision then (.done (s.sequence + 1), s.put k value) else (.refused, s)

@[simp] lemma Store.put_record_self (s : Store V) (k : K) (value : V k) :
    (s.put k value).record k = some ⟨value, s.sequence + 1⟩ := by
  simp [put]

@[simp] lemma Store.put_record_of_ne (s : Store V) {k k' : K} (h : k' ≠ k) (value : V k) :
    (s.put k value).record k' = s.record k' := by
  simp [put, Function.update_of_ne h]

@[simp] lemma Store.put_sequence (s : Store V) (k : K) (value : V k) :
    (s.put k value).sequence = s.sequence + 1 := rfl

/-- A creation writes an absent record or is refused. -/
lemma Store.create_cases (s : Store V) (k : K) (value : V k) :
    s.record k = none ∧ s.create k value = (.done (s.sequence + 1), s.put k value) ∨
      (∃ entry, s.record k = some entry) ∧ s.create k value = (.refused, s) := by
  unfold create
  cases h : s.record k with
  | none => exact Or.inl ⟨rfl, rfl⟩
  | some entry => exact Or.inr ⟨⟨entry, rfl⟩, rfl⟩

/-- An update writes a record that has the revision or is refused. -/
lemma Store.update_cases (s : Store V) (k : K) (value : V k) (revision : ℕ) :
    (∃ entry, s.record k = some entry ∧ entry.revision = revision) ∧
        s.update k value revision = (.done (s.sequence + 1), s.put k value) ∨
      (∀ entry, s.record k = some entry → entry.revision ≠ revision) ∧
        s.update k value revision = (.refused, s) := by
  unfold update
  cases h : s.record k with
  | none => exact Or.inr ⟨by simp, rfl⟩
  | some entry =>
    by_cases hrevision : entry.revision = revision
    · exact Or.inl ⟨⟨entry, rfl, hrevision⟩, if_pos hrevision⟩
    · refine Or.inr ⟨?_, if_neg hrevision⟩
      rintro entry' ⟨⟩
      exact hrevision

end Store

/-! ## Pools -/

section Pool

variable {K : Type} {V : K → Type} {X : Type} {R : X → Type} {ε α κ ι : Type}

/-- How an operation of a pool ends: as usual; with a lost reply, after which it is tried again; with an
error before or after it takes effect; or, outside of the store, with a given reply. -/
inductive Event (R : X → Type) where
  | usual | lost | failedBefore | failedAfter
  | outside (reply : (x : X) → R x)

variable [DecidableEq K]

/-- The reply to an operation and the store it leaves. -/
def Store.serve (s : Store V) : (op : Op V X) → Event R → Option (Reply R op × Store V)
  | .get k, .usual => some (s.get k, s)
  | .get _, .failedBefore => some (.failed, s)
  | .create k value, .usual => some (s.create k value)
  | .create k value, .lost => some ((s.create k value).2.create k value)
  | .create _ _, .failedBefore => some (.failed, s)
  | .create k value, .failedAfter => some (.failed, (s.create k value).2)
  | .update k value revision, .usual => some (s.update k value revision)
  | .update k value revision, .lost =>
    some ((s.update k value revision).2.update k value revision)
  | .update _ _ _, .failedBefore => some (.failed, s)
  | .update k value revision, .failedAfter => some (.failed, (s.update k value revision).2)
  | .outside x, .outside reply => some (reply x, s)
  | _, _ => none

/-- A store and the programs that run on it. -/
structure Pool (V : K → Type) (R : X → Type) (ε α κ : Type) where
  store : Store V
  thread : κ → Option (@Program (Op V X) (Reply R) ε α)

/-- The steps of a pool. -/
inductive Action (R : X → Type) (κ ι : Type) where
  | start (c : κ) (input : ι)
  | step (c : κ) (event : Event R)
  | crash (c : κ)

variable [DecidableEq κ] (program : ι → @Program (Op V X) (Reply R) ε α)

/-- One step: a call starts on a free thread, makes its next operation, or is cut off. -/
def Pool.step (s : Pool V R ε α κ) : Action R κ ι → Option (Pool V R ε α κ)
  | .start c input =>
    match s.thread c with
    | none => some { s with thread := Function.update s.thread c (some (program input)) }
    | some _ => none
  | .step c event =>
    match s.thread c with
    | some (.call op next) =>
      (s.store.serve op event).map fun served =>
        { store := served.2, thread := Function.update s.thread c (some (next served.1)) }
    | _ => none
  | .crash c => some { s with thread := Function.update s.thread c none }

variable {program}

/-- What a step does. -/
inductive Pool.Stepped (program : ι → @Program (Op V X) (Reply R) ε α) (s : Pool V R ε α κ) :
    Action R κ ι → Pool V R ε α κ → Prop where
  | start (c : κ) (input : ι) (hfree : s.thread c = none) :
    Stepped program s (.start c input)
      { s with thread := Function.update s.thread c (some (program input)) }
  | step (c : κ) (event : Event R) (op : Op V X)
      (next : Reply R op → @Program (Op V X) (Reply R) ε α) (r : Reply R op) (store : Store V)
      (hthread : s.thread c = some (.call op next)) (hserve : s.store.serve op event = some (r, store)) :
    Stepped program s (.step c event)
      { store := store, thread := Function.update s.thread c (some (next r)) }
  | crash (c : κ) :
    Stepped program s (.crash c) { s with thread := Function.update s.thread c none }

/-- Every step is one of these. -/
lemma Pool.stepped_of_step {s s' : Pool V R ε α κ} {a : Action R κ ι}
    (h : s.step program a = some s') : Stepped program s a s' := by
  cases a with
  | start c input =>
    rw [Pool.step] at h
    cases hthread : s.thread c with
    | none =>
      rw [hthread] at h
      cases h
      exact .start c input hthread
    | some p =>
      rw [hthread] at h
      cases h
  | step c event =>
    rw [Pool.step] at h
    cases hthread : s.thread c with
    | none =>
      rw [hthread] at h
      cases h
    | some p =>
      rw [hthread] at h
      cases p with
      | ret result => cases h
      | raise error => cases h
      | call op next =>
        obtain ⟨⟨r, store⟩, hserve, rfl⟩ := Option.map_eq_some_iff.mp h
        exact .step c event op next r store hthread hserve
  | crash c =>
    cases h
    exact .crash c

/-- A call is on its thread until it is cut off. -/
lemma Pool.thread_of_step {s s' : Pool V R ε α κ} {a : Action R κ ι} {c : κ}
    (h : s.step program a = some s') (hcrash : a ≠ .crash c) (hthread : s.thread c ≠ none) :
    s'.thread c ≠ none := by
  -- a thread that the step gives a program has one
  have hupdate : ∀ c' (p : @Program (Op V X) (Reply R) ε α),
      Function.update s.thread c' (some p) c ≠ none := by
    intro c' p
    by_cases hc : c = c'
    · rw [hc, Function.update_self]
      exact Option.some_ne_none p
    · rwa [Function.update_of_ne hc]
  cases Pool.stepped_of_step h with
  | start c' input hfree => exact hupdate c' _
  | step c' event op next r store hcall hserve => exact hupdate c' _
  | crash c' =>
    have hc : c ≠ c' := fun heq => hcrash (by rw [heq])
    change Function.update s.thread c' none c ≠ none
    rwa [Function.update_of_ne hc]

/-- A call that has started in a run and is not cut off is on its thread. -/
lemma Pool.thread_of_run {s s' : Pool V R ε α κ} {as : List (Action R κ ι)} {c : κ} {input : ι}
    (h : StepSystem.run (Pool.step program) s as = some s') (hcrash : .crash c ∉ as)
    (hstart : .start c input ∈ as) : s'.thread c ≠ none := by
  obtain ⟨earlier, later, rfl⟩ := List.append_of_mem hstart
  obtain ⟨t, -, hrest⟩ := StepSystem.run_append.mp h
  obtain ⟨u, hstep, hlater⟩ := StepSystem.run_cons.mp hrest
  have hthread : u.thread c ≠ none := by
    cases Pool.stepped_of_step hstep with
    | start _ _ hfree =>
      change Function.update t.thread c (some (program input)) c ≠ none
      rw [Function.update_self]
      exact Option.some_ne_none _
  have hkept : StepSystem.Along (Pool.step program) (fun _ a => a ≠ .crash c) u later := by
    refine StepSystem.Along.of_forall ?_ u
    rintro a ha - rfl
    exact hcrash (List.mem_append_right _ (List.mem_cons_of_mem _ ha))
  exact StepSystem.run_invariant (I := fun s : Pool V R ε α κ => s.thread c ≠ none)
    (fun _ _ _ hon hnocrash hnext => thread_of_step hnext hnocrash hon) hthread hkept hlater

end Pool

/-! ## Notes -/

section Notes

variable {K : Type} {V : K → Type} {X : Type} {R : X → Type} {ε α κ ι N : Type}
variable [DecidableEq K] [DecidableEq κ]

/-- A pool with a note on every thread, which no program reads. -/
structure Noted (V : K → Type) (R : X → Type) (ε α κ N : Type) where
  pool : Pool V R ε α κ
  note : κ → N

variable (program : ι → @Program (Op V X) (Reply R) ε α) (first : N)
  (after : N → (op : Op V X) → Reply R op → N)

/-- One step: a call starts with the first note, and a reply changes the note of the call. -/
def Noted.step (s : Noted V R ε α κ N) : Action R κ ι → Option (Noted V R ε α κ N)
  | .start c input =>
    (s.pool.step program (.start c input)).map fun pool =>
      { pool := pool, note := Function.update s.note c first }
  | .step c event =>
    match s.pool.thread c with
    | some (.call op next) =>
      (s.pool.store.serve op event).map fun served =>
        { pool :=
            { store := served.2
              thread := Function.update s.pool.thread c (some (next served.1)) }
          note := Function.update s.note c (after (s.note c) op served.1) }
    | _ => none
  | .crash c =>
    (s.pool.step program (.crash c)).map fun pool => { s with pool := pool }

/-- The notes do not change what the pool does. -/
lemma Noted.step_pool (s : Noted V R ε α κ N) (a : Action R κ ι) :
    (s.step program first after a).map Noted.pool = s.pool.step program a := by
  cases a with
  | start c input =>
    rw [Noted.step]
    cases s.pool.step program (.start c input) with
    | none => rfl
    | some pool => rfl
  | crash c =>
    rw [Noted.step]
    cases s.pool.step program (.crash c) with
    | none => rfl
    | some pool => rfl
  | step c event =>
    rw [Noted.step, Pool.step]
    cases s.pool.thread c with
    | none => rfl
    | some p =>
      cases p with
      | ret result => rfl
      | raise error => rfl
      | call op next => exact Option.map_map _ _ _

variable {program first after}

/-- A run of the pool is one of the pool with notes. -/
lemma Noted.run_pool {s : Noted V R ε α κ N} {as : List (Action R κ ι)} {t : Pool V R ε α κ}
    (h : StepSystem.run (Pool.step program) s.pool as = some t) :
    ∃ s', StepSystem.run (Noted.step program first after) s as = some s' ∧ s'.pool = t := by
  induction as generalizing s with
  | nil =>
    cases h
    exact ⟨s, rfl, rfl⟩
  | cons a as ih =>
    obtain ⟨u, hstep, hrest⟩ := StepSystem.run_cons.mp h
    rw [← Noted.step_pool program first after s] at hstep
    obtain ⟨s₁, hs₁, rfl⟩ := Option.map_eq_some_iff.mp hstep
    obtain ⟨s', hrun, hpool⟩ := ih hrest
    exact ⟨s', StepSystem.run_cons.mpr ⟨s₁, hs₁, hrun⟩, hpool⟩

/-- A condition on the pool along its run. -/
lemma Noted.along_pool {P : Pool V R ε α κ → Action R κ ι → Prop} {s : Noted V R ε α κ N}
    {as : List (Action R κ ι)} (h : StepSystem.Along (Pool.step program) P s.pool as) :
    StepSystem.Along (Noted.step program first after) (fun s a => P s.pool a) s as := by
  induction as generalizing s with
  | nil => exact trivial
  | cons a as ih =>
    refine ⟨h.1, ?_⟩
    have hpool := Noted.step_pool program first after s a
    cases hstep : Noted.step program first after s a with
    | none => exact trivial
    | some t =>
      rw [hstep] at hpool
      exact ih (h.cons hpool.symm).2

/-- The note after an operation. -/
lemma Noted.note_step {s s' : Noted V R ε α κ N} {c : κ} {event : Event R} {op : Op V X}
    {next : Reply R op → @Program (Op V X) (Reply R) ε α} {r : Reply R op} {store : Store V}
    (h : s.step program first after (.step c event) = some s')
    (hthread : s.pool.thread c = some (.call op next))
    (hserve : s.pool.store.serve op event = some (r, store)) :
    s'.note = Function.update s.note c (after (s.note c) op r) := by
  rw [Noted.step, hthread] at h
  simp only [hserve, Option.map_some, Option.some.injEq] at h
  exact congrArg Noted.note h.symm

end Notes

/-! ## Programs that write what they have just read -/

section Careful

variable {K : Type} {V : K → Type} {X : Type} {R : X → Type} {ε α : Type}
variable [DecidableEq K] {k : K}

/-- The record under `k` that an operation has read. -/
def seenAfter (k : K) : (op : Op V X) → Reply R op → Option (Entry (V k))
  | .get k', .done entry => if h : k' = k then some (h ▸ entry) else none
  | _, _ => none

/-- An update of `k` names the revision of the record that was read just before. -/
def WritesSeen (k : K) (seen : Option (Entry (V k))) : Op V X → Prop
  | .update k' _ revision => k' = k → ∃ entry, seen = some entry ∧ entry.revision = revision
  | _ => True

/-- The protocol of a program that updates `k` only directly after a read of `k`, under the revision
that it read. -/
def readFirst (k : K) : @Protocol (Op V X) (Reply R) (Option (Entry (V k))) where
  allowed := WritesSeen k
  after := fun _ op r => seenAfter k op r

/-- Every update of `k` directly follows a read of `k` and names its revision. -/
abbrev Careful (k : K) (Q : α → Option (Entry (V k)) → Prop) (seen : Option (Entry (V k)))
    (p : @Program (Op V X) (Reply R) ε α) : Prop :=
  Follows (readFirst k) Q seen p

variable {seen : Option (Entry (V k))}

/-- What was read is current as long as its revision is. -/
def Seen (s : Store V) (k : K) (seen : Option (Entry (V k))) : Prop :=
  ∀ entry, seen = some entry → entry.revision ≤ s.sequence ∧
    ∀ current, s.record k = some current → current.revision = entry.revision → current = entry

/-- What an operation does to the record under `k`: nothing, or it writes an absent record, or an
update writes the record that has its revision. -/
inductive Served (s s' : Store V) (k : K) (op : Op V X) : Prop where
  | same (hrecord : s'.record k = s.record k) (hsequence : s.sequence ≤ s'.sequence)
  | created (value : V k) (habsent : s.record k = none) (hput : s' = s.put k value)
  | updated (value : V k) (current : Entry (V k)) (hcurrent : s.record k = some current)
      (hop : op = .update k value current.revision) (hput : s' = s.put k value)

/-- A second try of a creation does nothing. -/
lemma create_again (s : Store V) (k' : K) (value : V k') :
    ((s.create k' value).2.create k' value).2 = (s.create k' value).2 := by
  rcases s.create_cases k' value with ⟨-, heq⟩ | ⟨⟨entry, hentry⟩, heq⟩
  · rw [heq]
    simp [Store.create]
  · rw [heq, heq]

/-- A second try of an update does nothing. -/
lemma update_again (s : Store V) (k' : K) (value : V k') (revision : ℕ) :
    ((s.update k' value revision).2.update k' value revision).2 =
      (s.update k' value revision).2 := by
  rcases s.update_cases k' value revision with ⟨⟨current, hcurrent, hrevision⟩, heq⟩ | ⟨-, heq⟩
  · have hbound := s.bounded k' current hcurrent
    have hne : s.sequence + 1 ≠ revision := by omega
    rw [heq]
    simp [Store.update, hne]
  · rw [heq, heq]

/-- A read answers what is stored, or fails. -/
lemma serve_get {s s' : Store V} {k' : K} {event : Event R}
    {r : Answer (Entry (V k'))} (h : s.serve (.get k' : Op V X) event = some (r, s')) :
    s' = s ∧ (r = s.get k' ∨ r = .failed) := by
  cases event with
  | usual =>
    cases h
    exact ⟨rfl, Or.inl rfl⟩
  | failedBefore =>
    cases h
    exact ⟨rfl, Or.inr rfl⟩
  | _ => cases h

/-- A creation writes an absent record, or is refused, or fails. -/
lemma serve_create {s s' : Store V} {k' : K} {value : V k'} {event : Event R} {r : Answer ℕ}
    (h : s.serve (.create k' value : Op V X) event = some (r, s')) :
    s.record k' = none ∧ s' = s.put k' value ∨
      s' = s ∧ ((∃ entry, s.record k' = some entry) ∧ r = .refused ∨ r = .failed) := by
  rcases s.create_cases k' value with ⟨habsent, heq⟩ | ⟨hpresent, heq⟩
  · cases event with
    | usual =>
      obtain rfl : (s.create k' value).2 = s' := congrArg Prod.snd (Option.some.inj h)
      exact Or.inl ⟨habsent, by rw [heq]⟩
    | lost =>
      obtain rfl : ((s.create k' value).2.create k' value).2 = s' :=
        congrArg Prod.snd (Option.some.inj h)
      exact Or.inl ⟨habsent, by rw [create_again, heq]⟩
    | failedBefore =>
      cases h
      exact Or.inr ⟨rfl, Or.inr rfl⟩
    | failedAfter =>
      cases h
      exact Or.inl ⟨habsent, by rw [heq]⟩
    | outside reply => cases h
  · cases event with
    | usual =>
      have hpair : s.create k' value = (r, s') := Option.some.inj h
      rw [heq] at hpair
      cases hpair
      exact Or.inr ⟨rfl, Or.inl ⟨hpresent, rfl⟩⟩
    | lost =>
      have hpair : (s.create k' value).2.create k' value = (r, s') := Option.some.inj h
      rw [heq, heq] at hpair
      cases hpair
      exact Or.inr ⟨rfl, Or.inl ⟨hpresent, rfl⟩⟩
    | failedBefore =>
      cases h
      exact Or.inr ⟨rfl, Or.inr rfl⟩
    | failedAfter =>
      cases h
      exact Or.inr ⟨by rw [heq], Or.inr rfl⟩
    | outside reply => cases h

/-- An update writes the record with its revision, or is refused, or fails. -/
lemma serve_update {s s' : Store V} {k' : K} {value : V k'} {revision : ℕ} {event : Event R}
    {r : Answer ℕ} (h : s.serve (.update k' value revision : Op V X) event = some (r, s')) :
    (∃ entry, s.record k' = some entry ∧ entry.revision = revision) ∧ s' = s.put k' value ∧
        event ≠ .failedBefore ∨
      s' = s ∧ (r = .refused ∨ r = .failed) := by
  rcases s.update_cases k' value revision with ⟨hcurrent, heq⟩ | ⟨-, heq⟩
  · cases event with
    | usual =>
      obtain rfl : (s.update k' value revision).2 = s' := congrArg Prod.snd (Option.some.inj h)
      exact Or.inl ⟨hcurrent, by rw [heq], by simp⟩
    | lost =>
      obtain rfl : ((s.update k' value revision).2.update k' value revision).2 = s' :=
        congrArg Prod.snd (Option.some.inj h)
      exact Or.inl ⟨hcurrent, by rw [update_again, heq], by simp⟩
    | failedBefore =>
      cases h
      exact Or.inr ⟨rfl, Or.inr rfl⟩
    | failedAfter =>
      cases h
      exact Or.inl ⟨hcurrent, by rw [heq], by simp⟩
    | outside reply => cases h
  · cases event with
    | usual =>
      have hpair : s.update k' value revision = (r, s') := Option.some.inj h
      rw [heq] at hpair
      cases hpair
      exact Or.inr ⟨rfl, Or.inl rfl⟩
    | lost =>
      have hpair : (s.update k' value revision).2.update k' value revision = (r, s') :=
        Option.some.inj h
      rw [heq, heq] at hpair
      cases hpair
      exact Or.inr ⟨rfl, Or.inl rfl⟩
    | failedBefore =>
      cases h
      exact Or.inr ⟨rfl, Or.inr rfl⟩
    | failedAfter =>
      cases h
      exact Or.inr ⟨by rw [heq], Or.inr rfl⟩
    | outside reply => cases h

/-- What an answered operation has done. -/
lemma served_of_serve {s s' : Store V} {op : Op V X} {event : Event R} {r : Reply R op}
    (h : s.serve op event = some (r, s')) : Served s s' k op := by
  cases op with
  | get k' =>
    obtain ⟨rfl, -⟩ := serve_get h
    exact .same rfl le_rfl
  | outside x =>
    cases event <;> cases h
    exact .same rfl le_rfl
  | create k' value =>
    rcases serve_create h with ⟨habsent, rfl⟩ | ⟨rfl, -⟩
    · by_cases hk : k = k'
      · subst hk
        exact .created value habsent rfl
      · exact .same (s.put_record_of_ne hk value) (Nat.le_succ _)
    · exact .same rfl le_rfl
  | update k' value revision =>
    rcases serve_update h with ⟨⟨current, hcurrent, hrevision⟩, rfl, -⟩ | ⟨rfl, -⟩
    · by_cases hk : k = k'
      · subst hk
        exact .updated value current hcurrent (by rw [hrevision]) rfl
      · exact .same (s.put_record_of_ne hk value) (Nat.le_succ _)
    · exact .same rfl le_rfl

/-- What was read is outdated by a write. -/
lemma Seen.put {s : Store V} (h : Seen s k seen) (value : V k) : Seen (s.put k value) k seen := by
  intro entry hentry
  obtain ⟨hbound, -⟩ := h entry hentry
  refine ⟨le_trans hbound (Nat.le_succ _), ?_⟩
  intro current hrecord hrevision
  rw [Store.put_record_self] at hrecord
  cases hrecord
  simp only at hrevision
  omega

omit [DecidableEq K] in
/-- What was read stays current when the record stays. -/
lemma Seen.of_same {s s' : Store V} (h : Seen s k seen) (hrecord : s'.record k = s.record k)
    (hsequence : s.sequence ≤ s'.sequence) : Seen s' k seen := by
  intro entry hentry
  obtain ⟨hbound, hcurrent⟩ := h entry hentry
  rw [hrecord]
  exact ⟨le_trans hbound hsequence, hcurrent⟩

/-- What was read stays current or is outdated for good. -/
lemma Seen.served {s s' : Store V} {op : Op V X} (h : Seen s k seen) (hserved : Served s s' k op) :
    Seen s' k seen := by
  cases hserved with
  | same hrecord hsequence => exact h.of_same hrecord hsequence
  | created value habsent heq => exact heq ▸ h.put value
  | updated value current hrecord hop heq => exact heq ▸ h.put value

/-- An operation that has read the record under `k` is a `get` of it. -/
lemma read_of_seenAfter {s s' : Store V} {op : Op V X} {event : Event R} {r : Reply R op}
    (h : s.serve op event = some (r, s')) {entry : Entry (V k)}
    (hseen : seenAfter k op r = some entry)
    (next : Reply R op → @Program (Op V X) (Reply R) ε α) :
    event = .usual ∧ s' = s ∧ s.record k = some entry ∧
      ∃ next' : Answer (Entry (V k)) → @Program (Op V X) (Reply R) ε α,
        Program.call op next = .call (.get k) next' ∧ next r = next' (.done entry) := by
  cases op with
  | get k' =>
    cases event with
    | usual =>
      cases h
      unfold Store.get at hseen ⊢
      cases hrecord : s.record k' with
      | none =>
        rw [hrecord] at hseen
        cases hseen
      | some found =>
        rw [hrecord] at hseen
        by_cases hk : k' = k
        · subst hk
          simp only [seenAfter, dif_pos, Option.some.injEq] at hseen
          subst hseen
          exact ⟨rfl, rfl, hrecord, next, rfl, rfl⟩
        · simp [seenAfter, hk] at hseen
    | failedBefore =>
      cases h
      cases hseen
    | _ => cases h
  | _ => cases hseen

/-- What an operation has read is current. -/
lemma Seen.of_serve {s s' : Store V} {op : Op V X} {event : Event R} {r : Reply R op}
    (h : s.serve op event = some (r, s')) : Seen s' k (seenAfter k op r) := by
  intro entry hentry
  obtain ⟨-, rfl, hrecord, -⟩ :=
    read_of_seenAfter h hentry (fun _ => (.raise () : @Program (Op V X) (Reply R) Unit Unit))
  refine ⟨s'.bounded k entry hrecord, ?_⟩
  intro current hcurrent _
  rw [hrecord] at hcurrent
  cases hcurrent
  rfl

end Careful

/-! ## The changes that a program makes -/

section Changes

variable {K : Type} {V : K → Type} {X : Type} {R : X → Type} {ε α β : Type}
variable [DecidableEq K] (k : K)

/-- The value that a program is about to write under `k`. -/
def nextUpdate : @Program (Op V X) (Reply R) ε α → Option (V k)
  | .call (.update k' value _) _ => if h : k' = k then some (h ▸ value) else none
  | _ => none

/-- The value that a program is about to write under `k` after it reads an entry there. -/
def rewritten (entry : Entry (V k)) : @Program (Op V X) (Reply R) ε α → Option (V k)
  | .call (.get k') next => if h : k' = k then nextUpdate k (next (.done (h ▸ entry))) else none
  | _ => none

/-- The program is about to read the record under `k` in order to write a change of it. -/
def Changing (change : V k → V k) (p : @Program (Op V X) (Reply R) ε α) : Prop :=
  (∃ entry, (rewritten k entry p).isSome = true) ∧
    ∀ entry value, rewritten k entry p = some value → value = change entry.value

/-- Where the program reads the record under `k` and goes on with an update of it, it makes one of the
changes. -/
def ChangesBy (T : (V k → V k) → Prop) : @Program (Op V X) (Reply R) ε α → Prop
  | .ret _ => True
  | .raise _ => True
  | .call op next =>
    ((∃ change, T change ∧ Changing k change (.call op next)) ∨
      ∀ entry, rewritten k entry (.call op next) = none) ∧ ∀ r, ChangesBy T (next r)

/-- A careful program that makes only some changes. -/
structure Rewrites (T : (V k → V k) → Prop) (Q : α → Option (Entry (V k)) → Prop)
    (seen : Option (Entry (V k))) (p : @Program (Op V X) (Reply R) ε α) : Prop where
  careful : Careful k Q seen p
  changes : ChangesBy k T p

variable {k} {T : (V k → V k) → Prop} {seen : Option (Entry (V k))}
  {p : @Program (Op V X) (Reply R) ε α}

/-- Two changes that a program is about to make agree on what it writes. -/
lemma Changing.eq_of_rewritten {change : V k → V k} (h : Changing k change p) {entry : Entry (V k)}
    {value : V k} (hvalue : rewritten k entry p = some value) : change entry.value = value :=
  (h.2 entry value hvalue).symm

/-- What a program is about to write does not depend on what follows it, unless that writes at once. -/
lemma nextUpdate_bind {f : α → @Program (Op V X) (Reply R) ε β}
    (hf : ∀ a, nextUpdate k (f a) = none) : nextUpdate k (p.bind f) = nextUpdate k p := by
  cases p with
  | ret a => exact hf a
  | raise e => rfl
  | call op next => cases op <;> rfl

/-- The same for a handler. -/
lemma nextUpdate_handle {f : ε → @Program (Op V X) (Reply R) ε α}
    (hf : ∀ e, nextUpdate k (f e) = none) : nextUpdate k (p.handle f) = nextUpdate k p := by
  cases p with
  | ret a => rfl
  | raise e => exact hf e
  | call op next => cases op <;> rfl

/-- The programs after the reply to one operation. -/
lemma rewritten_congr {op : Op V X} {next : Reply R op → @Program (Op V X) (Reply R) ε α}
    {next' : Reply R op → @Program (Op V X) (Reply R) ε β}
    (h : ∀ r, nextUpdate k (next r) = nextUpdate k (next' r)) (entry : Entry (V k)) :
    rewritten k entry (.call op next) = rewritten k entry (.call op next') := by
  cases op with
  | get k' =>
    simp only [rewritten]
    split_ifs
    · exact h _
    · rfl
  | create | update | outside => rfl

/-- Programs that go on with the same updates make the same changes. -/
lemma ChangesBy.call_congr {op : Op V X} {next : Reply R op → @Program (Op V X) (Reply R) ε α}
    {next' : Reply R op → @Program (Op V X) (Reply R) ε β}
    (h : ChangesBy k T (.call op next)) (hsame : ∀ r, nextUpdate k (next r) = nextUpdate k (next' r))
    (hnext : ∀ r, ChangesBy k T (next' r)) : ChangesBy k T (.call op next') := by
  refine ⟨?_, hnext⟩
  simp only [Changing, ← rewritten_congr hsame]
  exact h.1

/-- One operation that is not followed by an update of what it has read. -/
lemma Rewrites.call {Q : α → Option (Entry (V k)) → Prop} {op : Op V X}
    {next : Reply R op → @Program (Op V X) (Reply R) ε α} (hallowed : WritesSeen k seen op)
    (hlocal : ∀ entry, rewritten k entry (.call op next) = none)
    (hnext : ∀ r, Rewrites k T Q (seenAfter k op r) (next r)) :
    Rewrites k T Q seen (.call op next) :=
  ⟨.call hallowed fun r => (hnext r).careful, .inr hlocal, fun r => (hnext r).changes⟩

/-- The read of a change. -/
lemma Rewrites.change {Q : α → Option (Entry (V k)) → Prop} {change : V k → V k}
    {next : Answer (Entry (V k)) → @Program (Op V X) (Reply R) ε α} (hchange : T change)
    (hchanging : Changing k change (.call (.get k) next : @Program (Op V X) (Reply R) ε α))
    (hnext : ∀ r, Rewrites k T Q (seenAfter (R := R) k (.get k : Op V X) r) (next r)) :
    Rewrites k T Q seen (.call (.get k) next) :=
  ⟨.call trivial fun r => (hnext r).careful, .inl ⟨change, hchange, hchanging⟩,
    fun r => (hnext r).changes⟩

/-- A program followed by another that does not write at once. -/
lemma Rewrites.bind {Q : α → Option (Entry (V k)) → Prop} {P : β → Option (Entry (V k)) → Prop}
    {f : α → @Program (Op V X) (Reply R) ε β} (h : Rewrites k T Q seen p)
    (hquiet : ∀ a, nextUpdate k (f a) = none)
    (hf : ∀ a seen', Q a seen' → Rewrites k T P seen' (f a)) : Rewrites k T P seen (p >>= f) := by
  induction p generalizing seen with
  | ret a => exact hf a seen h.careful
  | raise e => exact ⟨trivial, trivial⟩
  | call op next ih =>
    have hnext : ∀ r, Rewrites k T P (seenAfter k op r) (next r >>= f) := fun r =>
      ih r ⟨h.careful.2 r, h.changes.2 r⟩
    exact ⟨.call h.careful.1 fun r => (hnext r).careful,
      h.changes.call_congr (fun r => (nextUpdate_bind hquiet).symm) fun r => (hnext r).changes⟩

/-- A program with a handler that does not write at once. -/
lemma Rewrites.handle {Q : α → Option (Entry (V k)) → Prop}
    {f : ε → @Program (Op V X) (Reply R) ε α} (h : Rewrites k T Q seen p)
    (hquiet : ∀ e, nextUpdate k (f e) = none) (hf : ∀ e seen', Rewrites k T Q seen' (f e)) :
    Rewrites k T Q seen (p.handle f) := by
  induction p generalizing seen with
  | ret a => exact h
  | raise e => exact hf e seen
  | call op next ih =>
    have hnext : ∀ r, Rewrites k T Q (seenAfter k op r) ((next r).handle f) := fun r =>
      ih r ⟨h.careful.2 r, h.changes.2 r⟩
    exact ⟨.call h.careful.1 fun r => (hnext r).careful,
      h.changes.call_congr (fun r => (nextUpdate_handle hquiet).symm) fun r => (hnext r).changes⟩

end Changes

/-! ## States of the threads -/

section Tracks

variable {K : Type} {V : K → Type} {X : Type} {R : X → Type} {ε α κ ι St : Type}
variable [DecidableEq K] [DecidableEq κ]
variable {A : @Protocol (Op V X) (Reply R) St} {Q : α → St → Prop}
  {program : ι → @Program (Op V X) (Reply R) ε α} {start : ι → St}

/-- Every thread follows the protocol from the state that is kept for it. -/
def Tracks (A : @Protocol (Op V X) (Reply R) St) (Q : α → St → Prop) (s : Pool V R ε α κ)
    (state : κ → St) : Prop :=
  ∀ c p, s.thread c = some p → Follows A Q (state c) p

/-- What a step does to the pool and to the states. -/
inductive Tracked (A : @Protocol (Op V X) (Reply R) St)
    (program : ι → @Program (Op V X) (Reply R) ε α) (start : ι → St) (s : Pool V R ε α κ)
    (state : κ → St) : Action R κ ι → Pool V R ε α κ → (κ → St) → Prop where
  | start (c : κ) (input : ι) (hfree : s.thread c = none) :
    Tracked A program start s state (.start c input)
      { s with thread := Function.update s.thread c (some (program input)) }
      (Function.update state c (start input))
  | step (c : κ) (event : Event R) (op : Op V X)
      (next : Reply R op → @Program (Op V X) (Reply R) ε α) (r : Reply R op) (store : Store V)
      (hthread : s.thread c = some (.call op next)) (hallowed : A.allowed (state c) op)
      (hserve : s.store.serve op event = some (r, store)) :
    Tracked A program start s state (.step c event)
      { store := store, thread := Function.update s.thread c (some (next r)) }
      (Function.update state c (A.after (state c) op r))
  | crash (c : κ) :
    Tracked A program start s state (.crash c)
      { s with thread := Function.update s.thread c none } state

/-- A step moves the states along. -/
lemma Tracks.step {s s' : Pool V R ε α κ} {a : Action R κ ι} {state : κ → St}
    (h : Tracks A Q s state) (hfollows : ∀ input, Follows A Q (start input) (program input))
    (hstep : s.step program a = some s') :
    ∃ state', Tracks A Q s' state' ∧ Tracked A program start s state a s' state' := by
  cases Pool.stepped_of_step hstep with
  | start c input hfree =>
    refine ⟨_, ?_, .start c input hfree⟩
    intro c' p hthread
    by_cases hc : c' = c
    · subst hc
      simp only [Function.update_self, Option.some.injEq] at hthread ⊢
      subst hthread
      exact hfollows input
    · simp only [Function.update_of_ne hc] at hthread ⊢
      exact h c' p hthread
  | crash c =>
    refine ⟨state, ?_, .crash c⟩
    intro c' p hthread
    by_cases hc : c' = c
    · subst hc
      simp only [Function.update_self] at hthread
      cases hthread
    · simp only [Function.update_of_ne hc] at hthread
      exact h c' p hthread
  | step c event op next r store hthread hserve =>
    have hcall := h c _ hthread
    refine ⟨_, ?_, .step c event op next r store hthread hcall.1 hserve⟩
    intro c' p hp
    by_cases hc : c' = c
    · subst hc
      simp only [Function.update_self, Option.some.injEq] at hp ⊢
      subst hp
      exact hcall.2 r
    · simp only [Function.update_of_ne hc] at hp ⊢
      exact h c' p hp

end Tracks

/-! ## From reads to writes -/

section Writes

variable {K : Type} {V : K → Type} {X : Type} {R : X → Type} {ε α κ ι : Type}
variable [DecidableEq K] [DecidableEq κ] {k : K} (Rel : V k → V k → Prop)
variable (program : ι → @Program (Op V X) (Reply R) ε α)

/-- The value that a step reads under `k`, and the value that its program is then about to write. -/
def rewriting (k : K) (s : Pool V R ε α κ) : Action R κ ι → Option (V k × V k)
  | .step c .usual =>
    (s.thread c).bind fun p => (s.store.record k).bind fun entry =>
      (rewritten k entry p).map fun value => (entry.value, value)
  | _ => none

/-- A program that reads `k` and goes on with an update of `k` updates it as `Rel` says. -/
def ReadsFor (k : K) (Rel : V k → V k → Prop) (s : Pool V R ε α κ) (a : Action R κ ι) : Prop :=
  ∀ values ∈ rewriting k s a, Rel values.1 values.2

omit [DecidableEq κ] in
/-- What a program that reads `k` is about to write. -/
lemma rewriting_of_read {s : Pool V R ε α κ} {c : κ} {entry : Entry (V k)} {value : V k}
    {revision : ℕ} {next : Answer (Entry (V k)) → @Program (Op V X) (Reply R) ε α}
    {rest : Answer ℕ → @Program (Op V X) (Reply R) ε α}
    (hthread : s.thread c = some (.call (.get k) next)) (hrecord : s.store.record k = some entry)
    (hnext : next (.done entry) = .call (.update k value revision) rest) :
    rewriting k s (.step c .usual : Action R κ ι) = some (entry.value, value) := by
  have hwrites : rewritten k entry (.call (.get k) next) = some value := by
    rw [rewritten, dif_pos rfl]
    exact (congrArg (nextUpdate k) hnext).trans (dif_pos rfl)
  simp only [rewriting, hthread, hrecord, Option.bind_some, hwrites, Option.map_some]

/-- Every program makes only some changes of the record under `k`. -/
def Changes (k : K) (T : (V k → V k) → Prop) (s : Pool V R ε α κ) : Prop :=
  ∀ c p, s.thread c = some p → ChangesBy k T p

/-- A step leaves programs that make the same changes. -/
lemma Changes.step {T : (V k → V k) → Prop} {program : ι → @Program (Op V X) (Reply R) ε α}
    {s s' : Pool V R ε α κ} {a : Action R κ ι} (h : Changes k T s)
    (hprogram : ∀ input, ChangesBy k T (program input)) (hstep : s.step program a = some s') :
    Changes k T s' := by
  -- the other threads stay as they are
  have hthread : ∀ {c c' : κ} {q : Option (@Program (Op V X) (Reply R) ε α)} {p},
      (∀ p, q = some p → ChangesBy k T p) → Function.update s.thread c q c' = some p →
      ChangesBy k T p := by
    intro c c' q p hq hp
    by_cases hc : c' = c
    · subst hc
      rw [Function.update_self] at hp
      exact hq p hp
    · rw [Function.update_of_ne hc] at hp
      exact h c' p hp
  cases Pool.stepped_of_step hstep with
  | start c input hfree =>
    intro c' p hp
    refine hthread ?_ hp
    rintro _ ⟨⟩
    exact hprogram input
  | crash c =>
    intro c' p hp
    refine hthread ?_ hp
    rintro _ ⟨⟩
  | step c event op next r store hcall hserve =>
    intro c' p hp
    refine hthread ?_ hp
    rintro _ ⟨⟩
    exact (h c _ hcall).2 r

omit [DecidableEq κ] in
/-- A condition on the changes for which the programs read the record is one on what they write. -/
lemma ReadsFor.of_changes {T : (V k → V k) → Prop} {Rel : V k → V k → Prop} {s : Pool V R ε α κ}
    {a : Action R κ ι} (h : Changes k T s)
    (hrel : ∀ c p entry change, a = .step c .usual → s.thread c = some p →
      s.store.record k = some entry → T change → Changing k change p →
      Rel entry.value (change entry.value)) : ReadsFor k Rel s a := by
  rintro ⟨old, new⟩ hvalues
  unfold rewriting at hvalues
  split at hvalues
  next c =>
    obtain ⟨p, hthread, hrest⟩ := Option.bind_eq_some_iff.mp hvalues
    obtain ⟨entry, hrecord, hnew⟩ := Option.bind_eq_some_iff.mp hrest
    obtain ⟨value, hvalue, hpair⟩ := Option.map_eq_some_iff.mp hnew
    cases hpair
    cases p with
    | ret a => cases hvalue
    | raise e => cases hvalue
    | call op next =>
      rcases (h c _ hthread).1 with ⟨change, hT, hchanging⟩ | hnone
      · rw [← hchanging.eq_of_rewritten hvalue]
        exact hrel c _ entry change rfl hthread hrecord hT hchanging
      · rw [hnone] at hvalue
        cases hvalue
  next => cases hvalues

/-- Every program is careful with what it last read, and is about to write as `Rel` says. -/
def Prepared (s : Pool V R ε α κ) : Prop :=
  ∀ c p, s.thread c = some p → ∃ seen, Careful k (fun _ _ => True) seen p ∧ Seen s.store k seen ∧
    ∀ (value : V k) (revision : ℕ) (rest : Answer ℕ → @Program (Op V X) (Reply R) ε α)
      (entry : Entry (V k)), p = .call (.update k value revision) rest → seen = some entry →
      Rel entry.value value

variable {Rel program} {s s' : Pool V R ε α κ} {a : Action R κ ι}

/-- The threads other than the one that moves. -/
lemma Prepared.others (h : Prepared Rel s) {op : Op V X} {store : Store V}
    (hserved : Served s.store store k op) {c c' : κ} (hc : c' ≠ c)
    {p q : @Program (Op V X) (Reply R) ε α}
    (hthread : Function.update s.thread c (some q) c' = some p) :
    ∃ seen, Careful k (fun _ _ => True) seen p ∧ Seen store k seen ∧
      ∀ (value : V k) (revision : ℕ) (rest : Answer ℕ → @Program (Op V X) (Reply R) ε α)
        (entry : Entry (V k)), p = .call (.update k value revision) rest → seen = some entry →
        Rel entry.value value := by
  rw [Function.update_of_ne hc] at hthread
  obtain ⟨seen, hcareful, hseen, hrel⟩ := h c' p hthread
  exact ⟨seen, hcareful, hseen.served hserved, hrel⟩

/-- A step keeps the programs prepared. -/
lemma Prepared.step (h : Prepared Rel s)
    (hcareful : ∀ input, Careful k (fun _ _ => True) none (program input))
    (hreads : ReadsFor k Rel s a) (hstep : s.step program a = some s') : Prepared Rel s' := by
  cases Pool.stepped_of_step hstep with
  | start c input hfree =>
    intro c' p hthread
    by_cases hc : c' = c
    · subst hc
      simp only [Function.update_self, Option.some.injEq] at hthread
      subst hthread
      refine ⟨none, hcareful input, ?_, ?_⟩
      · rintro entry ⟨⟩
      · rintro value revision rest entry - ⟨⟩
    · simp only [Function.update_of_ne hc] at hthread
      exact h c' p hthread
  | crash c =>
    intro c' p hthread
    by_cases hc : c' = c
    · subst hc
      simp only [Function.update_self] at hthread
      cases hthread
    · simp only [Function.update_of_ne hc] at hthread
      exact h c' p hthread
  | step c event op next r store hthread hserve =>
    intro c' p hp
    by_cases hc : c' = c
    · subst hc
      simp only [Function.update_self, Option.some.injEq] at hp
      subst hp
      obtain ⟨seen, hcall, -, -⟩ := h c' _ hthread
      refine ⟨seenAfter k op r, hcall.2 r, Seen.of_serve hserve, ?_⟩
      -- the program has just read: what it is about to write is what the condition is about
      intro value revision rest entry hnext hentry
      obtain ⟨rfl, -, hrecord, next', heq, hreply⟩ := read_of_seenAfter hserve hentry next
      rw [heq] at hthread
      exact hreads _ (rewriting_of_read hthread hrecord (hreply ▸ hnext))
    · exact h.others (served_of_serve hserve) hc hp

/-- A run whose reads meet the condition keeps the programs prepared. -/
lemma Prepared.run (h : Prepared Rel s)
    (hcareful : ∀ input, Careful k (fun _ _ => True) none (program input))
    {as : List (Action R κ ι)} (hreads : StepSystem.Along (Pool.step program) (ReadsFor k Rel) s as)
    (hrun : StepSystem.run (Pool.step program) s as = some s') : Prepared Rel s' :=
  StepSystem.run_invariant (fun _ _ _ hprepared hread hstep => hprepared.step hcareful hread hstep) h
    hreads hrun

/-- What a step does to the record under `k`: an update follows `Rel`. -/
lemma value_step (h : Prepared Rel s) (hstep : s.step program a = some s') :
    s'.store.record k = s.store.record k ∨ s.store.record k = none ∨
      ∃ entry entry', s.store.record k = some entry ∧ s'.store.record k = some entry' ∧
        Rel entry.value entry'.value := by
  cases Pool.stepped_of_step hstep with
  | start c input hfree => exact Or.inl rfl
  | crash c => exact Or.inl rfl
  | step c event op next r store hthread hserve =>
    cases served_of_serve (k := k) hserve with
    | same hrecord hsequence => exact Or.inl hrecord
    | created value habsent hput => exact Or.inr (Or.inl habsent)
    | updated value current hcurrent hop hput =>
      subst hop
      obtain ⟨seen, hcall, hseen, hrel⟩ := h c _ hthread
      obtain ⟨entry, hentry, hrevision⟩ := hcall.1 rfl
      -- the revision has not changed, so neither has the record
      have hsame := (hseen entry hentry).2 current hcurrent hrevision.symm
      refine Or.inr (Or.inr ⟨current, ⟨value, s.store.sequence + 1⟩, hcurrent, ?_, ?_⟩)
      · rw [hput]
        exact Store.put_record_self _ _ _
      · rw [hsame]
        exact hrel value current.revision next entry rfl hentry

/-- Along a run whose reads meet the condition, every later record is related to every earlier one. -/
theorem value_run (hrefl : ∀ v, Rel v v) (htrans : ∀ u v w, Rel u v → Rel v w → Rel u w)
    (hcareful : ∀ input, Careful k (fun _ _ => True) none (program input))
    {as : List (Action R κ ι)} (h : Prepared Rel s)
    (hreads : StepSystem.Along (Pool.step program) (ReadsFor k Rel) s as)
    (hrun : StepSystem.run (Pool.step program) s as = some s') {entry : Entry (V k)}
    (hentry : s.store.record k = some entry) :
    ∃ entry', s'.store.record k = some entry' ∧ Rel entry.value entry'.value := by
  induction as generalizing s entry with
  | nil =>
    cases hrun
    exact ⟨entry, hentry, hrefl _⟩
  | cons a as ih =>
    obtain ⟨t, hstep, hrest⟩ := StepSystem.run_cons.mp hrun
    obtain ⟨hread, hreads'⟩ := hreads.cons hstep
    have hprepared := h.step hcareful hread hstep
    rcases value_step h hstep with hsame | habsent | ⟨old, new, hold, hnew, hrel⟩
    · exact ih hprepared hreads' hrest (hsame.trans hentry)
    · rw [habsent] at hentry
      cases hentry
    · rw [hentry] at hold
      cases hold
      obtain ⟨entry', hentry', hrel'⟩ := ih hprepared hreads' hrest hnew
      exact ⟨entry', hentry', htrans _ _ _ hrel hrel'⟩

end Writes

end StoreProgram
