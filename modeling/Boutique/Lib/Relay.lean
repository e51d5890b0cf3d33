import Boutique.Lib.Publish
import Mathlib.Logic.Function.Basic

/-!
# Workers that pass messages on

A worker makes events of a message, publishes them one after the other, and acknowledges the message if
all of them were acknowledged to it.  It may stop at any time, and then the message is delivered again.
What a worker makes of a message is decided elsewhere: a job only remembers it.

Behind an acknowledged message all events of one of its jobs are in the stream, and the stream holds
nothing but events of jobs.
-/

namespace Relay

variable {ν ε ι : Type}

/-! ## Steps -/

/-- A message with the events that were made of it. -/
structure Work (ν ε : Type) where
  source : ν
  events : List ε

/-- The work of a worker: the events that it has still to publish, and whether all others were
acknowledged. -/
structure Job (ν ε : Type) where
  work : Work ν ε
  left : List ε
  confirmed : Bool

/-- The jobs that were started and those in progress, the stream of events, and the acknowledged messages. -/
structure State (ν ε : Type) where
  started : List (Work ν ε) := []
  jobs : ℕ → Option (Job ν ε) := fun _ => none
  events : List ε := []
  acked : List ν := []

/-- The steps of a worker with a job: it publishes the next event, it ends with an acknowledgement, which
may not arrive, and it stops. -/
inductive Action where
  | publish (w : ℕ) (outcome : Publish.Outcome)
  | finish (w : ℕ) (arrives : Bool)
  | stop (w : ℕ)

/-- The state with another job of a worker. -/
def State.setJob (s : State ν ε) (w : ℕ) (job : Option (Job ν ε)) : State ν ε :=
  { s with jobs := Function.update s.jobs w job }

/-- A worker without a job starts one. -/
def State.start (s : State ν ε) (w : ℕ) (work : Work ν ε) : Option (State ν ε) :=
  if (s.jobs w).isNone then
    some { s.setJob w (some ⟨work, work.events, true⟩) with started := s.started ++ [work] }
  else none

/-- One step. -/
def State.step [DecidableEq ι] (id : ε → ι) (s : State ν ε) : Action → Option (State ν ε)
  | .publish w outcome =>
    match s.jobs w with
    | some ⟨work, event :: left, confirmed⟩ =>
      (Publish.publish id s.events event outcome).map fun result =>
        { s.setJob w (some ⟨work, left, confirmed && result.2⟩) with events := result.1 }
    | _ => none
  | .finish w arrives =>
    match s.jobs w with
    | some ⟨work, [], true⟩ =>
      some { s.setJob w none with acked := if arrives then s.acked ++ [work.source] else s.acked }
    | _ => none
  | .stop w => some (s.setJob w none)

/-! ## The invariant -/

/-- All events of the work are in the stream, or others with their IDs. -/
def Delivered (id : ε → ι) (events stream : List ε) : Prop :=
  ∀ event ∈ events, ∃ event' ∈ stream, id event' = id event

/-- What a job has published it has found in the stream, as long as it was acknowledged. -/
structure Job.Ok (id : ε → ι) (s : State ν ε) (job : Job ν ε) : Prop where
  started : job.work ∈ s.started
  published : ∃ before, before ++ job.left = job.work.events ∧
    (job.confirmed = true → Delivered id before s.events)

/-- Jobs, events and acknowledgements go back to started work. -/
structure Inv (id : ε → ι) (s : State ν ε) : Prop where
  jobs : ∀ w job, s.jobs w = some job → job.Ok id s
  source : ∀ event ∈ s.events, ∃ work ∈ s.started, event ∈ work.events
  acked : ∀ source ∈ s.acked, ∃ work ∈ s.started, work.source = source ∧
    Delivered id work.events s.events

/-- What a step keeps: started work and events are only added. -/
structure Grows (s s' : State ν ε) : Prop where
  started : s.started <+: s'.started
  events : s.events <+: s'.events
  acked : s.acked <+: s'.acked

section Lemmas

variable {id : ε → ι} {s s' : State ν ε} {w : ℕ} {work : Work ν ε} {action : Action}

/-- Delivered events stay delivered. -/
lemma Delivered.mono {events stream stream' : List ε} (h : Delivered id events stream)
    (hgrows : stream <+: stream') : Delivered id events stream' := by
  intro event hevent
  obtain ⟨event', hmem, hid⟩ := h event hevent
  exact ⟨event', hgrows.subset hmem, hid⟩

/-- A job stays right while the state grows. -/
lemma Job.Ok.mono {job : Job ν ε} (h : job.Ok id s) (hgrows : Grows s s') : job.Ok id s' := by
  obtain ⟨before, hsplit, hdelivered⟩ := h.published
  exact ⟨hgrows.started.subset h.started, before, hsplit,
    fun hconfirmed => (hdelivered hconfirmed).mono hgrows.events⟩

/-- A step that changes one job keeps the invariant if the new job is right. -/
lemma Inv.of_job (h : Inv id s) (hgrows : Grows s s') (job : Option (Job ν ε))
    (hjobs : s'.jobs = Function.update s.jobs w job) (hjob : ∀ j, job = some j → j.Ok id s')
    (hsource : ∀ event ∈ s'.events, event ∈ s.events ∨ ∃ work ∈ s'.started, event ∈ work.events)
    (hacked : ∀ source ∈ s'.acked, source ∈ s.acked ∨ ∃ work ∈ s'.started, work.source = source ∧
      Delivered id work.events s'.events) : Inv id s' where
  jobs := by
    intro v j hj
    rw [hjobs] at hj
    by_cases hv : v = w
    · rw [hv, Function.update_self] at hj
      exact hjob j hj
    · rw [Function.update_of_ne hv] at hj
      exact (h.jobs v j hj).mono hgrows
  source := by
    intro event hevent
    rcases hsource event hevent with hold | hnew
    · obtain ⟨work, hwork, hmem⟩ := h.source event hold
      exact ⟨work, hgrows.started.subset hwork, hmem⟩
    · exact hnew
  acked := by
    intro source hmem
    rcases hacked source hmem with hold | hnew
    · obtain ⟨work, hwork, hsame, hdelivered⟩ := h.acked source hold
      exact ⟨work, hgrows.started.subset hwork, hsame, hdelivered.mono hgrows.events⟩
    · exact hnew

/-- A job starts. -/
lemma State.start_eq_some (h : s.start w work = some s') :
    s.jobs w = none ∧ s' = { s.setJob w (some ⟨work, work.events, true⟩) with
      started := s.started ++ [work] } := by
  unfold State.start at h
  split_ifs at h with hnone
  exact ⟨Option.isNone_iff_eq_none.mp hnone, (Option.some.inj h).symm⟩

/-- Starting a job only adds it. -/
lemma State.start_grows (h : s.start w work = some s') : Grows s s' := by
  obtain ⟨-, rfl⟩ := State.start_eq_some h
  exact ⟨List.prefix_append _ _, List.prefix_rfl, List.prefix_rfl⟩

/-- Starting a job keeps the invariant. -/
lemma Inv.start (h : Inv id s) (hstart : s.start w work = some s') : Inv id s' := by
  have hgrows := State.start_grows hstart
  obtain ⟨-, rfl⟩ := State.start_eq_some hstart
  refine h.of_job hgrows _ rfl ?_ (fun _ => Or.inl) (fun _ => Or.inl)
  rintro _ ⟨⟩
  exact ⟨List.mem_append_right _ (List.mem_singleton_self _), [], rfl, fun _ _ hmem => by cases hmem⟩

variable [DecidableEq ι]

/-- A step of a job, case by case. -/
inductive StepCase (id : ε → ι) (s : State ν ε) : Action → State ν ε → Prop where
  | published {w : ℕ} {outcome : Publish.Outcome} {work : Work ν ε} {event : ε} {left : List ε}
      {confirmed : Bool} {result : List ε × Bool} (hjob : s.jobs w = some ⟨work, event :: left, confirmed⟩)
      (hresult : Publish.publish id s.events event outcome = some result) :
      StepCase id s (.publish w outcome)
        { s.setJob w (some ⟨work, left, confirmed && result.2⟩) with events := result.1 }
  | finished {w : ℕ} {arrives : Bool} {work : Work ν ε} (hjob : s.jobs w = some ⟨work, [], true⟩) :
      StepCase id s (.finish w arrives)
        { s.setJob w none with acked := if arrives then s.acked ++ [work.source] else s.acked }
  | stopped {w : ℕ} : StepCase id s (.stop w) (s.setJob w none)

/-- Every step is one of these. -/
lemma State.step_cases (h : s.step id action = some s') : StepCase id s action s' := by
  unfold State.step at h
  split at h
  · split at h
    · next hjob =>
      obtain ⟨result, hresult, rfl⟩ := Option.map_eq_some_iff.mp h
      exact .published hjob hresult
    · cases h
  · split at h
    · next hjob =>
      cases h
      exact .finished hjob
    · cases h
  · cases h
    exact .stopped

/-- A step only adds to the streams. -/
lemma State.step_grows (h : s.step id action = some s') : Grows s s' := by
  cases State.step_cases h with
  | published _ hresult =>
    exact ⟨List.prefix_rfl, (Publish.published_of_publish hresult).grows, List.prefix_rfl⟩
  | @finished w arrives work =>
    refine ⟨List.prefix_rfl, List.prefix_rfl, ?_⟩
    change s.acked <+: if arrives then s.acked ++ [work.source] else s.acked
    split_ifs
    · exact List.prefix_append _ _
    · exact List.prefix_rfl
  | stopped => exact ⟨List.prefix_rfl, List.prefix_rfl, List.prefix_rfl⟩

/-- A step starts no work. -/
lemma State.step_started (h : s.step id action = some s') : s'.started = s.started := by
  cases State.step_cases h <;> rfl

/-- A step keeps the invariant. -/
lemma Inv.step (h : Inv id s) (hstep : s.step id action = some s') : Inv id s' := by
  have hgrows := State.step_grows hstep
  cases State.step_cases hstep with
  | published hjob hresult =>
    have hpublished := Publish.published_of_publish hresult
    obtain ⟨hstarted, before, hsplit, hdelivered⟩ := h.jobs _ _ hjob
    refine h.of_job hgrows _ rfl ?_ (fun e he => ?_) (fun _ => Or.inl)
    · rintro _ ⟨⟩
      refine ⟨hstarted, before ++ [_], by rw [← hsplit, List.append_assoc]; rfl, fun hconfirmed => ?_⟩
      obtain ⟨hbefore, hlast⟩ := Bool.and_eq_true_iff.mp hconfirmed
      intro e he
      rcases List.mem_append.mp he with hold | hnew
      · exact (hdelivered hbefore).mono hpublished.grows e hold
      · obtain rfl := List.mem_singleton.mp hnew
        exact hpublished.stored hlast
    · rcases hpublished.members e he with hold | rfl
      · exact Or.inl hold
      · refine Or.inr ⟨_, hstarted, ?_⟩
        rw [← hsplit]
        exact List.mem_append_right _ (List.mem_cons_self ..)
  | @finished w arrives work hjob =>
    obtain ⟨hstarted, before, hsplit, hdelivered⟩ := h.jobs _ _ hjob
    rw [List.append_nil] at hsplit
    refine h.of_job hgrows none rfl (by rintro _ ⟨⟩) (fun _ => Or.inl) (fun source hsource => ?_)
    change source ∈ (if arrives then s.acked ++ [work.source] else s.acked) at hsource
    split_ifs at hsource
    · rcases List.mem_append.mp hsource with hold | hnew
      · exact Or.inl hold
      · obtain rfl := List.mem_singleton.mp hnew
        exact Or.inr ⟨work, hstarted, rfl, hsplit ▸ hdelivered rfl⟩
    · exact Or.inl hsource
  | stopped => exact h.of_job hgrows none rfl (by rintro _ ⟨⟩) (fun _ => Or.inl) (fun _ => Or.inl)

omit [DecidableEq ι] in
/-- The invariant holds in the beginning. -/
lemma Inv.init : Inv id ({} : State ν ε) :=
  ⟨by rintro _ _ ⟨⟩, fun _ h => (List.not_mem_nil h).elim, fun _ h => (List.not_mem_nil h).elim⟩

end Lemmas

end Relay
