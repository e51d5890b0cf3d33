import Boutique.Operations.CaseHistory
import Boutique.Operations.Safety

/-!
# The attempts of a case

Whatever the operators and controllers do, the attempts of a case are numbered from one, a lock on the
case is an attempt that is being published, and a resolved case stays as it is.  A call of `Replay` whose
lock was taken over keeps the revision of its own lock, which is not stored again.
-/

namespace Boutique.Operations

/-! ## Attempts -/

section Attempts

variable {Json : Type*} (env : Env Json)

/-- The attempts of a case are numbered and named in their order, only the last one can be in progress,
and the status says whether it is. -/
structure Attempts (id : String) (value : DeadLetterCase) : Prop where
  numbered : ∀ (k : ℕ) (attempt : ReplayAttempt), value.replays[k]? = some attempt →
    attempt.number = k + 1 ∧ attempt.id = replayId env id (k + 1)
  publishing : ∀ (k : ℕ) (attempt : ReplayAttempt), value.replays[k]? = some attempt →
    attempt.status = .publishing → k + 1 = value.replays.length
  progress : value.status = .replayInProgress ↔
    ∃ attempt, value.replays.getLast? = some attempt ∧ attempt.status = .publishing

/-- No attempt is removed or renumbered. -/
def KeepsAttempts (old new : DeadLetterCase) : Prop :=
  old.replays.map (fun attempt => (attempt.number, attempt.id)) <+:
    new.replays.map (fun attempt => (attempt.number, attempt.id))

variable {env} {id : String} {value value' : DeadLetterCase}

/-- A new case has no attempts. -/
lemma Fresh.attempts (h : Fresh value) : Attempts env id value where
  numbered := by simp [h.replays]
  publishing := by simp [h.replays]
  progress := by simp [h.replays, h.status]

/-- The same attempts under another status. -/
lemma Attempts.of_eq (h : Attempts env id value) (hreplays : value'.replays = value.replays)
    (hstatus : value'.status = .replayInProgress ↔ value.status = .replayInProgress) :
    Attempts env id value' where
  numbered := hreplays ▸ h.numbered
  publishing := hreplays ▸ h.publishing
  progress := by rw [hreplays, hstatus, h.progress]

/-- An attempt that is being published is the last one of a locked case. -/
lemma Attempts.locked_of_publishing (h : Attempts env id value) {k : ℕ} {attempt : ReplayAttempt}
    (hk : value.replays[k]? = some attempt) (hstatus : attempt.status = .publishing) :
    value.status = .replayInProgress := by
  refine h.progress.mpr ⟨attempt, ?_, hstatus⟩
  have hlast := h.publishing k attempt hk hstatus
  rw [List.getLast?_eq_getElem?, ← hlast, Nat.add_sub_cancel]
  exact hk

/-- The attempt in progress gets its result. -/
lemma Attempts.modify (h : Attempts env id value) {i : ℕ} {f : ReplayAttempt → ReplayAttempt}
    (hreplays : value'.replays = value.replays.modify i f)
    (hstatus : value'.status ≠ .replayInProgress)
    (hf : ∀ attempt, (f attempt).number = attempt.number ∧ (f attempt).id = attempt.id ∧
      (f attempt).status ≠ .publishing)
    (hi : value.status = .replayInProgress → i + 1 = value.replays.length) :
    Attempts env id value' := by
  -- an attempt of the new list is an attempt of the old one, with its result if it is the one
  have hold : ∀ (k : ℕ) (attempt : ReplayAttempt), value'.replays[k]? = some attempt →
      ∃ old, value.replays[k]? = some old ∧ attempt = if i = k then f old else old := by
    intro k attempt hk
    rw [hreplays, List.getElem?_modify] at hk
    obtain ⟨old, hold, rfl⟩ := Option.map_eq_some_iff.mp hk
    refine ⟨old, hold, ?_⟩
    split_ifs <;> rfl
  have hdone : ∀ (k : ℕ) (attempt : ReplayAttempt), value'.replays[k]? = some attempt →
      attempt.status ≠ .publishing := by
    intro k attempt hk hpublishing
    obtain ⟨old, hold, rfl⟩ := hold k attempt hk
    split_ifs at hpublishing with hik
    · exact (hf old).2.2 hpublishing
    · have hlast := h.publishing k old hold hpublishing
      have hi' := hi (h.locked_of_publishing hold hpublishing)
      omega
  refine ⟨?_, ?_, ?_⟩
  · intro k attempt hk
    obtain ⟨old, hold, rfl⟩ := hold k attempt hk
    obtain ⟨hnumber, hid⟩ := h.numbered k old hold
    split_ifs
    · rw [(hf old).1, (hf old).2.1]
      exact ⟨hnumber, hid⟩
    · exact ⟨hnumber, hid⟩
  · intro k attempt hk hpublishing
    exact absurd hpublishing (hdone k attempt hk)
  · refine ⟨fun hprogress => absurd hprogress hstatus, ?_⟩
    rintro ⟨attempt, hlast, hpublishing⟩
    rw [List.getLast?_eq_getElem?] at hlast
    exact absurd hpublishing (hdone _ attempt hlast)

/-- A new attempt is in progress. -/
lemma Attempts.append (h : Attempts env id value) {attempt : ReplayAttempt}
    (hreplays : value'.replays = value.replays ++ [attempt])
    (hstatus : value'.status = .replayInProgress) (hfree : value.status ≠ .replayInProgress)
    (hnumber : attempt.number = value.replays.length + 1)
    (hid : attempt.id = replayId env id (value.replays.length + 1))
    (hpublishing : attempt.status = .publishing) : Attempts env id value' := by
  refine ⟨?_, ?_, ?_⟩
  · intro k other hk
    rw [hreplays, List.getElem?_append] at hk
    split_ifs at hk with hlt
    · exact h.numbered k other hk
    · rw [List.getElem?_singleton] at hk
      split_ifs at hk with hzero
      cases hk
      have hlength : k = value.replays.length := by omega
      rw [hlength]
      exact ⟨hnumber, hid⟩
  · intro k other hk hother
    rw [hreplays, List.getElem?_append] at hk
    rw [hreplays, List.length_append, List.length_singleton]
    split_ifs at hk with hlt
    · exact absurd (h.locked_of_publishing hk hother) hfree
    · rw [List.getElem?_singleton] at hk
      split_ifs at hk with hzero
      omega
  · refine ⟨fun _ => ⟨attempt, ?_, hpublishing⟩, fun _ => hstatus⟩
    rw [hreplays, List.getLast?_append, List.getLast?_singleton, Option.some_or]

/-- Every change of a case keeps its attempts in order. -/
lemma Attempts.changes (h : Attempts env id value) (hid : value.id = id)
    (hchanges : Changes env value value') : Attempts env id value' := by
  cases hchanges with
  | complete now hstatus => exact h.of_eq rfl (by simp [DeadLetterCase.completed, hstatus])
  | markFailed hstatus hmark =>
    obtain ⟨index, -, rfl⟩ := markReplayFailed_eq_some hmark
    refine h.modify rfl (by simp) (fun attempt => ⟨rfl, rfl, by simp⟩) ?_
    intro hprogress
    rw [hstatus] at hprogress
    cases hprogress
  | lock hlock =>
    rcases lockReplay_eq_some hlock with ⟨hstatus, rfl, rfl⟩ | ⟨hstatus, -, -, -, rfl⟩
    · refine h.append rfl rfl ?_ rfl (by rw [hid]) rfl
      rcases hstatus with hstatus | hstatus <;> simp [hstatus]
    · exact h.of_eq rfl (by simp [hstatus])
  | record outcome now hstatus =>
    have hlast : value.replays.length - 1 + 1 = value.replays.length := by
      obtain ⟨attempt, hattempt, -⟩ := h.progress.mp hstatus
      have hne : value.replays ≠ [] := by
        rintro hnil
        rw [hnil] at hattempt
        cases hattempt
      exact Nat.sub_add_cancel (List.length_pos_of_ne_nil hne)
    cases outcome with
    | error text => exact h.modify rfl (by simp [DeadLetterCase.recordReplay,
        DeadLetterCase.replayFailed]) (fun attempt => ⟨rfl, rfl, by simp⟩) fun _ => hlast
    | ok sequence => exact h.modify rfl (by simp [DeadLetterCase.recordReplay,
        DeadLetterCase.replayPublished]) (fun attempt => ⟨rfl, rfl, by simp⟩) fun _ => hlast
  | resolve hresolve =>
    obtain ⟨hstatus, rfl⟩ := resolve_eq_some hresolve
    refine h.of_eq rfl ?_
    rcases hstatus with hstatus | hstatus | hstatus <;> simp [hstatus]

/-- A result leaves the numbers and names. -/
lemma KeepsAttempts.modify {i : ℕ} {f : ReplayAttempt → ReplayAttempt}
    (hreplays : value'.replays = value.replays.modify i f)
    (hf : ∀ attempt, (f attempt).number = attempt.number ∧ (f attempt).id = attempt.id) :
    KeepsAttempts value value' := by
  have hmap : (value.replays.modify i f).map (fun attempt => (attempt.number, attempt.id)) =
      value.replays.map (fun attempt => (attempt.number, attempt.id)) := by
    refine List.ext_getElem? fun k => ?_
    rw [List.getElem?_map, List.getElem?_modify, List.getElem?_map, Option.map_eq_map,
      Option.map_map]
    congr 1
    funext attempt
    simp only [Function.comp_apply]
    split_ifs
    · rw [(hf attempt).1, (hf attempt).2]
    · rfl
  exact ⟨[], by rw [List.append_nil, hreplays, hmap]⟩

/-- No change removes or renumbers an attempt. -/
lemma Changes.keepsAttempts (h : Changes env value value') : KeepsAttempts value value' := by
  cases h with
  | complete => exact List.prefix_rfl
  | markFailed _ hmark =>
    obtain ⟨index, -, rfl⟩ := markReplayFailed_eq_some hmark
    exact .modify rfl fun attempt => ⟨rfl, rfl⟩
  | lock hlock =>
    rcases lockReplay_eq_some hlock with ⟨-, -, rfl⟩ | ⟨-, -, -, -, rfl⟩
    · rw [KeepsAttempts, List.map_append]
      exact List.prefix_append _ _
    · exact List.prefix_rfl
  | record outcome =>
    cases outcome with
    | error text => exact .modify rfl fun attempt => ⟨rfl, rfl⟩
    | ok sequence => exact .modify rfl fun attempt => ⟨rfl, rfl⟩
  | resolve hresolve =>
    obtain ⟨-, rfl⟩ := resolve_eq_some hresolve
    exact List.prefix_rfl

end Attempts

/-! ## Locks -/

section Locks

variable {κ Json : Type*} {env : Env Json} {s t : State κ Json} {c : κ} {a : Action κ} {p q : Phase}

/-- The lock that a call of `Replay` holds. -/
def Phase.locked : Phase → Option StoredCase
  | .replayPayload _ locked | .replayPublish _ locked _ | .replayEnd locked _ => some locked
  | _ => none

/-- A call with nothing to write holds no lock. -/
lemma Phase.locked_of_plain {p : Phase} (hp : p.plain) : p.locked = none := by
  cases p with
  | replayPayload | replayPublish | replayEnd => cases hp
  | _ => rfl

/-- A call has returned, or the lock that it holds is no longer stored. -/
def Superseded (s : State κ Json) (c : κ) : Prop :=
  (∃ result, s.phase c = .returned result) ∨
    ∃ locked, (s.phase c).locked = some locked ∧ locked.revision ≤ s.revision ∧
      ¬Bucket.HasRevision s.cases locked.value.id locked.revision

/-- A call that holds a lock keeps it until it returns. -/
lemma Next.locked {bucket : Bucket} {locked : StoredCase} (h : Next env bucket q p)
    (hq : q.locked = some locked) : (∃ result, p = .returned result) ∨ p.locked = some locked := by
  cases h with
  | returned => exact Or.inl ⟨_, rfl⟩
  | replayPublish => exact Or.inr hq
  | payloadFailed => exact Or.inr hq
  | replayEnd => exact Or.inr hq
  | plain hplain =>
    rw [Phase.locked_of_plain hplain] at hq
    cases hq
  | create hplain =>
    rw [Phase.locked_of_plain hplain] at hq
    cases hq
  | event hplain =>
    rw [Phase.locked_of_plain hplain] at hq
    cases hq
  | reload | delete | parent | markParent | pass | unmarked | latest | replayLock | resolveStore =>
    cases hq

/-- A call that has returned does nothing. -/
lemma Next.returned_eq {bucket : Bucket} {result : Option DeadLetterCase}
    (h : Next env bucket (.returned result) p) : ∃ result', p = .returned result' := by
  cases h with
  | returned => exact ⟨_, rfl⟩
  | plain hplain => cases hplain
  | create hplain => cases hplain
  | event hplain => cases hplain

/-- A call that holds a lock writes under the revision of the lock. -/
lemma Writes.locked {value : DeadLetterCase} {locked : StoredCase} (h : Writes s c a q value p)
    (hq : q.locked = some locked) :
    Bucket.HasRevision s.cases locked.value.id locked.revision := by
  cases h with
  | @replayEnd locked' outcome now hrevision =>
    obtain rfl : locked' = locked := Option.some.inj hq
    cases outcome with
    | error => exact hrevision
    | ok => exact hrevision
  | create | markParent | complete | replayLock | resolveStore => cases hq

/-- A revision of the past that is not stored is not stored again. -/
lemma Grown.not_hasRevision (h : Grown s t) {id : String} {revision : ℕ} (hle : revision ≤ s.revision)
    (hnot : ¬Bucket.HasRevision s.cases id revision) : ¬Bucket.HasRevision t.cases id revision := by
  rcases h with ⟨hcases, -⟩ | ⟨value, hcases, -⟩
  · rw [hcases]
    exact hnot
  · rintro ⟨stored, hstored, hrevision⟩
    rw [hcases] at hstored
    by_cases hid : id = value.id
    · rw [hid, Function.update_self] at hstored
      cases hstored
      simp only at hrevision
      omega
    · rw [Function.update_of_ne hid] at hstored
      exact hnot ⟨stored, hstored, hrevision⟩

/-- Revisions grow. -/
lemma Grown.revision_le (h : Grown s t) : s.revision ≤ t.revision := by
  rcases h with ⟨-, hrevision⟩ | ⟨-, -, hrevision⟩
  · exact hrevision.ge
  · omega

end Locks

/-! ## Runs -/

section Runs

variable {κ Json : Type*} [DecidableEq κ] {env : Env Json} {s t : State κ Json}
  {acts : List (Action κ)} {c d : κ} {a : Action κ}

/-- A step keeps the attempts of every stored case in order. -/
lemma attempts_step {s' : State κ Json} (hsound : Sound env s)
    (hattempts : ∀ id stored, s.cases id = some stored → Attempts env id stored.value)
    (hstepped : Stepped env s a s') :
    ∀ id stored, s'.cases id = some stored → Attempts env id stored.value := by
  intro id stored hstored
  rcases hsound.cases_step hstepped id with hsame | ⟨new, hnew, -, hkind⟩
  · exact hattempts id stored (hsame ▸ hstored)
  · obtain rfl := Option.some.inj (hnew.symm.trans hstored)
    rcases hkind with ⟨-, hfresh⟩ | ⟨old, hold, hchanges⟩
    · exact hfresh.attempts
    · exact (hattempts id old hold).changes (hsound.ids id old hold) hchanges

/-- The attempts of every stored case are in order. -/
lemma attempts_of_run (hrun : StepSystem.run (State.step env) {} acts = some s) :
    ∀ id stored, s.cases id = some stored → Attempts env id stored.value := by
  have hinv : Sound env s ∧ ∀ id stored, s.cases id = some stored → Attempts env id stored.value := by
    refine StepSystem.run_invariant_of_step (I := fun s => Sound env s ∧
      ∀ id stored, s.cases id = some stored → Attempts env id stored.value) ?_
      ⟨.init, fun id stored hnone => by cases hnone⟩ hrun
    rintro s a s' ⟨hsound, hattempts⟩ hstep
    have hstepped := stepped_of_step hstep
    exact ⟨hsound.step hstepped, attempts_step hsound hattempts hstepped⟩
  exact hinv.2

/-- A stored case keeps its attempts, and stays as it is once it is resolved. -/
lemma kept_of_run (hsound : Sound env s) (hrun : StepSystem.run (State.step env) s acts = some t)
    {id : String} {stored : StoredCase} (hstored : s.cases id = some stored) :
    ∃ stored', t.cases id = some stored' ∧ KeepsAttempts stored.value stored'.value ∧
      (stored.value.status = .resolved → stored' = stored) := by
  have hinv : Sound env t ∧ ∃ stored', t.cases id = some stored' ∧
      KeepsAttempts stored.value stored'.value ∧
      (stored.value.status = .resolved → stored' = stored) := by
    refine StepSystem.run_invariant_of_step (I := fun u => Sound env u ∧ ∃ stored',
      u.cases id = some stored' ∧ KeepsAttempts stored.value stored'.value ∧
      (stored.value.status = .resolved → stored' = stored)) ?_
      ⟨hsound, stored, hstored, List.prefix_rfl, fun _ => rfl⟩ hrun
    rintro u a u' ⟨husound, stored', hstored', hkeeps, hresolved⟩ hstep
    have hstepped := stepped_of_step hstep
    refine ⟨husound.step hstepped, ?_⟩
    rcases husound.cases_step hstepped id with hsame | ⟨new, hnew, -, hkind⟩
    · exact ⟨stored', hsame ▸ hstored', hkeeps, hresolved⟩
    · rcases hkind with ⟨hnone, -⟩ | ⟨old, hold, hchanges⟩
      · rw [hstored'] at hnone
        cases hnone
      · obtain rfl := Option.some.inj (hold.symm.trans hstored')
        refine ⟨new, hnew, hkeeps.trans hchanges.keepsAttempts, ?_⟩
        intro hstatus
        rw [hresolved hstatus] at hchanges
        exact absurd hstatus hchanges.not_resolved
  exact hinv.2

/-- A call whose lock is gone stays one, and writes nothing. -/
lemma Superseded.step (h : Superseded s c) (hstepped : Stepped env s a t) :
    Superseded t c ∧ (a.caller = some c → t.cases = s.cases) := by
  have hgrown := hstepped.grown
  -- a call whose phase is the same
  have hkeep : t.phase c = s.phase c → Superseded t c := by
    intro hphase
    rcases h with ⟨result, hresult⟩ | ⟨locked, hlocked, hle, hnot⟩
    · exact Or.inl ⟨result, hphase.trans hresult⟩
    · exact Or.inr ⟨locked, by rw [hphase, hlocked], hle.trans hgrown.revision_le,
        hgrown.not_hasRevision hle hnot⟩
  cases hstepped with
  | outside _ hcases _ hphase => exact ⟨hkeep (by rw [hphase]), fun _ => hcases⟩
  | moved d p _ hnext hcases _ hphase =>
    refine ⟨?_, fun _ => hcases⟩
    by_cases hd : c = d
    · subst hd
      have hp : t.phase c = p := by rw [hphase, Function.update_self]
      rcases h with ⟨result, hresult⟩ | ⟨locked, hlocked, hle, hnot⟩
      · rw [hresult] at hnext
        obtain ⟨result', rfl⟩ := hnext.returned_eq
        exact Or.inl ⟨result', hp⟩
      · rcases hnext.locked hlocked with ⟨result', rfl⟩ | hlocked'
        · exact Or.inl ⟨result', hp⟩
        · exact Or.inr ⟨locked, by rw [hp, hlocked'], hle.trans hgrown.revision_le,
            hgrown.not_hasRevision hle hnot⟩
    · exact hkeep (by rw [hphase, Function.update_of_ne hd])
  | wrote d value p ha hwrites _ _ hphase =>
    have hne : c ≠ d := by
      rintro rfl
      rcases h with ⟨result, hresult⟩ | ⟨locked, hlocked, -, hnot⟩
      · rw [hresult] at hwrites
        cases hwrites
      · exact hnot (hwrites.locked hlocked)
    refine ⟨hkeep (by rw [hphase, Function.update_of_ne hne]), ?_⟩
    intro hc
    exact absurd (Option.some.inj (hc.symm.trans ha)) hne

/-- A call that takes over a lock writes the case of the lock. -/
lemma superseded_of_replayLock (hsound : Sound env s) {locked mine : StoredCase} (hne : c ≠ d)
    (hlocked : (s.phase c).locked = some locked) (hstep : s.step env (.replayLock d) = some t)
    (hmine : (t.phase d).locked = some mine) (hid : mine.value.id = locked.value.id) :
    Superseded t c := by
  have hrevision : locked.revision ≤ s.revision := by
    have hbased := hsound.phases c
    cases hphase : s.phase c with
    | replayPayload | replayPublish | replayEnd =>
      rw [hphase] at hlocked hbased
      obtain rfl := Option.some.inj hlocked
      exact hbased.1.revision
    | _ =>
      rw [hphase] at hlocked
      cases hlocked
  simp only [State.step, State.stepTransfer, Option.none_or, State.stepReplay] at hstep
  split at hstep
  · next attempt value revision hphase =>
    split at hstep
    · next hupdate =>
      cases hstep
      obtain ⟨-, rfl⟩ := State.updateCase_eq_some hupdate
      simp only [State.setPhase, Function.update_self, Phase.locked] at hmine
      obtain rfl := Option.some.inj hmine
      refine Or.inr ⟨locked, ?_, ?_, ?_⟩
      · simpa [State.setPhase, State.putCase, Function.update_of_ne hne] using hlocked
      · exact hrevision.trans (Nat.le_succ _)
      · rintro ⟨stored, hstored, heq⟩
        simp only at hid
        simp only [State.setPhase, State.putCase, hid, Function.update_self, Option.some.injEq]
          at hstored
        rw [← hstored] at heq
        simp only at heq
        omega
    · cases hstep
      simp [State.setPhase, Phase.locked] at hmine
  · cases hstep

/-- In every run the attempts of every stored case are numbered and named in their order, only the last
one can be in progress, and the status says whether it is; no attempt is removed or renumbered and a
resolved case stays as it is; and a call of `Replay` whose lock another call has taken over writes no
case any more. -/
theorem replay_state_machine (hrun : StepSystem.run (State.step env) {} acts = some s) :
    (∀ id stored, s.cases id = some stored → Attempts env id stored.value) ∧
    (∀ (more : List (Action κ)) (t : State κ Json), StepSystem.run (State.step env) s more = some t →
      ∀ id stored, s.cases id = some stored → ∃ stored', t.cases id = some stored' ∧
        KeepsAttempts stored.value stored'.value ∧
        (stored.value.status = .resolved → stored' = stored)) ∧
    ∀ (c d : κ) (locked mine : StoredCase) (t : State κ Json), c ≠ d →
      (s.phase c).locked = some locked → s.step env (.replayLock d) = some t →
      (t.phase d).locked = some mine → mine.value.id = locked.value.id →
      ∀ (more : List (Action κ)) (u : State κ Json),
        StepSystem.run (State.step env) t more = some u →
        ∀ (a : Action κ) (v : State κ Json), a.caller = some c → u.step env a = some v →
          v.cases = u.cases := by
  have hsound := sound_of_run hrun
  refine ⟨attempts_of_run hrun,
    fun more t hmore id stored hstored => kept_of_run hsound hmore hstored, ?_⟩
  intro c d locked mine t hne hlocked hstep hmine hid more u hmore a v ha hlast
  have hsuperseded : Superseded u c :=
    StepSystem.run_invariant_of_step (I := fun u => Superseded u c)
      (fun _ _ _ h hs => (h.step (stepped_of_step hs)).1)
      (superseded_of_replayLock hsound hne hlocked hstep hmine hid) hmore
  exact (hsuperseded.step (stepped_of_step hlast)).2 ha

end Runs

/-- Two operators replay the sample case; the second finds the lock of the first a minute later. -/
def sampleTakeover : List (Action ℕ) :=
  sampleOpening ++ [.replay 1 sampleCaseId "first" "retry", .replayLoad 1 10, .replayLock 1,
    .replayPayload 1, .replay 2 sampleCaseId "second" "retry", .replayLoad 2 60000000010]

/-- The first operator writes nothing after the second has taken over its lock. -/
theorem sample_lock_taken_over :
    ∃ s t : State ℕ DeadLetterRecord, ∃ locked mine : StoredCase,
      StepSystem.run (State.step sampleEnv) {} sampleTakeover = some s ∧
      s.step sampleEnv (.replayLock 2) = some t ∧
      (s.phase 1).locked = some locked ∧ (t.phase 2).locked = some mine ∧
      ∀ (more : List (Action ℕ)) (u : State ℕ DeadLetterRecord),
        StepSystem.run (State.step sampleEnv) t more = some u →
        ∀ (a : Action ℕ) (v : State ℕ DeadLetterRecord), a.caller = some 1 →
          u.step sampleEnv a = some v → v.cases = u.cases := by
  have hrun : ((StepSystem.run (State.step sampleEnv) ({} : State ℕ DeadLetterRecord)
      sampleTakeover).bind fun s => (s.step sampleEnv (.replayLock 2)).bind fun t =>
        (s.phase 1).locked.bind fun locked => (t.phase 2).locked.map fun mine =>
          (locked.value.id, mine.value.id)) = some (sampleCaseId, sampleCaseId) := by
    decide +kernel
  obtain ⟨s, hs, hrest⟩ := Option.bind_eq_some_iff.mp hrun
  obtain ⟨t, ht, hrest⟩ := Option.bind_eq_some_iff.mp hrest
  obtain ⟨locked, hlocked, hrest⟩ := Option.bind_eq_some_iff.mp hrest
  obtain ⟨mine, hmine, hids⟩ := Option.map_eq_some_iff.mp hrest
  obtain ⟨hlockedId, hmineId⟩ := Prod.mk.inj hids
  exact ⟨s, t, locked, mine, hs, ht, hlocked, hmine, (replay_state_machine hs).2.2 1 2 locked mine t
    (by decide) hlocked ht hmine (hmineId.trans hlockedId.symm)⟩

end Boutique.Operations
