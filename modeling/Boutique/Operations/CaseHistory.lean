import Boutique.Operations.System

/-!
# The history of a case

What a step of the system does to the bucket of the cases.  A call reads a case with its revision,
works on the value that it read, and writes it under that revision.  So a write is always made of the
value that is stored: the stored values of a case are a path of the state machine `Changes`, which
knows nothing of calls and revisions.
-/

namespace Boutique.Operations

/-! ## Steps -/

section Steps

variable {κ Json : Type*}

/-- The call that takes a step. -/
def Action.caller : Action κ → Option κ
  | .produce _ _ | .expire _ _ => none
  | .advise c _ | .lookup c | .cleanup c | .cleanupEvent c | .fetch c _ | .recollect c _ | .persist c _
  | .recheck c | .create c | .reload c | .event c | .delete c | .parent c | .markParent c _
  | .complete c _ | .latest c | .replay c _ _ _ | .replayLoad c _ | .replayLock c | .replayPayload c
  | .replayPublish c _ | .replayEnd c _ | .resolve c _ _ _ | .resolveLoad c _ | .resolveStore c
  | .crash c => some c

/-- The phases in which a call has nothing to write yet. -/
def Phase.plain : Phase → Prop
  | .idle | .lookup _ | .cleanup _ _ | .cleanupEvent _ | .fetch _ | .recollect _ _ | .persist _ _
  | .recheck _ _ | .reload _ | .latest _ | .replayLoad _ _ _ | .resolveLoad _ _ _ => True
  | _ => False

/-- The cases by their IDs. -/
abbrev Bucket := String → Option StoredCase

/-- A call moves on without a write. -/
inductive Next (env : Env Json) (bucket : Bucket) : Phase → Phase → Prop where
  | returned (p : Phase) (result : Option DeadLetterCase) : Next env bucket p (.returned result)
  | plain {p p' : Phase} (hp : p.plain) (hp' : p'.plain) : Next env bucket p p'
  | create {p : Phase} {value : DeadLetterCase} (hp : p.plain)
      (hstatus : value.status = .transferInProgress) (hreplays : value.replays = []) :
      Next env bucket p (.create value)
  | reload (value : DeadLetterCase) : Next env bucket (.create value) (.reload value.id)
  | event {p : Phase} {id : String} {stored : StoredCase} (hp : p.plain)
      (hstored : bucket id = some stored) (hstatus : stored.value.status = .transferInProgress) :
      Next env bucket p (.event stored)
  | delete (stored : StoredCase) : Next env bucket (.event stored) (.delete stored)
  | parent (stored : StoredCase) : Next env bucket (.delete stored) (.parent stored)
  | markParent {stored parent : StoredCase} (hparent : stored.value.parentCaseId ≠ "")
      (hstored : bucket stored.value.parentCaseId = some parent)
      (hstatus : parent.value.status = .replayPublished) :
      Next env bucket (.parent stored) (.markParent stored parent)
  | pass {stored : StoredCase}
      (hparent : stored.value.parentCaseId ≠ "" → ∀ parent,
        bucket stored.value.parentCaseId = some parent → parent.value.status ≠ .replayPublished) :
      Next env bucket (.parent stored) (.complete stored)
  | unmarked {stored parent : StoredCase} {now : Time}
      (hmark : parent.value.markReplayFailed stored.value.parentReplayId stored.value.id now = none) :
      Next env bucket (.markParent stored parent) (.complete stored)
  | latest (stored : StoredCase) (id : String) : Next env bucket (.complete stored) (.latest id)
  | replayLock {id actor reason : String} {stored : StoredCase} {attempt : ReplayAttempt}
      {value : DeadLetterCase} {now : Time} (hstored : bucket id = some stored)
      (hlock : stored.value.lockReplay env actor reason now = some (attempt, value)) :
      Next env bucket (.replayLoad id actor reason) (.replayLock attempt value stored.revision)
  | replayPublish (attempt : ReplayAttempt) (locked : StoredCase) (record : DeadLetterRecord) :
      Next env bucket (.replayPayload attempt locked) (.replayPublish attempt locked record)
  | payloadFailed (attempt : ReplayAttempt) (locked : StoredCase) (error : String) :
      Next env bucket (.replayPayload attempt locked) (.replayEnd locked (.error error))
  | replayEnd (attempt : ReplayAttempt) (locked : StoredCase) (record : DeadLetterRecord)
      (outcome : Except String ℕ) :
      Next env bucket (.replayPublish attempt locked record) (.replayEnd locked outcome)
  | resolveStore {id actor reason : String} {stored : StoredCase} {value : DeadLetterCase} {now : Time}
      (hstored : bucket id = some stored)
      (hresolve : stored.value.resolve actor reason now = some value) :
      Next env bucket (.resolveLoad id actor reason) (.resolveStore value stored.revision)

/-- A case is stored under a revision. -/
def Bucket.HasRevision (bucket : Bucket) (id : String) (revision : ℕ) : Prop :=
  ∃ stored, bucket id = some stored ∧ stored.revision = revision

/-- A call writes a case: the step, the phase of the call, what it writes and the next phase. -/
inductive Writes (s : State κ Json) (c : κ) : Action κ → Phase → DeadLetterCase → Phase → Prop where
  | create {value : DeadLetterCase} (hnone : s.cases value.id = none) :
      Writes s c (.create c) (.create value) value
        (transferPhase { value := value, revision := s.revision + 1 })
  | markParent {stored parent : StoredCase} {now : Time} {marked : DeadLetterCase}
      (hmark : parent.value.markReplayFailed stored.value.parentReplayId stored.value.id now =
        some marked)
      (hrevision : Bucket.HasRevision s.cases marked.id parent.revision) :
      Writes s c (.markParent c now) (.markParent stored parent) marked (.complete stored)
  | complete {stored : StoredCase} {now : Time}
      (hrevision : Bucket.HasRevision s.cases (stored.value.completed now).id stored.revision) :
      Writes s c (.complete c now) (.complete stored) (stored.value.completed now)
        (.returned (some (stored.value.completed now)))
  | replayLock {attempt : ReplayAttempt} {value : DeadLetterCase} {revision : ℕ}
      (hrevision : Bucket.HasRevision s.cases value.id revision) :
      Writes s c (.replayLock c) (.replayLock attempt value revision) value
        (.replayPayload attempt { value := value, revision := s.revision + 1 })
  | replayEnd {locked : StoredCase} {outcome : Except String ℕ} {now : Time}
      (hrevision : Bucket.HasRevision s.cases (locked.value.recordReplay outcome now).id
        locked.revision) :
      Writes s c (.replayEnd c now) (.replayEnd locked outcome)
        (locked.value.recordReplay outcome now)
        (.returned (some (locked.value.recordReplay outcome now)))
  | resolveStore {value : DeadLetterCase} {revision : ℕ}
      (hrevision : Bucket.HasRevision s.cases value.id revision) :
      Writes s c (.resolveStore c) (.resolveStore value revision) value (.returned (some value))

/-- What a step does to the bucket and to the calls. -/
inductive Stepped [DecidableEq κ] (env : Env Json) (s : State κ Json) (a : Action κ)
    (s' : State κ Json) : Prop where
  | outside (ha : a.caller = none) (hcases : s'.cases = s.cases) (hrevision : s'.revision = s.revision)
      (hphase : s'.phase = s.phase)
  | moved (c : κ) (p : Phase) (ha : a.caller = some c) (hnext : Next env s.cases (s.phase c) p)
      (hcases : s'.cases = s.cases) (hrevision : s'.revision = s.revision)
      (hphase : s'.phase = Function.update s.phase c p)
  | wrote (c : κ) (value : DeadLetterCase) (p : Phase) (ha : a.caller = some c)
      (hwrites : Writes s c a (s.phase c) value p)
      (hcases : s'.cases = Function.update s.cases value.id
        (some { value := value, revision := s.revision + 1 }))
      (hrevision : s'.revision = s.revision + 1) (hphase : s'.phase = Function.update s.phase c p)

variable {env : Env Json} {s s' t : State κ Json} {a : Action κ} {c : κ} {p : Phase}

@[simp] lemma State.deleteMessage_cases (caseId stream : String) (sequence : ℕ) :
    (s.deleteMessage caseId stream sequence).cases = s.cases := by
  unfold State.deleteMessage
  split <;> rfl

@[simp] lemma State.deleteMessage_revision (caseId stream : String) (sequence : ℕ) :
    (s.deleteMessage caseId stream sequence).revision = s.revision := by
  unfold State.deleteMessage
  split <;> rfl

@[simp] lemma State.deleteMessage_phase (caseId stream : String) (sequence : ℕ) :
    (s.deleteMessage caseId stream sequence).phase = s.phase := by
  unfold State.deleteMessage
  split <;> rfl

/-- An update under a revision writes the case. -/
lemma State.updateCase_eq_some {value : DeadLetterCase} {revision : ℕ}
    (h : s.updateCase value revision = some t) :
    Bucket.HasRevision s.cases value.id revision ∧ t = s.putCase value := by
  unfold State.updateCase at h
  split at h
  · next stored hstored =>
    split_ifs at h with hrevision
    cases h
    exact ⟨⟨stored, hstored, hrevision⟩, rfl⟩
  · cases h

variable [DecidableEq κ]

/-- A call moves on. -/
lemma Stepped.setPhase (ha : a.caller = some c) (hnext : Next env s.cases (s.phase c) p) :
    Stepped env s a (s.setPhase c p) :=
  .moved c p ha hnext rfl rfl rfl

/-- A call updates a case. -/
lemma Stepped.update {value : DeadLetterCase} {revision : ℕ} (ha : a.caller = some c)
    (hupdate : s.updateCase value revision = some t)
    (hwrites : Bucket.HasRevision s.cases value.id revision → Writes s c a (s.phase c) value p) :
    Stepped env s a (t.setPhase c p) := by
  obtain ⟨hrevision, rfl⟩ := State.updateCase_eq_some hupdate
  exact .wrote c value p ha (hwrites hrevision) rfl rfl rfl

/-- An advisory arrives. -/
lemma Stepped.ofAdvise {advisory : Advisory} (hstep : s.stepTransfer env (.advise c advisory) = some s') :
    Stepped env s (.advise c advisory) s' := by
  simp only [State.stepTransfer] at hstep
  split at hstep
  · next hphase =>
    split_ifs at hstep
    · cases hstep
      exact .setPhase rfl (.returned _ _)
    · cases hstep
      exact .setPhase rfl (hphase ▸ .plain trivial trivial)
  · cases hstep

/-- `HandleAdvisory` looks the case up. -/
lemma Stepped.ofLookup (hstep : s.stepTransfer env (.lookup c) = some s') :
    Stepped env s (.lookup c) s' := by
  simp only [State.stepTransfer] at hstep
  split at hstep
  · next advisory hphase =>
    split at hstep
    · next existing hexisting =>
      cases hstep
      refine .setPhase rfl (hphase ▸ ?_)
      unfold existingPhase
      split_ifs with hstatus
      · exact .event trivial hexisting hstatus
      · exact .plain trivial trivial
    · cases hstep
      exact .setPhase rfl (hphase ▸ .plain trivial trivial)
  · cases hstep

/-- The source message of a case that was there is deleted. -/
lemma Stepped.ofCleanup (hstep : s.stepTransfer env (.cleanup c) = some s') :
    Stepped env s (.cleanup c) s' := by
  simp only [State.stepTransfer] at hstep
  split at hstep
  · next advisory existing hphase =>
    have hnext : Next env s.cases (s.phase c) (.cleanupEvent existing) :=
      hphase ▸ .plain trivial trivial
    split_ifs at hstep
    · cases hstep
      exact .moved c _ rfl hnext (by simp [State.setPhase]) (by simp [State.setPhase])
        (by simp [State.setPhase])
    · cases hstep
      exact .setPhase rfl hnext
  · cases hstep

/-- `HandleAdvisory` returns the case that was there. -/
lemma Stepped.ofCleanupEvent (hstep : s.stepTransfer env (.cleanupEvent c) = some s') :
    Stepped env s (.cleanupEvent c) s' := by
  simp only [State.stepTransfer] at hstep
  split at hstep
  · cases hstep
    exact .setPhase rfl (.returned _ _)
  · cases hstep

/-- The source message is read. -/
lemma Stepped.ofFetch {now : Time} (hstep : s.stepTransfer env (.fetch c now) = some s') :
    Stepped env s (.fetch c now) s' := by
  simp only [State.stepTransfer] at hstep
  split at hstep
  · next hphase =>
    cases hstep
    exact .setPhase rfl (hphase ▸ .plain trivial trivial)
  · cases hstep

/-- `persistDeadLetterRecord` looks for a record. -/
lemma Stepped.ofRecollect {answered : Bool} (hstep : s.stepTransfer env (.recollect c answered) = some s') :
    Stepped env s (.recollect c answered) s' := by
  simp only [State.stepTransfer] at hstep
  split at hstep
  · next hphase =>
    split at hstep
    · cases hstep
      exact .setPhase rfl (hphase ▸ .create trivial rfl rfl)
    · cases hstep
      exact .setPhase rfl (hphase ▸ .plain trivial trivial)
  · cases hstep

/-- The record is published. -/
lemma Stepped.ofPersist {publication : Publication}
    (hstep : s.stepTransfer env (.persist c publication) = some s') :
    Stepped env s (.persist c publication) s' := by
  simp only [State.stepTransfer] at hstep
  split at hstep
  · next hphase =>
    split at hstep
    · cases hstep
      exact .moved c _ rfl (hphase ▸ .create trivial rfl rfl) rfl rfl rfl
    · cases hstep
      exact .moved c _ rfl (hphase ▸ .plain trivial trivial) rfl rfl rfl
    · cases hstep
      exact .setPhase rfl (hphase ▸ .create trivial rfl rfl)
    · cases hstep
      exact .setPhase rfl (hphase ▸ .plain trivial trivial)
    · cases hstep
  · cases hstep

/-- After an error the record may be there. -/
lemma Stepped.ofRecheck (hstep : s.stepTransfer env (.recheck c) = some s') :
    Stepped env s (.recheck c) s' := by
  simp only [State.stepTransfer] at hstep
  split at hstep
  · next hphase =>
    split at hstep
    · cases hstep
      exact .setPhase rfl (hphase ▸ .create trivial rfl rfl)
    · cases hstep
      exact .setPhase rfl (.returned _ _)
  · cases hstep

/-- The case is created. -/
lemma Stepped.ofCreate (hstep : s.stepTransfer env (.create c) = some s') :
    Stepped env s (.create c) s' := by
  simp only [State.stepTransfer] at hstep
  split at hstep
  · next value hphase =>
    split at hstep
    · next hnone =>
      cases hstep
      exact .wrote c value _ rfl (hphase ▸ .create hnone) rfl rfl rfl
    · cases hstep
      exact .setPhase rfl (hphase ▸ .reload value)
  · cases hstep

/-- The case of another controller is read. -/
lemma Stepped.ofReload (hstep : s.stepTransfer env (.reload c) = some s') :
    Stepped env s (.reload c) s' := by
  simp only [State.stepTransfer] at hstep
  split at hstep
  · next id hphase =>
    split at hstep
    · next existing hexisting =>
      cases hstep
      refine .setPhase rfl (hphase ▸ ?_)
      unfold transferPhase
      split_ifs with hstatus
      · exact .event trivial hexisting hstatus
      · exact .returned _ _
    · cases hstep
      exact .setPhase rfl (.returned _ _)
  · cases hstep

/-- The event of the case is published. -/
lemma Stepped.ofEvent (hstep : s.stepTransfer env (.event c) = some s') : Stepped env s (.event c) s' := by
  simp only [State.stepTransfer] at hstep
  split at hstep
  · next stored hphase =>
    cases hstep
    exact .setPhase rfl (hphase ▸ .delete stored)
  · cases hstep

/-- `completeTransfer` deletes the source message. -/
lemma Stepped.ofDelete (hstep : s.stepTransfer env (.delete c) = some s') :
    Stepped env s (.delete c) s' := by
  simp only [State.stepTransfer] at hstep
  split at hstep
  · next stored hphase =>
    have hnext : Next env s.cases (s.phase c) (.parent stored) := hphase ▸ .parent stored
    split_ifs at hstep
    · cases hstep
      exact .moved c _ rfl hnext (by simp [State.setPhase]) (by simp [State.setPhase])
        (by simp [State.setPhase])
    · cases hstep
      exact .setPhase rfl hnext
  · cases hstep

/-- `markParentReplayFailed` reads the parent. -/
lemma Stepped.ofParent (hstep : s.stepTransfer env (.parent c) = some s') :
    Stepped env s (.parent c) s' := by
  simp only [State.stepTransfer] at hstep
  split at hstep
  · next stored hphase =>
    split_ifs at hstep with hparent
    · cases hstep
      exact .setPhase rfl (hphase ▸ .pass fun hne => absurd hparent hne)
    · split at hstep
      · next parent hstored =>
        split_ifs at hstep with hstatus
        · cases hstep
          exact .setPhase rfl (hphase ▸ .markParent hparent hstored hstatus)
        · cases hstep
          refine .setPhase rfl (hphase ▸ .pass fun _ parent' hstored' => ?_)
          obtain rfl := Option.some.inj (hstored.symm.trans hstored')
          exact hstatus
      · next hnone =>
        cases hstep
        refine .setPhase rfl (hphase ▸ .pass fun _ parent' hstored' => ?_)
        rw [hnone] at hstored'
        cases hstored'
  · cases hstep

/-- The attempt is marked in the parent. -/
lemma Stepped.ofMarkParent {now : Time} (hstep : s.stepTransfer env (.markParent c now) = some s') :
    Stepped env s (.markParent c now) s' := by
  simp only [State.stepTransfer] at hstep
  split at hstep
  · next stored parent hphase =>
    split at hstep
    · next hmark =>
      cases hstep
      exact .setPhase rfl (hphase ▸ .unmarked hmark)
    · next marked hmark =>
      split at hstep
      · next hupdate =>
        cases hstep
        exact .update rfl hupdate fun hrevision => hphase ▸ .markParent hmark hrevision
      · cases hstep
        exact .setPhase rfl (.returned _ _)
  · cases hstep

/-- The case is opened. -/
lemma Stepped.ofComplete {now : Time} (hstep : s.stepTransfer env (.complete c now) = some s') :
    Stepped env s (.complete c now) s' := by
  simp only [State.stepTransfer] at hstep
  split at hstep
  · next stored hphase =>
    split at hstep
    · next hupdate =>
      cases hstep
      exact .update rfl hupdate fun hrevision => hphase ▸ .complete hrevision
    · cases hstep
      exact .setPhase rfl (hphase ▸ .latest stored _)
  · cases hstep

/-- The case that another controller has completed is read. -/
lemma Stepped.ofLatest (hstep : s.stepTransfer env (.latest c) = some s') :
    Stepped env s (.latest c) s' := by
  simp only [State.stepTransfer] at hstep
  split at hstep
  · split at hstep
    · cases hstep
      exact .setPhase rfl (.returned _ _)
    · cases hstep
      exact .setPhase rfl (.returned _ _)
  · cases hstep

/-- What the steps of `HandleAdvisory` and `completeTransfer` do to the bucket. -/
lemma stepped_of_stepTransfer (hstep : s.stepTransfer env a = some s') : Stepped env s a s' := by
  cases a with
  | advise => exact .ofAdvise hstep
  | lookup => exact .ofLookup hstep
  | cleanup => exact .ofCleanup hstep
  | cleanupEvent => exact .ofCleanupEvent hstep
  | fetch => exact .ofFetch hstep
  | recollect => exact .ofRecollect hstep
  | persist => exact .ofPersist hstep
  | recheck => exact .ofRecheck hstep
  | create => exact .ofCreate hstep
  | reload => exact .ofReload hstep
  | event => exact .ofEvent hstep
  | delete => exact .ofDelete hstep
  | parent => exact .ofParent hstep
  | markParent => exact .ofMarkParent hstep
  | complete => exact .ofComplete hstep
  | latest => exact .ofLatest hstep
  | produce | expire | replay | replayLoad | replayLock | replayPayload | replayPublish | replayEnd
  | resolve | resolveLoad | resolveStore | crash => cases hstep

/-- An operator asks for a replay. -/
lemma Stepped.ofReplay {id actor reason : String}
    (hstep : s.stepReplay env (.replay c id actor reason) = some s') :
    Stepped env s (.replay c id actor reason) s' := by
  simp only [State.stepReplay] at hstep
  split at hstep
  · next hphase =>
    split at hstep
    · cases hstep
      exact .setPhase rfl (hphase ▸ .plain trivial trivial)
    · cases hstep
      exact .setPhase rfl (.returned _ _)
  · cases hstep

/-- `Replay` reads the case. -/
lemma Stepped.ofReplayLoad {now : Time} (hstep : s.stepReplay env (.replayLoad c now) = some s') :
    Stepped env s (.replayLoad c now) s' := by
  simp only [State.stepReplay] at hstep
  split at hstep
  · next hphase =>
    split at hstep
    · next stored hstored =>
      split at hstep
      · next hlock =>
        cases hstep
        exact .setPhase rfl (hphase ▸ .replayLock hstored hlock)
      · cases hstep
        exact .setPhase rfl (.returned _ _)
    · cases hstep
      exact .setPhase rfl (.returned _ _)
  · cases hstep

/-- The case is locked. -/
lemma Stepped.ofReplayLock (hstep : s.stepReplay env (.replayLock c) = some s') :
    Stepped env s (.replayLock c) s' := by
  simp only [State.stepReplay] at hstep
  split at hstep
  · next attempt value revision hphase =>
    split at hstep
    · next hupdate =>
      cases hstep
      obtain ⟨hrevision, rfl⟩ := State.updateCase_eq_some hupdate
      exact .wrote c value _ rfl (hphase ▸ .replayLock hrevision) rfl rfl rfl
    · cases hstep
      exact .setPhase rfl (.returned _ _)
  · cases hstep

/-- The record of the case is read. -/
lemma Stepped.ofReplayPayload (hstep : s.stepReplay env (.replayPayload c) = some s') :
    Stepped env s (.replayPayload c) s' := by
  simp only [State.stepReplay] at hstep
  split at hstep
  · next attempt locked hphase =>
    split at hstep
    · split_ifs at hstep
      · cases hstep
        exact .setPhase rfl (hphase ▸ .replayPublish attempt locked _)
      · cases hstep
        exact .setPhase rfl (hphase ▸ .payloadFailed attempt locked _)
    · cases hstep
      exact .setPhase rfl (hphase ▸ .payloadFailed attempt locked _)
  · cases hstep

/-- The message is published again. -/
lemma Stepped.ofReplayPublish {publication : Publication}
    (hstep : s.stepReplay env (.replayPublish c publication) = some s') :
    Stepped env s (.replayPublish c publication) s' := by
  simp only [State.stepReplay] at hstep
  split at hstep
  · next attempt locked record hphase =>
    have hnext : ∀ outcome, Next env s.cases (s.phase c) (.replayEnd locked outcome) :=
      fun outcome => hphase ▸ .replayEnd attempt locked record outcome
    split at hstep
    · cases hstep
      exact .moved c _ rfl (hnext _) rfl rfl rfl
    · cases hstep
      exact .moved c _ rfl (hnext _) rfl rfl rfl
    · split at hstep
      · cases hstep
        exact .setPhase rfl (hnext _)
      · cases hstep
    · cases hstep
      exact .setPhase rfl (hnext _)
  · cases hstep

/-- The outcome is recorded. -/
lemma Stepped.ofReplayEnd {now : Time} (hstep : s.stepReplay env (.replayEnd c now) = some s') :
    Stepped env s (.replayEnd c now) s' := by
  simp only [State.stepReplay] at hstep
  split at hstep
  · next locked outcome hphase =>
    split at hstep
    · next hupdate =>
      cases hstep
      exact .update rfl hupdate fun hrevision => hphase ▸ .replayEnd hrevision
    · cases hstep
      exact .setPhase rfl (.returned _ _)
  · cases hstep

/-- An operator asks for a resolution. -/
lemma Stepped.ofResolve {id actor reason : String}
    (hstep : s.stepReplay env (.resolve c id actor reason) = some s') :
    Stepped env s (.resolve c id actor reason) s' := by
  simp only [State.stepReplay] at hstep
  split at hstep
  · next hphase =>
    split at hstep
    · cases hstep
      exact .setPhase rfl (hphase ▸ .plain trivial trivial)
    · cases hstep
      exact .setPhase rfl (.returned _ _)
  · cases hstep

/-- `Resolve` reads the case. -/
lemma Stepped.ofResolveLoad {now : Time} (hstep : s.stepReplay env (.resolveLoad c now) = some s') :
    Stepped env s (.resolveLoad c now) s' := by
  simp only [State.stepReplay] at hstep
  split at hstep
  · next hphase =>
    split at hstep
    · next stored hstored =>
      split at hstep
      · next hresolve =>
        cases hstep
        exact .setPhase rfl (hphase ▸ .resolveStore hstored hresolve)
      · cases hstep
        exact .setPhase rfl (.returned _ _)
    · cases hstep
      exact .setPhase rfl (.returned _ _)
  · cases hstep

/-- The resolved case is stored. -/
lemma Stepped.ofResolveStore (hstep : s.stepReplay env (.resolveStore c) = some s') :
    Stepped env s (.resolveStore c) s' := by
  simp only [State.stepReplay] at hstep
  split at hstep
  · next value revision hphase =>
    split at hstep
    · next hupdate =>
      cases hstep
      exact .update rfl hupdate fun hrevision => hphase ▸ .resolveStore hrevision
    · cases hstep
      exact .setPhase rfl (.returned _ _)
  · cases hstep

/-- What the steps of `Replay` and `Resolve` do to the bucket. -/
lemma stepped_of_stepReplay (hstep : s.stepReplay env a = some s') : Stepped env s a s' := by
  cases a with
  | replay => exact .ofReplay hstep
  | replayLoad => exact .ofReplayLoad hstep
  | replayLock => exact .ofReplayLock hstep
  | replayPayload => exact .ofReplayPayload hstep
  | replayPublish => exact .ofReplayPublish hstep
  | replayEnd => exact .ofReplayEnd hstep
  | resolve => exact .ofResolve hstep
  | resolveLoad => exact .ofResolveLoad hstep
  | resolveStore => exact .ofResolveStore hstep
  | produce | expire | advise | lookup | cleanup | cleanupEvent | fetch | recollect | persist | recheck
  | create | reload | event | delete | parent | markParent | complete | latest | crash => cases hstep

/-- What a step does to the bucket. -/
theorem stepped_of_step (hstep : s.step env a = some s') : Stepped env s a s' := by
  cases a with
  | produce stream message =>
    simp only [State.step] at hstep
    split_ifs at hstep
    cases hstep
    exact .outside rfl rfl rfl rfl
  | expire stream sequence =>
    cases hstep
    exact .outside rfl rfl rfl rfl
  | crash c =>
    simp only [State.step] at hstep
    split at hstep
    · cases hstep
    · cases hstep
      exact .setPhase rfl (.returned _ _)
  | replay | replayLoad | replayLock | replayPayload | replayPublish | replayEnd | resolve
  | resolveLoad | resolveStore | advise | lookup | cleanup | cleanupEvent | fetch | recollect | persist
  | recheck | create | reload | event | delete | parent | markParent | complete | latest =>
    simp only [State.step] at hstep
    rcases Option.or_eq_some_iff.mp hstep with hstep | ⟨-, hstep⟩
    · exact stepped_of_stepTransfer hstep
    · exact stepped_of_stepReplay hstep

end Steps

/-! ## The state machine of a case -/

/-- One change of a stored case: the transfer is completed, a replay is locked and recorded, its message
is dead-lettered again, or the case is resolved. -/
inductive Changes {Json : Type*} (env : Env Json) : DeadLetterCase → DeadLetterCase → Prop where
  | complete {value : DeadLetterCase} (now : Time) (hstatus : value.status = .transferInProgress) :
      Changes env value (value.completed now)
  | markFailed {value marked : DeadLetterCase} {replayId childId : String} {now : Time}
      (hstatus : value.status = .replayPublished)
      (hmark : value.markReplayFailed replayId childId now = some marked) : Changes env value marked
  | lock {value locked : DeadLetterCase} {attempt : ReplayAttempt} {actor reason : String} {now : Time}
      (hlock : value.lockReplay env actor reason now = some (attempt, locked)) :
      Changes env value locked
  | record {value : DeadLetterCase} (outcome : Except String ℕ) (now : Time)
      (hstatus : value.status = .replayInProgress) : Changes env value (value.recordReplay outcome now)
  | resolve {value resolved : DeadLetterCase} {actor reason : String} {now : Time}
      (hresolve : value.resolve actor reason now = some resolved) : Changes env value resolved

/-- A case that was just created. -/
structure Fresh (value : DeadLetterCase) : Prop where
  status : value.status = .transferInProgress
  replays : value.replays = []

section Machine

variable {Json : Type*} {env : Env Json} {value value' : DeadLetterCase}

/-- The cases that `Replay` locks. -/
lemma lockReplay_eq_some {actor reason : String} {now : Time} {attempt : ReplayAttempt}
    (h : value.lockReplay env actor reason now = some (attempt, value')) :
    ((value.status = .open ∨ value.status = .replayFailed) ∧
        attempt = { id := replayId env value.id (value.replays.length + 1)
                    number := value.replays.length + 1, actor := actor, reason := reason
                    requestedAt := now, status := .publishing } ∧
        value' = { value with status := .replayInProgress, updatedAt := now
                              replays := value.replays ++ [attempt] }) ∨
      (value.status = .replayInProgress ∧ value.replays.getLast? = some attempt ∧
        attempt.status = .publishing ∧ replayLockTimeout ≤ now - value.updatedAt ∧
        value' = { value with status := .replayInProgress, updatedAt := now }) := by
  unfold DeadLetterCase.lockReplay at h
  split_ifs at h
  split at h
  · next hstatus =>
    cases h
    exact Or.inl ⟨Or.inl hstatus, rfl, rfl⟩
  · next hstatus =>
    cases h
    exact Or.inl ⟨Or.inr hstatus, rfl, rfl⟩
  · next hstatus =>
    split at h
    · next last hlast =>
      split_ifs at h with hrefused
      cases h
      rw [not_or, not_lt, not_not] at hrefused
      exact Or.inr ⟨hstatus, hlast, hrefused.2, hrefused.1, rfl⟩
    · cases h
  · cases h

/-- The cases that `Resolve` accepts. -/
lemma resolve_eq_some {actor reason : String} {now : Time}
    (h : value.resolve actor reason now = some value') :
    (value.status = .open ∨ value.status = .replayPublished ∨ value.status = .replayFailed) ∧
      value' = { value with status := .resolved, resolvedAt := now, updatedAt := now
                            resolvedBy := actor, resolutionReason := reason } := by
  unfold DeadLetterCase.resolve at h
  split at h
  · cases h
  · cases h
  · cases h
  · next htransfer hresolved hprogress =>
    cases h
    refine ⟨?_, rfl⟩
    cases hstatus : value.status with
    | «open» => exact Or.inl rfl
    | replayPublished => exact Or.inr (Or.inl rfl)
    | replayFailed => exact Or.inr (Or.inr rfl)
    | transferInProgress => exact absurd hstatus htransfer
    | resolved => exact absurd hstatus hresolved
    | replayInProgress => exact absurd hstatus hprogress

/-- The attempt that is marked. -/
lemma markReplayFailed_eq_some {replayId childId : String} {now : Time}
    (h : value.markReplayFailed replayId childId now = some value') :
    ∃ index, value.replays.findIdx? (fun attempt => attempt.id = replayId) = some index ∧
      value' = { value with
        status := .replayFailed
        updatedAt := now
        replays := value.replays.modify index fun attempt =>
          { attempt with status := .deadLetteredAgain
                         error := "REPLAY_MAX_DELIVERIES_EXCEEDED:" ++ childId } } := by
  unfold DeadLetterCase.markReplayFailed at h
  split at h
  · cases h
  · next index hindex =>
    cases h
    exact ⟨index, hindex, rfl⟩

/-- A case keeps its ID. -/
lemma Changes.id_eq (h : Changes env value value') : value'.id = value.id := by
  cases h with
  | complete => rfl
  | markFailed _ hmark =>
    obtain ⟨_, -, rfl⟩ := markReplayFailed_eq_some hmark
    rfl
  | lock hlock =>
    rcases lockReplay_eq_some hlock with ⟨-, -, rfl⟩ | ⟨-, -, -, -, rfl⟩
    · rfl
    · rfl
  | record outcome =>
    cases outcome with
    | error => rfl
    | ok => rfl
  | resolve hresolve =>
    obtain ⟨-, rfl⟩ := resolve_eq_some hresolve
    rfl

/-- A resolved case does not change. -/
lemma Changes.not_resolved (h : Changes env value value') : value.status ≠ .resolved := by
  intro hresolved
  cases h with
  | complete _ hstatus => simp [hresolved] at hstatus
  | markFailed hstatus => simp [hresolved] at hstatus
  | lock hlock =>
    rcases lockReplay_eq_some hlock with ⟨hstatus, -, -⟩ | ⟨hstatus, -, -, -, -⟩
    · simp [hresolved] at hstatus
    · simp [hresolved] at hstatus
  | record _ _ hstatus => simp [hresolved] at hstatus
  | resolve hresolve =>
    have hstatus := (resolve_eq_some hresolve).1
    simp [hresolved] at hstatus

end Machine

/-! ## Snapshots -/

section Snapshots

variable {κ Json : Type*}

/-- What a call read of a case is what is stored, as long as its revision is. -/
structure Snapshot (s : State κ Json) (read : StoredCase) : Prop where
  revision : read.revision ≤ s.revision
  same : ∀ stored, s.cases read.value.id = some stored → stored.revision = read.revision →
    stored = read

variable (env : Env Json)

/-- What the phase of a call is based on. -/
def Based (s : State κ Json) : Phase → Prop
  | .create value => Fresh value
  | .event stored | .delete stored | .parent stored | .complete stored =>
    Snapshot s stored ∧ stored.value.status = .transferInProgress
  | .markParent stored parent =>
    (Snapshot s stored ∧ stored.value.status = .transferInProgress) ∧
      Snapshot s parent ∧ parent.value.status = .replayPublished
  | .replayLock attempt value revision =>
    ∃ old actor reason now, Snapshot s { value := old, revision := revision } ∧
      old.lockReplay env actor reason now = some (attempt, value)
  | .replayPayload _ locked | .replayPublish _ locked _ | .replayEnd locked _ =>
    Snapshot s locked ∧ locked.value.status = .replayInProgress
  | .resolveStore value revision =>
    ∃ old actor reason now, Snapshot s { value := old, revision := revision } ∧
      old.resolve actor reason now = some value
  | _ => True

/-- Every case is stored under its ID and under a revision of the past, and every call is based on what
it read. -/
structure Sound (s : State κ Json) : Prop where
  ids : ∀ id stored, s.cases id = some stored → stored.value.id = id
  revisions : ∀ id stored, s.cases id = some stored → stored.revision ≤ s.revision
  phases : ∀ c, Based env s (s.phase c)

variable {env} {s s' : State κ Json} {read : StoredCase} {p : Phase}

/-- The empty bucket. -/
lemma Sound.init : Sound env ({} : State κ Json) where
  ids := by simp
  revisions := by simp
  phases := fun _ => trivial

/-- What was read from the bucket is a snapshot. -/
lemma Sound.snapshot (h : Sound env s) {id : String} {stored : StoredCase}
    (hstored : s.cases id = some stored) : Snapshot s stored := by
  refine ⟨h.revisions id stored hstored, ?_⟩
  intro stored' hstored' _
  rw [h.ids id stored hstored, hstored] at hstored'
  exact (Option.some.inj hstored').symm

/-- The bucket after a step: the same, or with one case under a new revision. -/
def Grown (s s' : State κ Json) : Prop :=
  (s'.cases = s.cases ∧ s'.revision = s.revision) ∨
    ∃ value : DeadLetterCase, s'.cases = Function.update s.cases value.id
      (some { value := value, revision := s.revision + 1 }) ∧ s'.revision = s.revision + 1

/-- A snapshot stays one. -/
lemma Snapshot.mono (h : Snapshot s read) (hgrown : Grown s s') : Snapshot s' read := by
  rcases hgrown with ⟨hcases, hrevision⟩ | ⟨value, hcases, hrevision⟩
  · exact ⟨hrevision ▸ h.revision, hcases ▸ h.same⟩
  · refine ⟨hrevision ▸ h.revision.trans (Nat.le_succ _), ?_⟩
    intro stored hstored heq
    rw [hcases] at hstored
    by_cases hid : read.value.id = value.id
    · rw [hid, Function.update_self] at hstored
      cases hstored
      have hle := h.revision
      simp only at heq
      omega
    · rw [Function.update_of_ne hid] at hstored
      exact h.same stored hstored heq

/-- A phase stays based on what was read. -/
lemma Based.mono (h : Based env s p) (hgrown : Grown s s') : Based env s' p := by
  cases p with
  | create => exact h
  | event | delete | parent | complete => exact ⟨h.1.mono hgrown, h.2⟩
  | markParent => exact ⟨⟨h.1.1.mono hgrown, h.1.2⟩, h.2.1.mono hgrown, h.2.2⟩
  | replayLock | resolveStore =>
    obtain ⟨old, actor, reason, now, hsnapshot, hold⟩ := h
    exact ⟨old, actor, reason, now, hsnapshot.mono hgrown, hold⟩
  | replayPayload | replayPublish | replayEnd => exact ⟨h.1.mono hgrown, h.2⟩
  | idle | lookup | cleanup | cleanupEvent | fetch | recollect | persist | recheck | reload | latest
  | replayLoad | resolveLoad | returned => trivial

/-- A plain phase is based on nothing. -/
lemma Based.of_plain (hp : p.plain) : Based env s p := by
  cases p with
  | idle | lookup | cleanup | cleanupEvent | fetch | recollect | persist | recheck | reload | latest
  | replayLoad | resolveLoad => trivial
  | _ => cases hp

/-- A call that moves on is based on what it read. -/
lemma Sound.next (h : Sound env s) {q : Phase} (hq : Based env s q)
    (hnext : Next env s.cases q p) : Based env s p := by
  cases hnext with
  | returned => trivial
  | plain _ hp => exact .of_plain hp
  | create _ hstatus hreplays => exact ⟨hstatus, hreplays⟩
  | reload => trivial
  | event _ hstored hstatus => exact ⟨h.snapshot hstored, hstatus⟩
  | delete => exact hq
  | parent => exact hq
  | markParent _ hstored hstatus => exact ⟨hq, h.snapshot hstored, hstatus⟩
  | pass => exact hq
  | unmarked => exact hq.1
  | latest => trivial
  | replayLock hstored hlock => exact ⟨_, _, _, _, h.snapshot hstored, hlock⟩
  | replayPublish => exact hq
  | payloadFailed => exact hq
  | replayEnd => exact hq
  | resolveStore hstored hresolve => exact ⟨_, _, _, _, h.snapshot hstored, hresolve⟩

/-- A case that is stored under the revision of a snapshot is the snapshot. -/
lemma Snapshot.stored (h : Snapshot s read)
    (hrevision : Bucket.HasRevision s.cases read.value.id read.revision) :
    s.cases read.value.id = some read := by
  obtain ⟨stored, hstored, heq⟩ := hrevision
  rw [hstored, h.same stored hstored heq]

variable {c : κ} {a : Action κ} {value : DeadLetterCase}

/-- What is written is new, or a change of what is stored. -/
lemma Writes.changes (hwrites : Writes s c a (s.phase c) value p) (hbased : Based env s (s.phase c)) :
    (s.cases value.id = none ∧ Fresh value) ∨
      ∃ old, s.cases value.id = some old ∧ Changes env old.value value := by
  generalize s.phase c = q at hwrites hbased
  -- the value that was read is still stored, since its revision is
  have hchange : ∀ read : StoredCase, Snapshot s read → Changes env read.value value →
      Bucket.HasRevision s.cases value.id read.revision →
      ∃ old, s.cases value.id = some old ∧ Changes env old.value value := by
    intro read hread hchanges hrevision
    rw [hchanges.id_eq] at hrevision ⊢
    exact ⟨read, hread.stored hrevision, hchanges⟩
  cases hwrites with
  | create hnone => exact Or.inl ⟨hnone, hbased⟩
  | markParent hmark hrevision =>
    exact Or.inr (hchange _ hbased.2.1 (.markFailed hbased.2.2 hmark) hrevision)
  | complete hrevision => exact Or.inr (hchange _ hbased.1 (.complete _ hbased.2) hrevision)
  | replayLock hrevision =>
    obtain ⟨old, actor, reason, now, hsnapshot, hlock⟩ := hbased
    exact Or.inr (hchange _ hsnapshot (.lock hlock) hrevision)
  | replayEnd hrevision => exact Or.inr (hchange _ hbased.1 (.record _ _ hbased.2) hrevision)
  | resolveStore hrevision =>
    obtain ⟨old, actor, reason, now, hsnapshot, hresolve⟩ := hbased
    exact Or.inr (hchange _ hsnapshot (.resolve hresolve) hrevision)

/-- What a call that wrote a case is based on. -/
lemma Writes.based (hwrites : Writes s c a (s.phase c) value p) (hbased : Based env s (s.phase c))
    (hgrown : Grown s s') (hread : Snapshot s' { value := value, revision := s.revision + 1 }) :
    Based env s' p := by
  generalize s.phase c = q at hwrites hbased
  cases hwrites with
  | create =>
    unfold transferPhase
    split_ifs with hstatus
    · exact ⟨hread, hstatus⟩
    · trivial
  | markParent => exact ⟨hbased.1.1.mono hgrown, hbased.1.2⟩
  | complete => trivial
  | replayLock =>
    obtain ⟨old, actor, reason, now, -, hlock⟩ := hbased
    refine ⟨hread, ?_⟩
    rcases lockReplay_eq_some hlock with ⟨-, -, rfl⟩ | ⟨-, -, -, -, rfl⟩
    · rfl
    · rfl
  | replayEnd => trivial
  | resolveStore => trivial

variable [DecidableEq κ]

/-- The bucket after a step. -/
lemma Stepped.grown (h : Stepped env s a s') : Grown s s' := by
  cases h with
  | outside _ hcases hrevision => exact Or.inl ⟨hcases, hrevision⟩
  | moved _ _ _ _ hcases hrevision => exact Or.inl ⟨hcases, hrevision⟩
  | wrote _ value _ _ _ hcases hrevision => exact Or.inr ⟨value, hcases, hrevision⟩

/-- Every step keeps the calls based on what they read. -/
lemma Sound.step (h : Sound env s) (hstepped : Stepped env s a s') : Sound env s' := by
  have hgrown := hstepped.grown
  cases hstepped with
  | outside _ hcases hrevision hphase =>
    refine ⟨hcases ▸ h.ids, hcases ▸ hrevision ▸ h.revisions, ?_⟩
    intro c
    rw [hphase]
    exact (h.phases c).mono hgrown
  | moved c p _ hnext hcases hrevision hphase =>
    refine ⟨hcases ▸ h.ids, hcases ▸ hrevision ▸ h.revisions, ?_⟩
    intro d
    rw [hphase]
    by_cases hd : d = c
    · rw [hd, Function.update_self]
      exact (h.next (h.phases c) hnext).mono hgrown
    · rw [Function.update_of_ne hd]
      exact (h.phases d).mono hgrown
  | wrote c value p _ hwrites hcases hrevision hphase =>
    have hids : ∀ id stored, s'.cases id = some stored → stored.value.id = id := by
      intro id stored hstored
      rw [hcases] at hstored
      by_cases hid : id = value.id
      · rw [hid, Function.update_self] at hstored
        cases hstored
        exact hid.symm
      · rw [Function.update_of_ne hid] at hstored
        exact h.ids id stored hstored
    have hrevisions : ∀ id stored, s'.cases id = some stored → stored.revision ≤ s'.revision := by
      intro id stored hstored
      rw [hcases] at hstored
      rw [hrevision]
      by_cases hid : id = value.id
      · rw [hid, Function.update_self] at hstored
        cases hstored
        exact le_rfl
      · rw [Function.update_of_ne hid] at hstored
        exact (h.revisions id stored hstored).trans (Nat.le_succ _)
    have hread : Snapshot s' { value := value, revision := s.revision + 1 } := by
      refine ⟨hrevision.ge, ?_⟩
      intro stored hstored _
      rw [hcases, Function.update_self] at hstored
      exact (Option.some.inj hstored).symm
    refine ⟨hids, hrevisions, ?_⟩
    intro d
    rw [hphase]
    by_cases hd : d = c
    · rw [hd, Function.update_self]
      exact hwrites.based (h.phases c) hgrown hread
    · rw [Function.update_of_ne hd]
      exact (h.phases d).mono hgrown

/-- The calls are based on what they read after every run. -/
lemma sound_of_run {acts : List (Action κ)} (hrun : StepSystem.run (State.step env) {} acts = some s) :
    Sound env s :=
  StepSystem.run_invariant_of_step (fun _ _ _ h hstep => h.step (stepped_of_step hstep)) .init hrun

/-- A case after a step: unchanged, created, or changed as the state machine says. -/
theorem Sound.cases_step (h : Sound env s) (hstepped : Stepped env s a s') (id : String) :
    s'.cases id = s.cases id ∨ ∃ stored, s'.cases id = some stored ∧ stored.value.id = id ∧
      ((s.cases id = none ∧ Fresh stored.value) ∨
        ∃ old, s.cases id = some old ∧ Changes env old.value stored.value) := by
  cases hstepped with
  | outside _ hcases => exact Or.inl (by rw [hcases])
  | moved _ _ _ _ hcases => exact Or.inl (by rw [hcases])
  | wrote c value p _ hwrites hcases =>
    by_cases hid : id = value.id
    · refine Or.inr ⟨_, by rw [hcases, hid, Function.update_self], hid.symm, ?_⟩
      rw [hid]
      exact hwrites.changes (h.phases c)
    · exact Or.inl (by rw [hcases, Function.update_of_ne hid])

end Snapshots

end Boutique.Operations
