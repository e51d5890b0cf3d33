import Boutique.Operations.ReplayMachine

/-!
# The outcome of a replay

A message that was replayed can be dead-lettered again, into a case of its own that names the attempt;
`markParentReplayFailed` then marks the attempt in the parent.  It marks only a parent whose replay has
been recorded as published.  So a message that is dead-lettered before its replay is recorded leaves no
mark, and the late message of an attempt that was believed to have failed marks a parent whose last
attempt is another one.  In runs without these two the parents tell the truth.
-/

namespace Boutique.Operations

/-! ## What the parents say -/

section Outcome

variable {κ Json : Type*}

/-- A case was made of the message of a replay attempt. -/
structure ReplayChild (child : DeadLetterCase) (id replayId : String) : Prop where
  hasParent : child.parentCaseId ≠ ""
  parent : child.parentCaseId = id
  replay : child.parentReplayId = replayId

/-- The last attempt of a failed replay has failed, and a replay whose message is an open case is not
shown as published. -/
structure OutcomeRecorded (s : State κ Json) : Prop where
  failed : ∀ id stored, s.cases id = some stored → stored.value.status = .replayFailed →
    ∃ attempt, stored.value.replays.getLast? = some attempt ∧
      (attempt.status = .failed ∨ attempt.status = .deadLetteredAgain)
  published : ∀ id stored attempt childId child, s.cases id = some stored →
    stored.value.replays.getLast? = some attempt → s.cases childId = some child →
    child.value.status = .open → ReplayChild child.value id attempt.id →
    stored.value.status ≠ .replayPublished

/-- The child for which a call has read the parent. -/
def Phase.pastParent : Phase → Option StoredCase
  | .markParent child _ | .complete child => some child
  | _ => none

/-- The conditions on a step: what `markParentReplayFailed` marks is the last attempt, and when a replay
is recorded as published, no child of its attempt is open and no controller has read the parent for one. -/
def Faithful (s : State κ Json) : Action κ → Prop
  | .markParent c _ => ∀ child parent index, s.phase c = .markParent child parent →
    s.cases parent.value.id = some parent →
    parent.value.replays.findIdx? (fun attempt => attempt.id = child.value.parentReplayId) =
      some index → index + 1 = parent.value.replays.length
  | .replayEnd c _ => ∀ locked sequence attempt, s.phase c = .replayEnd locked (.ok sequence) →
    s.cases locked.value.id = some locked → locked.value.replays.getLast? = some attempt →
    (∀ id child, s.cases id = some child → ReplayChild child.value locked.value.id attempt.id →
      child.value.status ≠ .open) ∧
    ∀ d child, (s.phase d).pastParent = some child →
      ¬ReplayChild child.value locked.value.id attempt.id
  | _ => True

/-- The parent of a child shows the child's attempt as published. -/
def Awaits (bucket : Bucket) (child : DeadLetterCase) : Prop :=
  ∃ parent attempt, bucket child.parentCaseId = some parent ∧
    parent.value.status = .replayPublished ∧ parent.value.replays.getLast? = some attempt ∧
    ReplayChild child child.parentCaseId attempt.id

/-- No child that is open, or about to be, has a parent that shows its attempt as published. -/
structure Told (s : State κ Json) : Prop where
  failed : ∀ id stored, s.cases id = some stored → stored.value.status = .replayFailed →
    ∃ attempt, stored.value.replays.getLast? = some attempt ∧
      (attempt.status = .failed ∨ attempt.status = .deadLetteredAgain)
  opened : ∀ id child, s.cases id = some child → child.value.status = .open →
    ¬Awaits s.cases child.value
  completing : ∀ c child, s.phase c = .complete child → ¬Awaits s.cases child.value
  marking : ∀ c child parent, s.phase c = .markParent child parent →
    parent.value.id = child.value.parentCaseId ∧
      (s.cases child.value.parentCaseId = some parent ∨ ¬Awaits s.cases child.value)

variable {env : Env Json} {s s' : State κ Json} {c : κ} {a : Action κ} {q p : Phase}
  {value child : DeadLetterCase}

/-- The empty bucket. -/
lemma Told.init : Told ({} : State κ Json) where
  failed := by simp
  opened := by simp
  completing := by simp
  marking := by simp

/-- What is open is told. -/
lemma Told.outcomeRecorded (h : Told s) : OutcomeRecorded s where
  failed := h.failed
  published := by
    intro id stored attempt childId child hstored hlast hchild hopen hof hpublished
    refine h.opened childId child hchild hopen ⟨stored, attempt, ?_, hpublished, hlast, ?_⟩
    · rw [hof.parent]
      exact hstored
    · exact ⟨hof.hasParent, rfl, hof.replay⟩

/-- A completed case has the same parent. -/
lemma Awaits.of_completed {bucket : Bucket} {now : Time} (h : Awaits bucket (value.completed now)) :
    Awaits bucket value := by
  obtain ⟨parent, attempt, hparent, hstatus, hlast, hof⟩ := h
  exact ⟨parent, attempt, hparent, hstatus, hlast, hof.hasParent, rfl, hof.replay⟩

/-- The parent of a child after a write. -/
lemma awaits_update {bucket : Bucket} {revision : ℕ}
    (h : Awaits (Function.update bucket value.id (some { value := value, revision := revision }))
      child) :
    (child.parentCaseId ≠ value.id ∧ Awaits bucket child) ∨
      (value.status = .replayPublished ∧ ∃ attempt, value.replays.getLast? = some attempt ∧
        ReplayChild child value.id attempt.id) := by
  obtain ⟨parent, attempt, hparent, hstatus, hlast, hof⟩ := h
  by_cases hid : child.parentCaseId = value.id
  · rw [hid, Function.update_self] at hparent
    cases hparent
    exact Or.inr ⟨hstatus, attempt, hlast, hof.hasParent, hid, hof.replay⟩
  · rw [Function.update_of_ne hid] at hparent
    exact Or.inl ⟨hid, parent, attempt, hparent, hstatus, hlast, hof⟩

/-! ## Writes -/

/-- The last attempt after its result. -/
lemma getLast?_withLastAttempt {replays : List ReplayAttempt} {f : ReplayAttempt → ReplayAttempt} :
    (withLastAttempt replays f).getLast? = replays.getLast?.map f := by
  rw [withLastAttempt, List.getLast?_eq_getElem?, List.length_modify, List.getElem?_modify,
    List.getLast?_eq_getElem?]
  simp

/-- The status that a call is about to store. -/
def Phase.writesStatus : Phase → Option CaseStatus
  | .create _ => some .transferInProgress
  | .complete _ => some .open
  | .replayLock _ _ _ => some .replayInProgress
  | .replayEnd _ (.ok _) => some .replayPublished
  | .replayEnd _ (.error _) | .markParent _ _ => some .replayFailed
  | .resolveStore _ _ => some .resolved
  | _ => none

/-- What is stored has the status for the phase of the call. -/
lemma Writes.status (hwrites : Writes s c a q value p) (hbased : Based env s q) :
    q.writesStatus = some value.status := by
  cases hwrites with
  | create => exact congrArg some hbased.status.symm
  | markParent hmark =>
    obtain ⟨_, -, rfl⟩ := markReplayFailed_eq_some hmark
    rfl
  | complete => rfl
  | replayLock =>
    obtain ⟨old, actor, reason, now, -, hlock⟩ := hbased
    rcases lockReplay_eq_some hlock with ⟨-, -, rfl⟩ | ⟨-, -, -, -, rfl⟩
    · rfl
    · rfl
  | @replayEnd locked outcome =>
    cases outcome with
    | error => rfl
    | ok => rfl
  | resolveStore =>
    obtain ⟨old, actor, reason, now, -, hresolve⟩ := hbased
    obtain ⟨-, rfl⟩ := resolve_eq_some hresolve
    rfl

/-- Only a call of `Replay` stores a published replay. -/
lemma Writes.published (hwrites : Writes s c a q value p) (hbased : Based env s q)
    (hstatus : value.status = .replayPublished) :
    ∃ locked sequence now, a = .replayEnd c now ∧ q = .replayEnd locked (.ok sequence) ∧
      s.cases locked.value.id = some locked ∧ value = locked.value.replayPublished sequence now := by
  have hwritten := hwrites.status hbased
  rw [hstatus] at hwritten
  cases hwrites with
  | @replayEnd locked outcome now hrevision =>
    cases outcome with
    | error => cases hwritten
    | ok sequence =>
      exact ⟨locked, sequence, now, rfl, rfl, hbased.1.stored hrevision, rfl⟩
  | create | markParent | complete | replayLock | resolveStore => cases hwritten

/-- Only `completeTransfer` stores an open case. -/
lemma Writes.opened (hwrites : Writes s c a q value p) (hbased : Based env s q)
    (hstatus : value.status = .open) :
    ∃ stored now, q = .complete stored ∧ value = stored.value.completed now := by
  have hwritten := hwrites.status hbased
  rw [hstatus] at hwritten
  cases hwrites with
  | @complete stored now => exact ⟨stored, now, rfl, rfl⟩
  | @replayEnd locked outcome => cases outcome <;> cases hwritten
  | create | markParent | replayLock | resolveStore => cases hwritten

/-- A failed replay is stored with an attempt that has failed. -/
lemma Writes.failed (hwrites : Writes s c a (s.phase c) value p) (hbased : Based env s (s.phase c))
    (hattempts : ∀ id stored, s.cases id = some stored → Attempts env id stored.value)
    (hfaithful : Faithful s a) (hstatus : value.status = .replayFailed) :
    ∃ attempt, value.replays.getLast? = some attempt ∧
      (attempt.status = .failed ∨ attempt.status = .deadLetteredAgain) := by
  have hwritten := hwrites.status hbased
  rw [hstatus] at hwritten
  generalize hq : s.phase c = q at hwrites hbased hwritten
  cases hwrites with
  | @markParent child parent now marked hmark hrevision =>
    obtain ⟨index, hindex, rfl⟩ := markReplayFailed_eq_some hmark
    have hlast := hfaithful child parent index hq (hbased.2.1.stored hrevision) hindex
    have hlength : index < parent.value.replays.length := by omega
    refine ⟨{ parent.value.replays[index] with
      status := .deadLetteredAgain
      error := "REPLAY_MAX_DELIVERIES_EXCEEDED:" ++ child.value.id }, ?_, Or.inr rfl⟩
    rw [List.getLast?_eq_getElem?, List.length_modify, ← hlast, Nat.add_sub_cancel,
      List.getElem?_modify, List.getElem?_eq_getElem hlength]
    simp
  | @replayEnd locked outcome now hrevision =>
    cases outcome with
    | ok => cases hwritten
    | error text =>
      have hstored := hbased.1.stored hrevision
      obtain ⟨attempt, hlast, -⟩ := (hattempts _ locked hstored).progress.mp hbased.2
      refine ⟨{ attempt with status := .failed, error := text }, ?_, Or.inl rfl⟩
      simp only [DeadLetterCase.recordReplay, DeadLetterCase.replayFailed,
        getLast?_withLastAttempt, hlast, Option.map_some]
  | create | complete | replayLock | resolveStore => cases hwritten

/-- When a replay is recorded as published, no child of its attempt is open or about to be. -/
lemma Writes.no_child (hwrites : Writes s c a (s.phase c) value p) (hbased : Based env s (s.phase c))
    (hfaithful : Faithful s a) (hstatus : value.status = .replayPublished) {attempt : ReplayAttempt}
    (hlast : value.replays.getLast? = some attempt) :
    (∀ id child, s.cases id = some child → ReplayChild child.value value.id attempt.id →
      child.value.status ≠ .open) ∧
    ∀ d child, (s.phase d).pastParent = some child → ¬ReplayChild child.value value.id attempt.id := by
  obtain ⟨locked, sequence, now, rfl, hq, hstored, rfl⟩ := hwrites.published hbased hstatus
  simp only [DeadLetterCase.replayPublished, getLast?_withLastAttempt] at hlast
  obtain ⟨old, hold, rfl⟩ := Option.map_eq_some_iff.mp hlast
  exact hfaithful locked sequence old hq hstored hold

/-- A call that has read the parent and writes a case marks the parent. -/
lemma Writes.pastParent {child : StoredCase} (hwrites : Writes s c a q value p)
    (hpast : p.pastParent = some child) :
    p = .complete child ∧ ∃ parent now, q = .markParent child parent ∧
      parent.value.markReplayFailed child.value.parentReplayId child.value.id now = some value := by
  cases hwrites with
  | create =>
    unfold transferPhase at hpast
    split_ifs at hpast <;> cases hpast
  | markParent hmark =>
    cases hpast
    exact ⟨rfl, _, _, rfl, hmark⟩
  | complete | replayLock | replayEnd | resolveStore => cases hpast

/-! ## Steps -/

/-- A child for which no call awaits the parent before a write. -/
lemma Writes.not_awaits (hwrites : Writes s c a (s.phase c) value p)
    (hbased : Based env s (s.phase c)) (hfaithful : Faithful s a)
    (hcases : s'.cases = Function.update s.cases value.id
      (some { value := value, revision := s.revision + 1 }))
    (hbefore : child.parentCaseId ≠ value.id → ¬Awaits s.cases child)
    (hchild : (∃ id stored, s.cases id = some stored ∧ stored.value.status = .open ∧
        stored.value = child) ∨
      (∃ d stored, (s.phase d).pastParent = some stored ∧ stored.value = child) ∨
      value.status ≠ .replayPublished) : ¬Awaits s'.cases child := by
  intro hawaits
  rw [hcases] at hawaits
  rcases awaits_update hawaits with ⟨hid, hold⟩ | ⟨hstatus, attempt, hlast, hof⟩
  · exact hbefore hid hold
  · obtain ⟨hnone, hcalls⟩ := hwrites.no_child hbased hfaithful hstatus hlast
    rcases hchild with ⟨id, stored, hstored, hopen, rfl⟩ | ⟨d, stored, hpast, rfl⟩ | hother
    · exact hnone id stored hstored hof hopen
    · exact hcalls d stored hpast hof
    · exact hother hstatus

variable [DecidableEq κ]

/-- A call moves on. -/
lemma Told.moved (h : Told s) (hsound : Sound env s) (hnext : Next env s.cases (s.phase c) p)
    (hcases : s'.cases = s.cases) (hphase : s'.phase = Function.update s.phase c p) : Told s' := by
  refine ⟨hcases ▸ h.failed, hcases ▸ h.opened, ?_, ?_⟩
  · intro d child hd
    rw [hphase] at hd
    rw [hcases]
    by_cases hdc : d = c
    · rw [hdc, Function.update_self] at hd
      subst hd
      generalize hq : s.phase c = q at hnext
      cases hnext with
      | pass hparent =>
        rintro ⟨parent, attempt, hstored, hstatus, -, hof⟩
        exact hparent hof.hasParent parent hstored hstatus
      | @unmarked _ parent now hmark =>
        rintro ⟨stored, attempt, hstored, hstatus, hlast, hof⟩
        rcases (h.marking c child parent hq).2 with hsame | hnot
        · -- the parent is what was read, and the attempt is in it
          obtain rfl := Option.some.inj (hstored.symm.trans hsame)
          unfold DeadLetterCase.markReplayFailed at hmark
          split at hmark
          · next hnone =>
            rw [List.findIdx?_eq_none_iff] at hnone
            have hmem := hnone attempt (List.mem_of_getLast? hlast)
            simp [hof.replay] at hmem
          · cases hmark
        · exact hnot ⟨stored, attempt, hstored, hstatus, hlast, hof⟩
      | plain _ hp => cases hp
    · rw [Function.update_of_ne hdc] at hd
      exact h.completing d child hd
  · intro d child parent hd
    rw [hphase] at hd
    rw [hcases]
    by_cases hdc : d = c
    · rw [hdc, Function.update_self] at hd
      subst hd
      generalize s.phase c = q at hnext
      cases hnext with
      | markParent _ hstored => exact ⟨hsound.ids _ parent hstored, Or.inl hstored⟩
      | plain _ hp => cases hp
    · rw [Function.update_of_ne hdc] at hd
      exact h.marking d child parent hd

/-- A call writes a case. -/
lemma Told.wrote (h : Told s) (hsound : Sound env s)
    (hattempts : ∀ id stored, s.cases id = some stored → Attempts env id stored.value)
    (hfaithful : Faithful s a) (hwrites : Writes s c a (s.phase c) value p)
    (hcases : s'.cases = Function.update s.cases value.id
      (some { value := value, revision := s.revision + 1 }))
    (hphase : s'.phase = Function.update s.phase c p) : Told s' := by
  have hbased := hsound.phases c
  refine ⟨?_, ?_, ?_, ?_⟩
  · intro id stored hstored hstatus
    rw [hcases] at hstored
    by_cases hid : id = value.id
    · rw [hid, Function.update_self] at hstored
      cases hstored
      exact hwrites.failed hbased hattempts hfaithful hstatus
    · rw [Function.update_of_ne hid] at hstored
      exact h.failed id stored hstored hstatus
  · intro id child hchild hopen
    rw [hcases] at hchild
    by_cases hid : id = value.id
    · rw [hid, Function.update_self] at hchild
      cases hchild
      obtain ⟨stored, now, hq, rfl⟩ := hwrites.opened hbased hopen
      exact hwrites.not_awaits hbased hfaithful hcases
        (fun _ hold => h.completing c stored hq hold.of_completed)
        (Or.inr (Or.inr (by simp [DeadLetterCase.completed])))
    · rw [Function.update_of_ne hid] at hchild
      exact hwrites.not_awaits hbased hfaithful hcases (fun _ => h.opened id child hchild hopen)
        (Or.inl ⟨id, child, hchild, hopen, rfl⟩)
  · intro d child hd
    rw [hphase] at hd
    by_cases hdc : d = c
    · rw [hdc, Function.update_self] at hd
      obtain ⟨-, parent, now, hq, hmark⟩ := hwrites.pastParent (by rw [hd]; rfl)
      have hparent := (h.marking c child parent hq).1
      obtain ⟨index, -, rfl⟩ := markReplayFailed_eq_some hmark
      exact hwrites.not_awaits hbased hfaithful hcases (fun hne => absurd hparent.symm hne)
        (Or.inr (Or.inr (by simp)))
    · rw [Function.update_of_ne hdc] at hd
      exact hwrites.not_awaits hbased hfaithful hcases (fun _ => h.completing d child hd)
        (Or.inr (Or.inl ⟨d, child, by rw [hd]; rfl, rfl⟩))
  · intro d child parent hd
    rw [hphase] at hd
    by_cases hdc : d = c
    · rw [hdc, Function.update_self] at hd
      have hcomplete := (hwrites.pastParent (by rw [hd]; rfl)).1
      rw [hd] at hcomplete
      cases hcomplete
    · rw [Function.update_of_ne hdc] at hd
      obtain ⟨hid, hold⟩ := h.marking d child parent hd
      refine ⟨hid, ?_⟩
      have hpast : (s.phase d).pastParent = some child := by
        rw [hd]
        rfl
      by_cases hwritten : child.value.parentCaseId = value.id
      · exact Or.inr (hwrites.not_awaits hbased hfaithful hcases (fun hne => absurd hwritten hne)
          (Or.inr (Or.inl ⟨d, child, hpast, rfl⟩)))
      · rcases hold with hsame | hnot
        · refine Or.inl ?_
          rw [hcases, Function.update_of_ne hwritten]
          exact hsame
        · exact Or.inr (hwrites.not_awaits hbased hfaithful hcases (fun _ => hnot)
            (Or.inr (Or.inl ⟨d, child, hpast, rfl⟩)))

/-- In every run whose steps are faithful, the outcomes of the replays are recorded in every state, whether
calls are in flight or not. -/
theorem replay_outcome_recorded {acts : List (Action κ)}
    (hfaithful : StepSystem.Along (State.step env) Faithful {} acts)
    (hrun : StepSystem.run (State.step env) {} acts = some s) : OutcomeRecorded s := by
  have hinv : Sound env s ∧
      (∀ id stored, s.cases id = some stored → Attempts env id stored.value) ∧ Told s := by
    refine StepSystem.run_invariant (I := fun s => Sound env s ∧
      (∀ id stored, s.cases id = some stored → Attempts env id stored.value) ∧ Told s) ?_
      ⟨.init, fun id stored hnone => (by cases hnone), .init⟩ hfaithful hrun
    rintro s a s' ⟨hsound, hattempts, htold⟩ hok hstep
    have hstepped := stepped_of_step hstep
    refine ⟨hsound.step hstepped, attempts_step hsound hattempts hstepped, ?_⟩
    cases hstepped with
    | outside _ hcases _ hphase =>
      exact ⟨hcases ▸ htold.failed, hcases ▸ htold.opened, hcases ▸ hphase ▸ htold.completing,
        hcases ▸ hphase ▸ htold.marking⟩
    | moved c p _ hnext hcases _ hphase => exact htold.moved hsound hnext hcases hphase
    | wrote c value p _ hwrites hcases _ hphase =>
      exact htold.wrote hsound hattempts hok hwrites hcases hphase
  exact hinv.2.2.outcomeRecorded

/-! ## Sample runs -/

/-- No call is in flight. -/
def Quiet (s : State κ Json) : Prop :=
  ∀ c, s.phase c = .idle ∨ ∃ result, s.phase c = .returned result

/-- A call that takes no step of a run stays where it is. -/
lemma phase_of_run {acts : List (Action κ)} {t : State κ Json}
    (hacts : ∀ a ∈ acts, a.caller ≠ some c) (hrun : StepSystem.run (State.step env) s acts = some t) :
    t.phase c = s.phase c := by
  induction acts generalizing s with
  | nil =>
    cases hrun
    rfl
  | cons a acts ih =>
    obtain ⟨u, hstep, hrest⟩ := StepSystem.run_cons.mp hrun
    rw [ih (fun b hb => hacts b (List.mem_cons_of_mem a hb)) hrest]
    have hother : ∀ d, a.caller = some d → c ≠ d := by
      rintro d hd rfl
      exact hacts a List.mem_cons_self hd
    cases stepped_of_step hstep with
    | outside _ _ _ hphase => rw [hphase]
    | moved d _ hd _ _ _ hphase => rw [hphase, Function.update_of_ne (hother d hd)]
    | wrote d _ _ hd _ _ _ hphase => rw [hphase, Function.update_of_ne (hother d hd)]

end Outcome

/-- The advisory about the message of the first attempt. -/
def sampleReplayAdvisory : Advisory := { sampleAdvisory with id := "advisory-2", streamSeq := 2 }

/-- The case of that message. -/
def sampleChildId : String := sampleReplayAdvisory.caseId sampleEnv

/-- An operator replays the sample case, up to the publication. -/
def sampleReplay (c : ℕ) (now : Time) (publication : Publication) : List (Action ℕ) :=
  [.replay c sampleCaseId "operator" "retry", .replayLoad c now, .replayLock c, .replayPayload c,
    .replayPublish c publication]

/-- A controller transfers the message of the first attempt, up to the parent. -/
def sampleChild (c : ℕ) (now : Time) : List (Action ℕ) :=
  [.advise c sampleReplayAdvisory, .lookup c, .fetch c now, .recollect c true, .persist c .acked, .create c,
    .event c, .delete c, .parent c]

/-- The message is dead-lettered before the operator's call records the replay. -/
def sampleEarlyChild : List (Action ℕ) :=
  sampleOpening ++ sampleReplay 1 10 .acked ++ sampleChild 2 11 ++ [.complete 2 12, .replayEnd 1 13]

/-- The publication of the first attempt is believed to have failed; its message is dead-lettered after
the second attempt has been published. -/
def sampleLateChild : List (Action ℕ) :=
  sampleOpening ++ sampleReplay 1 10 .lost ++ [.replayEnd 1 11] ++ sampleReplay 2 12 .acked ++
    [.replayEnd 2 13] ++ sampleChild 3 14 ++ [.markParent 3 15, .complete 3 16]

/-- The phase of a call that is not in flight. -/
def Phase.settled : Phase → Bool
  | .idle | .returned _ => true
  | _ => false

/-- The calls of a sample run are settled if the first four are. -/
lemma quiet_of_settled {acts : List (Action ℕ)} {s : State ℕ DeadLetterRecord}
    (hrun : StepSystem.run (State.step sampleEnv) {} acts = some s)
    (hacts : ∀ a ∈ acts, ∀ c, a.caller = some c → c < 4)
    (hsettled : ((List.range 4).all fun c => (s.phase c).settled) = true) : Quiet s := by
  intro c
  by_cases hc : c < 4
  · have hphase := List.all_eq_true.mp hsettled c (List.mem_range.mpr hc)
    cases hp : s.phase c with
    | idle => exact Or.inl rfl
    | returned result => exact Or.inr ⟨result, rfl⟩
    | _ =>
      rw [hp] at hphase
      cases hphase
  · refine Or.inl (phase_of_run (s := {}) ?_ hrun)
    intro a ha hcaller
    exact hc (hacts a ha c hcaller)

/-- With no call in flight, a case is shown as published although its message is an open case, and
another as failed although its last attempt has been published. -/
theorem replay_outcome_misrecorded :
    (∃ s : State ℕ DeadLetterRecord,
      StepSystem.run (State.step sampleEnv) {} sampleEarlyChild = some s ∧ Quiet s ∧
      ¬OutcomeRecorded s) ∧
    ∃ s : State ℕ DeadLetterRecord,
      StepSystem.run (State.step sampleEnv) {} sampleLateChild = some s ∧ Quiet s ∧
      ¬OutcomeRecorded s := by
  constructor
  · have hrun : ((StepSystem.run (State.step sampleEnv) ({} : State ℕ DeadLetterRecord)
        sampleEarlyChild).bind fun s => (s.cases sampleCaseId).bind fun stored =>
          stored.value.replays.getLast?.bind fun attempt => (s.cases sampleChildId).map fun child =>
            ((List.range 4).all (fun c => (s.phase c).settled),
              decide (stored.value.status = .replayPublished), decide (child.value.status = .open),
              decide (child.value.parentCaseId = sampleCaseId),
              decide (child.value.parentReplayId = attempt.id))) =
        some (true, true, true, true, true) := by
      decide +kernel
    obtain ⟨s, hs, hrest⟩ := Option.bind_eq_some_iff.mp hrun
    obtain ⟨stored, hstored, hrest⟩ := Option.bind_eq_some_iff.mp hrest
    obtain ⟨attempt, hattempt, hrest⟩ := Option.bind_eq_some_iff.mp hrest
    obtain ⟨child, hchild, hvalues⟩ := Option.map_eq_some_iff.mp hrest
    simp only [Prod.mk.injEq, decide_eq_true_eq] at hvalues
    obtain ⟨hsettled, hstatus, hopen, hparent, hreplay⟩ := hvalues
    refine ⟨s, hs, quiet_of_settled hs (by decide) hsettled, ?_⟩
    intro h
    refine h.published _ stored attempt _ child hstored hattempt hchild hopen ⟨?_, hparent, hreplay⟩
      hstatus
    rw [hparent]
    decide
  · have hrun : ((StepSystem.run (State.step sampleEnv) ({} : State ℕ DeadLetterRecord)
        sampleLateChild).bind fun s => (s.cases sampleCaseId).bind fun stored =>
          stored.value.replays.getLast?.map fun attempt =>
            ((List.range 4).all (fun c => (s.phase c).settled),
              decide (stored.value.status = .replayFailed), decide (attempt.status = .published))) =
      some (true, true, true) := by
      decide +kernel
    obtain ⟨s, hs, hrest⟩ := Option.bind_eq_some_iff.mp hrun
    obtain ⟨stored, hstored, hrest⟩ := Option.bind_eq_some_iff.mp hrest
    obtain ⟨attempt, hattempt, hvalues⟩ := Option.map_eq_some_iff.mp hrest
    simp only [Prod.mk.injEq, decide_eq_true_eq] at hvalues
    obtain ⟨hsettled, hstatus, hpublished⟩ := hvalues
    refine ⟨s, hs, quiet_of_settled hs (by decide) hsettled, ?_⟩
    intro h
    obtain ⟨last, hlast, hfailed⟩ := h.failed _ stored hstored hstatus
    obtain rfl := Option.some.inj (hlast.symm.trans hattempt)
    simp [hpublished] at hfailed

/-- A replay is refused.  The next one is published, and its message dead-lettered. -/
def sampleMarked : List (Action ℕ) :=
  sampleOpening ++ sampleReplay 1 10 .refused ++ [.replayEnd 1 11] ++ sampleReplay 2 12 .acked ++
    [.replayEnd 2 13] ++ sampleChild 3 14 ++ [.markParent 3 15, .complete 3 16]

/-- The attempt that a call is about to mark is the last one of the parent. -/
def Phase.marksLast : Phase → Bool
  | .markParent child read =>
    (read.value.replays.findIdx? fun attempt => attempt.id = child.value.parentReplayId).all fun index =>
      index + 1 = read.value.replays.length
  | _ => true

/-- A run that has one record has one case. -/
lemma eq_sampleCaseId {acts : List (Action ℕ)} {s : State ℕ DeadLetterRecord} {id : String}
    {stored : StoredCase} (hrun : StepSystem.run (State.step sampleEnv) {} acts = some s)
    (hdlq : s.dlq.map Prod.fst = [dlqSubject sampleCaseId]) (hstored : s.cases id = some stored) :
    id = sampleCaseId := by
  have hP : StepSystem.Along (State.step sampleEnv) (fun s a => False → Consistent sampleEnv s a)
      ({} : State ℕ DeadLetterRecord) acts :=
    .of_forall (fun _ _ _ => False.elim) _
  obtain ⟨hid, hok⟩ := (inv_of_run (fun _ _ h => h) (fun _ => rfl) hP hrun).cases id stored hstored
  obtain ⟨n, record, -, hn, -⟩ := hok.record
  have hmem : dlqSubject stored.value.id ∈ s.dlq.map Prod.fst :=
    List.mem_map.mpr ⟨_, List.mem_of_getElem? hn, rfl⟩
  rw [hdlq, List.mem_singleton] at hmem
  exact hid.symm.trans (dlqSubject_injective hmem)

/-- The calls of a sample run that have read a parent are among the first four. -/
lemma pastParent_of_run {acts : List (Action ℕ)} {s : State ℕ DeadLetterRecord}
    (hrun : StepSystem.run (State.step sampleEnv) {} acts = some s)
    (hacts : ∀ a ∈ acts, ∀ c, a.caller = some c → c < 4)
    (hnone : ((List.range 4).all fun c => (s.phase c).pastParent.isNone) = true) (c : ℕ) :
    (s.phase c).pastParent = none := by
  by_cases hc : c < 4
  · exact Option.isNone_iff_eq_none.mp (List.all_eq_true.mp hnone c (List.mem_range.mpr hc))
  · rw [phase_of_run (s := {}) (fun a ha hcaller => hc (hacts a ha c hcaller)) hrun]
    rfl

/-- The steps of the run are faithful. -/
lemma sampleMarked_faithful : StepSystem.Along (State.step sampleEnv) Faithful
    ({} : State ℕ DeadLetterRecord) sampleMarked := by
  refine StepSystem.Along.append (.append (.append (.append (.append ?_ ?_) ?_) ?_) ?_) ?_
  · exact .of_forall (by simp [sampleOpening, sampleReplay, Faithful]) _
  · -- the first replay is refused
    intro t ht
    refine ⟨fun locked sequence attempt hphase => ?_, ?_⟩
    · have hrefused : (some t).map (fun t => ((t.phase 1).recordedOutcome.bind Except.toOption).isSome) =
          some false := by
        rw [← ht]
        decide +kernel
      rw [Option.map_some, hphase] at hrefused
      cases hrefused
    · cases t.step sampleEnv (.replayEnd 1 11) <;> trivial
  · exact fun t _ => .of_forall (by simp [sampleReplay, Faithful]) t
  · -- the second one is recorded before its message is dead-lettered
    intro t ht
    have hfacts : (some t).map (fun t => (t.dlq.map Prod.fst,
        (t.cases sampleCaseId).map fun stored => stored.value.parentCaseId,
        (List.range 4).all fun c => (t.phase c).pastParent.isNone)) =
        some ([dlqSubject sampleCaseId], some "", true) := by
      rw [← ht]
      decide +kernel
    simp only [Option.map_some, Option.some.injEq, Prod.mk.injEq] at hfacts
    obtain ⟨hdlq, hparent, hnone⟩ := hfacts
    refine ⟨fun locked sequence attempt _ _ _ => ⟨fun id child hchild hof => ?_, fun d child hpast => ?_⟩, ?_⟩
    · obtain rfl := eq_sampleCaseId ht hdlq hchild
      rw [hchild] at hparent
      exact absurd (Option.some.inj hparent) hof.hasParent
    · rw [pastParent_of_run ht (by decide) hnone d] at hpast
      cases hpast
    · cases t.step sampleEnv (.replayEnd 2 13) <;> trivial
  · exact fun t _ => .of_forall (by simp [sampleChild, Faithful]) t
  · intro t ht
    refine ⟨fun child read index hphase _ hindex => ?_, ?_⟩
    · have hlast : (some t).map (fun t => (t.phase 3).marksLast) = some true := by
        rw [← ht]
        decide +kernel
      rw [Option.map_some, hphase, Phase.marksLast, hindex, Option.all_some] at hlast
      exact of_decide_eq_true (Option.some.inj hlast)
    · cases t.step sampleEnv (.markParent 3 15) with
      | none => trivial
      | some u => exact .of_forall (by simp [Faithful]) u

/-- A replay that is refused is recorded as failed, and a replay whose message is dead-lettered is marked. -/
theorem child_outcome_recorded :
    ∃ (s : State ℕ DeadLetterRecord) (stored child : StoredCase) (attempt : ReplayAttempt),
      StepSystem.run (State.step sampleEnv) {} sampleMarked = some s ∧
      s.cases sampleCaseId = some stored ∧ stored.value.replays.getLast? = some attempt ∧
      s.cases sampleChildId = some child ∧ child.value.status = .open ∧
      ReplayChild child.value sampleCaseId attempt.id ∧ stored.value.status = .replayFailed ∧
      OutcomeRecorded s := by
  have hrun : ((StepSystem.run (State.step sampleEnv) ({} : State ℕ DeadLetterRecord)
      sampleMarked).bind fun s => (s.cases sampleCaseId).bind fun stored =>
        stored.value.replays.getLast?.bind fun attempt => (s.cases sampleChildId).map fun child =>
          (decide (stored.value.status = .replayFailed), decide (child.value.status = .open),
            decide (child.value.parentCaseId = sampleCaseId),
            decide (child.value.parentReplayId = attempt.id))) =
      some (true, true, true, true) := by
    decide +kernel
  obtain ⟨s, hs, hrest⟩ := Option.bind_eq_some_iff.mp hrun
  obtain ⟨stored, hstored, hrest⟩ := Option.bind_eq_some_iff.mp hrest
  obtain ⟨attempt, hattempt, hrest⟩ := Option.bind_eq_some_iff.mp hrest
  obtain ⟨child, hchild, hvalues⟩ := Option.map_eq_some_iff.mp hrest
  simp only [Prod.mk.injEq, decide_eq_true_eq] at hvalues
  obtain ⟨hstatus, hopen, hparent, hreplay⟩ := hvalues
  refine ⟨s, stored, child, attempt, hs, hstored, hattempt, hchild, hopen, ⟨?_, hparent, hreplay⟩,
    hstatus, replay_outcome_recorded sampleMarked_faithful hs⟩
  rw [hparent]
  decide

end Boutique.Operations
