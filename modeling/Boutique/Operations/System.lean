import Boutique.Operations.DeadLetter
import Boutique.Lib.Run

/-!
# The message operations service

Any number of calls of `HandleAdvisory`, `Replay` and `Resolve` share the streams of the broker and
the bucket of the cases.  Every request to the broker or the bucket is a step, and a call may end
after any step, as it does when its controller crashes or a request fails.

* A source stream keeps what it stored under its sequence, which is not used again; a message that
  was deleted or has expired is no longer `present`.
* `BOUTIQUE_DLQ` keeps its messages, the `n`-th of which has sequence `n`.
* The operational events that are published on the way are among the messages that `produce` adds.
-/

namespace Boutique.Operations

/-- A message that a controller deleted, with the case for which it did. -/
structure Removal where
  caseId : String
  stream : String
  sequence : ℕ
  message : RawMessage

/-- Where a call is. -/
inductive Phase where
  | idle
  | lookup (advisory : Advisory)
  | cleanup (advisory : Advisory) (existing : StoredCase)
  | cleanupEvent (existing : StoredCase)
  | fetch (advisory : Advisory)
  | recollect (advisory : Advisory) (record : DeadLetterRecord)
  | persist (advisory : Advisory) (record : DeadLetterRecord)
  | recheck (advisory : Advisory) (record : DeadLetterRecord)
  | create (value : DeadLetterCase)
  | reload (id : String)
  | event (stored : StoredCase)
  | delete (stored : StoredCase)
  | parent (stored : StoredCase)
  | markParent (stored parent : StoredCase)
  | complete (stored : StoredCase)
  | latest (id : String)
  | replayLoad (id actor reason : String)
  | replayLock (attempt : ReplayAttempt) (value : DeadLetterCase) (revision : ℕ)
  | replayPayload (attempt : ReplayAttempt) (locked : StoredCase)
  | replayPublish (attempt : ReplayAttempt) (locked : StoredCase) (record : DeadLetterRecord)
  /-- The replay is to be recorded, as failed with an error or as published with a sequence. -/
  | replayEnd (locked : StoredCase) (outcome : Except String ℕ)
  | resolveLoad (id actor reason : String)
  | resolveStore (value : DeadLetterCase) (revision : ℕ)
  /-- The call returned a case, or an error. -/
  | returned (result : Option DeadLetterCase)

/-- The outcome of a replay that is to be recorded. -/
def Phase.recordedOutcome : Phase → Option (Except String ℕ)
  | .replayEnd _ outcome => some outcome
  | _ => none

/-- The streams, the cases and the calls. -/
structure State (κ Json : Type*) where
  messages : String → ℕ → Option RawMessage := fun _ _ => none
  present : String → ℕ → Bool := fun _ _ => false
  lastSequence : String → ℕ := fun _ => 0
  dlq : List (String × Json) := []
  cases : String → Option StoredCase := fun _ => none
  revision : ℕ := 0
  replayed : List (String × ℕ) := []
  phase : κ → Phase := fun _ => .idle
  removed : List Removal := []

/-- What a publication brought about: it was acknowledged as new or as a duplicate, or the call got
an error, although the message may have been stored. -/
inductive Publication where
  | acked | duplicate | lost | refused
  deriving DecidableEq

/-- The steps. -/
inductive Action (κ : Type*) where
  | produce (stream : String) (message : RawMessage)
  | expire (stream : String) (sequence : ℕ)
  | advise (c : κ) (advisory : Advisory)
  | lookup (c : κ) | cleanup (c : κ) | cleanupEvent (c : κ)
  | fetch (c : κ) (now : Time)
  | recollect (c : κ) (answered : Bool)
  | persist (c : κ) (publication : Publication)
  | recheck (c : κ) | create (c : κ) | reload (c : κ) | event (c : κ) | delete (c : κ)
  | parent (c : κ)
  | markParent (c : κ) (now : Time)
  | complete (c : κ) (now : Time)
  | latest (c : κ)
  | replay (c : κ) (id actor reason : String)
  | replayLoad (c : κ) (now : Time)
  | replayLock (c : κ) | replayPayload (c : κ)
  | replayPublish (c : κ) (publication : Publication)
  | replayEnd (c : κ) (now : Time)
  | resolve (c : κ) (id actor reason : String)
  | resolveLoad (c : κ) (now : Time)
  | resolveStore (c : κ)
  | crash (c : κ)

section Streams

variable {κ Json : Type*}

/-- `GetMessage` on a source stream. -/
def State.getMessage (s : State κ Json) (stream : String) (sequence : ℕ) : Option RawMessage :=
  if s.present stream sequence then s.messages stream sequence else none

/-- A message is stored in a source stream. -/
def State.publish (s : State κ Json) (stream : String) (message : RawMessage) : State κ Json :=
  let sequence := s.lastSequence stream + 1
  { s with
    messages := Function.update s.messages stream
      (Function.update (s.messages stream) sequence (some message))
    present := Function.update s.present stream (Function.update (s.present stream) sequence true)
    lastSequence := Function.update s.lastSequence stream sequence }

/-- A message is no longer in a source stream. -/
def State.dropMessage (s : State κ Json) (stream : String) (sequence : ℕ) : State κ Json :=
  { s with
    present := Function.update s.present stream (Function.update (s.present stream) sequence false) }

/-- `DeleteMessage` on a source stream, for a case. -/
def State.deleteMessage (s : State κ Json) (caseId stream : String) (sequence : ℕ) : State κ Json :=
  match s.getMessage stream sequence with
  | none => s
  | some message =>
    { s.dropMessage stream sequence with
      removed := s.removed ++ [{ caseId := caseId, stream := stream, sequence := sequence
                                 message := message }] }

/-- `GetLastMessage` on `BOUTIQUE_DLQ`: the sequence of the last message on a subject. -/
def lastOnSubject (dlq : List (String × Json)) (subject : String) : Option ℕ :=
  ((dlq.zipIdx.filter fun x => x.1.1 = subject).getLast?).map fun x => x.2 + 1

/-- `GetMessage` on `BOUTIQUE_DLQ`. -/
def dlqMessage (dlq : List (String × Json)) (sequence : ℕ) : Option Json :=
  if sequence = 0 then none else (dlq[sequence - 1]?).map Prod.snd

/-- The case is written with the next revision of the bucket. -/
def State.putCase (s : State κ Json) (value : DeadLetterCase) : State κ Json :=
  { s with revision := s.revision + 1
           cases := Function.update s.cases value.id
             (some { value := value, revision := s.revision + 1 }) }

/-- `Update` under a revision, or `none` for a conflict. -/
def State.updateCase (s : State κ Json) (value : DeadLetterCase) (revision : ℕ) :
    Option (State κ Json) :=
  match s.cases value.id with
  | some stored => if stored.revision = revision then some (s.putCase value) else none
  | none => none

end Streams

section Steps

variable {κ Json : Type*} [DecidableEq κ] (env : Env Json)

/-- The state with another phase of a call. -/
def State.setPhase (s : State κ Json) (c : κ) (phase : Phase) : State κ Json :=
  { s with phase := Function.update s.phase c phase }

/-- Where `HandleAdvisory` goes on with a case that it found: `completeTransfer` from its first
request, or the clean-up. -/
def existingPhase (advisory : Advisory) (existing : StoredCase) : Phase :=
  if existing.value.status = .transferInProgress then .event existing
  else .cleanup advisory existing

/-- Where `completeTransfer` starts. -/
def transferPhase (stored : StoredCase) : Phase :=
  if stored.value.status = .transferInProgress then .event stored
  else .returned (some stored.value)

/-- Where `persistDeadLetterRecord` returns to. -/
def persistedPhase (advisory : Advisory) (record : DeadLetterRecord) (sequence : ℕ) : Phase :=
  .create (advisory.newCase record sequence)

/-- The steps of `HandleAdvisory` and `completeTransfer`. -/
@[simp]
def State.stepTransfer (s : State κ Json) : Action κ → Option (State κ Json)
  | .advise c advisory =>
    match s.phase c with
    | .idle =>
      -- the broker sends advisories about messages that it has stored
      if !advisory.valid then some (s.setPhase c (.returned none))
      else if advisory.streamSeq ≤ s.lastSequence advisory.stream then
        some (s.setPhase c (.lookup advisory))
      else none
    | _ => none
  | .lookup c =>
    match s.phase c with
    | .lookup advisory =>
      match s.cases (advisory.caseId env) with
      | some existing => some (s.setPhase c (existingPhase advisory existing))
      | none => some (s.setPhase c (.fetch advisory))
    | _ => none
  | .cleanup c =>
    match s.phase c with
    | .cleanup advisory existing =>
      let s' := s.setPhase c (.cleanupEvent existing)
      if advisory.stream = commandsStream ∧ existing.value.replayAvailable = true then
        some (s'.deleteMessage existing.value.id advisory.stream advisory.streamSeq)
      else some s'
    | _ => none
  | .cleanupEvent c =>
    match s.phase c with
    | .cleanupEvent existing => some (s.setPhase c (.returned (some existing.value)))
    | _ => none
  | .fetch c now =>
    match s.phase c with
    | .fetch advisory =>
      let original := s.getMessage advisory.stream advisory.streamSeq
      some (s.setPhase c (.recollect advisory (advisory.record env now original)))
    | _ => none
  | .recollect c answered =>
    match s.phase c with
    | .recollect advisory record =>
      -- every error of `GetLastMessage` is taken for a record that is missing
      match (lastOnSubject s.dlq (dlqSubject record.caseId)).filter fun _ => answered with
      | some sequence => some (s.setPhase c (persistedPhase advisory record sequence))
      | none => some (s.setPhase c (.persist advisory record))
    | _ => none
  | .persist c publication =>
    match s.phase c with
    | .persist advisory record =>
      let subject := dlqSubject record.caseId
      let stored := { s with dlq := s.dlq ++ [(subject, env.encodeRecord record)] }
      match publication, lastOnSubject s.dlq subject with
      | .acked, none => some (stored.setPhase c (persistedPhase advisory record stored.dlq.length))
      | .lost, none => some (stored.setPhase c (.recheck advisory record))
      | .duplicate, some sequence => some (s.setPhase c (persistedPhase advisory record sequence))
      | .refused, _ => some (s.setPhase c (.recheck advisory record))
      | _, _ => none
    | _ => none
  | .recheck c =>
    match s.phase c with
    | .recheck advisory record =>
      match lastOnSubject s.dlq (dlqSubject record.caseId) with
      | some sequence => some (s.setPhase c (persistedPhase advisory record sequence))
      | none => some (s.setPhase c (.returned none))
    | _ => none
  | .create c =>
    match s.phase c with
    | .create value =>
      match s.cases value.id with
      | none =>
        some ((s.putCase value).setPhase c
          (transferPhase { value := value, revision := s.revision + 1 }))
      | some _ => some (s.setPhase c (.reload value.id))
    | _ => none
  | .reload c =>
    match s.phase c with
    | .reload id =>
      match s.cases id with
      | some existing => some (s.setPhase c (transferPhase existing))
      | none => some (s.setPhase c (.returned none))
    | _ => none
  | .event c =>
    match s.phase c with
    | .event stored => some (s.setPhase c (.delete stored))
    | _ => none
  | .delete c =>
    match s.phase c with
    | .delete stored =>
      let s' := s.setPhase c (.parent stored)
      if stored.value.deletesSource then
        some (s'.deleteMessage stored.value.id stored.value.sourceStream
          stored.value.sourceSequence)
      else some s'
    | _ => none
  | .parent c =>
    match s.phase c with
    | .parent stored =>
      if stored.value.parentCaseId = "" then some (s.setPhase c (.complete stored))
      else
        match s.cases stored.value.parentCaseId with
        | some parent =>
          if parent.value.status = .replayPublished then
            some (s.setPhase c (.markParent stored parent))
          else some (s.setPhase c (.complete stored))
        | none => some (s.setPhase c (.complete stored))
    | _ => none
  | .markParent c now =>
    match s.phase c with
    | .markParent stored parent =>
      match parent.value.markReplayFailed stored.value.parentReplayId stored.value.id now with
      | none => some (s.setPhase c (.complete stored))
      | some marked =>
        match s.updateCase marked parent.revision with
        | some s' => some (s'.setPhase c (.complete stored))
        | none => some (s.setPhase c (.returned none))
    | _ => none
  | .complete c now =>
    match s.phase c with
    | .complete stored =>
      let value := stored.value.completed now
      match s.updateCase value stored.revision with
      | some s' => some (s'.setPhase c (.returned (some value)))
      | none => some (s.setPhase c (.latest value.id))
    | _ => none
  | .latest c =>
    match s.phase c with
    | .latest id =>
      match s.cases id with
      | some stored =>
        some (s.setPhase c (.returned
          (if stored.value.status = .transferInProgress then none else some stored.value)))
      | none => some (s.setPhase c (.returned none))
    | _ => none
  | _ => none

/-- The steps of `Replay` and `Resolve`. -/
@[simp]
def State.stepReplay (s : State κ Json) : Action κ → Option (State κ Json)
  | .replay c id actor reason =>
    match s.phase c with
    | .idle =>
      match acceptedReason reason with
      | some reason => some (s.setPhase c (.replayLoad id actor reason))
      | none => some (s.setPhase c (.returned none))
    | _ => none
  | .replayLoad c now =>
    match s.phase c with
    | .replayLoad id actor reason =>
      match s.cases id with
      | some stored =>
        match stored.value.lockReplay env actor reason now with
        | some (attempt, value) => some (s.setPhase c (.replayLock attempt value stored.revision))
        | none => some (s.setPhase c (.returned none))
      | none => some (s.setPhase c (.returned none))
    | _ => none
  | .replayLock c =>
    match s.phase c with
    | .replayLock attempt value revision =>
      match s.updateCase value revision with
      | some s' =>
        some (s'.setPhase c (.replayPayload attempt { value := value, revision := s'.revision }))
      | none => some (s.setPhase c (.returned none))
    | _ => none
  | .replayPayload c =>
    match s.phase c with
    | .replayPayload attempt locked =>
      match (dlqMessage s.dlq locked.value.dlqSequence).bind env.decodeRecord with
      | some record =>
        if locked.value.replayable record then
          some (s.setPhase c (.replayPublish attempt locked record))
        else some (s.setPhase c (.replayEnd locked (.error (safeOperationError true))))
      | none => some (s.setPhase c (.replayEnd locked (.error (safeOperationError false))))
    | _ => none
  | .replayPublish c publication =>
    match s.phase c with
    | .replayPublish attempt locked record =>
      let id := replayMessageId locked.value attempt
      let stream := locked.value.sourceStream
      let sequence := s.lastSequence stream + 1
      let stored := { s.publish stream (replayMessage locked.value attempt record) with
                      replayed := s.replayed ++ [(id, sequence)] }
      match publication with
      | .acked => some (stored.setPhase c (.replayEnd locked (.ok sequence)))
      | .lost => some (stored.setPhase c (.replayEnd locked (.error (safeOperationError false))))
      | .duplicate =>
        match s.replayed.find? fun x => x.1 = id with
        | some earlier => some (s.setPhase c (.replayEnd locked (.ok earlier.2)))
        | none => none
      | .refused => some (s.setPhase c (.replayEnd locked (.error (safeOperationError false))))
    | _ => none
  | .replayEnd c now =>
    match s.phase c with
    | .replayEnd locked outcome =>
      let value := locked.value.recordReplay outcome now
      match s.updateCase value locked.revision with
      | some s' => some (s'.setPhase c (.returned (some value)))
      | none => some (s.setPhase c (.returned none))
    | _ => none
  | .resolve c id actor reason =>
    match s.phase c with
    | .idle =>
      match acceptedReason reason with
      | some reason => some (s.setPhase c (.resolveLoad id actor reason))
      | none => some (s.setPhase c (.returned none))
    | _ => none
  | .resolveLoad c now =>
    match s.phase c with
    | .resolveLoad id actor reason =>
      match s.cases id with
      | some stored =>
        match stored.value.resolve actor reason now with
        | some value => some (s.setPhase c (.resolveStore value stored.revision))
        | none => some (s.setPhase c (.returned none))
      | none => some (s.setPhase c (.returned none))
    | _ => none
  | .resolveStore c =>
    match s.phase c with
    | .resolveStore value revision =>
      match s.updateCase value revision with
      | some s' => some (s'.setPhase c (.returned (some value)))
      | none => some (s.setPhase c (.returned none))
    | _ => none
  | _ => none

/-- One step. -/
def State.step (s : State κ Json) : Action κ → Option (State κ Json)
  | .produce stream message =>
    -- a subject is not empty
    if message.subject = "" then none else some (s.publish stream message)
  | .expire stream sequence => some (s.dropMessage stream sequence)
  | .crash c =>
    match s.phase c with
    | .idle => none
    | _ => some (s.setPhase c (.returned none))
  | a => (s.stepTransfer env a).or (s.stepReplay env a)

end Steps

end Boutique.Operations
