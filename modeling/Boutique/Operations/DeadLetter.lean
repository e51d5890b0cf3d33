import Boutique.Common.Message

/-!
# Dead-letter records and cases

The data of `messageoperationsservice` (`types.go`, `nats_store.go`) and the pure parts of
`operations.go`: the record and the case that an advisory makes, the completed case, and what a
replay and a resolution change in a case.
-/

namespace Boutique.Operations

/-- `strings.TrimSpace`. -/
def trimSpace (s : String) : String :=
  String.ofList (((s.toList.dropWhile isSpace).reverse.dropWhile isSpace).reverse)

/-! ## Messages -/

/-- `nats.Header`; a header without entries is the empty list. -/
abbrev Header := List (String × List String)

/-- `Header.Get`: the first value, or the empty text. -/
def Header.get (header : Header) (key : String) : String :=
  ((header.find? fun field => field.1 = key).bind fun field => field.2.head?).getD ""

/-- `Header.Set`. -/
def Header.set (header : Header) (key value : String) : Header :=
  header.filter (fun field => field.1 ≠ key) ++ [(key, [value])]

/-- `cloneHeaders`: the same fields, in memory of their own. -/
def cloneHeaders (header : Header) : Header := header.map fun field => (field.1, field.2)

/-- A message of a stream: `rawMessage` without its sequence. -/
structure RawMessage where
  subject : String
  header : Header
  data : List UInt8
  deriving DecidableEq

/-- The names of the streams and headers. -/
def commandsStream : String := "BOUTIQUE_COMMANDS"

@[inherit_doc commandsStream]
def eventsStream : String := "BOUTIQUE_EVENTS"

@[inherit_doc commandsStream]
def headerReplayId : String := "Boutique-Replay-Id"

@[inherit_doc commandsStream]
def headerReplayCaseId : String := "Boutique-DLQ-Case-Id"

/-- `maxDeliverAdvisory`, without its timestamp. -/
structure Advisory where
  type : String
  id : String
  stream : String
  consumer : String
  streamSeq : ℕ
  deliveries : ℕ
  deriving DecidableEq

/-- `supportedSourceStream`. -/
def supportedSourceStream (stream : String) : Bool :=
  stream = commandsStream || stream = eventsStream

/-- The checks of `decodeAdvisory` on a decoded advisory. -/
def Advisory.valid (advisory : Advisory) : Bool :=
  advisory.type = "io.nats.jetstream.advisory.v1.max_deliver" &&
    supportedSourceStream advisory.stream && advisory.consumer ≠ "" &&
    advisory.streamSeq ≠ 0 && advisory.deliveries ≠ 0

/-! ## Records and cases -/

/-- `deadLetterRecord`. -/
structure DeadLetterRecord where
  version : ℕ := 1
  caseId : String
  advisoryId : String
  sourceStream : String
  sourceSubject : String := ""
  sourceSequence : ℕ
  consumer : String
  deliveries : ℕ
  messageId : String := ""
  messageType : String := ""
  correlationId : String := ""
  safeErrorCode : String := "MAX_DELIVERIES_EXCEEDED"
  sourceFetchError : String := ""
  originalHeaders : Header := []
  originalData : List UInt8 := []
  deadLetteredAt : Time
  parentCaseId : String := ""
  parentReplayId : String := ""
  deriving DecidableEq

/-- `caseStatus`. -/
inductive CaseStatus where
  | transferInProgress | open | replayInProgress | replayPublished | replayFailed | resolved
  deriving DecidableEq

/-- The status of a replay attempt. -/
inductive AttemptStatus where
  | publishing | published | failed | deadLetteredAgain
  deriving DecidableEq

/-- `replayAttempt`. -/
structure ReplayAttempt where
  id : String
  number : ℕ
  actor : String
  reason : String
  requestedAt : Time
  publishedAt : Time := .zero
  sourceSequence : ℕ := 0
  status : AttemptStatus
  error : String := ""
  deriving DecidableEq

/-- `deadLetterCase`. -/
structure DeadLetterCase where
  version : ℕ := 1
  id : String
  status : CaseStatus
  advisoryId : String
  sourceStream : String
  sourceSubject : String
  sourceSequence : ℕ
  consumer : String
  deliveries : ℕ
  messageId : String
  messageType : String
  correlationId : String
  safeErrorCode : String
  replayAvailable : Bool
  dlqSubject : String
  dlqSequence : ℕ
  deadLetteredAt : Time
  updatedAt : Time
  resolvedAt : Time := .zero
  resolvedBy : String := ""
  resolutionReason : String := ""
  parentCaseId : String
  parentReplayId : String
  replays : List ReplayAttempt := []
  deriving DecidableEq

/-- `storedCase`. -/
structure StoredCase where
  value : DeadLetterCase
  revision : ℕ
  deriving DecidableEq

/-- The libraries under the service: the 24 characters that `base64.RawURLEncoding` gives for the
first 18 bytes of a SHA-256 sum, the encoding of records as JSON texts, and the identifiers of a
message envelope. -/
structure Env (Json : Type*) where
  digest : String → String
  encodeRecord : DeadLetterRecord → Json
  decodeRecord : Json → Option DeadLetterRecord
  envelopeIds : List UInt8 → Option (String × String × String)

section

variable {Json : Type*} (env : Env Json)

/-- `deadLetterCaseID`. -/
def deadLetterCaseId (stream consumer : String) (sequence : ℕ) : String :=
  env.digest ("boutique.dlq.v1\x00" ++ stream ++ "\x00" ++ consumer ++ "\x00" ++ toString sequence)

/-- `replayID`. -/
def replayId (caseId : String) (number : ℕ) : String :=
  env.digest ("boutique.replay.v1\x00" ++ caseId ++ "\x00" ++ toString number)

/-- The case of an advisory. -/
def Advisory.caseId (advisory : Advisory) : String :=
  deadLetterCaseId env advisory.stream advisory.consumer advisory.streamSeq

/-- `messageContext`. -/
def messageContext (data : List UInt8) : String × String × String :=
  (env.envelopeIds data).getD ("", "", "")

/-- The record that `HandleAdvisory` makes at a time, of the source message or without it. -/
def Advisory.record (advisory : Advisory) (now : Time) :
    Option RawMessage → DeadLetterRecord
  | none =>
    { caseId := advisory.caseId env, advisoryId := advisory.id, sourceStream := advisory.stream
      sourceSequence := advisory.streamSeq, consumer := advisory.consumer
      deliveries := advisory.deliveries, deadLetteredAt := now
      sourceFetchError := "SOURCE_MESSAGE_UNAVAILABLE" }
  | some original =>
    let context := messageContext env original.data
    { caseId := advisory.caseId env, advisoryId := advisory.id, sourceStream := advisory.stream
      sourceSequence := advisory.streamSeq, consumer := advisory.consumer
      deliveries := advisory.deliveries, deadLetteredAt := now
      sourceSubject := original.subject, originalData := original.data
      originalHeaders := cloneHeaders original.header, messageId := context.1
      messageType := context.2.1, correlationId := context.2.2
      parentCaseId := original.header.get headerReplayCaseId
      parentReplayId := original.header.get headerReplayId }

end

/-- The subject of the records of a case. -/
def dlqSubject (caseId : String) : String := "boutique.dlq.case." ++ caseId

/-- The case that `HandleAdvisory` creates for its record. -/
def Advisory.newCase (advisory : Advisory) (record : DeadLetterRecord) (dlqSequence : ℕ) :
    DeadLetterCase where
  id := record.caseId
  status := .transferInProgress
  advisoryId := advisory.id
  sourceStream := advisory.stream
  sourceSubject := record.sourceSubject
  sourceSequence := advisory.streamSeq
  consumer := advisory.consumer
  deliveries := advisory.deliveries
  messageId := record.messageId
  messageType := record.messageType
  correlationId := record.correlationId
  safeErrorCode := record.safeErrorCode
  replayAvailable := false
  dlqSubject := dlqSubject record.caseId
  dlqSequence := dlqSequence
  deadLetteredAt := record.deadLetteredAt
  updatedAt := record.deadLetteredAt
  parentCaseId := record.parentCaseId
  parentReplayId := record.parentReplayId

/-- The case that `completeTransfer` stores. -/
def DeadLetterCase.completed (value : DeadLetterCase) (now : Time) : DeadLetterCase :=
  { value with status := .open, replayAvailable := value.sourceSubject ≠ "", updatedAt := now }

/-- Whether `completeTransfer` deletes the source message. -/
def DeadLetterCase.deletesSource (value : DeadLetterCase) : Bool :=
  value.sourceStream = commandsStream && value.sourceSubject ≠ ""

/-- The attempt of a failed replay that `markParentReplayFailed` marks, with the case. -/
def DeadLetterCase.markReplayFailed (value : DeadLetterCase) (replayId childId : String)
    (now : Time) : Option DeadLetterCase :=
  match value.replays.findIdx? fun attempt => attempt.id = replayId with
  | none => none
  | some index =>
    some { value with
      status := .replayFailed
      updatedAt := now
      replays := value.replays.modify index fun attempt =>
        { attempt with status := .deadLetteredAgain
                       error := "REPLAY_MAX_DELIVERIES_EXCEEDED:" ++ childId } }

/-! ## Replay and resolution -/

/-- The reasons that `Replay` and `Resolve` accept, without the space around them. -/
def acceptedReason (reason : String) : Option String :=
  let trimmed := trimSpace reason
  if trimmed = "" ∨ 500 < trimmed.utf8ByteSize then none else some trimmed

/-- The last attempt with another status. -/
def withLastAttempt (replays : List ReplayAttempt) (f : ReplayAttempt → ReplayAttempt) :
    List ReplayAttempt :=
  replays.modify (replays.length - 1) f

/-- `replayLockTimeout`, in nanoseconds. -/
def replayLockTimeout : ℤ := 60 * 1000000000

/-- The attempt and the locked case of `Replay`, or `none` when the case is not open for replay. -/
def DeadLetterCase.lockReplay {Json : Type*} (env : Env Json) (value : DeadLetterCase)
    (actor reason : String) (now : Time) : Option (ReplayAttempt × DeadLetterCase) :=
  if !value.replayAvailable then none
  else
    match value.status with
    | .open | .replayFailed =>
      let number := value.replays.length + 1
      let attempt : ReplayAttempt :=
        { id := replayId env value.id number, number := number, actor := actor, reason := reason
          requestedAt := now, status := .publishing }
      some (attempt, { value with status := .replayInProgress, updatedAt := now
                                  replays := value.replays ++ [attempt] })
    | .replayInProgress =>
      match value.replays.getLast? with
      | some attempt =>
        if now - value.updatedAt < replayLockTimeout ∨ attempt.status ≠ .publishing then none
        else some (attempt, { value with status := .replayInProgress, updatedAt := now })
      | none => none
    | _ => none

/-- The checks that `Replay` makes on the record before it publishes. -/
def DeadLetterCase.replayable (value : DeadLetterCase) (record : DeadLetterRecord) : Bool :=
  record.caseId = value.id && record.sourceStream = value.sourceStream &&
    record.sourceSubject = value.sourceSubject && record.originalData ≠ []

/-- `safeOperationError`, for a missing payload and for every other error. -/
def safeOperationError (missing : Bool) : String :=
  if missing then "DLQ_PAYLOAD_UNAVAILABLE" else "REPLAY_PUBLISH_FAILED"

/-- The case after a replay that failed. -/
def DeadLetterCase.replayFailed (value : DeadLetterCase) (error : String) (now : Time) :
    DeadLetterCase :=
  { value with status := .replayFailed, updatedAt := now
               replays := withLastAttempt value.replays fun attempt =>
                 { attempt with status := .failed, error := error } }

/-- The case after a replay that was published. -/
def DeadLetterCase.replayPublished (value : DeadLetterCase) (sequence : ℕ) (now : Time) :
    DeadLetterCase :=
  { value with status := .replayPublished, updatedAt := now
               replays := withLastAttempt value.replays fun attempt =>
                 { attempt with status := .published, publishedAt := now
                                sourceSequence := sequence } }

/-- The case after a replay, which failed with an error or was published with a sequence. -/
def DeadLetterCase.recordReplay (value : DeadLetterCase) (outcome : Except String ℕ) (now : Time) :
    DeadLetterCase :=
  match outcome with
  | .error text => value.replayFailed text now
  | .ok sequence => value.replayPublished sequence now

/-- The message ID of a replay. -/
def replayMessageId (value : DeadLetterCase) (attempt : ReplayAttempt) : String :=
  "dlq-replay/" ++ value.id ++ "/" ++ toString attempt.number

/-- The header fields that `replayHeaders` leaves out. -/
def droppedHeader (key : String) : Bool :=
  let lower := key.toLower
  lower = "nats-msg-id" || "nats-expected-".toList.isPrefixOf lower.toList ||
    lower = "nats-stream" || lower = "nats-sequence" || lower = "nats-time-stamp" ||
    lower = "nats-last-sequence" || lower = "nats-num-pending"

/-- `replayHeaders`. -/
def replayHeaders (original : Header) (value : DeadLetterCase) (attempt : ReplayAttempt) : Header :=
  let kept : Header := original.filter fun field => !droppedHeader field.1
  ((((((kept.set "Nats-Msg-Id" (replayMessageId value attempt)).set
    "Nats-Expected-Stream" value.sourceStream).set
    headerReplayId attempt.id).set
    headerReplayCaseId value.id).set
    "Boutique-Replay-Original-Consumer" value.consumer).set
    "Boutique-Original-Stream-Sequence" (toString value.sourceSequence))

/-- The message that `Replay` publishes. -/
def replayMessage (value : DeadLetterCase) (attempt : ReplayAttempt) (record : DeadLetterRecord) :
    RawMessage where
  subject := record.sourceSubject
  header := replayHeaders record.originalHeaders value attempt
  data := record.originalData

/-- The case that `Resolve` stores, or `none` from a status that cannot be resolved. -/
def DeadLetterCase.resolve (value : DeadLetterCase) (actor reason : String) (now : Time) :
    Option DeadLetterCase :=
  match value.status with
  | .transferInProgress | .resolved | .replayInProgress => none
  | _ =>
    some { value with status := .resolved, resolvedAt := now, updatedAt := now, resolvedBy := actor
                      resolutionReason := reason }

/-! ## Case IDs -/

/-- The text after the last separator determines both texts around it. -/
lemma append_cons_inj_of_notMem_right {α : Type*} {z : α} {u u' v v' : List α} (hv : z ∉ v)
    (hv' : z ∉ v') (h : u ++ z :: v = u' ++ z :: v') : u = u' ∧ v = v' := by
  rcases List.append_eq_append_iff.mp h with ⟨mid, rfl, hmid⟩ | ⟨mid, rfl, hmid⟩
  · cases mid with
    | nil => simpa using hmid
    | cons x mid =>
      obtain ⟨rfl, rfl⟩ := List.cons.inj hmid
      exact absurd (List.mem_append_right mid List.mem_cons_self) hv
  · cases mid with
    | nil => simpa using hmid.symm
    | cons x mid =>
      obtain ⟨rfl, rfl⟩ := List.cons.inj hmid
      exact absurd (List.mem_append_right mid List.mem_cons_self) hv'

/-- A decimal number has no separator. -/
lemma nul_notMem_nat (n : ℕ) : '\x00' ∉ (toString n).toList := by
  intro h
  have hdigit := Nat.isDigit_of_mem_toDigits (b := 10) (by decide) (by decide)
    (by simpa [Nat.repr] using h)
  exact absurd hdigit (by decide)

/-- The two source streams. -/
lemma Advisory.stream_of_valid {advisory : Advisory} (h : advisory.valid = true) :
    advisory.stream = commandsStream ∨ advisory.stream = eventsStream := by
  simp only [Advisory.valid, supportedSourceStream, Bool.and_eq_true, Bool.or_eq_true,
    decide_eq_true_eq] at h
  exact h.1.1.1.2

/-- Without collisions a case ID belongs to one message and consumer. -/
theorem Advisory.caseId_inj {Json : Type*} {env : Env Json}
    (hdigest : Function.Injective env.digest) {a b : Advisory} (ha : a.valid = true)
    (hb : b.valid = true) (h : a.caseId env = b.caseId env) :
    a.stream = b.stream ∧ a.consumer = b.consumer ∧ a.streamSeq = b.streamSeq := by
  have htext := congrArg String.toList (hdigest h)
  simp only [String.toList_append, List.append_assoc] at htext
  have hrest := List.append_cancel_left htext
  have hstream : a.stream = b.stream := by
    rcases Advisory.stream_of_valid ha with hsa | hsa <;>
      rcases Advisory.stream_of_valid hb with hsb | hsb <;> rw [hsa, hsb] at hrest ⊢
    · exact absurd (congrArg (List.take 10) hrest) (by simp [commandsStream, eventsStream])
    · exact absurd (congrArg (List.take 10) hrest) (by simp [commandsStream, eventsStream])
  rw [hstream] at hrest
  have hparts : a.consumer.toList ++ '\x00' :: (toString a.streamSeq).toList =
      b.consumer.toList ++ '\x00' :: (toString b.streamSeq).toList :=
    List.append_cancel_left (List.append_cancel_left hrest)
  obtain ⟨hconsumer, hsequence⟩ :=
    append_cons_inj_of_notMem_right (nul_notMem_nat _) (nul_notMem_nat _) hparts
  exact ⟨hstream, String.toList_inj.mp hconsumer,
    toString_nat_injective (String.toList_inj.mp hsequence)⟩

end Boutique.Operations
