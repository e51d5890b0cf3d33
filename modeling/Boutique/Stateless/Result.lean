import Boutique.Common.Message

/-!
# Deterministic result envelopes

`DeriveResultMessageID` and `NewResultEnvelope` of `shared/stateless/go/result.go`.  The text that
SHA-256 and base64url produce for an input message and a slot is a parameter `resultHash`.
-/

namespace Boutique

/-- `stateless.ResultSpec`. -/
structure ResultSpec where
  slot : String
  messageType : String
  producer : String
  aggregateType : String
  aggregateId : String
  aggregateVersion : ℕ
  occurredAt : Time
  payload : Payload

/-- A lower-case letter of a result slot. -/
def isSlotLetter (c : Char) : Bool := 'a' ≤ c && c ≤ 'z'

/-- A letter or digit of a result slot. -/
def isSlotChar (c : Char) : Bool := isSlotLetter c || ('0' ≤ c && c ≤ '9')

/-- The tail of `resultSlotPattern` after a letter or digit: more of them, or a separator that is
followed by one. -/
def slotTail : List Char → Bool
  | [] => true
  | [c] => isSlotChar c
  | c :: d :: rest =>
    if isSlotChar c then slotTail (d :: rest)
    else (c == '.' || c == '-') && isSlotChar d && slotTail rest

/-- `resultSlotPattern`, the regular expression `^[a-z][a-z0-9]*(?:[.-][a-z0-9]+)*$`. -/
def validSlot (slot : String) : Bool :=
  match slot.toList with
  | [] => false
  | c :: rest => isSlotLetter c && slotTail rest

/-- `DeriveResultMessageID`. -/
def deriveResultMessageID (resultHash : String → String → String)
    (inputMessageID resultSlot : String) : Except String String :=
  if isBlank inputMessageID then .error "input message ID is required"
  else if !validSlot resultSlot then .error ("invalid result slot \"" ++ resultSlot ++ "\"")
  else .ok ("br1_" ++ resultHash inputMessageID resultSlot)

/-- First nanosecond after `9999-12-31T23:59:59`, the end of the protobuf timestamp range. -/
def timestampEnd : Time := unixEpoch + 253402300800 * 1000000000

/-- `timestamppb.Timestamp.CheckValid`. -/
def validTimestamp (t : Time) : Bool := 0 ≤ t && t < timestampEnd

/-- The envelope that `NewResultEnvelope` builds once its checks have passed. -/
def resultEnvelope (input : MessageEnvelope) (spec : ResultSpec) (messageId : String) :
    MessageEnvelope where
  messageId := messageId
  messageType := spec.messageType
  schemaVersion := 1
  occurredAt := some spec.occurredAt
  producer := spec.producer
  aggregateType := spec.aggregateType
  aggregateId := spec.aggregateId
  aggregateVersion := spec.aggregateVersion
  correlationId := input.correlationId
  causationId := input.messageId
  traceparent := input.traceparent
  tracestate := input.tracestate
  data := spec.payload

/-- `NewResultEnvelope`. -/
def newResultEnvelope (resultHash : String → String → String) (input : MessageEnvelope)
    (spec : ResultSpec) : Except String MessageEnvelope :=
  if isBlank input.messageId then .error "input envelope message ID is required"
  else if isBlank input.correlationId then .error "input envelope correlation ID is required"
  else if isBlank spec.messageType || isBlank spec.producer then
    .error "result message type and producer are required"
  else if isBlank spec.aggregateId || isBlank spec.aggregateType then
    .error "result aggregate type and ID are required"
  else if spec.aggregateVersion = 0 then .error "result aggregate version must be positive"
  else if spec.occurredAt = 0 then .error "result occurrence time is required"
  else
    match deriveResultMessageID resultHash input.messageId spec.slot with
    | .error err => .error err
    | .ok messageId =>
      if validTimestamp spec.occurredAt then .ok (resultEnvelope input spec messageId)
      else .error "invalid result occurrence time"

/-- A result envelope that was built is the one described by the specification, under an ID
derived from the input and the slot. -/
lemma newResultEnvelope_eq_ok {resultHash : String → String → String} {input : MessageEnvelope}
    {spec : ResultSpec} {envelope : MessageEnvelope}
    (h : newResultEnvelope resultHash input spec = .ok envelope) :
    envelope = resultEnvelope input spec ("br1_" ++ resultHash input.messageId spec.slot) := by
  unfold newResultEnvelope deriveResultMessageID at h
  split_ifs at h
  simp only at h
  exact (Except.ok.inj h).symm

end Boutique
