import Boutique.Lib.SplitOn
import Boutique.Checkout.Saga

/-!
# The payment worker

Signed references and `processCommand` of `paymentservice/nats_worker.js`.  A JavaScript exception is
the error of an `Except`.  The hash functions, the encodings and the JSON parser are parameters.

The bytes of a payload are decoded by the type that belongs to the subject; a payload of another type
is taken not to decode.
-/

namespace Boutique.Payment

open SplitOn

/-! ## References -/

/-- What the checks read of the JSON payload of a reference: each field, where it has the type that
the checks ask for. -/
structure ReferencePayload where
  version : Option ℤ
  orderId : Option String
  expiresAt : Option ℤ := none
  nonce : Option String := none
  idempotencyKey : Option String := none

/-- The configuration of a payment worker: `PAYMENT_FAILURE_MODE`, the keys of the keyring, and the
functions of the JavaScript libraries. -/
structure PaymentEnv where
  mode : String := ""
  keys : String → Option (List UInt8)
  /-- The HMAC-SHA256 of a text. -/
  hmac : List UInt8 → String → List UInt8
  toBase64url : List UInt8 → String
  fromBase64url : String → List UInt8
  /-- `JSON.parse` of the text in base64url. -/
  parsePayload : String → Option ReferencePayload
  /-- The text in base64url of `JSON.stringify` of an authorization. -/
  authorizationPayload : (orderId idempotencyKey : String) → String
  /-- The hash part of `deriveResultMessageID`. -/
  resultHash : String → String → String
  stableID : List String → String

/-- A letter or digit of a key ID. -/
def isKeyLetter (c : Char) : Bool :=
  ('A' ≤ c && c ≤ 'Z') || ('a' ≤ c && c ≤ 'z') || ('0' ≤ c && c ≤ '9')

/-- `SIGNING_KEY_ID_PATTERN`, the regular expression `^[A-Za-z0-9][A-Za-z0-9_-]{0,63}$`. -/
def validKeyID (keyID : String) : Bool :=
  match keyID.toList with
  | [] => false
  | c :: rest =>
    isKeyLetter c && (rest.all fun c => isKeyLetter c || c == '_' || c == '-') && rest.length ≤ 63

/-- `length` of a JavaScript string, in UTF-16 code units. -/
def utf16Length (s : String) : ℕ := (s.toList.map fun c => if c.toNat < 0x10000 then 1 else 2).sum

variable (env : PaymentEnv)

/-- `signingKey`. -/
def signingKey (keyID : String) : Except String (List UInt8) :=
  match env.keys keyID with
  | some key => .ok key
  | none => .error "UNKNOWN_PAYMENT_SIGNING_KEY"

/-- `signReference`, for a payload in base64url. -/
def signReference (kind encodedPayload keyID : String) : Except String String :=
  if !validKeyID keyID then .error "payment signing key ID is invalid"
  else do
    let unsigned := kind ++ "." ++ keyID ++ "." ++ encodedPayload
    let key ← signingKey env keyID
    return unsigned ++ "." ++ env.toBase64url (env.hmac key unsigned)

/-- `verifyReference`: the key ID and the payload. -/
def verifyReference (reference expectedPrefix : String) : Except String (String × ReferencePayload) :=
  if 2048 < utf16Length reference then .error "INVALID_PAYMENT_REFERENCE"
  else
    match split '.' reference with
    | [kind, keyID, encoded, signature] =>
      if kind ≠ expectedPrefix || !validKeyID keyID || encoded = "" || signature = "" then
        .error "INVALID_PAYMENT_REFERENCE"
      else
        match env.keys keyID with
        | none => .error "INVALID_PAYMENT_REFERENCE"
        | some key =>
          if env.fromBase64url signature ≠ env.hmac key (kind ++ "." ++ keyID ++ "." ++ encoded) then
            .error "INVALID_PAYMENT_REFERENCE"
          else
            match env.parsePayload encoded with
            | some payload => .ok (keyID, payload)
            | none => .error "INVALID_PAYMENT_REFERENCE"
    | _ => .error "INVALID_PAYMENT_REFERENCE"

/-- `Number.isSafeInteger` on an integer. -/
def isSafeInteger (n : ℤ) : Bool := -(2 ^ 53 - 1) ≤ n && n ≤ 2 ^ 53 - 1

/-- The checks of `verifyPaymentToken` on the payload of a token. -/
def ReferencePayload.isToken (payload : ReferencePayload) (orderID : String) (now : ℤ) : Bool :=
  payload.version = some 1 && payload.orderId = some orderID &&
    (payload.expiresAt.any fun expiresAt => isSafeInteger expiresAt && now < expiresAt) &&
    payload.nonce.getD "" ≠ ""

/-- `verifyPaymentToken`: the key ID of the token. -/
def verifyPaymentToken (paymentToken orderID : String) (now : ℤ) : Except String String := do
  let verified ← verifyReference env paymentToken "ptok_v1"
  if verified.2.isToken orderID now then return verified.1
  else .error "INVALID_OR_EXPIRED_TOKEN"

/-- `authorizationReference`. -/
def authorizationReference (orderId idempotencyKey keyID : String) : Except String String :=
  signReference env "pauth_v1" (env.authorizationPayload orderId idempotencyKey) keyID

/-- `verifyAuthorization`. -/
def verifyAuthorization (authorizationID orderID : String) : Except String Unit := do
  let verified ← verifyReference env authorizationID "pauth_v1"
  if verified.2.version ≠ some 1 || verified.2.orderId ≠ some orderID ||
      verified.2.idempotencyKey.getD "" = "" then
    .error "INVALID_AUTHORIZATION"
  else return ()

/-! ## Commands -/

/-- A reply that is to be published. -/
structure Reply where
  messageId : String
  subject : SagaSubject
  data : MessageEnvelope

/-- `occurredAtMilliseconds`.  A `Time` has its nanoseconds in range. -/
def occurredAtMilliseconds (envelope : MessageEnvelope) : Except String ℤ :=
  match envelope.occurredAt with
  | none => .error "INVALID_COMMAND_TIMESTAMP"
  | some time =>
    let milliseconds := epochMillis time
    if isSafeInteger milliseconds then .ok milliseconds else .error "INVALID_COMMAND_TIMESTAMP"

/-- `outcome`. -/
def outcome (cause : MessageEnvelope) (resultSlot : String) (subject : SagaSubject)
    (messageType : String) (payload : Payload) : Except String Reply :=
  if cause.messageId = "" || cause.correlationId = "" || cause.aggregateId = "" ||
      cause.aggregateVersion = 0 || cause.occurredAt.isNone then
    .error "payment command envelope is incomplete"
  else
    let messageID := "br1_" ++ env.resultHash cause.messageId resultSlot
    .ok { messageId := messageID
          subject := subject
          data := { messageId := messageID, messageType := messageType
                    occurredAt := cause.occurredAt, producer := "paymentservice/phase3"
                    aggregateType := "order", aggregateId := cause.aggregateId
                    aggregateVersion := cause.aggregateVersion
                    correlationId := cause.correlationId, causationId := cause.messageId
                    traceparent := cause.traceparent, tracestate := cause.tracestate
                    data := payload } }

/-- The authorize branch of `processCommand`. -/
def processAuthorize (envelope : MessageEnvelope) (commandTime : ℤ)
    (commandId orderId paymentToken idempotencyKey : String) : Except String Reply :=
  let verifiedToken := verifyPaymentToken env paymentToken orderId commandTime
  if commandId = "" || orderId = "" || idempotencyKey = "" || orderId ≠ envelope.aggregateId then
    .error "INVALID_AUTHORIZE_COMMAND"
  else
    let declined := outcome env envelope "payment.authorize" .paymentAuthorizationDeclined
      "boutique.payment.AuthorizationDeclined.v1"
      (.paymentAuthorizationDeclined orderId
        (if env.mode = "" then "INVALID_OR_EXPIRED_TOKEN" else "TEST_DECLINE"))
    if env.mode = "authorization_declined" then declined
    else
      match verifiedToken with
      | .error _ => declined
      | .ok keyID => do
        let authorizationID ← authorizationReference env orderId idempotencyKey keyID
        outcome env envelope "payment.authorize" .paymentAuthorized
          "boutique.payment.Authorized.v1" (.paymentAuthorized orderId authorizationID)

/-- The checks that the capture and release branches of `processCommand` share. -/
def checkAuthorized (envelope : MessageEnvelope)
    (commandId orderId authorizationId idempotencyKey text : String) : Except String Unit :=
  if commandId = "" || orderId = "" || authorizationId = "" || idempotencyKey = "" ||
      orderId ≠ envelope.aggregateId then
    .error text
  else .ok ()

/-- Whether `verifyAuthorization` does not throw. -/
def validAuthorization (authorizationId orderId : String) : Bool :=
  match verifyAuthorization env authorizationId orderId with
  | .ok _ => true
  | .error _ => false

/-- The capture branch of `processCommand`. -/
def processCapture (envelope : MessageEnvelope)
    (commandId orderId authorizationId idempotencyKey : String) : Except String Reply := do
  checkAuthorized envelope commandId orderId authorizationId idempotencyKey "INVALID_CAPTURE_COMMAND"
  if env.mode = "capture_failed" || !validAuthorization env authorizationId orderId then
    outcome env envelope "payment.capture" .paymentCaptureFailed "boutique.payment.CaptureFailed.v1"
      (.paymentCaptureFailed orderId authorizationId
        (some { code := "CAPTURE_FAILED", retryable := true
                safeMessage := "Payment capture failed." }))
  else
    outcome env envelope "payment.capture" .paymentCaptured "boutique.payment.Captured.v1"
      (.paymentCaptured orderId (env.stableID ["capture", idempotencyKey]))

/-- The release branch of `processCommand`. -/
def processRelease (envelope : MessageEnvelope)
    (commandId orderId authorizationId idempotencyKey : String) : Except String Reply := do
  checkAuthorized envelope commandId orderId authorizationId idempotencyKey "INVALID_RELEASE_COMMAND"
  if env.mode = "release_failed" || !validAuthorization env authorizationId orderId then
    outcome env envelope "payment.release-authorization" .authorizationReleaseFailed
      "boutique.payment.AuthorizationReleaseFailed.v1"
      (.authorizationReleaseFailed orderId authorizationId
        (some { code := "AUTHORIZATION_RELEASE_FAILED"
                safeMessage := "Authorization release requires review." }))
  else
    outcome env envelope "payment.release-authorization" .authorizationReleased
      "boutique.payment.AuthorizationReleased.v1" (.authorizationReleased orderId authorizationId)

/-- `processCommand`. -/
def processCommand (subject : ResultSubject) (envelope : MessageEnvelope) : Except String Reply :=
  if envelope.messageId = "" || envelope.correlationId = "" || envelope.aggregateId = "" ||
      !isSafeInteger envelope.aggregateVersion || envelope.aggregateVersion = 0 then
    .error "payment command envelope is incomplete"
  else do
    let commandTime ← occurredAtMilliseconds envelope
    match subject, envelope.data with
    | .authorize, .authorize commandId orderId _ paymentToken idempotencyKey =>
      processAuthorize env envelope commandTime commandId orderId paymentToken idempotencyKey
    | .capture, .capture commandId orderId authorizationId _ idempotencyKey =>
      processCapture env envelope commandId orderId authorizationId idempotencyKey
    | .releaseAuthorization, .releaseAuthorization commandId orderId authorizationId _ key =>
      processRelease env envelope commandId orderId authorizationId key
    | .authorize, _ | .capture, _ | .releaseAuthorization, _ => .error "index out of range"
    | subject, _ => .error ("unsupported payment command " ++ subject.text)

/-! ## What the worker replies -/

variable {env}

/-- The result of an envelope that is complete. -/
lemma outcome_eq_ok {cause : MessageEnvelope} (hmessageId : cause.messageId ≠ "")
    (hcorrelationId : cause.correlationId ≠ "") (haggregateId : cause.aggregateId ≠ "")
    (hversion : cause.aggregateVersion ≠ 0) (htime : cause.occurredAt.isSome)
    (resultSlot : String) (subject : SagaSubject) (messageType : String) (payload : Payload) :
    ∃ reply, outcome env cause resultSlot subject messageType payload = .ok reply := by
  have hsome : cause.occurredAt.isNone = false := by simpa using htime
  unfold outcome
  rw [if_neg (by simp [hmessageId, hcorrelationId, haggregateId, hversion, hsome])]
  exact ⟨_, rfl⟩

/-- What a reply has of the command and of its own. -/
lemma of_outcome {cause : MessageEnvelope} {resultSlot : String} {subject : SagaSubject}
    {messageType : String} {payload : Payload} {reply : Reply}
    (h : outcome env cause resultSlot subject messageType payload = .ok reply) :
    reply.subject = subject ∧ reply.data.data = payload ∧
      reply.data.aggregateId = cause.aggregateId ∧
      reply.data.messageId = "br1_" ++ env.resultHash cause.messageId resultSlot ∧
      reply.data.correlationId = cause.correlationId ∧
      reply.data.occurredAt = cause.occurredAt := by
  unfold outcome at h
  split_ifs at h
  obtain rfl := Except.ok.inj h
  exact ⟨rfl, rfl, rfl, rfl, rfl, rfl⟩

/-- A token that is verified names a key with which a reference can be signed. -/
lemma authorizationReference_ok {paymentToken orderID keyID : String} {now : ℤ}
    (h : verifyPaymentToken env paymentToken orderID now = .ok keyID)
    (orderId idempotencyKey : String) :
    ∃ reference, authorizationReference env orderId idempotencyKey keyID = .ok reference := by
  unfold verifyPaymentToken at h
  obtain ⟨⟨id, payload⟩, hverified, h⟩ := bind_eq_ok.mp h
  have hid : id = keyID := by
    split_ifs at h
    exact Except.ok.inj h
  subst hid
  unfold verifyReference at hverified
  split at hverified
  · cases hverified
  · split at hverified
    · split at hverified
      · cases hverified
      · next hchecks =>
        split at hverified
        · cases hverified
        · next key hkey =>
          split at hverified
          · cases hverified
          · split at hverified
            · obtain ⟨rfl, -⟩ := Prod.mk.inj (Except.ok.inj hverified)
              simp only [Bool.or_eq_true, decide_eq_true_eq, not_or, Bool.not_eq_true'] at hchecks
              have hvalid := hchecks.1.1.2
              simp only [authorizationReference, signReference, signingKey, hkey]
              rw [if_neg (by simpa using hvalid)]
              exact ⟨_, rfl⟩
            · cases hverified
    · cases hverified

/-- A signed reference is not empty. -/
lemma authorizationReference_ne {orderId idempotencyKey keyID reference : String}
    (h : authorizationReference env orderId idempotencyKey keyID = .ok reference) :
    reference ≠ "" := by
  unfold authorizationReference signReference at h
  split at h
  · cases h
  · obtain ⟨key, -, h⟩ := bind_eq_ok.mp h
    obtain rfl := Except.ok.inj h
    intro hempty
    simpa using congrArg String.length hempty

end Boutique.Payment
