import Boutique.Payment.Worker
import Boutique.Stateless.ResultIds

/-!
# Signing keyrings

`createSigningKeyring` of `paymentservice/nats_worker.js`, and the worker that runs with a keyring.
Two workers whose keyrings agree on the key that a command names reply the same to it.

The fingerprint of a keyring, which is only logged, is left out.
-/

namespace Boutique.Payment

open SplitOn
open Bytes (getBytes)

/-! ## Keyrings -/

/-- The functions of the libraries of JavaScript: HKDF with the context of the service, HMAC and SHA-256
on bytes, `Buffer.from(_, 'base64url')`, `JSON.parse` and `stableID`. -/
structure Crypto where
  hkdf : String → List UInt8
  hmac : List UInt8 → List UInt8 → Vector UInt8 32
  sha256 : List UInt8 → Vector UInt8 32
  fromBase64url : String → List UInt8
  parseJSON : String → Option ReferencePayload
  stableID : List String → String

/-- A keyring: every key ID matches the pattern, and the active key is in it. -/
structure Keyring where
  activeKeyID : String
  keys : String → Option (List UInt8)
  valid : ∀ keyID, (keys keyID).isSome → validKeyID keyID = true
  active : (keys activeKeyID).isSome

/-- `deriveSigningKey`, where a value that is not a text is `none`. -/
def deriveSigningKey (crypto : Crypto) (sharedSecret : Option String) :
    Except String (List UInt8) :=
  match sharedSecret with
  | none => .error "payment signing secret must contain at least 32 characters"
  | some secret =>
    if utf16Length secret < 32 then
      .error "payment signing secret must contain at least 32 characters"
    else .ok (crypto.hkdf secret)

/-- The keys of a map whose key IDs match the pattern. -/
abbrev KeyMap := { keys : String → Option (List UInt8) //
  ∀ keyID, (keys keyID).isSome → validKeyID keyID = true }

/-- `keys.set`. -/
def KeyMap.set (keys : KeyMap) (keyID : String) (key : List UInt8)
    (hvalid : validKeyID keyID = true) : KeyMap :=
  ⟨Function.update keys.1 keyID (some key), by
    intro id hid
    by_cases heq : id = keyID
    · rw [heq]
      exact hvalid
    · rw [Function.update_of_ne heq] at hid
      exact keys.2 id hid⟩

/-- The loop over the verification secrets. -/
def verificationKeys (crypto : Crypto) (keys : KeyMap) :
    List (String × Option String) → Except String KeyMap
  | [] => .ok keys
  | (keyID, secret) :: rest =>
    if hvalid : validKeyID keyID = true then do
      let key ← deriveSigningKey crypto secret
      verificationKeys crypto (keys.set keyID key hvalid) rest
    else .error ("payment verification key ID " ++ keyID ++ " is invalid")

/-- `createSigningKeyring`, where verification secrets that are not a JSON object are `none`. -/
def createSigningKeyring (crypto : Crypto) (activeKeyID : String) (activeSecret : Option String)
    (verificationSecrets : Option (List (String × Option String))) : Except String Keyring :=
  if hactive : validKeyID activeKeyID = true then
    match verificationSecrets with
    | none => .error "payment verification keys must be a JSON object"
    | some secrets => do
      let keys ← verificationKeys crypto ⟨fun _ => none, by simp⟩ secrets
      let activeKey ← deriveSigningKey crypto activeSecret
      if (keys.1 activeKeyID).any fun key => key ≠ activeKey then
        .error "payment active key conflicts with its verification key"
      else
        .ok { activeKeyID := activeKeyID
              keys := (keys.set activeKeyID activeKey hactive).1
              valid := (keys.set activeKeyID activeKey hactive).2
              active := by simp [KeyMap.set] }
  else .error "payment active signing key ID is invalid"

/-! ## The worker with a keyring -/

/-- The escaped form of a character in `JSON.stringify`. -/
def jsonEscape (c : Char) : List Char :=
  if c = '"' then ['\\', '"'] else if c = '\\' then ['\\', '\\']
  else if c = '\x08' then ['\\', 'b'] else if c = '\x0c' then ['\\', 'f']
  else if c = '\n' then ['\\', 'n'] else if c = '\x0d' then ['\\', 'r']
  else if c = '\t' then ['\\', 't']
  else if c.toNat < 32 then
    ['\\', 'u', '0', '0', Nat.digitChar (c.toNat / 16), Nat.digitChar (c.toNat % 16)]
  else [c]

/-- `JSON.stringify` of a text. -/
def jsonQuote (s : String) : String := "\"" ++ String.ofList (s.toList.flatMap jsonEscape) ++ "\""

/-- `JSON.stringify` of the payload of an authorization. -/
def authorizationJSON (orderId idempotencyKey : String) : String :=
  "\x7b\"version\":1,\"orderId\":" ++ jsonQuote orderId ++ ",\"idempotencyKey\":" ++
    jsonQuote idempotencyKey ++ "\x7d"

/-- A digest or a text in base64url. -/
def toBase64url (bytes : List UInt8) : String := String.ofList (Base64.encodeRawURL bytes)

/-- The worker that runs with a keyring. -/
def Keyring.paymentEnv (keyring : Keyring) (crypto : Crypto) (mode : String) : PaymentEnv where
  mode := mode
  keys := keyring.keys
  hmac := fun key text => (crypto.hmac key (getBytes text)).toList
  toBase64url := toBase64url
  fromBase64url := crypto.fromBase64url
  parsePayload := fun encoded => crypto.parseJSON (Bytes.getString (crypto.fromBase64url encoded))
  authorizationPayload := fun orderId key => toBase64url (getBytes (authorizationJSON orderId key))
  resultHash := fun input slot => toBase64url (crypto.sha256 (javaScriptHashed input slot)).toList
  stableID := crypto.stableID

/-- The amount that a reply takes over from the command. -/
def replyAmount (reply : Reply) (command : Payload) : Option Money :=
  match reply.subject, command with
  | .paymentAuthorized, .authorize _ _ amount _ _ => amount
  | .paymentCaptured, .capture _ _ _ amount _ => amount
  | _, _ => none

/-- What `processCommand` returns: the message ID, the subject and the encoded envelope. -/
def processedBytes (encode : MessageEnvelope → Option Money → List UInt8) (env : PaymentEnv)
    (subject : ResultSubject) (envelope : MessageEnvelope) :
    Except String (String × SagaSubject × List UInt8) :=
  (processCommand env subject envelope).map fun reply =>
    (reply.messageId, reply.subject, encode reply.data (replyAmount reply envelope.data))

/-! ## Key rotation -/

/-- The key ID that a reference names. -/
def referenceKeyID (reference : String) : Option String :=
  match split '.' reference with
  | [_, keyID, _, _] => some keyID
  | _ => none

/-- The key ID that is named in the payment token or the authorization ID of a command. -/
def commandKeyID : Payload → Option String
  | .authorize _ _ _ paymentToken _ => referenceKeyID paymentToken
  | .capture _ _ authorizationId _ _ => referenceKeyID authorizationId
  | .releaseAuthorization _ _ authorizationId _ _ => referenceKeyID authorizationId
  | _ => none

section Rotation

variable {crypto : Crypto} {mode : String} {old new : Keyring}

/-- Two keyrings that agree on the key of a reference verify it alike. -/
lemma verifyReference_agree {reference : String}
    (h : ∀ keyID, referenceKeyID reference = some keyID → old.keys keyID = new.keys keyID)
    (expectedPrefix : String) :
    verifyReference (old.paymentEnv crypto mode) reference expectedPrefix =
      verifyReference (new.paymentEnv crypto mode) reference expectedPrefix := by
  unfold referenceKeyID at h
  unfold verifyReference
  cases hparts : split '.' reference with
  | nil => rfl
  | cons kind parts =>
    match parts with
    | [keyID, encoded, signature] =>
      have hkeys := h keyID (by rw [hparts])
      simp only [Keyring.paymentEnv, hkeys]
      rfl
    | [] | [_] | [_, _] | _ :: _ :: _ :: _ :: _ => rfl

/-- The key that a verified token names is the one in the reference. -/
lemma referenceKeyID_of_verified {env : PaymentEnv} {paymentToken orderID keyID : String} {now : ℤ}
    (h : verifyPaymentToken env paymentToken orderID now = .ok keyID) :
    referenceKeyID paymentToken = some keyID := by
  unfold verifyPaymentToken at h
  obtain ⟨⟨id, payload⟩, hverified, h⟩ := bind_eq_ok.mp h
  split_ifs at h
  obtain rfl := Except.ok.inj h
  unfold verifyReference at hverified
  split at hverified
  · cases hverified
  · split at hverified
    · next kind named encoded signature hparts =>
      have hnamed : referenceKeyID paymentToken = some named := by
        simp only [referenceKeyID, hparts]
      split at hverified
      · cases hverified
      · split at hverified
        · cases hverified
        · split at hverified
          · cases hverified
          · split at hverified
            · obtain ⟨rfl, -⟩ := Prod.mk.inj (Except.ok.inj hverified)
              exact hnamed
            · cases hverified
    · cases hverified

/-- Two keyrings that agree on the key of a token make the same authorization from it. -/
lemma authorizationReference_agree {keyID : String} (h : old.keys keyID = new.keys keyID)
    (orderId idempotencyKey : String) :
    authorizationReference (old.paymentEnv crypto mode) orderId idempotencyKey keyID =
      authorizationReference (new.paymentEnv crypto mode) orderId idempotencyKey keyID := by
  have hsigning : signingKey (old.paymentEnv crypto mode) keyID =
      signingKey (new.paymentEnv crypto mode) keyID := by
    simp only [signingKey, Keyring.paymentEnv, h]
  unfold authorizationReference signReference
  rw [hsigning]
  rfl

/-- The authorize branch. -/
lemma processAuthorize_agree {paymentToken : String}
    (h : ∀ keyID, referenceKeyID paymentToken = some keyID → old.keys keyID = new.keys keyID)
    (envelope : MessageEnvelope) (commandTime : ℤ) (commandId orderId idempotencyKey : String) :
    processAuthorize (old.paymentEnv crypto mode) envelope commandTime commandId orderId paymentToken
        idempotencyKey =
      processAuthorize (new.paymentEnv crypto mode) envelope commandTime commandId orderId
        paymentToken idempotencyKey := by
  have hverified : verifyPaymentToken (old.paymentEnv crypto mode) paymentToken orderId commandTime =
      verifyPaymentToken (new.paymentEnv crypto mode) paymentToken orderId commandTime := by
    simp only [verifyPaymentToken, verifyReference_agree h]
  unfold processAuthorize
  rw [hverified]
  cases htoken : verifyPaymentToken (new.paymentEnv crypto mode) paymentToken orderId commandTime with
  | error text => rfl
  | ok keyID =>
    have hkeys := h keyID (referenceKeyID_of_verified htoken)
    simp only [authorizationReference_agree hkeys]
    rfl

/-- Whether an authorization is valid. -/
lemma validAuthorization_agree {authorizationId : String}
    (h : ∀ keyID, referenceKeyID authorizationId = some keyID → old.keys keyID = new.keys keyID)
    (orderId : String) :
    validAuthorization (old.paymentEnv crypto mode) authorizationId orderId =
      validAuthorization (new.paymentEnv crypto mode) authorizationId orderId := by
  simp only [validAuthorization, verifyAuthorization, verifyReference_agree h]

/-- The capture branch. -/
lemma processCapture_agree {authorizationId : String}
    (h : ∀ keyID, referenceKeyID authorizationId = some keyID → old.keys keyID = new.keys keyID)
    (envelope : MessageEnvelope) (commandId orderId idempotencyKey : String) :
    processCapture (old.paymentEnv crypto mode) envelope commandId orderId authorizationId
        idempotencyKey =
      processCapture (new.paymentEnv crypto mode) envelope commandId orderId authorizationId
        idempotencyKey := by
  simp only [processCapture, validAuthorization_agree h]
  rfl

/-- The release branch. -/
lemma processRelease_agree {authorizationId : String}
    (h : ∀ keyID, referenceKeyID authorizationId = some keyID → old.keys keyID = new.keys keyID)
    (envelope : MessageEnvelope) (commandId orderId idempotencyKey : String) :
    processRelease (old.paymentEnv crypto mode) envelope commandId orderId authorizationId
        idempotencyKey =
      processRelease (new.paymentEnv crypto mode) envelope commandId orderId authorizationId
        idempotencyKey := by
  simp only [processRelease, validAuthorization_agree h]
  rfl

/-- Workers whose keyrings agree on the key ID that a command names return the same bytes or both
throw, whatever else differs between the keyrings. -/
theorem outcome_independent_of_rotation (old new : Keyring) (crypto : Crypto) (mode : String)
    (encode : MessageEnvelope → Option Money → List UInt8) (subject : ResultSubject)
    (envelope : MessageEnvelope)
    (h : ∀ keyID, commandKeyID envelope.data = some keyID → old.keys keyID = new.keys keyID) :
    processedBytes encode (old.paymentEnv crypto mode) subject envelope =
      processedBytes encode (new.paymentEnv crypto mode) subject envelope := by
  suffices hprocess : processCommand (old.paymentEnv crypto mode) subject envelope =
      processCommand (new.paymentEnv crypto mode) subject envelope by
    rw [processedBytes, processedBytes, hprocess]
  unfold processCommand
  -- only the three branches that decode a reference read the keyring
  cases subject with
  | authorize =>
    cases hdata : envelope.data with
    | authorize commandId orderId amount paymentToken idempotencyKey =>
      simp only [hdata, commandKeyID] at h
      simp only [processAuthorize_agree h]
    | _ => rfl
  | capture =>
    cases hdata : envelope.data with
    | capture commandId orderId authorizationId amount idempotencyKey =>
      simp only [hdata, commandKeyID] at h
      simp only [processCapture_agree h]
    | _ => rfl
  | releaseAuthorization =>
    cases hdata : envelope.data with
    | releaseAuthorization commandId orderId authorizationId reason idempotencyKey =>
      simp only [hdata, commandKeyID] at h
      simp only [processRelease_agree h]
    | _ => rfl
  | _ => rfl

end Rotation

end Boutique.Payment
