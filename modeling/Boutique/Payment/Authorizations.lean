import Boutique.Payment.Keyring

/-!
# Issued authorizations

An authorization that `processCommand` issues is verified by `verifyReference`, which was written apart
from `signReference`.  The two agree on everything but the length: a reference of more than 2048 UTF-16
units is issued and then refused, so that it can be neither captured nor released.
-/

namespace Boutique.Payment

open SplitOn
open Bytes (getBytes)

/-! ## Lengths -/

/-- The number of UTF-16 units of an authorization: prefix, key ID, payload and signature with three
dots between them. -/
def authorizationLength (keyID orderId idempotencyKey : String) : ℕ :=
  8 + 1 + keyID.length + 1 +
    (4 * (getBytes (authorizationJSON orderId idempotencyKey)).length + 2) / 3 + 1 + 43

/-- A text without characters from outside the basic plane has as many units as characters. -/
lemma utf16Length_eq {s : String} (h : ∀ c ∈ s.toList, c.toNat < 0x10000) :
    utf16Length s = s.length := by
  have hones : s.toList.map (fun c => if c.toNat < 0x10000 then 1 else 2) =
      s.toList.map fun _ => 1 := List.map_congr_left fun c hc => if_pos (h c hc)
  rw [utf16Length, hones]
  simp [String.length_toList]

/-- The characters of a key ID. -/
lemma mem_of_validKeyID {keyID : String} (h : validKeyID keyID = true) {c : Char}
    (hc : c ∈ keyID.toList) : c.toNat < 128 ∧ c ≠ '.' := by
  have hletter : ∀ c : Char, isKeyLetter c = true → c.toNat < 128 ∧ c ≠ '.' := by
    intro c hc
    simp only [isKeyLetter, Bool.or_eq_true, Bool.and_eq_true, decide_eq_true_eq, Char.le_def,
      UInt32.le_iff_toNat_le] at hc
    refine ⟨?_, ?_⟩
    · change c.val.toNat < 128
      have h1 : 'Z'.val.toNat = 90 := by decide
      have h2 : 'z'.val.toNat = 122 := by decide
      have h3 : '9'.val.toNat = 57 := by decide
      omega
    · rintro rfl
      revert hc
      decide
  unfold validKeyID at h
  cases hlist : keyID.toList with
  | nil =>
    rw [hlist] at hc
    cases hc
  | cons first rest =>
    rw [hlist] at h hc
    simp only [Bool.and_eq_true, List.all_eq_true, Bool.or_eq_true, beq_iff_eq] at h
    obtain ⟨⟨hfirst, hrest⟩, -⟩ := h
    rcases List.mem_cons.mp hc with rfl | hc
    · exact hletter _ hfirst
    · rcases hrest c hc with (hc | rfl) | rfl
      · exact hletter c hc
      · decide
      · decide

/-- The characters of a text in base64url. -/
lemma mem_toBase64url {bytes : List UInt8} {c : Char} (h : c ∈ (toBase64url bytes).toList) :
    c.toNat < 128 ∧ c ≠ '.' := by
  rw [toBase64url, String.toList_ofList] at h
  exact Base64.mem_encodeRawURL h

/-- The length of a text in base64url. -/
lemma length_toBase64url (bytes : List UInt8) :
    (toBase64url bytes).length = (4 * bytes.length + 2) / 3 := by
  rw [toBase64url, ← Base64.length_encodeRawURL, String.length_ofList]

/-- A text in base64url is empty only for no bytes. -/
lemma toBase64url_ne {bytes : List UInt8} (h : 0 < bytes.length) : toBase64url bytes ≠ "" := by
  intro hempty
  have hlength := congrArg String.length hempty
  rw [length_toBase64url] at hlength
  simp only [String.length_empty] at hlength
  omega

/-- A text that ends with a character is not empty. -/
lemma append_ne_empty {s t : String} (h : t.length = 1) : s ++ t ≠ "" := by
  intro hempty
  have hlength := congrArg String.length hempty
  rw [String.length_append, h, String.length_empty] at hlength
  omega

/-- The bytes of two texts. -/
lemma length_getBytes_append (s t : String) :
    (getBytes (s ++ t)).length = (getBytes s).length + (getBytes t).length := by
  simp [getBytes]

/-- A text that is not empty has bytes. -/
lemma length_getBytes_pos {s : String} (h : s ≠ "") : 0 < (getBytes s).length := by
  refine List.length_pos_of_ne_nil fun hnil => h (getBytes_injective ?_)
  rw [hnil]
  decide

/-! ## Signing and verifying -/

section References

variable {crypto : Crypto} {keyring keyring' : Keyring} {mode : String}
  {orderId idempotencyKey keyID authorizationId : String}

/-- The JSON text of an authorization in base64url. -/
def encodedAuthorization (orderId idempotencyKey : String) : String :=
  toBase64url (getBytes (authorizationJSON orderId idempotencyKey))

/-- The signed part of an authorization. -/
def unsignedAuthorization (keyID orderId idempotencyKey : String) : String :=
  "pauth_v1" ++ "." ++ keyID ++ "." ++ encodedAuthorization orderId idempotencyKey

/-- The signature of an authorization. -/
def authorizationSignature (crypto : Crypto) (key : List UInt8)
    (keyID orderId idempotencyKey : String) : List UInt8 :=
  (crypto.hmac key (getBytes (unsignedAuthorization keyID orderId idempotencyKey))).toList

/-- What `JSON.parse` gives for an authorization. -/
def authorizationPayload (orderId idempotencyKey : String) : ReferencePayload :=
  { version := some 1, orderId := some orderId, idempotencyKey := some idempotencyKey }

/-- Decoding inverts the encodings that an authorization for this order goes through. -/
structure Crypto.RoundTrips (crypto : Crypto) (orderId idempotencyKey : String) : Prop where
  base64url : ∀ bytes, crypto.fromBase64url (toBase64url bytes) = bytes
  json : crypto.parseJSON (authorizationJSON orderId idempotencyKey) =
    some (authorizationPayload orderId idempotencyKey)

/-- What an authorization consists of. -/
lemma authorizationReference_eq
    (h : authorizationReference (keyring.paymentEnv crypto mode) orderId idempotencyKey keyID =
      .ok authorizationId) :
    validKeyID keyID = true ∧ ∃ key, keyring.keys keyID = some key ∧
      authorizationId = unsignedAuthorization keyID orderId idempotencyKey ++ "." ++
        toBase64url (authorizationSignature crypto key keyID orderId idempotencyKey) := by
  unfold authorizationReference signReference at h
  split_ifs at h with hinvalid
  obtain ⟨key, hkey, h⟩ := bind_eq_ok.mp h
  obtain rfl := Except.ok.inj h
  have hheld : keyring.keys keyID = some key := by
    unfold signingKey at hkey
    split at hkey
    next found hfound =>
      cases hkey
      exact hfound
    next => cases hkey
  exact ⟨by simpa using hinvalid, key, hheld, rfl⟩

/-- A text of ASCII characters. -/
lemma lt_of_all (text : String) (h : (text.toList.all fun c => decide (c.toNat < 128)) = true) :
    ∀ c ∈ text.toList, c.toNat < 128 := by
  intro c hc
  exact of_decide_eq_true (List.all_eq_true.mp h c hc)

/-- The length of an authorization. -/
lemma utf16Length_authorization (hvalid : validKeyID keyID = true) (key : List UInt8) :
    utf16Length (unsignedAuthorization keyID orderId idempotencyKey ++ "." ++
        toBase64url (authorizationSignature crypto key keyID orderId idempotencyKey)) =
      authorizationLength keyID orderId idempotencyKey := by
  have hascii : ∀ c ∈ (unsignedAuthorization keyID orderId idempotencyKey ++ "." ++
      toBase64url (authorizationSignature crypto key keyID orderId idempotencyKey)).toList,
      c.toNat < 0x10000 := by
    have hkind := lt_of_all "pauth_v1" (by decide)
    have hdot := lt_of_all "." (by decide)
    intro c hc
    simp only [unsignedAuthorization, encodedAuthorization, String.toList_append,
      List.mem_append] at hc
    have hlt : c.toNat < 128 := by
      rcases hc with ((((((hc | hc) | hc) | hc) | hc) | hc)) | hc
      · exact hkind c hc
      · exact hdot c hc
      · exact (mem_of_validKeyID hvalid hc).1
      · exact hdot c hc
      · exact (mem_toBase64url hc).1
      · exact hdot c hc
      · exact (mem_toBase64url hc).1
    omega
  have hsignature : (authorizationSignature crypto key keyID orderId idempotencyKey).length = 32 := by
    simp [authorizationSignature]
  rw [utf16Length_eq hascii]
  simp only [unsignedAuthorization, encodedAuthorization, String.length_append, length_toBase64url,
    hsignature, authorizationLength]
  rfl

/-- A keyring with the signing key verifies an authorization if it is not too long. -/
lemma verifyReference_authorization (htrips : crypto.RoundTrips orderId idempotencyKey)
    (hvalid : validKeyID keyID = true) {key : List UInt8} (hkey : keyring.keys keyID = some key)
    (mode : String) :
    verifyReference (keyring.paymentEnv crypto mode)
        (unsignedAuthorization keyID orderId idempotencyKey ++ "." ++
          toBase64url (authorizationSignature crypto key keyID orderId idempotencyKey)) "pauth_v1" =
      if 2048 < authorizationLength keyID orderId idempotencyKey then
        .error "INVALID_PAYMENT_REFERENCE"
      else .ok (keyID, authorizationPayload orderId idempotencyKey) := by
  have hparts : split '.' (unsignedAuthorization keyID orderId idempotencyKey ++ "." ++
      toBase64url (authorizationSignature crypto key keyID orderId idempotencyKey)) =
      ["pauth_v1", keyID, encodedAuthorization orderId idempotencyKey,
        toBase64url (authorizationSignature crypto key keyID orderId idempotencyKey)] := by
    refine split_join_dot (by decide) ?_ ?_ ?_
    · exact fun hdot => (mem_of_validKeyID hvalid hdot).2 rfl
    · exact fun hdot => (mem_toBase64url hdot).2 rfl
    · exact fun hdot => (mem_toBase64url hdot).2 rfl
  have hencoded : encodedAuthorization orderId idempotencyKey ≠ "" := by
    have hjson : authorizationJSON orderId idempotencyKey ≠ "" := append_ne_empty rfl
    exact toBase64url_ne (length_getBytes_pos hjson)
  have hsignature : toBase64url (authorizationSignature crypto key keyID orderId idempotencyKey) ≠
      "" := toBase64url_ne (by simp [authorizationSignature])
  have hpayload : (keyring.paymentEnv crypto mode).parsePayload
      (encodedAuthorization orderId idempotencyKey) =
      some (authorizationPayload orderId idempotencyKey) := by
    simp only [Keyring.paymentEnv, encodedAuthorization, htrips.base64url, Bytes.getString_getBytes,
      htrips.json]
  have hactual : (keyring.paymentEnv crypto mode).fromBase64url
      (toBase64url (authorizationSignature crypto key keyID orderId idempotencyKey)) =
      (keyring.paymentEnv crypto mode).hmac key
        ("pauth_v1" ++ "." ++ keyID ++ "." ++ encodedAuthorization orderId idempotencyKey) :=
    htrips.base64url _
  have hkeys : (keyring.paymentEnv crypto mode).keys keyID = some key := hkey
  unfold verifyReference
  rw [utf16Length_authorization hvalid]
  by_cases hlong : 2048 < authorizationLength keyID orderId idempotencyKey
  · rw [if_pos hlong, if_pos hlong]
  · rw [if_neg hlong, if_neg hlong, hparts]
    simp [hvalid, hencoded, hsignature, hkeys, hactual, hpayload]

/-- The authorization is valid for its own order, if it is not too long. -/
lemma validAuthorization_eq (htrips : crypto.RoundTrips orderId idempotencyKey)
    (hvalid : validKeyID keyID = true) {key : List UInt8} (hkey : keyring.keys keyID = some key)
    (hidempotency : idempotencyKey ≠ "") (mode order : String) :
    validAuthorization (keyring.paymentEnv crypto mode)
        (unsignedAuthorization keyID orderId idempotencyKey ++ "." ++
          toBase64url (authorizationSignature crypto key keyID orderId idempotencyKey)) order =
      decide (authorizationLength keyID orderId idempotencyKey ≤ 2048 ∧ order = orderId) := by
  unfold validAuthorization verifyAuthorization
  rw [verifyReference_authorization htrips hvalid hkey]
  by_cases hlong : 2048 < authorizationLength keyID orderId idempotencyKey
  · rw [if_pos hlong]
    simp [bind, Except.bind, not_le_of_gt hlong]
  · rw [if_neg hlong]
    by_cases horder : order = orderId
    · subst horder
      simp [bind, Except.bind, pure, Except.pure, authorizationPayload, hidempotency,
        not_lt.mp hlong]
    · have hother : orderId ≠ order := Ne.symm horder
      simp [bind, Except.bind, authorizationPayload, horder, hother]

end References

/-! ## Commands -/

/-- The envelope of a command for an order passes the checks of `processCommand`. -/
structure CompleteFor (envelope : MessageEnvelope) (orderId : String) : Prop where
  messageId : envelope.messageId ≠ ""
  correlationId : envelope.correlationId ≠ ""
  aggregateId : envelope.aggregateId = orderId
  order : orderId ≠ ""
  version : envelope.aggregateVersion ≠ 0
  safe : isSafeInteger envelope.aggregateVersion = true
  time : ∃ milliseconds, occurredAtMilliseconds envelope = .ok milliseconds

section Commands

variable {env : PaymentEnv} {envelope : MessageEnvelope} {orderId : String}

/-- The first checks of `processCommand` pass. -/
lemma CompleteFor.checks (h : CompleteFor envelope orderId) :
    ¬(envelope.messageId = "" || envelope.correlationId = "" || envelope.aggregateId = "" ||
      !isSafeInteger envelope.aggregateVersion || envelope.aggregateVersion = 0) := by
  simp [h.messageId, h.correlationId, h.aggregateId, h.order, h.version, h.safe]

/-- The envelope has a time. -/
lemma CompleteFor.occurredAt (h : CompleteFor envelope orderId) : envelope.occurredAt.isSome := by
  obtain ⟨milliseconds, htime⟩ := h.time
  unfold occurredAtMilliseconds at htime
  cases hoccurred : envelope.occurredAt with
  | none => simp [hoccurred] at htime
  | some time => rfl

/-- The reply of `outcome` to a complete command. -/
lemma CompleteFor.outcome (h : CompleteFor envelope orderId) (resultSlot : String)
    (subject : SagaSubject) (messageType : String) (payload : Payload) :
    ∃ reply, outcome env envelope resultSlot subject messageType payload = .ok reply ∧
      reply.subject = subject := by
  have haggregate : envelope.aggregateId ≠ "" := h.aggregateId ▸ h.order
  obtain ⟨reply, hreply⟩ : ∃ reply,
      Payment.outcome env envelope resultSlot subject messageType payload = .ok reply :=
    outcome_eq_ok h.messageId h.correlationId haggregate h.version h.occurredAt _ _ _ _
  exact ⟨reply, hreply, (of_outcome hreply).1⟩

/-- What a capture command is replied with. -/
lemma CompleteFor.capture (env : PaymentEnv) (h : CompleteFor envelope orderId)
    {commandId authorizationId idempotencyKey : String} {amount : Option Money}
    (hmode : env.mode = "") (hcommand : commandId ≠ "") (hauthorization : authorizationId ≠ "")
    (hidempotency : idempotencyKey ≠ "")
    (hdata : envelope.data = .capture commandId orderId authorizationId amount idempotencyKey) :
    ∃ reply, processCommand env .capture envelope = .ok reply ∧
      reply.subject = if validAuthorization env authorizationId orderId then .paymentCaptured
        else .paymentCaptureFailed := by
  obtain ⟨milliseconds, htime⟩ := h.time
  rw [processCommand, if_neg h.checks]
  simp only [htime, hdata, processCapture, checkAuthorized, h.aggregateId, hcommand, h.order,
    hauthorization, hidempotency, hmode, bind, Except.bind]
  cases hvalid : validAuthorization env authorizationId orderId with
  | true => simpa [hvalid] using h.outcome _ _ _ _
  | false => simpa [hvalid] using h.outcome _ _ _ _

/-- What a release command is replied with. -/
lemma CompleteFor.release (env : PaymentEnv) (h : CompleteFor envelope orderId)
    {commandId authorizationId reason idempotencyKey : String}
    (hmode : env.mode = "") (hcommand : commandId ≠ "") (hauthorization : authorizationId ≠ "")
    (hidempotency : idempotencyKey ≠ "")
    (hdata : envelope.data =
      .releaseAuthorization commandId orderId authorizationId reason idempotencyKey) :
    ∃ reply, processCommand env .releaseAuthorization envelope = .ok reply ∧
      reply.subject = if validAuthorization env authorizationId orderId then .authorizationReleased
        else .authorizationReleaseFailed := by
  obtain ⟨milliseconds, htime⟩ := h.time
  rw [processCommand, if_neg h.checks]
  simp only [htime, hdata, processRelease, checkAuthorized, h.aggregateId, hcommand, h.order,
    hauthorization, hidempotency, hmode, bind, Except.bind]
  cases hvalid : validAuthorization env authorizationId orderId with
  | true => simpa [hvalid] using h.outcome _ _ _ _
  | false => simpa [hvalid] using h.outcome _ _ _ _

end Commands

/-! ## Usable authorizations -/

/-- Whatever keyring holds the signing key: capture and release commands that carry the authorization
succeed for its own order and fail for any other. -/
structure Usable (crypto : Crypto) (keyring : Keyring) (keyID orderId authorizationId : String) :
    Prop where
  captured : ∀ (keyring' : Keyring) (envelope : MessageEnvelope)
    (commandId idempotencyKey : String) (amount : Option Money),
    keyring'.keys keyID = keyring.keys keyID → CompleteFor envelope orderId → commandId ≠ "" →
    idempotencyKey ≠ "" →
    envelope.data = .capture commandId orderId authorizationId amount idempotencyKey →
    ∃ reply, processCommand (keyring'.paymentEnv crypto "") .capture envelope = .ok reply ∧
      reply.subject = .paymentCaptured
  released : ∀ (keyring' : Keyring) (envelope : MessageEnvelope)
    (commandId reason idempotencyKey : String),
    keyring'.keys keyID = keyring.keys keyID → CompleteFor envelope orderId → commandId ≠ "" →
    idempotencyKey ≠ "" →
    envelope.data = .releaseAuthorization commandId orderId authorizationId reason idempotencyKey →
    ∃ reply, processCommand (keyring'.paymentEnv crypto "") .releaseAuthorization envelope =
        .ok reply ∧ reply.subject = .authorizationReleased
  otherCapture : ∀ (keyring' : Keyring) (envelope : MessageEnvelope)
    (other commandId idempotencyKey : String) (amount : Option Money), other ≠ orderId →
    keyring'.keys keyID = keyring.keys keyID → CompleteFor envelope other → commandId ≠ "" →
    idempotencyKey ≠ "" →
    envelope.data = .capture commandId other authorizationId amount idempotencyKey →
    ∃ reply, processCommand (keyring'.paymentEnv crypto "") .capture envelope = .ok reply ∧
      reply.subject = .paymentCaptureFailed
  otherRelease : ∀ (keyring' : Keyring) (envelope : MessageEnvelope)
    (other commandId reason idempotencyKey : String), other ≠ orderId →
    keyring'.keys keyID = keyring.keys keyID → CompleteFor envelope other → commandId ≠ "" →
    idempotencyKey ≠ "" →
    envelope.data = .releaseAuthorization commandId other authorizationId reason idempotencyKey →
    ∃ reply, processCommand (keyring'.paymentEnv crypto "") .releaseAuthorization envelope =
        .ok reply ∧ reply.subject = .authorizationReleaseFailed

section Issued

variable {crypto : Crypto} {keyring : Keyring} {envelope : MessageEnvelope} {reply : Reply}
  {commandId orderId paymentToken idempotencyKey authorizationId : String} {amount : Option Money}

/-- What an issued authorization comes from. -/
structure Issued (crypto : Crypto) (keyring : Keyring) (envelope : MessageEnvelope)
    (keyID orderId idempotencyKey authorizationId : String) : Prop where
  complete : CompleteFor envelope orderId
  idempotency : idempotencyKey ≠ ""
  valid : validKeyID keyID = true
  signed : ∃ key, keyring.keys keyID = some key ∧
    authorizationId = unsignedAuthorization keyID orderId idempotencyKey ++ "." ++
      toBase64url (authorizationSignature crypto key keyID orderId idempotencyKey)

/-- An authorized event carries the authorization that was signed with the key of the token. -/
lemma issued_of_authorized
    (hdata : envelope.data = .authorize commandId orderId amount paymentToken idempotencyKey)
    (hreply : processCommand (keyring.paymentEnv crypto "") .authorize envelope = .ok reply)
    (hauthorized : reply.data.data = .paymentAuthorized orderId authorizationId) :
    commandId ≠ "" ∧ ∃ keyID, referenceKeyID paymentToken = some keyID ∧
      Issued crypto keyring envelope keyID orderId idempotencyKey authorizationId := by
  unfold processCommand at hreply
  split_ifs at hreply with hchecks
  obtain ⟨milliseconds, htime, hreply⟩ := bind_eq_ok.mp hreply
  rw [hdata] at hreply
  have hmode : ¬(keyring.paymentEnv crypto "").mode = "authorization_declined" :=
    show ¬"" = "authorization_declined" by decide
  simp only [processAuthorize, if_neg hmode] at hreply
  by_cases hfields : (commandId = "" || orderId = "" || idempotencyKey = "" ||
      orderId ≠ envelope.aggregateId) = true
  · rw [if_pos hfields] at hreply
    cases hreply
  rw [if_neg hfields] at hreply
  simp only [Bool.or_eq_true, decide_eq_true_eq, not_or, Bool.not_eq_true', ne_eq,
    not_not, Bool.not_eq_false] at hchecks hfields
  obtain ⟨⟨⟨hcommand, horder⟩, hidempotency⟩, haggregate⟩ := hfields
  obtain ⟨⟨⟨⟨hmessage, hcorrelation⟩, -⟩, hsafe⟩, hversion⟩ := hchecks
  have hcomplete : CompleteFor envelope orderId :=
    ⟨hmessage, hcorrelation, haggregate.symm, horder, hversion, hsafe, milliseconds, htime⟩
  cases htoken : verifyPaymentToken (keyring.paymentEnv crypto "") paymentToken orderId
      milliseconds with
  | error text =>
    simp only [htoken] at hreply
    rw [(of_outcome hreply).2.1] at hauthorized
    cases hauthorized
  | ok keyID =>
    simp only [htoken] at hreply
    obtain ⟨reference, hreference, hreply⟩ := bind_eq_ok.mp hreply
    rw [(of_outcome hreply).2.1] at hauthorized
    obtain ⟨-, rfl⟩ := Payload.paymentAuthorized.inj hauthorized
    obtain ⟨hvalid, hsigned⟩ := authorizationReference_eq hreference
    exact ⟨hcommand, keyID, referenceKeyID_of_verified htoken, hcomplete, hidempotency, hvalid,
      hsigned⟩

/-- An issued authorization that is not too long is usable. -/
lemma Issued.usable {keyID : String}
    (h : Issued crypto keyring envelope keyID orderId idempotencyKey authorizationId)
    (htrips : crypto.RoundTrips orderId idempotencyKey)
    (hlength : authorizationLength keyID orderId idempotencyKey ≤ 2048) :
    Usable crypto keyring keyID orderId authorizationId := by
  obtain ⟨key, hkey, rfl⟩ := h.signed
  have hvalid : ∀ (keyring' : Keyring) (order : String),
      keyring'.keys keyID = keyring.keys keyID →
      validAuthorization (keyring'.paymentEnv crypto "")
        (unsignedAuthorization keyID orderId idempotencyKey ++ "." ++
          toBase64url (authorizationSignature crypto key keyID orderId idempotencyKey)) order =
        decide (order = orderId) := by
    intro keyring' order hsame
    rw [validAuthorization_eq htrips h.valid (hsame.trans hkey) h.idempotency]
    simp [hlength]
  have hne : unsignedAuthorization keyID orderId idempotencyKey ++ "." ++
      toBase64url (authorizationSignature crypto key keyID orderId idempotencyKey) ≠ "" := by
    intro hempty
    have hdots := congrArg String.length hempty
    rw [String.length_append, length_toBase64url] at hdots
    simp [authorizationSignature] at hdots
  refine ⟨fun keyring' envelope' c k m hsame hcomplete hc hk hdata => ?_,
    fun keyring' envelope' c r k hsame hcomplete hc hk hdata => ?_,
    fun keyring' envelope' other c k m hother hsame hcomplete hc hk hdata => ?_,
    fun keyring' envelope' other c r k hother hsame hcomplete hc hk hdata => ?_⟩
  · have hreply := hcomplete.capture (keyring'.paymentEnv crypto "") rfl hc hne hk hdata
    simpa [hvalid keyring' orderId hsame] using hreply
  · have hreply := hcomplete.release (keyring'.paymentEnv crypto "") rfl hc hne hk hdata
    simpa [hvalid keyring' orderId hsame] using hreply
  · have hreply := hcomplete.capture (keyring'.paymentEnv crypto "") rfl hc hne hk hdata
    simpa [hvalid keyring' other hsame, hother] using hreply
  · have hreply := hcomplete.release (keyring'.paymentEnv crypto "") rfl hc hne hk hdata
    simpa [hvalid keyring' other hsame, hother] using hreply

/-- A usable authorization is not too long: its own order could not be captured otherwise. -/
lemma Issued.length_le {keyID : String}
    (h : Issued crypto keyring envelope keyID orderId idempotencyKey authorizationId)
    (htrips : crypto.RoundTrips orderId idempotencyKey)
    (husable : Usable crypto keyring keyID orderId authorizationId) :
    authorizationLength keyID orderId idempotencyKey ≤ 2048 := by
  by_contra hlong
  obtain ⟨key, hkey, hsigned⟩ := h.signed
  have hinvalid := validAuthorization_eq htrips h.valid hkey h.idempotency "" orderId
  rw [← hsigned, decide_eq_false (fun hboth => hlong hboth.1)] at hinvalid
  -- the capture command that checkout sends next
  have hcapture := husable.captured keyring
    { envelope with data := .capture "capture" orderId authorizationId none idempotencyKey }
    "capture" idempotencyKey none rfl
    ⟨h.complete.messageId, h.complete.correlationId, h.complete.aggregateId, h.complete.order,
      h.complete.version, h.complete.safe, h.complete.time⟩ (by decide) h.idempotency rfl
  obtain ⟨reply, hreply, hsubject⟩ := hcapture
  unfold processCommand at hreply
  split_ifs at hreply
  obtain ⟨milliseconds, -, hreply⟩ := bind_eq_ok.mp hreply
  obtain ⟨-, -, hreply⟩ := bind_eq_ok.mp hreply
  rw [hinvalid, Bool.not_false, Bool.or_true, if_pos rfl] at hreply
  rw [(of_outcome hreply).1] at hsubject
  cases hsubject

/-- An authorization that was issued for an order is usable exactly if, with the key ID of the token
and the order ID and idempotency key of the command, it has at most 2048 UTF-16 units. -/
theorem issued_authorization_usable_iff
    (hdata : envelope.data = .authorize commandId orderId amount paymentToken idempotencyKey)
    (htrips : crypto.RoundTrips orderId idempotencyKey)
    (hreply : processCommand (keyring.paymentEnv crypto "") .authorize envelope = .ok reply)
    (hauthorized : reply.data.data = .paymentAuthorized orderId authorizationId) :
    ∃ keyID, referenceKeyID paymentToken = some keyID ∧
      (Usable crypto keyring keyID orderId authorizationId ↔
        authorizationLength keyID orderId idempotencyKey ≤ 2048) := by
  obtain ⟨-, keyID, hkeyID, hissued⟩ := issued_of_authorized hdata hreply hauthorized
  exact ⟨keyID, hkeyID, hissued.length_le htrips, hissued.usable htrips⟩

end Issued

/-! ## Samples -/

namespace Sample

/-- The JSON text of the payment token. -/
def tokenJSON : String :=
  "\x7b\"version\":1,\"orderId\":" ++ jsonQuote "order-1" ++
    ",\"expiresAt\":1700000900000,\"nonce\":\"n\"\x7d"

/-- Library functions for one order: every signature is the same, and the parser knows the payloads of
the token and of the authorization. -/
def crypto (idempotencyKey : String) : Crypto where
  hkdf := getBytes
  hmac := fun _ _ => Vector.replicate 32 7
  sha256 := fun _ => Vector.replicate 32 9
  fromBase64url := fun text => Base64.decodeRawURL text.toList
  parseJSON := fun text =>
    if text = tokenJSON then
      some { version := some 1, orderId := some "order-1", expiresAt := some 1700000900000
             nonce := some "n" }
    else if text = authorizationJSON "order-1" idempotencyKey then
      some (authorizationPayload "order-1" idempotencyKey)
    else none
  stableID := fun parts => "id-" ++ "/".intercalate parts

/-- A secret of 32 characters. -/
def secret : String := "0123456789abcdef0123456789abcdef"

/-- The keyring before a rotation. -/
def created (idempotencyKey : String) : Except String Keyring :=
  createSigningKeyring (crypto idempotencyKey) "k1" (some secret) (some [])

/-- The keyring after a rotation, which still verifies with the old key. -/
def rotated (idempotencyKey : String) : Except String Keyring :=
  createSigningKeyring (crypto idempotencyKey) "k2" (some ("fedc" ++ secret))
    (some [("k1", some secret)])

/-- The token, signed with the key `k1`. -/
def token : String :=
  "ptok_v1" ++ "." ++ "k1" ++ "." ++ toBase64url (getBytes tokenJSON) ++ "." ++
    toBase64url (List.replicate 32 7)

/-- The command to authorize the payment. -/
def authorize (idempotencyKey : String) : MessageEnvelope where
  messageId := "authorize-1"
  messageType := "boutique.payment.Authorize.v1"
  occurredAt := some (unixEpoch + 1700000000 * 1000000000)
  producer := "checkoutservice/phase5"
  aggregateType := "order"
  aggregateId := "order-1"
  aggregateVersion := 2
  correlationId := "order-1"
  data := .authorize "command-1" "order-1" none token idempotencyKey

/-- What a reply to an authorize command says. -/
def replyTexts (reply : MessageEnvelope) : List String :=
  match reply.data with
  | .paymentAuthorized orderId authorizationId => [reply.messageType, orderId, authorizationId]
  | .paymentAuthorizationDeclined orderId code => [reply.messageType, orderId, code]
  | _ => [reply.messageType]

/-- An encoder of these replies: their texts in lines. -/
def encode (reply : MessageEnvelope) (amount : Option Money) : List UInt8 :=
  getBytes ("\n".intercalate (reply.messageId :: reply.causationId :: replyTexts reply ++
    (amount.map Money.currencyCode).toList))

/-- Texts that agree up to a part have it in common as far as both go. -/
lemma take_eq_of_append_eq {a q b c d e : String} (n : ℕ) (hn : n ≤ b.toList.length)
    (h : a ++ q ++ b ++ c ++ d = a ++ q ++ e) : b.toList.take n = e.toList.take n := by
  have hlist : b.toList ++ (c.toList ++ d.toList) = e.toList := by
    simpa using congrArg String.toList h
  rw [← hlist, List.take_append_of_le_length hn]

/-- The two JSON texts are different. -/
lemma authorizationJSON_ne_tokenJSON (idempotencyKey : String) :
    authorizationJSON "order-1" idempotencyKey ≠ tokenJSON := by
  intro heq
  have htake := take_eq_of_append_eq 3 (by decide) heq
  revert htake
  decide

/-- The encodings round trip. -/
lemma roundTrips (idempotencyKey : String) :
    (crypto idempotencyKey).RoundTrips "order-1" idempotencyKey :=
  ⟨fun bytes => by simp [crypto, toBase64url],
    by simp [crypto, authorizationJSON_ne_tokenJSON]⟩

/-- The parts of the token. -/
lemma token_parts : split '.' token =
    ["ptok_v1", "k1", toBase64url (getBytes tokenJSON), toBase64url (List.replicate 32 7)] := by
  refine split_join_dot (by decide) (by decide) ?_ ?_
  · exact fun hdot => (mem_toBase64url hdot).2 rfl
  · exact fun hdot => (mem_toBase64url hdot).2 rfl

/-- The token names the key `k1`. -/
lemma referenceKeyID_token : referenceKeyID token = some "k1" := by
  rw [referenceKeyID, token_parts]

/-- An idempotency key of `n` letters. -/
def letters (n : ℕ) : String := String.ofList (List.replicate n 'k')

/-- The key has `n` bytes. -/
lemma length_getBytes_letters (n : ℕ) : (getBytes (letters n)).length = n := by
  induction n with
  | zero => decide
  | succ n ih =>
    have hsplit : letters (n + 1) = "k" ++ letters n := by
      rw [letters, List.replicate_succ, ← List.singleton_append, String.ofList_append]
      rfl
    have hletter : (getBytes "k").length = 1 := by decide
    rw [hsplit, length_getBytes_append, ih]
    omega

/-- Letters are not escaped. -/
lemma jsonQuote_letters (n : ℕ) : jsonQuote (letters n) = "\"" ++ letters n ++ "\"" := by
  have hescape : ∀ n, (List.replicate n 'k').flatMap jsonEscape = List.replicate n 'k' := by
    intro n
    induction n with
    | zero => rfl
    | succ n ih =>
      rw [List.replicate_succ, List.flatMap_cons, ih]
      rfl
  rw [jsonQuote, letters, String.toList_ofList, hescape]

/-- A quoted text has the bytes of what it quotes. -/
lemma length_getBytes_le_quoted (a q b c d e : String) :
    (getBytes c).length ≤ (getBytes (a ++ q ++ b ++ (d ++ c ++ d) ++ e)).length := by
  simp only [length_getBytes_append]
  omega

/-- The JSON has the bytes of the idempotency key. -/
lemma length_le_authorizationJSON (orderId : String) {key : String}
    (h : jsonQuote key = "\"" ++ key ++ "\"") :
    (getBytes key).length ≤ (getBytes (authorizationJSON orderId key)).length := by
  unfold authorizationJSON
  rw [h]
  exact length_getBytes_le_quoted _ _ _ _ _ _

/-- The length of the token does not bound the idempotency key, so an authorization can be too
long. -/
lemma letters_too_long {n : ℕ} (h : 1500 ≤ n) :
    2048 < authorizationLength "k1" "order-1" (letters n) := by
  have hbytes := length_le_authorizationJSON "order-1" (jsonQuote_letters n)
  rw [length_getBytes_letters] at hbytes
  unfold authorizationLength
  generalize (getBytes (authorizationJSON "order-1" (letters n))).length = size at hbytes ⊢
  omega

/-- The key is not empty. -/
lemma letters_ne {n : ℕ} (h : 0 < n) : letters n ≠ "" := by
  intro hempty
  have hlength := length_getBytes_letters n
  rw [hempty] at hlength
  have hnone : (getBytes "").length = 0 := by decide
  omega

/-- The keyring is created. -/
lemma created_eq (idempotencyKey : String) : ∃ keyring, created idempotencyKey = .ok keyring ∧
    keyring.keys "k1" = some (getBytes secret) := by
  refine ⟨_, rfl, ?_⟩
  rfl

/-- The rotated keyring is created, too. -/
lemma rotated_eq (idempotencyKey : String) : ∃ keyring, rotated idempotencyKey = .ok keyring ∧
    keyring.activeKeyID = "k2" ∧ keyring.keys "k1" = some (getBytes secret) := by
  refine ⟨_, rfl, rfl, ?_⟩
  rfl

/-- The token is verified with the key `k1`. -/
lemma token_verified (idempotencyKey : String) {keyring : Keyring}
    (h : keyring.keys "k1" = some (getBytes secret)) :
    verifyPaymentToken (keyring.paymentEnv (crypto idempotencyKey) "") token "order-1"
      1700000000000 = .ok "k1" := by
  have hlength : ¬2048 < utf16Length token := by decide +kernel
  have hencoded : toBase64url (getBytes tokenJSON) ≠ "" := by decide +kernel
  have hsignature : toBase64url (List.replicate 32 7) ≠ "" := by decide +kernel
  have htrips := (roundTrips idempotencyKey).base64url
  have hkeys : (keyring.paymentEnv (crypto idempotencyKey) "").keys "k1" = some (getBytes secret) := h
  have hactual : (keyring.paymentEnv (crypto idempotencyKey) "").fromBase64url
      (toBase64url (List.replicate 32 7)) =
      (keyring.paymentEnv (crypto idempotencyKey) "").hmac (getBytes secret)
        ("ptok_v1" ++ "." ++ "k1" ++ "." ++ toBase64url (getBytes tokenJSON)) := htrips _
  have hpayload : (keyring.paymentEnv (crypto idempotencyKey) "").parsePayload
      (toBase64url (getBytes tokenJSON)) =
      some { version := some 1, orderId := some "order-1", expiresAt := some 1700000900000
             nonce := some "n" } := by
    simp only [Keyring.paymentEnv, htrips, Bytes.getString_getBytes]
    simp [crypto]
  unfold verifyPaymentToken verifyReference
  rw [if_neg hlength, token_parts]
  simp only [hencoded, hsignature, hkeys, hactual, hpayload]
  rfl

/-- Every command with an idempotency key is authorized. -/
lemma exists_authorized {idempotencyKey : String} (h : idempotencyKey ≠ "") :
    ∃ keyring reply authorizationId, created idempotencyKey = .ok keyring ∧
      processCommand (keyring.paymentEnv (crypto idempotencyKey) "") .authorize
        (authorize idempotencyKey) = .ok reply ∧
      reply.data.data = .paymentAuthorized "order-1" authorizationId := by
  obtain ⟨keyring, hcreated, hkey⟩ := created_eq idempotencyKey
  have hverified := token_verified idempotencyKey hkey
  obtain ⟨authorizationId, hauthorization⟩ :=
    authorizationReference_ok hverified "order-1" idempotencyKey
  have htime : occurredAtMilliseconds (authorize idempotencyKey) = .ok 1700000000000 := rfl
  obtain ⟨reply, hreply⟩ : ∃ reply,
      outcome (keyring.paymentEnv (crypto idempotencyKey) "") (authorize idempotencyKey)
        "payment.authorize" .paymentAuthorized "boutique.payment.Authorized.v1"
        (.paymentAuthorized "order-1" authorizationId) = .ok reply := ⟨_, rfl⟩
  refine ⟨keyring, reply, authorizationId, hcreated, ?_, (of_outcome hreply).2.1⟩
  have hmode : ¬(keyring.paymentEnv (crypto idempotencyKey) "").mode = "authorization_declined" :=
    show ¬"" = "authorization_declined" by decide
  have hchecks : ¬((authorize idempotencyKey).messageId = "" ||
      (authorize idempotencyKey).correlationId = "" || (authorize idempotencyKey).aggregateId = "" ||
      !isSafeInteger (authorize idempotencyKey).aggregateVersion ||
      (authorize idempotencyKey).aggregateVersion = 0) := by
    simp [authorize, isSafeInteger]
  rw [processCommand, if_neg hchecks, htime]
  change processAuthorize (keyring.paymentEnv (crypto idempotencyKey) "") (authorize idempotencyKey)
    1700000000000 "command-1" "order-1" token idempotencyKey = .ok reply
  have hfields : ¬("command-1" = "" || "order-1" = "" || idempotencyKey = "" ||
      "order-1" ≠ (authorize idempotencyKey).aggregateId) := by
    simp [h, authorize]
  rw [processAuthorize, if_neg hfields, if_neg hmode, hverified]
  simp only [hauthorization]
  exact hreply

end Sample

/-- Both sides of a rotation authorize the sample command with the same bytes. -/
theorem rotation_keeps_outcome :
    ∃ (old new : Keyring) (reply : Reply) (authorizationId : String),
      Sample.created "order-1/authorize" = .ok old ∧
      Sample.rotated "order-1/authorize" = .ok new ∧ old.activeKeyID ≠ new.activeKeyID ∧
      reply.data.data = .paymentAuthorized "order-1" authorizationId ∧
      processedBytes Sample.encode (old.paymentEnv (Sample.crypto "order-1/authorize") "") .authorize
        (Sample.authorize "order-1/authorize") =
          .ok (reply.messageId, reply.subject, Sample.encode reply.data none) ∧
      processedBytes Sample.encode (new.paymentEnv (Sample.crypto "order-1/authorize") "") .authorize
        (Sample.authorize "order-1/authorize") =
          .ok (reply.messageId, reply.subject, Sample.encode reply.data none) := by
  obtain ⟨old, reply, authorizationId, hcreated, hreply, hdata⟩ :=
    Sample.exists_authorized (show "order-1/authorize" ≠ "" by decide)
  obtain ⟨_, hcreated', hold⟩ := Sample.created_eq "order-1/authorize"
  obtain rfl := Except.ok.inj (hcreated.symm.trans hcreated')
  obtain ⟨new, hrotated, hactive, hnew⟩ := Sample.rotated_eq "order-1/authorize"
  have hactiveOld : old.activeKeyID = "k1" := by
    cases hcreated
    rfl
  have hamount : replyAmount reply (Sample.authorize "order-1/authorize").data = none := by
    unfold replyAmount
    cases reply.subject <;> rfl
  have hbytes : processedBytes Sample.encode (old.paymentEnv (Sample.crypto "order-1/authorize") "")
      .authorize (Sample.authorize "order-1/authorize") =
        .ok (reply.messageId, reply.subject, Sample.encode reply.data none) := by
    rw [processedBytes, hreply, Except.map, hamount]
  have hsame := outcome_independent_of_rotation old new (Sample.crypto "order-1/authorize") ""
    Sample.encode .authorize (Sample.authorize "order-1/authorize") fun keyID hkeyID => by
      obtain rfl := Option.some.inj (Sample.referenceKeyID_token.symm.trans hkeyID)
      exact hold.trans hnew.symm
  refine ⟨old, new, reply, authorizationId, hcreated, hrotated, ?_, hdata, hbytes, hsame.symm.trans hbytes⟩
  rw [hactiveOld, hactive]
  decide

/-- An authorization with a short idempotency key is usable. -/
theorem short_authorization_usable :
    ∃ keyring reply authorizationId,
      Sample.created "order-1/authorize" = .ok keyring ∧
      processCommand (keyring.paymentEnv (Sample.crypto "order-1/authorize") "") .authorize
        (Sample.authorize "order-1/authorize") = .ok reply ∧
      reply.data.data = .paymentAuthorized "order-1" authorizationId ∧
      Usable (Sample.crypto "order-1/authorize") keyring "k1" "order-1" authorizationId := by
  obtain ⟨keyring, reply, authorizationId, hkeyring, hreply, hdata⟩ :=
    Sample.exists_authorized (show "order-1/authorize" ≠ "" by decide)
  obtain ⟨keyID, hkeyID, husable⟩ :=
    issued_authorization_usable_iff rfl (Sample.roundTrips _) hreply hdata
  have hk1 := Sample.referenceKeyID_token
  obtain rfl := Option.some.inj (hk1.symm.trans hkeyID)
  exact ⟨keyring, reply, authorizationId, hkeyring, hreply, hdata, husable.mpr (by decide +kernel)⟩

/-- An authorization with a long idempotency key is issued and cannot be used. -/
theorem long_authorization_unusable :
    ∃ keyring reply authorizationId,
      Sample.created (Sample.letters 1500) = .ok keyring ∧
      processCommand (keyring.paymentEnv (Sample.crypto (Sample.letters 1500)) "") .authorize
        (Sample.authorize (Sample.letters 1500)) = .ok reply ∧
      reply.data.data = .paymentAuthorized "order-1" authorizationId ∧
      ¬Usable (Sample.crypto (Sample.letters 1500)) keyring "k1" "order-1" authorizationId := by
  obtain ⟨keyring, reply, authorizationId, hkeyring, hreply, hdata⟩ :=
    Sample.exists_authorized (Sample.letters_ne (show 0 < 1500 by decide))
  obtain ⟨-, keyID, hkeyID, hissued⟩ := issued_of_authorized rfl hreply hdata
  have hk1 := Sample.referenceKeyID_token
  obtain rfl := Option.some.inj (hk1.symm.trans hkeyID)
  refine ⟨keyring, reply, authorizationId, hkeyring, hreply, hdata, fun husable => ?_⟩
  exact absurd (hissued.length_le (Sample.roundTrips _) husable)
    (not_le_of_gt (Sample.letters_too_long le_rfl))

end Boutique.Payment
