import Boutique.Cart.Worker
import Boutique.Lib.JoinedNames
import Boutique.Operations.DeadLetter

/-!
# The cart commands of the frontend

`addToCartHandler` and `emptyCartHandler` of `frontend/handlers.go`, up to the command that they publish,
with `cartOperationID`, `publishCartAdd`, `publishCartClear` and `publishCartCommand` of
`frontend/cart_operations.go` and the check of `frontend/validator/validator.go`.

A client that repeats a request under one `Idempotency-Key` repeats its operation ID, which is the message
ID of the command.  The commands pass the checks of the cart service.
-/

namespace Boutique.Frontend

open CartStore

/-! ## Requests -/

/-- What the handlers take from an HTTP request and its middleware: the session, the ID of the request,
the header `Idempotency-Key`, the time and the trace. -/
structure CartRequest where
  sessionId : String
  requestId : String
  idempotencyKey : String := ""
  now : Time
  trace : String × String := ("", "")
  session : isBlank sessionId = false
  request : isBlank requestId = false
  clock : validTimestamp now = true

/-- An answer that is not a success: the status and the text of `renderHTTPError`. -/
structure HttpError where
  status : ℕ
  text : String
  deriving DecidableEq, Repr

/-- `uuid.NewSHA1` in the URL name space, whose result is never blank. -/
structure OperationEnv where
  newSHA1 : String → String
  nonblank : ∀ name, isBlank (newSHA1 name) = false

/-- `maxHTTPIdempotencyKeySize`. -/
def maxHTTPIdempotencyKeySize : ℕ := 256

/-- The name that `cartOperationID` hashes. -/
def cartOperationName (kind userId key : String) : String :=
  "boutique/cart/" ++ kind ++ "/" ++ userId ++ "/" ++ key

/-- The key of a request, without the white space around it. -/
def CartRequest.key (request : CartRequest) : String :=
  Operations.trimSpace request.idempotencyKey

/-- `cartOperationID`. -/
def cartOperationID (env : OperationEnv) (request : CartRequest) (userId kind : String) :
    Except HttpError String :=
  if maxHTTPIdempotencyKeySize < request.key.utf8ByteSize then
    .error ⟨400, "Idempotency-Key exceeds " ++ toString maxHTTPIdempotencyKeySize ++ " bytes"⟩
  else if request.key = "" then .ok request.requestId
  else .ok (env.newSHA1 (cartOperationName kind userId request.key))

/-! ## Forms -/

/-- `strconv.ParseUint` in base 10 with 32 bits, whose error is ignored: 0 for a text that is no number,
and the largest value for a number that is too large. -/
def parseUint32 (text : String) : ℕ :=
  if text ≠ "" ∧ text.toList.all Char.isDigit then
    min (text.toList.foldl (fun n c => 10 * n + (c.toNat - 48)) 0) (2 ^ 32 - 1)
  else 0

/-- `AddToCartPayload`. -/
structure AddToCartPayload where
  quantity : ℕ
  productId : String

/-- `AddToCartPayload.Validate`: the fields that do not pass, with the first check that fails. -/
def AddToCartPayload.validate (payload : AddToCartPayload) : List (String × String) :=
  (if payload.quantity = 0 then [("Quantity", "required")]
    else if payload.quantity < 1 then [("Quantity", "gte")]
    else if 10 < payload.quantity then [("Quantity", "lte")]
    else []) ++
  (if payload.productId = "" then [("ProductID", "required")] else [])

/-- `ValidationErrorResponse`. -/
def validationErrorResponse (errors : List (String × String)) : String :=
  String.join (errors.map fun error => "Field '" ++ error.1 ++ "' is invalid: " ++ error.2 ++ "\n")

/-- A quantity that passes is small. -/
lemma AddToCartPayload.quantity_le {payload : AddToCartPayload} (h : payload.validate = []) :
    payload.quantity ≤ 10 := by
  unfold validate at h
  split_ifs at h <;> first | omega | simp at h

/-- The quantity of a command is not negative. -/
lemma quantity_lower (n : ℕ) : -2 ^ 31 ≤ (n : ℤ) := by omega

/-- A small quantity is an `int32`. -/
lemma quantity_upper {n : ℕ} (h : n ≤ 10) : (n : ℤ) < 2 ^ 31 := by omega

/-! ## Commands -/

/-- `publishCartCommand`, up to the publish. -/
def cartCommandMessage (request : CartRequest) (subject messageType operationId : String)
    (aggregateVersion : ℕ) (payload : CommandPayload) (data : Payload) : CommandMessage where
  subject := subject
  envelope :=
    { messageId := operationId
      messageType := messageType
      occurredAt := some request.now
      producer := "frontend/phase4"
      aggregateType := "cart"
      aggregateId := request.sessionId
      aggregateVersion := aggregateVersion
      correlationId := operationId
      traceparent := request.trace.1
      tracestate := request.trace.2
      data := data }
  payload := payload

/-- The command that `publishCartAdd` sends. -/
def cartAddMessage (request : CartRequest) (operationId : String) (payload : AddToCartPayload)
    (hquantity : payload.quantity ≤ 10) : CommandMessage :=
  cartCommandMessage request "boutique.cmd.cart.add-item.v1" "boutique.cart.AddItem.v1" operationId 0
    (.addItem { commandId := operationId, userId := request.sessionId
                productId := payload.productId, quantity := payload.quantity
                lower := quantity_lower _, upper := quantity_upper hquantity })
    (.other "type.googleapis.com/boutique.commands.v1.CartAddItemCommand")

/-- The command that `publishCartClear` sends. -/
def cartClearMessage (request : CartRequest) (operationId : String) (expectedVersion : ℕ) :
    CommandMessage :=
  cartCommandMessage request "boutique.cmd.cart.clear.v1" "boutique.cart.Clear.v1" operationId
    expectedVersion
    (.clear { commandId := operationId, userId := request.sessionId
              expectedCartVersion := expectedVersion, reason := "user-request", orderId := "" })
    (.cartClear operationId request.sessionId expectedVersion "user-request" "")

/-- The two handlers: `addToCartHandler` with its form, and `emptyCartHandler` with the cart version
that its query returned, or the error. -/
inductive CartPost where
  | add (quantity productId : String)
  | empty (view : Except HttpError ℕ)

/-- The kind of the operation. -/
def CartPost.kind : CartPost → String
  | .add _ _ => "add-item"
  | .empty _ => "clear"

/-- The operation ID of a request. -/
def CartPost.operationID (env : OperationEnv) (request : CartRequest) (post : CartPost) :
    Except HttpError String :=
  cartOperationID env request request.sessionId post.kind

/-- The command that a handler publishes, or its answer if it does not get there. -/
def CartPost.message (env : OperationEnv) (request : CartRequest) :
    CartPost → Except HttpError CommandMessage
  | .add quantity productId =>
    let payload : AddToCartPayload := { quantity := parseUint32 quantity, productId := productId }
    if hvalid : payload.validate = [] then do
      let operationId ← cartOperationID env request request.sessionId "add-item"
      return cartAddMessage request operationId payload (AddToCartPayload.quantity_le hvalid)
    else .error ⟨422, validationErrorResponse payload.validate⟩
  | .empty view => do
    let operationId ← cartOperationID env request request.sessionId "clear"
    let cartVersion ← view
    return cartClearMessage request operationId cartVersion

/-! ## Laws -/

section Laws

variable {env : OperationEnv} {request : CartRequest} {post : CartPost} {message : CommandMessage}

/-- An operation ID is not blank. -/
lemma cartOperationID_nonblank {userId kind id : String}
    (h : cartOperationID env request userId kind = .ok id) : isBlank id = false := by
  unfold cartOperationID at h
  split_ifs at h
  · cases h
    exact request.request
  · cases h
    exact env.nonblank _

/-- A command passes the checks of the cart service. -/
structure Understood (message : CommandMessage) (userId id : String) : Prop where
  messageId : message.envelope.messageId = id
  call : ∀ contains, ∃ call, message.call contains = .ok call ∧ call.validate = .ok () ∧
    call.command.userId = userId

/-- `publishCartCommand` fills the envelope of a cart command with what the cart service asks for. -/
lemma cartCommand_validate (subject : String) (payload : CommandPayload) {messageType id : String}
    {version : ℕ} {data : Payload} (hid : isBlank id = false) {expected : Option ℕ}
    (hexpected : ∀ v, expected = some v → v = version) :
    validateEnvelope id request.sessionId expected messageType
      (cartCommandMessage request subject messageType id version payload data).envelope = .ok () := by
  cases expected with
  | none => simp [validateEnvelope, cartCommandMessage, hid, request.session, request.clock]
  | some v =>
    obtain rfl := hexpected v rfl
    simp [validateEnvelope, cartCommandMessage, hid, request.session, request.clock]

/-- The call for a command to add an item. -/
lemma call_addItem {command : CartAddItemCommand} (hid : isBlank message.aggregateId = false)
    (hsubject : message.subject = "boutique.cmd.cart.add-item.v1")
    (hpayload : message.payload = .addItem command) (contains : Bool) :
    message.call contains =
      .ok { command := .addItem command, envelope := message.envelope, contains := contains } := by
  rw [CommandMessage.call, hid, hsubject, hpayload]
  rfl

/-- The call for a command to clear the cart. -/
lemma call_clear {command : CartClearCommand} (hid : isBlank message.aggregateId = false)
    (hsubject : message.subject = "boutique.cmd.cart.clear.v1")
    (hpayload : message.payload = .clear command) (contains : Bool) :
    message.call contains =
      .ok { command := .clear command, envelope := message.envelope, contains := contains } := by
  rw [CommandMessage.call, hid, hsubject, hpayload]
  rfl

/-- The commands of a session are queued under its ID. -/
lemma cartCommand_aggregateId {subject messageType id : String} {version : ℕ}
    {payload : CommandPayload} {data : Payload} :
    isBlank (cartCommandMessage request subject messageType id version payload data).aggregateId =
      false := by
  simp [CommandMessage.aggregateId, cartCommandMessage, request.session]

/-- The cart service understands what the handlers publish. -/
lemma CartPost.message_understood (h : post.message env request = .ok message) :
    ∃ id, post.operationID env request = .ok id ∧ Understood message request.sessionId id := by
  cases post with
  | add quantity productId =>
    simp only [CartPost.message] at h
    split_ifs at h with hvalid
    obtain ⟨id, hid, hmessage⟩ := bind_eq_ok.mp h
    obtain rfl := Except.ok.inj hmessage
    refine ⟨id, hid, rfl, fun contains =>
      ⟨_, call_addItem cartCommand_aggregateId rfl rfl contains, ?_, rfl⟩⟩
    exact cartCommand_validate "boutique.cmd.cart.add-item.v1" .other (cartOperationID_nonblank hid)
      (by simp)
  | empty view =>
    simp only [CartPost.message] at h
    obtain ⟨id, hid, hrest⟩ := bind_eq_ok.mp h
    obtain ⟨version, -, hmessage⟩ := bind_eq_ok.mp hrest
    obtain rfl := Except.ok.inj hmessage
    refine ⟨id, hid, rfl, fun contains =>
      ⟨_, call_clear cartCommand_aggregateId rfl rfl contains, ?_, rfl⟩⟩
    exact cartCommand_validate "boutique.cmd.cart.clear.v1" .other (cartOperationID_nonblank hid)
      (by simp)

/-- The kinds of operations have no slash. -/
lemma CartPost.slash_notMem_kind (post : CartPost) : '/' ∉ post.kind.toList := by
  cases post with
  | add quantity productId => exact (by decide : '/' ∉ "add-item".toList)
  | empty view => exact (by decide : '/' ∉ "clear".toList)

/-- Operation names of users without a slash determine the kind, the user and the key. -/
lemma cartOperationName_injective {post post' : CartPost} {userId userId' key key' : String}
    (huser : '/' ∉ userId.toList) (huser' : '/' ∉ userId'.toList)
    (h : cartOperationName post.kind userId key = cartOperationName post'.kind userId' key') :
    post.kind = post'.kind ∧ userId = userId' ∧ key = key' :=
  JoinedNames.three_parts_inj post.slash_notMem_kind post'.slash_notMem_kind huser huser' h

end Laws

end Boutique.Frontend
