import Boutique.Stateless.Result
import Mathlib.Data.List.Sort

/-!
# Cart commands

The command handlers of `cartservice/src/cartstore/RedisAggregateCartStore.cs`: the checks of
`ValidateEnvelope`, the transitions of the two commands and `BuildResult`.  A .NET exception is a
value of `CartError`.

A protobuf `Timestamp` is a `Time`, so it is always normalized.  The `Data` of an envelope is never
null: the handlers are called with the command that was unpacked from it.
-/

namespace Boutique.CartStore

/-! ## Messages -/

/-- `hipstershop.CartItem`. -/
structure CartItem where
  productId : String
  quantity : ℤ
  deriving DecidableEq, Repr

/-- `hipstershop.Cart`. -/
structure Cart where
  userId : String := ""
  items : List CartItem := []
  deriving DecidableEq, Repr

/-- `CartAddItemCommand`, whose quantity is an `int32`. -/
structure CartAddItemCommand where
  commandId : String
  userId : String
  productId : String
  quantity : ℤ
  lower : -2 ^ 31 ≤ quantity
  upper : quantity < 2 ^ 31

/-- `CartClearCommand`. -/
structure CartClearCommand where
  commandId : String
  userId : String
  expectedCartVersion : ℕ
  reason : String
  orderId : String

/-- The payloads of the results: `CartItemAddedEvent`, `CartClearedEvent` and
`CartCommandRejectedEvent`. -/
inductive CartEvent where
  | itemAdded (commandId userId productId : String) (quantityDelta resultingQuantity : ℤ)
      (cart : CartSnapshot)
  | cleared (commandId userId : String) (priorProductIds : List String) (cart : CartSnapshot)
      (reason orderId : String)
  | commandRejected (commandId userId : String) (failure : Failure) (currentCartVersion : ℕ)
  deriving DecidableEq, Repr

/-- The `MessageEnvelope` of a result. -/
structure ResultEnvelope where
  messageId : String
  messageType : String
  schemaVersion : ℕ
  occurredAt : Time
  producer : String
  aggregateType : String
  aggregateId : String
  aggregateVersion : ℕ
  correlationId : String
  causationId : String
  traceparent : String
  tracestate : String
  data : CartEvent
  deriving DecidableEq

/-- The exceptions of the cart store. -/
inductive CartError where
  | invalidOperation (text : String)
  | argument (text : String)
  | invalidData (text : String)
  | overflow
  deriving DecidableEq, Repr

/-! ## Ordinal comparison -/

/-- The UTF-16 code units of a text. -/
def utf16 (s : String) : List ℕ :=
  s.toList.flatMap fun c =>
    let n := c.toNat
    if n < 0x10000 then [n]
    else [0xd800 + (n - 0x10000) / 0x400, 0xdc00 + (n - 0x10000) % 0x400]

/-- `StringComparer.Ordinal`. -/
def ordinalLe (a b : String) : Prop := ¬utf16 b < utf16 a

instance (a b : String) : Decidable (ordinalLe a b) :=
  inferInstanceAs (Decidable (¬utf16 b < utf16 a))

/-! ## Checks -/

/-- `ValidateEnvelope`. -/
def validateEnvelope (commandId userId : String) (expectedVersion : Option ℕ)
    (messageType : String) (envelope : MessageEnvelope) : Except CartError Unit :=
  if isBlank commandId || isBlank userId || isBlank envelope.messageId ||
      isBlank envelope.correlationId then
    .error (.invalidOperation "Command ID, user ID, message ID, and correlation ID are required.")
  else if commandId ≠ envelope.messageId || userId ≠ envelope.aggregateId ||
      envelope.aggregateType ≠ "cart" || envelope.messageType ≠ messageType ||
      (expectedVersion.any fun version => envelope.aggregateVersion ≠ version) ||
      envelope.schemaVersion ≠ 1 || envelope.occurredAt.isNone then
    .error (.invalidOperation "Cart command and envelope identities do not match.")
  else if (envelope.occurredAt.map validTimestamp).getD false then .ok ()
  else .error (.invalidOperation "Timestamp contains invalid values")

/-! ## Transitions -/

/-- `CartTransition`. -/
structure CartTransition where
  state : Cart
  advanceVersion : Bool
  subject : String
  messageType : String
  payload : CartEvent
  resultVersion : ℕ

/-- `Snapshot`. -/
def snapshot (cart : Cart) (version : ℕ) : CartSnapshot where
  userId := cart.userId
  cartVersion := version
  items := (cart.items.insertionSort fun left right => ordinalLe left.productId right.productId).map
    fun item => { productId := item.productId, quantity := item.quantity }

/-- `Rejection`. -/
def rejection (cart : Cart) (currentVersion : ℕ) (commandId userId code safeMessage : String) :
    CartTransition where
  state := cart
  advanceVersion := false
  subject := "boutique.evt.cart.command-rejected.v1"
  messageType := "boutique.cart.CommandRejected.v1"
  payload := .commandRejected commandId userId
    { code := code, retryable := false, safeMessage := safeMessage } currentVersion
  resultVersion := currentVersion

/-- `checked(currentVersion + 1)` on `ulong`. -/
def nextVersion (currentVersion : ℕ) : Except CartError ℕ :=
  if currentVersion + 1 < 2 ^ 64 then .ok (currentVersion + 1) else .error .overflow

/-- `checked(quantity + delta)` on `int`, or `none` for an `OverflowException`. -/
def checkedQuantity (quantity delta : ℤ) : Option ℤ :=
  if -2 ^ 31 ≤ quantity + delta ∧ quantity + delta < 2 ^ 31 then some (quantity + delta) else none

/-- The assignment to `existing.Quantity`, where `existing` is the first item of the product. -/
def setQuantity (productId : String) (quantity : ℤ) : List CartItem → List CartItem
  | [] => []
  | item :: items =>
    if item.productId = productId then { item with quantity := quantity } :: items
    else item :: setQuantity productId quantity items

/-- The items and the quantity with which `HandleAddItemCommandAsync` goes on, or `none` for an
`OverflowException`. -/
def addQuantity (items : List CartItem) (productId : String) (quantity : ℤ) :
    Option (List CartItem × ℤ) :=
  match items.find? fun item => item.productId = productId with
  | none => some (items ++ [{ productId := productId, quantity := quantity }], quantity)
  | some existing =>
    (checkedQuantity existing.quantity quantity).map fun sum =>
      (setQuantity productId sum items, sum)

/-- `argumentsValid` of `HandleAddItemCommandAsync`. -/
def CartAddItemCommand.argumentsValid (command : CartAddItemCommand) : Bool :=
  !isBlank command.productId && 0 < command.quantity

/-- The transition of `HandleAddItemCommandAsync`. -/
def addItemTransition (command : CartAddItemCommand) (productAvailable : Bool) (cart : Cart)
    (currentVersion : ℕ) : Except CartError CartTransition :=
  let reject := rejection cart currentVersion command.commandId command.userId
  if !command.argumentsValid then
    .ok (reject "INVALID_ARGUMENT" "Product ID and a positive quantity are required.")
  else if !productAvailable then
    .ok (reject "PRODUCT_NOT_FOUND" "The requested product is not available.")
  else
    match addQuantity cart.items command.productId command.quantity with
    | none => .ok (reject "CART_QUANTITY_LIMIT" "The requested quantity is too large.")
    | some (items, resultingQuantity) => do
      let next := { cart with items := items }
      let version ← nextVersion currentVersion
      return { state := next
               advanceVersion := true
               subject := "boutique.evt.cart.item-added.v1"
               messageType := "boutique.cart.ItemAdded.v1"
               payload := .itemAdded command.commandId command.userId command.productId
                 command.quantity resultingQuantity (snapshot next version)
               resultVersion := version }

/-- The transition of `HandleClearCommandAsync`. -/
def clearTransition (command : CartClearCommand) (cart : Cart) (currentVersion : ℕ) :
    Except CartError CartTransition :=
  if command.expectedCartVersion ≠ currentVersion then
    .ok (rejection cart currentVersion command.commandId command.userId "CART_VERSION_CONFLICT"
      "The cart changed before this command was applied.")
  else do
    let next : Cart := { userId := command.userId }
    let version ← nextVersion currentVersion
    return { state := next
             advanceVersion := true
             subject := "boutique.evt.cart.cleared.v1"
             messageType := "boutique.cart.Cleared.v1"
             payload := .cleared command.commandId command.userId
               ((cart.items.map CartItem.productId).insertionSort ordinalLe)
               (snapshot next version)
               (if isBlank command.reason then "user-request" else command.reason) command.orderId
             resultVersion := version }

/-! ## Results -/

/-- `CartStoredResult`. -/
structure CartStoredResult where
  subject : String
  messageId : String
  data : List UInt8
  envelope : ResultEnvelope

/-- What the handlers take from generated code and the hash functions: the bytes of an envelope, the
envelope of bytes, the text of a result ID and the digest of a message ID. -/
structure CartEnv where
  envelopeBytes : ResultEnvelope → List UInt8
  parseEnvelope : List UInt8 → Option ResultEnvelope
  resultHash : String → String → String
  digest : String → String

/-- A time as a `DateTimeOffset`, in ticks of a hundred nanoseconds. -/
def toDateTimeOffset (t : Time) : Time := t - t % 100

/-- The checks of `ResultEnvelopes.CreateMetadata`. -/
def checkMetadata (input : MessageEnvelope) (messageType aggregateId : String) :
    Except CartError Unit :=
  if isBlank input.messageId || isBlank input.correlationId || isBlank messageType ||
      isBlank aggregateId then
    .error (.argument "The value cannot be an empty string or composed entirely of whitespace.")
  else .ok ()

/-- `BuildResult`. -/
def buildResult (env : CartEnv) (input : MessageEnvelope) (userId : String)
    (transition : CartTransition) : Except CartError CartStoredResult := do
  checkMetadata input transition.messageType userId
  let messageId ← (deriveResultMessageID env.resultHash input.messageId "cart.mutation").mapError
    CartError.argument
  let envelope : ResultEnvelope :=
    { messageId := messageId
      messageType := transition.messageType
      schemaVersion := 1
      occurredAt := toDateTimeOffset (input.occurredAt.getD 0)
      producer := "cartservice/phase4"
      aggregateType := "cart"
      aggregateId := userId
      aggregateVersion := transition.resultVersion
      correlationId := input.correlationId
      causationId := input.messageId
      traceparent := input.traceparent
      tracestate := input.tracestate
      data := transition.payload }
  return { subject := transition.subject, messageId := messageId
           data := env.envelopeBytes envelope, envelope := envelope }

/-- `ReadCart`, on the stored cart. -/
def readCart (userId : String) (state : Option Cart) : Except CartError Cart :=
  let cart := state.getD {}
  if cart.userId ≠ "" && cart.userId ≠ userId then
    .error (.invalidData "Stored cart owner does not match its aggregate key.")
  else .ok { cart with userId := userId }

end Boutique.CartStore
