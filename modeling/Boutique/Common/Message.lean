import Mathlib.Tactic.Common
import Mathlib.Data.Rat.Floor

/-!
# Messages of the boutique contract

The protobuf messages of `protos/common/v1`, `protos/commands/v1` and `protos/events/v1`
that the modelled services exchange, under their protobuf field names.

Conventions used throughout the development:

* `uint64` counters that are only compared and incremented are natural numbers;
* `Money` keeps its `int64` and `int32` fields as integers, and the operations that can leave
  the machine range wrap explicitly (`wrapInt64`, `wrapInt32`);
* a Go pointer that the code tests for `nil` is an `Option`;
* `time.Time` is the number of nanoseconds after Go's zero time, so that `IsZero` is `= 0`;
* a `float64` is the rational number it denotes, and a floating-point operation is the exact
  operation followed by a rounding function, which is a parameter.
-/

namespace Boutique

/-! ## Time -/

/-- `time.Time`, in nanoseconds after the zero time `0001-01-01T00:00:00Z`. -/
abbrev Time := ℤ

/-- The zero `time.Time`. -/
def Time.zero : Time := 0

/-- Nanoseconds from the zero time to the Unix epoch. -/
def unixEpoch : Time := 62135596800 * 1000000000

/-- Whole milliseconds since the Unix epoch, rounded down. -/
def epochMillis (t : Time) : ℤ := (t - unixEpoch) / 1000000

/-- `time.Duration`: a signed 64-bit number of nanoseconds. -/
structure Duration where
  nanos : ℤ
  lower : -2 ^ 63 ≤ nanos
  upper : nanos < 2 ^ 63

/-- The duration zero is in the range. -/
lemma Duration.zero_lower : -2 ^ 63 ≤ (0 : ℤ) := by decide

lemma Duration.zero_upper : (0 : ℤ) < 2 ^ 63 := by decide

/-! ## Machine integers and strings -/

/-- Two's complement wrap of an integer to `int64`. -/
def wrapInt64 (x : ℤ) : ℤ := Int.bmod x (2 ^ 64)

/-- Two's complement wrap of an integer to `int32`. -/
def wrapInt32 (x : ℤ) : ℤ := Int.bmod x (2 ^ 32)

/-- `time.Time.UnixMilli`: the milliseconds since the Unix epoch, as an `int64`. -/
def unixMilli (t : Time) : ℤ := wrapInt64 (epochMillis t)

/-- Milliseconds in the range of an `int64` are not wrapped. -/
lemma unixMilli_of_inRange {t : Time} (hlower : -2 ^ 63 ≤ epochMillis t)
    (hupper : epochMillis t < 2 ^ 63) : unixMilli t = epochMillis t := by
  rw [unixMilli, wrapInt64, Int.bmod_eq_of_le] <;> omega

/-- `unicode.IsSpace`. -/
def isSpace (c : Char) : Bool :=
  c == '\t' || c == '\n' || c.val == 0x0b || c.val == 0x0c || c == '\r' || c == ' ' ||
  c.val == 0x85 || c.val == 0xa0 || c.val == 0x1680 ||
  (0x2000 ≤ c.val && c.val ≤ 0x200a) || c.val == 0x2028 || c.val == 0x2029 ||
  c.val == 0x202f || c.val == 0x205f || c.val == 0x3000

/-- The test `strings.TrimSpace(s) == ""`: every character is white space. -/
def isBlank (s : String) : Bool := s.toList.all isSpace

/-- Decimal texts determine the number. -/
lemma toString_nat_injective : Function.Injective fun n : ℕ => toString n := by
  intro m n h
  have hdigits : Nat.toDigits 10 m = Nat.toDigits 10 n := by
    have hlist : (toString m).toList = (toString n).toList := congrArg String.toList h
    simpa [Nat.repr] using hlist
  rw [← Nat.ofDigitChars_ten_toDigits (n := m), hdigits, Nat.ofDigitChars_ten_toDigits]

/-! ## Fallible functions -/

/-- A successful sequence of two fallible steps is two successful steps. -/
lemma bind_eq_ok {ε α β : Type} {x : Except ε α} {f : α → Except ε β} {b : β} :
    x >>= f = .ok b ↔ ∃ a, x = .ok a ∧ f a = .ok b := by
  cases x with
  | error err =>
    constructor
    · intro h
      cases h
    · rintro ⟨_, h, _⟩
      cases h
  | ok a =>
    constructor
    · exact fun h => ⟨a, rfl, h⟩
    · rintro ⟨_, h, hf⟩
      cases h
      exact hf

/-! ## Common messages -/

/-- `commonv1.Failure`. -/
structure Failure where
  code : String
  retryable : Bool := false
  safeMessage : String := ""
  deriving DecidableEq, Repr

/-- `commonv1.Money`: whole units and billionths of a currency. -/
structure Money where
  currencyCode : String
  units : ℤ := 0
  nanos : ℤ := 0
  deriving DecidableEq, Repr

/-- `commonv1.PostalAddress`. -/
structure PostalAddress where
  streetAddress : String
  city : String
  state : String := ""
  country : String
  zipCode : ℤ := 0
  deriving DecidableEq, Repr

/-- `commonv1.CartLine`. -/
structure CartLine where
  productId : String
  quantity : ℤ
  deriving DecidableEq, Repr

/-- `commonv1.CartSnapshot`. -/
structure CartSnapshot where
  userId : String
  items : List CartLine
  cartVersion : ℕ
  deriving DecidableEq, Repr

/-- `commonv1.ProductSnapshot`. -/
structure ProductSnapshot where
  productId : String
  name : String := ""
  description : String := ""
  picture : String := ""
  priceUsd : Option Money
  categories : List String := []
  productVersion : ℕ := 0
  deriving DecidableEq, Repr

/-- `hipstershop.Product`, the product of the HTTP API and of the catalog file. -/
structure Product where
  id : String
  name : String := ""
  description : String := ""
  picture : String := ""
  priceUsd : Option Money
  categories : List String := []
  deriving DecidableEq, Repr

/-- `commonv1.OrderLine`. -/
structure OrderLine where
  item : CartLine
  unitCost : Money
  deriving DecidableEq, Repr

/-- `commonv1.SanitizedOrderSnapshot`. -/
structure SanitizedOrderSnapshot where
  orderId : String
  userId : String
  email : String
  shippingAddress : Option PostalAddress
  items : List OrderLine := []
  shippingCost : Option Money
  total : Option Money
  trackingId : String := ""
  deriving DecidableEq, Repr

/-- `eventsv1.CurrencyRate`. -/
structure CurrencyRate where
  currencyCode : String
  unitsPerBase : ℚ
  deriving DecidableEq, Repr

/-- `eventsv1.CurrencyRatesUpdatedEvent`, less the effective time, which checkout never reads. -/
structure CurrencyRatesUpdatedEvent where
  baseCurrencyCode : String
  rates : List CurrencyRate
  rateRevision : ℕ
  deriving DecidableEq, Repr

/-- `commandsv1.OrderSubmitCommand`. -/
structure OrderSubmitCommand where
  commandId : String
  operationId : String
  orderId : String
  userId : String
  expectedCartVersion : ℕ
  expectedCatalogRevision : ℕ
  expectedRateRevision : ℕ
  currencyCode : String
  shippingAddress : Option PostalAddress
  email : String
  paymentToken : String
  deriving DecidableEq, Repr

/-! ## Payloads and envelopes -/

/-- The messages that travel in the `Any` of an envelope.  `other` stands for every payload type
that the modelled handlers do not name. -/
inductive Payload where
  -- commands
  | orderSubmit (command : OrderSubmitCommand)
  | calculateOrderQuote (commandId orderId : String) (shippingAddress : Option PostalAddress)
      (cart : CartSnapshot)
  | authorize (commandId orderId : String) (amount : Option Money)
      (paymentToken idempotencyKey : String)
  | createShipment (commandId orderId : String) (shippingAddress : Option PostalAddress)
      (items : List CartLine) (idempotencyKey : String)
  | capture (commandId orderId authorizationId : String) (amount : Option Money)
      (idempotencyKey : String)
  | releaseAuthorization (commandId orderId authorizationId reason idempotencyKey : String)
  | cancelShipment (commandId orderId shipmentId trackingId reason idempotencyKey : String)
  | cartClear (commandId userId : String) (expectedCartVersion : ℕ) (reason orderId : String)
  -- replies of the shipping and payment services
  | orderQuoteCalculated (orderId : String) (costUsd : Option Money)
  | orderQuoteFailed (orderId : String) (failure : Option Failure)
  | paymentAuthorized (orderId authorizationId : String)
  | paymentAuthorizationDeclined (orderId declineCategory : String)
  | shipmentCreated (orderId shipmentId trackingId : String)
  | shipmentCreationFailed (orderId : String) (failure : Option Failure)
  | paymentCaptured (orderId transactionId : String)
  | paymentCaptureFailed (orderId authorizationId : String) (failure : Option Failure)
  | authorizationReleased (orderId authorizationId : String)
  | authorizationReleaseFailed (orderId authorizationId : String) (failure : Option Failure)
  | shipmentCancelled (orderId shipmentId : String)
  | shipmentCancellationFailed (orderId shipmentId : String) (failure : Option Failure)
  -- order events
  | orderSubmitted (operationId : String) (order : Option SanitizedOrderSnapshot)
      (acceptedCartVersion acceptedCatalogRevision acceptedRateRevision : ℕ)
  | orderProcessingStageChanged (orderId stage : String) (changedAt : Time)
  | orderRejected (operationId orderId : String) (failure : Option Failure)
  | orderCompleted (order : Option SanitizedOrderSnapshot)
  | orderCancelled (orderId : String) (failure : Option Failure)
      (completedCompensations : List String)
  | orderManualReviewRequired (orderId failedStep failedCompensation : String)
      (restrictedProviderReferences : List String)
  | orderStepTimedOut (orderId waitingStage : String) (deadline : Time)
      (lastCommandId chosenAction : String)
  -- catalog, currency and cart facts
  | catalogProductUpserted (product : Option ProductSnapshot) (catalogRevision : ℕ)
  | catalogProductRemoved (productId : String) (productVersion catalogRevision : ℕ)
  | catalogSnapshotCompleted (catalogRevision productCount : ℕ) (checksum : String)
  | currencyRatesUpdated (rates : CurrencyRatesUpdatedEvent)
  | cartItemAdded (commandId userId : String) (cart : Option CartSnapshot)
  | cartCleared (commandId userId : String) (cart : Option CartSnapshot) (orderId : String)
  | cartCommandRejected (commandId userId : String) (failure : Option Failure)
      (currentCartVersion : ℕ)
  | cartQuoteUpdated (userId : String) (cartVersion : ℕ) (costUsd : Option Money)
      (expiresAt : Option Time)
  | cartQuoteFailed (userId : String) (cartVersion : ℕ) (failure : Option Failure)
  -- storefront and notification facts
  | operationAccepted (operationId commandId operationKind status userOrSessionId : String)
  | orderConfirmationSent (orderId : String)
  | orderConfirmationFailed (orderId : String) (failure : Option Failure)
  | empty
  | other (typeUrl : String)
  deriving DecidableEq

/-- `commonv1.MessageEnvelope`. -/
structure MessageEnvelope where
  messageId : String
  messageType : String
  schemaVersion : ℕ := 1
  occurredAt : Option Time
  producer : String
  aggregateType : String
  aggregateId : String
  aggregateVersion : ℕ := 0
  correlationId : String
  causationId : String := ""
  traceparent : String := ""
  tracestate : String := ""
  data : Payload
  deriving DecidableEq

end Boutique
