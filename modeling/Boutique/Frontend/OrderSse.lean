import Boutique.Common.Rfc3339
import Boutique.Storefront.Views

/-!
# The text of an order stream

`orderEventsHandler` and `writeOrderSSE` of `frontend/checkout_operations.go`, as far as they write: a frame
for the first order, and then frames and keep-alive comments as the loop selects them.  `json.Marshal` is a
parameter.  A write that fails ends the stream, so what is received is cut off somewhere.
-/

namespace Boutique.Frontend.Sse

/-! ## Orders -/

/-- `orderStatus`. -/
structure OrderStatus where
  orderId : String
  userId : String := ""
  status : String
  stage : String := ""
  snapshot : Option SanitizedOrderSnapshot := none
  failureCode : String := ""
  retryable : Bool := false
  safeMessage : String := ""
  notificationStatus : String := ""
  cartClearStatus : String := ""
  cartClearFailureCode : String := ""
  outcomeAt : Option Time := none
  updatedAt : Time
  deriving DecidableEq

/-- The text of a notification status. -/
def notificationText : Storefront.NotificationStatus → String
  | .unset => ""
  | .sent => "SENT"
  | .failed => "FAILED"

/-- The text of the status of the cart of an order. -/
def cartClearText : Storefront.CartClearStatus → String
  | .unset => ""
  | .succeeded => "SUCCEEDED"
  | .rejected => "REJECTED"

/-- The order that the JSON document of a stored view is decoded to: the fields have the same names. -/
def OrderStatus.ofView (view : Storefront.OrderView) : OrderStatus where
  orderId := view.orderId
  userId := view.userId
  status := view.status.text
  stage := view.stage
  snapshot := view.snapshot
  failureCode := view.failureCode
  retryable := view.retryable
  safeMessage := view.safeMessage
  notificationStatus := notificationText view.notificationStatus
  cartClearStatus := cartClearText view.cartClearStatus
  cartClearFailureCode := view.cartClearFailureCode
  outcomeAt := view.outcomeAt
  updatedAt := view.updatedAt

/-- `orderNeedsPolling`. -/
def orderNeedsPolling (order : OrderStatus) : Bool :=
  if order.status = "CANCELLED" || order.status = "REJECTED" || order.status = "MANUAL_REVIEW" then false
  else if order.status = "COMPLETED" then
    let notificationDone := order.notificationStatus = "SENT" || order.notificationStatus = "FAILED"
    let cartClearDone := order.cartClearStatus = "SUCCEEDED" || order.cartClearStatus = "REJECTED"
    !notificationDone || !cartClearDone
  else true

/-- The snapshot that stands for an order that the query did not find. -/
def queuedOrder (orderId userId : String) : OrderStatus where
  orderId := orderId
  userId := userId
  status := "QUEUED"
  stage := "QUEUED"
  updatedAt := Time.zero

/-! ## Writing -/

/-- What is written when the heartbeat ticks. -/
def keepAlive : List Char := ": keep-alive\n\n".toList

section Handler

variable (marshal : OrderStatus → Option (List Char))

/-- `writeOrderSSE`: the text that is written, or `none` for an error before. -/
def writeOrderSSE : Option OrderStatus → Option (List Char)
  | none => none
  | some order => do
    let encoded ← marshal order
    let eventID := formatRFC3339Nano order.updatedAt
    return "event: order\nid: ".toList ++ eventID ++ "\ndata: ".toList ++ encoded ++ "\n\n".toList

/-- What the loop selects: the end of the request, the shutdown, a tick, or an update, which is an order, a
message that cannot be decoded, or the end of the channel. -/
inductive Selected where
  | done | shutdown | heartbeat | closed
  | message (order : Option OrderStatus)

/-- The loop of `orderEventsHandler`. -/
def eventsLoop (orderId sessionId : String) : Time → List Selected → List Char
  | _, [] | _, .done :: _ | _, .shutdown :: _ | _, .closed :: _ => []
  | lastUpdatedAt, .heartbeat :: rest => keepAlive ++ eventsLoop orderId sessionId lastUpdatedAt rest
  | lastUpdatedAt, .message none :: rest => eventsLoop orderId sessionId lastUpdatedAt rest
  | lastUpdatedAt, .message (some order) :: rest =>
    if order.orderId ≠ orderId || order.userId ≠ sessionId || order.updatedAt < lastUpdatedAt then
      eventsLoop orderId sessionId lastUpdatedAt rest
    else
      match writeOrderSSE marshal (some order) with
      | none => []
      | some frame =>
        frame ++ if !orderNeedsPolling order then [] else eventsLoop orderId sessionId order.updatedAt rest

/-- `orderEventsHandler` after its query, which `view` has answered. -/
def orderEventsHandler (orderId sessionId : String) (view : Option OrderStatus)
    (selected : List Selected) : List Char :=
  let initialOrder := view.getD (queuedOrder orderId sessionId)
  match writeOrderSSE marshal (some initialOrder) with
  | none => []
  | some frame =>
    frame ++ if !orderNeedsPolling initialOrder then []
      else eventsLoop marshal orderId sessionId initialOrder.updatedAt selected

/-! ## Sequences of writes -/

/-- An order or a keep-alive comment. -/
inductive SseWrite where
  | order (value : OrderStatus)
  | keepAlive

/-- The text of a write. -/
def SseWrite.text : SseWrite → Option (List Char)
  | .order value => writeOrderSSE marshal (some value)
  | .keepAlive => some Sse.keepAlive

/-- The order of a write, with its JSON text. -/
def SseWrite.frame : SseWrite → Option (OrderStatus × List Char)
  | .order value => (marshal value).map fun encoded => (value, encoded)
  | .keepAlive => none

/-- The text of a sequence of writes, up to an order that cannot be encoded. -/
def written : List SseWrite → List Char
  | [] => []
  | w :: ws =>
    match w.text marshal with
    | none => []
    | some text => text ++ written ws

/-- The orders of the frames that lie in the first `n` characters, their blank lines with them. -/
def received : List SseWrite → ℕ → List (OrderStatus × List Char)
  | [], _ => []
  | w :: ws, n =>
    match w.text marshal with
    | none => []
    | some text =>
      if text.length ≤ n then (w.frame marshal).toList ++ received ws (n - text.length) else []

/-- The loop writes orders and keep-alive comments. -/
lemma eventsLoop_written (orderId sessionId : String) (lastUpdatedAt : Time) (selected : List Selected) :
    ∃ writes, eventsLoop marshal orderId sessionId lastUpdatedAt selected = written marshal writes := by
  induction selected generalizing lastUpdatedAt with
  | nil => exact ⟨[], rfl⟩
  | cons select rest ih =>
    cases select with
    | done => exact ⟨[], rfl⟩
    | shutdown => exact ⟨[], rfl⟩
    | closed => exact ⟨[], rfl⟩
    | heartbeat =>
      obtain ⟨writes, hwrites⟩ := ih lastUpdatedAt
      exact ⟨.keepAlive :: writes, by rw [eventsLoop, hwrites]; rfl⟩
    | message order =>
      cases order with
      | none => exact ih lastUpdatedAt
      | some order =>
        rw [eventsLoop]
        split_ifs with hskip hlast
        · exact ih lastUpdatedAt
        · refine ⟨[.order order], ?_⟩
          simp only [written, SseWrite.text]
        · obtain ⟨writes, hwrites⟩ := ih order.updatedAt
          refine ⟨.order order :: writes, ?_⟩
          simp only [written, SseWrite.text, hwrites]

/-- The handler writes orders and keep-alive comments. -/
lemma orderEventsHandler_written (orderId sessionId : String) (view : Option OrderStatus)
    (selected : List Selected) :
    ∃ writes, orderEventsHandler marshal orderId sessionId view selected = written marshal writes := by
  rw [orderEventsHandler]
  split_ifs with hlast
  · refine ⟨[.order (view.getD (queuedOrder orderId sessionId))], ?_⟩
    simp only [written, SseWrite.text]
  · obtain ⟨writes, hwrites⟩ := eventsLoop_written marshal orderId sessionId
      (view.getD (queuedOrder orderId sessionId)).updatedAt selected
    refine ⟨.order (view.getD (queuedOrder orderId sessionId)) :: writes, ?_⟩
    simp only [written, SseWrite.text, hwrites]

end Handler

end Boutique.Frontend.Sse
