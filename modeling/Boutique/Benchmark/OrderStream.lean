import Boutique.Benchmark.SseRoundTrip
import Boutique.Storefront.OrderRun

/-!
# Reading the orders of a stream

The orders that were received of what `orderEventsHandler` has written are yielded by
`iter_received_orders`, up to one whose identifier or status is blank.

The handler writes an order without a status: where the confirmation of an order is projected before the
order, the projection copies the status that is missing into the late event of the order
(`updateOrder` of `storefrontprojectionservice/projection.go`), and the view has a user and no status.
-/

namespace Boutique.Benchmark.Sse

open Workers Lines Frontend.Sse

/-! ## Orders -/

/-- A text that is left out of a JSON document when it is empty. -/
def omitEmpty (name value : String) : Dict := if value = "" then [] else [(name, .string value)]

/-- A time in a JSON document. -/
def timeJson (t : Time) : Json := .string (String.ofList (formatRFC3339Nano t))

/-- The fields of an order in JSON; what a snapshot stands for is a parameter. -/
def orderFields (snapshotJson : SanitizedOrderSnapshot → Json) (order : OrderStatus) : Dict :=
  [("order_id", .string order.orderId)] ++ omitEmpty "user_id" order.userId ++
    [("status", .string order.status)] ++ omitEmpty "stage" order.stage ++
    (order.snapshot.map fun snapshot => ("snapshot", snapshotJson snapshot)).toList ++
    omitEmpty "failure_code" order.failureCode ++
    (if order.retryable then [("retryable", .bool true)] else []) ++
    omitEmpty "safe_message" order.safeMessage ++
    omitEmpty "notification_status" order.notificationStatus ++
    omitEmpty "cart_clear_status" order.cartClearStatus ++
    omitEmpty "cart_clear_failure_code" order.cartClearFailureCode ++
    (order.outcomeAt.map fun outcomeAt => ("outcome_at", timeJson outcomeAt)).toList ++
    [("updated_at", timeJson order.updatedAt)]

/-- The orders that are yielded of those that were received: all up to the first with a blank identifier or
status. -/
def usable (frame : OrderStatus × List Char) : Bool :=
  strip frame.1.orderId ≠ "" && strip frame.1.status ≠ ""

/-- The error for an order that is not usable. -/
def omission (frame : OrderStatus × List Char) : SSEProtocolError :=
  if strip frame.1.orderId = "" then .error "order event omitted order_id"
  else .error "order event omitted status"

section Orders

variable {τ : Type*} {language : Workers.Language} {loads : List Char → Option Json}
  {snapshotJson : SanitizedOrderSnapshot → Json} {monotonicClock epochClock : ℕ → τ}

/-- What is yielded for an order, at a reading of the clocks. -/
def receivedOrder (snapshotJson : SanitizedOrderSnapshot → Json) (monotonicClock epochClock : ℕ → τ)
    (call : ℕ) (frame : OrderStatus × List Char) : ReceivedOrderEvent τ where
  order := orderFields snapshotJson frame.1
  eventId := some (formatRFC3339Nano frame.1.updatedAt)
  receivedMonotonic := monotonicClock call
  receivedEpoch := epochClock call

/-- The identifier is a field. -/
lemma orderFields_orderId (order : OrderStatus) :
    Dict.get (orderFields snapshotJson order) "order_id" = some (.string order.orderId) := rfl

/-- The status is a field. -/
lemma orderFields_status (order : OrderStatus) :
    Dict.get (orderFields snapshotJson order) "status" = some (.string order.status) := by
  unfold orderFields Dict.get
  by_cases huser : order.userId = ""
  · rw [omitEmpty, if_pos huser]
    rfl
  · rw [omitEmpty, if_neg huser]
    rfl

/-- An order that is decoded is accepted if it is usable. -/
lemma decodeOrder_orderEvent {frame : OrderStatus × List Char}
    (hloads : loads frame.2 = some (.object (orderFields snapshotJson frame.1))) :
    decodeOrder language loads (orderEvent frame) =
      if usable frame then .ok (orderFields snapshotJson frame.1) else .error (omission frame) := by
  have hid : omits language (orderFields snapshotJson frame.1) "order_id" =
      decide (strip frame.1.orderId = "") := by
    rw [omits, orderFields_orderId]
    rfl
  have hstatus : omits language (orderFields snapshotJson frame.1) "status" =
      decide (strip frame.1.status = "") := by
    rw [omits, orderFields_status]
    rfl
  have hdata : (orderEvent frame).data = frame.2 := rfl
  rw [decodeOrder, hdata, hloads]
  simp only [hid, hstatus, usable, omission, decide_eq_true_eq]
  by_cases horder : strip frame.1.orderId = ""
  · simp [horder]
  · by_cases hstat : strip frame.1.status = "" <;> simp [horder, hstat]

/-- Of the orders that were received, those before the first that is not usable are yielded. -/
lemma receivedLoop_orders {frames : List (OrderStatus × List Char)}
    (hloads : ∀ frame ∈ frames, loads frame.2 = some (.object (orderFields snapshotJson frame.1)))
    (calls : ℕ) :
    receivedLoop language loads monotonicClock epochClock none calls (frames.map orderEvent) =
      (((frames.takeWhile usable).zipIdx calls).map fun (frame, call) =>
          receivedOrder snapshotJson monotonicClock epochClock call frame,
        (frames.dropWhile usable).head?.map omission) := by
  induction frames generalizing calls with
  | nil => rfl
  | cons frame frames ih =>
    have hname : (orderEvent frame).event = "order".toList := rfl
    rw [List.map_cons, receivedLoop, if_neg (not_not.mpr hname),
      decodeOrder_orderEvent (hloads frame List.mem_cons_self)]
    cases husable : usable frame with
    | false =>
      rw [List.takeWhile_cons_of_neg (by simp [husable]), List.dropWhile_cons_of_neg (by simp [husable])]
      rfl
    | true =>
      rw [List.takeWhile_cons_of_pos husable, List.dropWhile_cons_of_pos husable, if_pos rfl]
      dsimp only
      rw [ih (fun other hother => hloads other (List.mem_cons_of_mem frame hother)) (calls + 1)]
      rfl

end Orders

section Stream

variable {τ : Type*} {marshal : OrderStatus → Option (List Char)} {loads : List Char → Option Json}
  {snapshotJson : SanitizedOrderSnapshot → Json}

/-- A text without carriage returns and line feeds has no line ends. -/
lemma isLineEnd_of_clean {text : List Char} (h : '\r' ∉ text ∧ '\n' ∉ text) :
    ∀ c ∈ text, isLineEnd c = false := by
  intro c hc
  have hcr : c ≠ '\r' := fun heq => h.1 (heq ▸ hc)
  have hlf : c ≠ '\n' := fun heq => h.2 (heq ▸ hc)
  simp [isLineEnd, hcr, hlf]

/-- `iter_received_orders` yields the orders that were received up to the first that is not usable. -/
lemma iterReceivedOrders_written (language : Workers.Language) (monotonicClock epochClock : ℕ → τ)
    (hclean : ∀ order encoded, marshal order = some encoded → '\r' ∉ encoded ∧ '\n' ∉ encoded)
    (hinverts : ∀ order encoded, marshal order = some encoded →
      loads encoded = some (.object (orderFields snapshotJson order)))
    (writes : List SseWrite) (n : ℕ) :
    iterReceivedOrders language loads monotonicClock epochClock
        (some (encode ((written marshal writes).take n))) =
      ((((received marshal writes n).takeWhile usable).zipIdx).map fun (frame, call) =>
          receivedOrder snapshotJson monotonicClock epochClock call frame,
        ((received marshal writes n).dropWhile usable).head?.map omission) := by
  rw [iterReceivedOrders,
    iterSseEvents_written (fun order encoded h => isLineEnd_of_clean (hclean order encoded h)) writes n]
  exact receivedLoop_orders (fun frame hframe => hinverts _ _ (marshal_of_received hframe)) 0

end Stream

/-- What was received of a stream of orders is read back: `iter_sse_events` yields one event for each order
whose blank line was received, in their order, with the identifier and the JSON text of the frame, and nothing
else; and `iter_received_orders` yields exactly these orders. -/
structure ReadBack {τ : Type*} (language : Workers.Language) (monotonicClock epochClock : ℕ → τ)
    (marshal : OrderStatus → Option (List Char)) (loads : List Char → Option Json)
    (snapshotJson : SanitizedOrderSnapshot → Json) (writes : List SseWrite) (n : ℕ) : Prop where
  events : iterSseEvents {} (lines newline (encode ((written marshal writes).take n))) =
    ((received marshal writes n).map orderEvent, none)
  orders : iterReceivedOrders language loads monotonicClock epochClock
      (some (encode ((written marshal writes).take n))) =
    (((received marshal writes n).zipIdx).map fun (frame, call) =>
      receivedOrder snapshotJson monotonicClock epochClock call frame, none)

/-- What `orderEventsHandler` writes is a sequence of orders and keep-alive comments.  Whatever sequence of
them was written, and wherever it is cut off: it is read back if and only if no order that was received has a
blank identifier or status. -/
theorem order_stream_round_trip {τ : Type*} (language : Workers.Language) (monotonicClock epochClock : ℕ → τ)
    (marshal : OrderStatus → Option (List Char)) (loads : List Char → Option Json)
    (snapshotJson : SanitizedOrderSnapshot → Json)
    (hclean : ∀ order encoded, marshal order = some encoded → '\r' ∉ encoded ∧ '\n' ∉ encoded)
    (hinverts : ∀ order encoded, marshal order = some encoded →
      loads encoded = some (.object (orderFields snapshotJson order))) :
    (∀ orderId sessionId view selected, ∃ writes,
      orderEventsHandler marshal orderId sessionId view selected = written marshal writes) ∧
    ∀ (writes : List SseWrite) (n : ℕ),
      ReadBack language monotonicClock epochClock marshal loads snapshotJson writes n ↔
        ∀ frame ∈ received marshal writes n, usable frame = true := by
  refine ⟨orderEventsHandler_written marshal, fun writes n => ?_⟩
  have hevents := iterSseEvents_written
    (fun order encoded h => isLineEnd_of_clean (hclean order encoded h)) writes n
  have horders := iterReceivedOrders_written language monotonicClock epochClock hclean hinverts writes n
  constructor
  · rintro ⟨-, hread⟩ frame hframe
    -- no error was raised, so no frame was left
    have hnone : ((received marshal writes n).dropWhile usable).head?.map omission = none :=
      (Prod.mk.inj (horders.symm.trans hread)).2
    have hempty : (received marshal writes n).dropWhile usable = [] := by
      simpa using hnone
    exact List.dropWhile_eq_nil_iff.mp hempty frame hframe
  · intro husable
    refine ⟨hevents, horders.trans ?_⟩
    rw [List.takeWhile_eq_self_iff.mpr husable, List.dropWhile_eq_nil_iff.mpr husable]
    rfl

/-! ## Streams of the handler -/

namespace Sample

/-- No snapshot is encoded. -/
def snapshotJson (_ : SanitizedOrderSnapshot) : Json := .null

/-- `json.Marshal` of a few orders. -/
def marshal (texts : List (OrderStatus × List Char)) (order : OrderStatus) : Option (List Char) :=
  (texts.find? fun entry => entry.1 = order).map Prod.snd

/-- `json.loads` of their texts. -/
def loads (texts : List (OrderStatus × List Char)) (text : List Char) : Option Json :=
  (texts.find? fun entry => entry.2 = text).map fun entry => .object (orderFields snapshotJson entry.1)

/-- What is encoded is one of the orders, with its text. -/
lemma mem_of_marshal {texts : List (OrderStatus × List Char)} {order : OrderStatus} {text : List Char}
    (h : marshal texts order = some text) : (order, text) ∈ texts := by
  obtain ⟨entry, hentry, rfl⟩ := Option.map_eq_some_iff.mp h
  have horder : entry.1 = order := by simpa using List.find?_some hentry
  rw [← horder]
  exact List.mem_of_find?_eq_some hentry

/-- The text of an order is decoded to it, if no two orders have one text. -/
lemma loads_marshal {texts : List (OrderStatus × List Char)} (htexts : (texts.map Prod.snd).Nodup)
    {order : OrderStatus} {text : List Char} (h : marshal texts order = some text) :
    loads texts text = some (.object (orderFields snapshotJson order)) := by
  have hmem := mem_of_marshal h
  clear h
  unfold loads
  induction texts with
  | nil => cases hmem
  | cons entry texts ih =>
    rw [List.map_cons, List.nodup_cons] at htexts
    rcases List.mem_cons.mp hmem with rfl | hmem
    · rw [List.find?_cons_of_pos (by simp)]
      rfl
    · have hne : entry.2 ≠ text := by
        rintro rfl
        exact htexts.1 (List.mem_map.mpr ⟨_, hmem, rfl⟩)
      rw [List.find?_cons_of_neg (by simpa using hne)]
      exact ih htexts.2 hmem

/-- The snapshot for an order that was not found. -/
def queued : OrderStatus := queuedOrder "order-1" "session-1"

/-- A completed order, whose confirmation was not sent yet. -/
def completed : OrderStatus where
  orderId := "order-1"
  userId := "session-1"
  status := "COMPLETED"
  stage := "COMPLETED"
  updatedAt := unixEpoch

/-- The fields of a JSON text that name the order and its user. -/
def namesText : List Char :=
  "\x7b\"order_id\":\"order-1\",".toList ++ "\"user_id\":\"session-1\",".toList

/-- The two orders with their JSON texts. -/
def texts : List (OrderStatus × List Char) :=
  [(queued, namesText ++ "\"status\":\"QUEUED\",".toList ++ "\"stage\":\"QUEUED\",".toList ++
      "\"updated_at\":".toList ++ "\"0001-01-01T00:00:00Z\"\x7d".toList),
    (completed, namesText ++ "\"status\":\"COMPLETED\",".toList ++ "\"stage\":\"COMPLETED\",".toList ++
      "\"updated_at\":".toList ++ "\"1970-01-01T00:00:00Z\"\x7d".toList)]

/-- The stream for an order that was not found and is completed then. -/
def stream : List Char :=
  orderEventsHandler (marshal texts) "order-1" "session-1" none
    [.heartbeat, .message (some completed), .heartbeat]

/-- The writes of the stream. -/
def writes : List SseWrite := [.order queued, .keepAlive, .order completed, .keepAlive]

/-- The texts are one line each. -/
lemma texts_clean : ∀ entry ∈ texts, '\r' ∉ entry.2 ∧ '\n' ∉ entry.2 := by
  decide +kernel

end Sample

/-- Of a stream whose last comment is cut off both orders are yielded. -/
theorem completed_order_read_back :
    iterReceivedOrders Workers.Sample.plain (Sample.loads Sample.texts) id id
        (some (encode (Sample.stream.take 350))) =
      ([⟨orderFields Sample.snapshotJson Sample.queued, some "0001-01-01T00:00:00Z".toList, 0, 0⟩,
        ⟨orderFields Sample.snapshotJson Sample.completed, some "1970-01-01T00:00:00Z".toList, 1, 1⟩],
        none) := by
  have hwritten : Sample.stream = written (Sample.marshal Sample.texts) Sample.writes := rfl
  have hreceived : received (Sample.marshal Sample.texts) Sample.writes 350 = Sample.texts := by
    decide +kernel
  have husable : ∀ frame ∈ received (Sample.marshal Sample.texts) Sample.writes 350,
      usable frame = true := by
    rw [hreceived]
    decide +kernel
  have hread := ((order_stream_round_trip Workers.Sample.plain id id (Sample.marshal Sample.texts)
    (Sample.loads Sample.texts) Sample.snapshotJson
    (fun order encoded h => Sample.texts_clean _ (Sample.mem_of_marshal h))
    (fun order encoded h => Sample.loads_marshal (by decide +kernel) h)).2 Sample.writes 350).mpr husable
  have hqueued : formatRFC3339Nano Sample.queued.updatedAt = "0001-01-01T00:00:00Z".toList := by
    decide +kernel
  have hcompleted : formatRFC3339Nano Sample.completed.updatedAt = "1970-01-01T00:00:00Z".toList := by
    decide +kernel
  rw [hwritten, hread.orders, hreceived, ← hqueued, ← hcompleted]
  rfl

/-! ## An order without a status -/

namespace Sample

/-- An event about the order. -/
def fact (subject : EventSubject) (messageId : String) (version : ℕ) (data : Payload) : Storefront.Fact where
  subject := subject
  envelope :=
    { messageId := messageId, messageType := "", occurredAt := some unixEpoch, producer := ""
      aggregateType := "order", aggregateId := "order-1", aggregateVersion := version
      correlationId := "order-1", data := data }
  publishedAt := unixEpoch

/-- The confirmation was sent. -/
def confirmed : Storefront.Fact := fact .orderConfirmationSent "event-2" 6 (.orderConfirmationSent "order-1")

/-- The order was submitted. -/
def submitted : Storefront.Fact :=
  fact .orderSubmitted "event-1" 1 (.orderSubmitted "order-1"
    (some { orderId := "order-1", userId := "session-1", email := "", shippingAddress := none
            shippingCost := none, total := none }) 1 1 1)

/-- The view that is stored when the confirmation is projected before the order. -/
def backfilledView : Storefront.OrderView where
  sourceEventId := "event-1"
  sourceVersion := 1
  appliedEventIds := ["event-2", "event-1"]
  orderId := "order-1"
  userId := "session-1"
  notificationStatus := .sent
  aggregateVersion := 6
  updatedAt := unixEpoch

/-- The order of the view. -/
def backfilled : OrderStatus := .ofView backfilledView

/-- The order with its JSON text. -/
def backfilledTexts : List (OrderStatus × List Char) :=
  [(backfilled, namesText ++ "\"status\":\"\",".toList ++ "\"notification_status\":\"SENT\",".toList ++
    "\"updated_at\":".toList ++ "\"1970-01-01T00:00:00Z\"\x7d".toList)]

/-- The stream of the user of the order. -/
def backfilledStream : List Char :=
  orderEventsHandler (marshal backfilledTexts) "order-1" "session-1" (some backfilled) []

end Sample

/-- Where the confirmation of an order is projected before the order, the handler writes the order without a
status to its user, and the order is not yielded. -/
theorem backfilled_order_not_yielded :
    (∃ buckets buckets', Storefront.deliver {} (unixEpoch, Sample.confirmed) = .ok buckets ∧
      Storefront.deliver buckets (unixEpoch, Sample.submitted) = .ok buckets' ∧
      buckets'.orders "order-1" = some Sample.backfilledView) ∧
    Sample.backfilledStream = written (Sample.marshal Sample.backfilledTexts) [.order Sample.backfilled] ∧
    received (Sample.marshal Sample.backfilledTexts) [.order Sample.backfilled]
      Sample.backfilledStream.length = Sample.backfilledTexts ∧
    iterReceivedOrders Workers.Sample.plain (Sample.loads Sample.backfilledTexts) id id
      (some (encode Sample.backfilledStream)) = ([], some (.error "order event omitted status")) ∧
    ¬ReadBack Workers.Sample.plain id id (Sample.marshal Sample.backfilledTexts)
      (Sample.loads Sample.backfilledTexts) Sample.snapshotJson [.order Sample.backfilled]
      Sample.backfilledStream.length := by
  have hwritten : Sample.backfilledStream =
      written (Sample.marshal Sample.backfilledTexts) [.order Sample.backfilled] := rfl
  have hreceived : received (Sample.marshal Sample.backfilledTexts) [.order Sample.backfilled]
      Sample.backfilledStream.length = Sample.backfilledTexts := by
    decide +kernel
  have hclean : ∀ entry ∈ Sample.backfilledTexts, '\r' ∉ entry.2 ∧ '\n' ∉ entry.2 := by
    decide +kernel
  have hread := iterReceivedOrders_written Workers.Sample.plain id id
    (fun order encoded h => hclean _ (Sample.mem_of_marshal h))
    (fun order encoded h => Sample.loads_marshal (by simp [Sample.backfilledTexts]) h)
    [.order Sample.backfilled] Sample.backfilledStream.length
  have hblank : Sample.backfilledTexts.takeWhile usable = [] ∧
      (Sample.backfilledTexts.dropWhile usable).head?.map omission =
        some (.error "order event omitted status") := by
    decide +kernel
  rw [hreceived, ← hwritten, List.take_length, hblank.1, hblank.2] at hread
  refine ⟨⟨_, _, rfl, rfl, rfl⟩, hwritten, hreceived, hread, fun hback => ?_⟩
  have hraised := hback.orders
  rw [← hwritten, List.take_length] at hraised
  cases (Prod.mk.inj (hread.symm.trans hraised)).2

end Boutique.Benchmark.Sse
