import Boutique.Benchmark.Python
import Boutique.Frontend.OrderSse
import Boutique.Lib.Lines

/-!
# Reading an order stream

`benchmarkservice/sse.py`: `iter_sse_events` splits the lines of a stream into events, and
`iter_received_orders` decodes those named `order`.  A text is the list of its characters.  `json.loads` and
the clocks are parameters.

What the frontend has written is read back: whatever part of it was received, each frame with its blank line
is one event.  An order whose identifier or status is blank ends the orders with an error.
-/

namespace Boutique.Benchmark.Sse

open Workers Lines Frontend.Sse

/-! ## `iter_sse_events` -/

/-- `SSEProtocolError`, with its text. -/
inductive SSEProtocolError where
  | error (text : String)
  deriving DecidableEq

/-- `ServerSentEvent`. -/
structure ServerSentEvent where
  event : List Char
  data : List Char
  eventId : Option (List Char)
  deriving DecidableEq

/-- The variables of `iter_sse_events`. -/
structure SseParser where
  eventType : List Char := "message".toList
  data : List (List Char) := []
  lastEventId : Option (List Char) := none
  firstLine : Bool := true

/-- A line without its end, and without a byte order mark if it is the first one. -/
def trimLine (firstLine : Bool) (line : List Char) : List Char :=
  let line := dropEnd (fun c => c == '\r' || c == '\n') line
  if firstLine && line.head? == some '\uFEFF' then line.tail else line

/-- `line.partition(":")`, and the space after the colon removed: the field and its value. -/
def splitField (line : List Char) : List Char × List Char :=
  let field := line.takeWhile (· != ':')
  match line.dropWhile (· != ':') with
  | [] => (field, [])
  | _ :: value => (field, if value.head? == some ' ' then value.tail else value)

/-- The body of the loop for a decoded line: the variables, and the event that is yielded. -/
def SseParser.line (parser : SseParser) (line : List Char) : SseParser × Option ServerSentEvent :=
  let line := trimLine parser.firstLine line
  let parser := { parser with firstLine := false }
  if line = [] then
    ({ parser with eventType := "message".toList, data := [] },
      if parser.data = [] then none
      else some { event := parser.eventType, data := ['\n'].intercalate parser.data
                  eventId := parser.lastEventId })
  else if line.head? = some ':' then (parser, none)
  else
    let (field, value) := splitField line
    if field = "event".toList then ({ parser with eventType := value }, none)
    else if field = "data".toList then ({ parser with data := parser.data ++ [value] }, none)
    else if field = "id".toList ∧ '\x00' ∉ value then ({ parser with lastEventId := some value }, none)
    else (parser, none)

/-- `iter_sse_events`: the events that are yielded, and the error that is raised, if any. -/
def iterSseEvents (parser : SseParser) : List (List UInt8) → List ServerSentEvent × Option SSEProtocolError
  | [] => ([], none)
  | rawLine :: rest =>
    match decode rawLine with
    | none => ([], some (.error "order event stream is not valid UTF-8"))
    | some line =>
      let (parser, event) := parser.line line
      let (events, error) := iterSseEvents parser rest
      (event.toList ++ events, error)

/-! ## `iter_received_orders` -/

/-- `ReceivedOrderEvent`, with the readings of the clocks in a type `τ`. -/
structure ReceivedOrderEvent (τ : Type*) where
  order : Dict
  eventId : Option (List Char)
  receivedMonotonic : τ
  receivedEpoch : τ

section Received

variable {τ : Type*} (language : Workers.Language) (loads : List Char → Option Json)
  (monotonicClock epochClock : ℕ → τ)

/-- `not str(order.get(name, "")).strip()`. -/
def omits (order : Dict) (name : String) : Bool :=
  strip (language.text ((order.get name).getD (.string ""))) = ""

/-- The checks of an event that is named `order`. -/
def decodeOrder (event : ServerSentEvent) : Except SSEProtocolError Dict :=
  match loads event.data with
  | none => .error (.error "order event data is not valid JSON")
  | some (.object order) =>
    if omits language order "order_id" then .error (.error "order event omitted order_id")
    else if omits language order "status" then .error (.error "order event omitted status")
    else .ok order
  | some _ => .error (.error "order event data is not a JSON object")

/-- The loop of `iter_received_orders` over the events, after `calls` readings of the clocks; `error` is what
ends the events. -/
def receivedLoop (error : Option SSEProtocolError) :
    ℕ → List ServerSentEvent → List (ReceivedOrderEvent τ) × Option SSEProtocolError
  | _, [] => ([], error)
  | calls, event :: events =>
    if event.event ≠ "order".toList then receivedLoop error calls events
    else
      match decodeOrder language loads event with
      | .error err => ([], some err)
      | .ok order =>
        let (orders, error) := receivedLoop error (calls + 1) events
        ({ order := order, eventId := event.eventId, receivedMonotonic := monotonicClock calls
           receivedEpoch := epochClock calls } :: orders, error)

/-- `iter_received_orders` of a response: `none` if it is not streamable, else the bytes that are received,
which are read line by line. -/
def iterReceivedOrders (response : Option (List UInt8)) :
    List (ReceivedOrderEvent τ) × Option SSEProtocolError :=
  match response with
  | none => ([], some (.error "order event response is not streamable"))
  | some bytes =>
    let (events, error) := iterSseEvents {} (lines newline bytes)
    receivedLoop language loads monotonicClock epochClock error 0 events

end Received

end Boutique.Benchmark.Sse
