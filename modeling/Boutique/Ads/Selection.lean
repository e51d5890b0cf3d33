import Boutique.Lib.NewestPerKey
import Boutique.Common.Message

/-!
# The selection of ads

`decodeEnvelope`, `freshestPageViews` and `handle` of `adservice/NatsEventWorker.java`, and `selectAds` of
`AdService.java`, and `inject` of `Telemetry.java`.  A Java exception is the error of an `Except`.  Hash
functions, the shuffle of `Collections` and the trace context of the current span are parameters.

The iteration order of `adsMap` differs from process to process, since it is made by `Map.of`.
-/

namespace Boutique.Ads

open NewestPerKey

/-! ## Page views -/

/-- `StorefrontPageViewedEvent`, as far as the worker reads it. -/
structure PageView where
  sessionId : String
  pageType : String
  categoryIds : List String
  deriving DecidableEq

/-- The fields of a `MessageEnvelope` that the worker reads.  The payload is `none` if it does not unpack to
a page view. -/
structure Envelope where
  messageId : String
  occurredAt : Option (ℤ × ℤ)
  aggregateId : String
  aggregateVersion : ℕ
  correlationId : String
  traceparent : String := ""
  tracestate : String := ""
  data : Option PageView
  deriving DecidableEq

/-- A message of the stream, with its number.  The envelope is `none` if `parseFrom` throws. -/
structure Message where
  number : ℕ
  envelope : Option Envelope
  deriving DecidableEq

/-- An `Instant`, in nanoseconds after `Instant.EPOCH`. -/
abbrev Instant := ℤ

/-- The last second of `Instant.MAX`. -/
def maxSecond : ℤ := 31556889864403199

/-- The first second of `Instant.MIN`. -/
def minSecond : ℤ := -31557014167219200

/-- The instant, or the `DateTimeException` of one that is out of range. -/
def checkInstant (nanos : ℤ) : Except String Instant :=
  if minSecond * 1000000000 ≤ nanos ∧ nanos < (maxSecond + 1) * 1000000000 then .ok nanos
  else .error "Instant exceeds minimum or maximum instant"

/-- `Instant.ofEpochSecond`. -/
def ofEpochSecond (seconds nanos : ℤ) : Except String Instant := checkInstant (seconds * 1000000000 + nanos)

/-- An ad of the service. -/
structure Ad where
  redirectUrl : String
  text : String
  deriving DecidableEq

/-- What the worker takes from libraries. -/
structure AdEnv where
  /-- `seed`: the first eight bytes of a SHA-256, as a `long`. -/
  seed : String → ℤ
  /-- `nameUuid` of the UTF-8 of a text. -/
  nameUuid : String → String
  /-- `Collections.shuffle` with a `Random` of a seed. -/
  shuffle : ℤ → List Ad → List Ad

variable (env : AdEnv)

/-- `contextVersion`.  A `uint64` is a signed `long` in Java. -/
def contextVersion (source : Envelope) : ℤ :=
  let version := Int.bmod source.aggregateVersion (2 ^ 64)
  if version = 0 then
    let version := env.seed source.messageId % 2 ^ 63
    if version = 0 then 1 else version
  else version

/-- `PageViewInput`. -/
structure PageViewInput where
  message : Message
  source : Option Envelope
  decodeException : Option String
  version : ℤ
  eventTime : Instant
  deriving DecidableEq

/-- The time of the envelope, `Instant.EPOCH` if it has none. -/
def Envelope.eventTime (source : Envelope) : Except String Instant :=
  match source.occurredAt with
  | some (seconds, nanos) => ofEpochSecond seconds nanos
  | none => .ok 0

/-- `decodeEnvelope`. -/
def decodeEnvelope (message : Message) : PageViewInput :=
  match message.envelope with
  | none => { message, source := none, decodeException := some "InvalidProtocolBufferException"
              version := 0, eventTime := 0 }
  | some source =>
    match source.eventTime with
    | .error text =>
      { message, source := some source, decodeException := some text, version := 0, eventTime := 0 }
    | .ok eventTime => { message, source := some source, decodeException := none
                         version := contextVersion env source, eventTime }

/-- The message of an input. -/
lemma decodeEnvelope_message (message : Message) : (decodeEnvelope env message).message = message := by
  unfold decodeEnvelope
  split
  · rfl
  · split <;> rfl

/-! ## The freshest page views -/

/-- `Character.isWhitespace`. -/
def isWhitespace (c : Char) : Bool :=
  let code := c.toNat
  (0x9 ≤ code && code ≤ 0xd) || (0x1c ≤ code && code ≤ 0x20) || code = 0x1680 ||
    (0x2000 ≤ code && code ≤ 0x200a && code ≠ 0x2007) || code = 0x2028 || code = 0x2029 ||
    code = 0x205f || code = 0x3000

/-- `String.isBlank` of Java. -/
def blank (text : String) : Bool := text.toList.all isWhitespace

/-- The session of a page view. -/
def PageViewInput.session (input : PageViewInput) : String :=
  (input.source.map Envelope.aggregateId).getD ""

/-- The first test of the loop: the input is left to the normal processing. -/
def PageViewInput.unfiltered (input : PageViewInput) : Bool :=
  input.decodeException.isSome || input.source.isNone || blank input.session

/-- The second test of the loop: the page view is stale. -/
def PageViewInput.stale (now : Instant) (maxAge : ℤ) (input : PageViewInput) : Bool :=
  input.eventTime ≠ 0 && maxAge < now - input.eventTime

/-- The variables of the loop. -/
structure Loop where
  retained : List PageViewInput := []
  discarded : List PageViewInput := []
  newest : List PageViewInput := []

/-- One iteration of the loop. -/
def Loop.next (now : Instant) (maxAge : ℤ) (loop : Loop) (input : PageViewInput) : Loop :=
  if input.unfiltered then { loop with retained := loop.retained ++ [input] }
  else if input.stale now maxAge then { loop with discarded := loop.discarded ++ [input] }
  else
    let (newest, superseded) := offer PageViewInput.session PageViewInput.version loop.newest input
    { loop with newest := newest, discarded := loop.discarded ++ superseded.toList }

/-- `FilteredPageViews`. -/
structure FilteredPageViews where
  retained : List PageViewInput
  discarded : List PageViewInput

/-- `freshestPageViews`. -/
def freshestPageViews (inputs : List PageViewInput) (now : Instant) (maxAge : ℤ) :
    Except String FilteredPageViews :=
  if maxAge < 0 then .error "page-view max age must not be negative"
  else
    let loop := inputs.foldl (Loop.next now maxAge) {}
    .ok { retained := loop.retained ++ loop.newest, discarded := loop.discarded }

/-- The page view is dropped because it is stale. -/
def PageViewInput.dropped (now : Instant) (maxAge : ℤ) (input : PageViewInput) : Bool :=
  !input.unfiltered && input.stale now maxAge

/-- Another page view of the session that is not older. -/
def PageViewInput.SupersededBy (input newer : PageViewInput) : Prop :=
  newer.session = input.session ∧ input.version ≤ newer.version ∧
    newer.message.number ≠ input.message.number

/-- What the loop knows after the first inputs: they are retained, in the table, or discarded for a reason. -/
structure Loop.Sound (now : Instant) (maxAge : ℤ) (seen : List PageViewInput) (loop : Loop) : Prop where
  retained : ∀ input ∈ loop.retained, input ∈ seen
  table : ∃ offered, (∀ input ∈ offered, input ∈ seen) ∧
    Table PageViewInput.session PageViewInput.version offered loop.newest
  discarded : ∀ input ∈ loop.discarded, input ∈ seen ∧
    (input.dropped now maxAge = true ∨ ∃ newer ∈ seen, input.SupersededBy newer)

section Loop

variable {now : Instant} {maxAge : ℤ} {seen inputs : List PageViewInput} {loop : Loop} {input : PageViewInput}

/-- The page views of a table were offered. -/
lemma offered_of_table {offered table : List PageViewInput}
    (h : Table PageViewInput.session PageViewInput.version offered table) (hinput : input ∈ table) :
    input ∈ offered := by
  obtain ⟨pre, post, hsplit, -⟩ := h.lastMax input hinput
  have hmem : input ∈ offered.filter fun w => w.session = input.session := by
    rw [hsplit]
    exact List.mem_append_right _ List.mem_cons_self
  exact List.mem_of_mem_filter hmem

/-- A page view that is offered supersedes one of the table, or is superseded by it. -/
lemma superseded_of_offer {table : List PageViewInput} {old : PageViewInput}
    (hnodup : (table.map PageViewInput.session).Nodup)
    (hfresh : ∀ x ∈ table, x.message.number ≠ input.message.number)
    (hold : (offer PageViewInput.session PageViewInput.version table input).2 = some old) :
    (old ∈ table ∨ old = input) ∧ ∃ newer, (newer ∈ table ∨ newer = input) ∧ old.SupersededBy newer := by
  have hcases := offer_cases PageViewInput.version input hnodup
  rw [hold] at hcases
  generalize (offer PageViewInput.session PageViewInput.version table input).1 = table' at hcases
  cases hcases with
  | @replaced pre post _ htable hkey _ _ hversion =>
    have hmem : old ∈ table := by simp [htable]
    exact ⟨.inl hmem, input, .inr rfl, hkey.symm, hversion, (hfresh old hmem).symm⟩
  | @refused pre post newer htable hkey _ _ hversion =>
    have hmem : newer ∈ table := by simp [htable]
    exact ⟨.inr rfl, newer, .inl hmem, hkey, hversion.le, hfresh newer hmem⟩

/-- One iteration on a new page view. -/
lemma Loop.Sound.next (h : loop.Sound now maxAge seen)
    (hfresh : ∀ x ∈ seen, x.message.number ≠ input.message.number) :
    (loop.next now maxAge input).Sound now maxAge (seen ++ [input]) := by
  have hseen : ∀ x ∈ seen, x ∈ seen ++ [input] := fun x => List.mem_append_left _
  have hlast : input ∈ seen ++ [input] := List.mem_append_right _ List.mem_cons_self
  obtain ⟨offered, hoffered, htable⟩ := h.table
  have hdiscarded : ∀ x ∈ loop.discarded, x ∈ seen ++ [input] ∧
      (x.dropped now maxAge = true ∨ ∃ newer ∈ seen ++ [input], x.SupersededBy newer) := by
    intro x hx
    obtain ⟨hmem, hreason⟩ := h.discarded x hx
    exact ⟨hseen x hmem, hreason.imp id fun ⟨newer, hnewer, hby⟩ => ⟨newer, hseen newer hnewer, hby⟩⟩
  unfold Loop.next
  split_ifs with hunfiltered hstale
  · -- the page view is left to the processing
    refine ⟨fun x hx => ?_, ⟨offered, fun x hx => hseen x (hoffered x hx), htable⟩, hdiscarded⟩
    rcases List.mem_append.mp hx with hx | hx
    · exact hseen x (h.retained x hx)
    · exact List.mem_append_right _ hx
  · -- it is stale
    refine ⟨fun x hx => hseen x (h.retained x hx),
      ⟨offered, fun x hx => hseen x (hoffered x hx), htable⟩, fun x hx => ?_⟩
    rcases List.mem_append.mp hx with hx | hx
    · exact hdiscarded x hx
    · obtain rfl := List.mem_singleton.mp hx
      exact ⟨hlast, .inl (by simp [PageViewInput.dropped, hunfiltered, hstale])⟩
  · -- it is offered to the table
    have hintable : ∀ x ∈ loop.newest, x ∈ seen := fun x hx => hoffered x (offered_of_table htable hx)
    refine ⟨fun x hx => hseen x (h.retained x hx), ⟨offered ++ [input], fun x hx => ?_, htable.offer input⟩,
      fun x hx => ?_⟩
    · rcases List.mem_append.mp hx with hx | hx
      · exact hseen x (hoffered x hx)
      · exact List.mem_append_right _ hx
    · rcases List.mem_append.mp hx with hx | hx
      · exact hdiscarded x hx
      · have hold := Option.mem_toList.mp hx
        obtain ⟨hmem, newer, hnewer, hby⟩ := superseded_of_offer htable.nodup
          (fun y hy => hfresh y (hintable y hy)) hold
        have hboth : ∀ y, y ∈ loop.newest ∨ y = input → y ∈ seen ++ [input] := by
          rintro y (hy | rfl)
          · exact hseen y (hintable y hy)
          · exact hlast
        exact ⟨hboth x hmem, .inr ⟨newer, hboth newer hnewer, hby⟩⟩

/-- The loop over different page views. -/
lemma Loop.sound_of_foldl (hnodup : (inputs.map fun input => input.message.number).Nodup) :
    (inputs.foldl (Loop.next now maxAge) {}).Sound now maxAge inputs := by
  induction inputs using List.reverseRecOn with
  | nil =>
    exact ⟨by simp, ⟨[], by simp, table_newest PageViewInput.session PageViewInput.version []⟩, by simp⟩
  | append_singleton inputs input ih =>
    rw [List.map_append, List.nodup_append] at hnodup
    obtain ⟨hinputs, -, hdisjoint⟩ := hnodup
    rw [List.foldl_append]
    refine (ih hinputs).next fun x hx hsame => ?_
    exact hdisjoint _ (List.mem_map_of_mem hx) input.message.number (by simp) hsame

/-- What is retained of a batch was fetched, and what is discarded is stale or superseded in the batch. -/
theorem freshestPageViews_spec {filtered : FilteredPageViews}
    (hnodup : (inputs.map fun input => input.message.number).Nodup)
    (h : freshestPageViews inputs now maxAge = .ok filtered) :
    (∀ input ∈ filtered.retained, input ∈ inputs) ∧ ∀ input ∈ filtered.discarded, input ∈ inputs ∧
      (input.dropped now maxAge = true ∨ ∃ newer ∈ inputs, input.SupersededBy newer) := by
  unfold freshestPageViews at h
  split_ifs at h
  cases h
  have hsound : (inputs.foldl (Loop.next now maxAge) {}).Sound now maxAge inputs := Loop.sound_of_foldl hnodup
  refine ⟨fun input hinput => ?_, hsound.discarded⟩
  rcases List.mem_append.mp hinput with hmem | hmem
  · exact hsound.retained input hmem
  · obtain ⟨offered, hoffered, htable⟩ := hsound.table
    exact hoffered input (offered_of_table htable hmem)

end Loop

/-! ## The selection -/

/-- `createAdsMap`, in some order. -/
def adsMap : List (String × List Ad) :=
  [("clothing", [⟨"/product/66VCHSJNUP", "Tank top for sale. 20% off."⟩]),
    ("accessories", [⟨"/product/1YMWWN1N4O", "Watch for sale. Buy one, get second kit for free"⟩]),
    ("footwear", [⟨"/product/L9ECAV7KIM", "Loafers for sale. Buy one, get second one for free"⟩]),
    ("hair", [⟨"/product/2ZYFJ3GM2N", "Hairdryer for sale. 50% off."⟩]),
    ("decor", [⟨"/product/0PUK6V6EV0", "Candle holder for sale. 30% off."⟩]),
    ("kitchen", [⟨"/product/9SIQT8TOJO", "Bamboo glass jar for sale. 10% off."⟩,
      ⟨"/product/6E92ZMYYFZ", "Mug for sale. Buy two, get third one for free"⟩])]

/-- `adsMap.getOrDefault` with an empty list. -/
def adsOf (category : String) : List Ad :=
  match adsMap.find? fun entry => entry.1 = category with
  | some entry => entry.2
  | none => []

/-- `MAX_ADS_TO_SERVE`. -/
def maxAdsToServe : ℕ := 2

/-- `selectAds`, in a process that iterates over `adsMap` in an order of its own. -/
def selectAds (order : List (String × List Ad)) (categories : List String) (seed : ℤ) : List Ad :=
  let matching := categories.flatMap adsOf
  let selected := if matching = [] then order.flatMap Prod.snd else matching
  (env.shuffle seed selected).take (min maxAdsToServe selected.length)

/-- `RESULT_SUBJECT`. -/
def resultSubject : String := "boutique.evt.ad.selection-generated.v1"

/-- `CONFIG_REVISION`. -/
def configRevision : String := "static-ads-v1"

/-- The envelope of an `AdSelectionGeneratedEvent`. -/
structure Selection where
  messageId : String
  messageType : String
  schemaVersion : ℕ := 1
  occurredAt : Instant
  producer : String
  aggregateType : String
  aggregateId : String
  aggregateVersion : ℤ
  correlationId : String
  causationId : String
  traceparent : String
  tracestate : String
  sessionId : String
  triggeringPageType : String
  expiresAt : Instant
  ads : List Ad
  deriving DecidableEq

/-- The message ID of the selection for a page view. -/
def selectionId (messageId : String) : String :=
  env.nameUuid (resultSubject ++ "\u0000" ++ messageId ++ "\u0000" ++ configRevision)

/-- What the propagator sets in an envelope for the current span: nothing unless tracing is enabled. -/
structure TraceContext where
  traceparent : Option String := none
  tracestate : Option String := none
  deriving DecidableEq

/-- `Telemetry.inject`. -/
def inject (trace : TraceContext) (result : Selection) : Selection :=
  { result with traceparent := trace.traceparent.getD result.traceparent
                tracestate := trace.tracestate.getD result.tracestate }

/-- The selection less its trace context. -/
def Selection.untraced (selection : Selection) : Selection :=
  { selection with traceparent := "", tracestate := "" }

/-- A span changes nothing but the trace context. -/
@[simp]
lemma untraced_inject (trace : TraceContext) (result : Selection) :
    (inject trace result).untraced = result.untraced := rfl

/-- `handle`: the selection that it publishes. -/
def handle (order : List (String × List Ad)) (trace : TraceContext) (input : PageViewInput) :
    Except String Selection :=
  match input.source with
  | none => .error "NullPointerException"
  | some source =>
    match source.data with
    | none => .error "InvalidProtocolBufferException"
    | some pageView => do
      let expiresAt ← checkInstant (input.eventTime + 600 * 1000000000)
      return inject trace
        { messageId := selectionId env source.messageId
          messageType := "boutique.ad.SelectionGenerated.v1"
          occurredAt := input.eventTime
          producer := "adservice/phase2"
          aggregateType := "ad-context"
          aggregateId := pageView.sessionId
          aggregateVersion := input.version
          correlationId := source.correlationId
          causationId := source.messageId
          traceparent := source.traceparent
          tracestate := source.tracestate
          sessionId := pageView.sessionId
          triggeringPageType := pageView.pageType
          expiresAt := expiresAt
          ads := selectAds env order pageView.categoryIds
            (env.seed (source.messageId ++ "\u0000" ++ configRevision)) }

/-- `processMessage`: an input that could not be decoded is not handled. -/
def process (order : List (String × List Ad)) (trace : TraceContext) (input : PageViewInput) :
    Except String Selection :=
  match input.decodeException with
  | some text => .error text
  | none => handle env order trace input

/-! ## The ads that are selected -/

section Ads

variable {env} {order order' : List (String × List Ad)} {categories : List String} {seed : ℤ} {ad : Ad}

/-- Some category of the page has ads. -/
def Known (categories : List String) : Prop := ∃ category ∈ categories, adsOf category ≠ []

/-- What a process shuffles: the ads of the categories, or all ads in its order. -/
lemma selectAds_eq_of_known (h : Known categories) : selectAds env order categories seed =
    (env.shuffle seed (categories.flatMap adsOf)).take
      (min maxAdsToServe (categories.flatMap adsOf).length) := by
  obtain ⟨category, hmem, hads⟩ := h
  have hne : categories.flatMap adsOf ≠ [] := fun hnil =>
    hads (List.flatMap_eq_nil_iff.mp hnil category hmem)
  simp only [selectAds, hne, if_false]

/-- The ads of a page with a known category are of its categories. -/
lemma mem_of_mem_selectAds (hshuffle : ∀ seed ads, (env.shuffle seed ads).Perm ads)
    (h : Known categories) (had : ad ∈ selectAds env order categories seed) :
    ∃ category ∈ categories, ad ∈ adsOf category := by
  rw [selectAds_eq_of_known h] at had
  exact List.mem_flatMap.mp ((hshuffle _ _).mem_iff.mp (List.mem_of_mem_take had))

/-- One or two ads are selected. -/
lemma length_selectAds (hshuffle : ∀ seed ads, (env.shuffle seed ads).Perm ads)
    (horder : order.Perm adsMap) (categories : List String) (seed : ℤ) :
    1 ≤ (selectAds env order categories seed).length ∧
      (selectAds env order categories seed).length ≤ maxAdsToServe := by
  have hall : order.flatMap Prod.snd ≠ [] := by
    intro hnil
    have hfirst : ("clothing", [⟨"/product/66VCHSJNUP", "Tank top for sale. 20% off."⟩]) ∈ order :=
      horder.mem_iff.mpr List.mem_cons_self
    exact List.cons_ne_nil _ _ (List.flatMap_eq_nil_iff.mp hnil _ hfirst)
  have hpos : ∀ ads : List Ad, ads ≠ [] → 1 ≤ ((env.shuffle seed ads).take
      (min maxAdsToServe ads.length)).length ∧
      ((env.shuffle seed ads).take (min maxAdsToServe ads.length)).length ≤ maxAdsToServe := by
    intro ads hads
    have hlength := List.length_pos_iff.mpr hads
    rw [List.length_take, (hshuffle seed ads).length_eq]
    simp only [maxAdsToServe]
    omega
  simp only [selectAds]
  by_cases hnil : categories.flatMap adsOf = []
  · rw [if_pos hnil]
    exact hpos _ hall
  · rw [if_neg hnil]
    exact hpos _ hnil

end Ads

end Boutique.Ads
