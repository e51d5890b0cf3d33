import Boutique.Ads.Selection
import Boutique.Storefront.Converge
import Boutique.Lib.JoinedNames

/-!
# The ads of a session

`publishPageView` of `frontend/storefront.go`, by which a page view gets to the ad service, and the case of
`boutique.evt.ad.selection-generated.v1` in `applyEnvelope` of `storefrontprojectionservice/projection.go`,
by which a selection gets to the storefront.
-/

namespace Boutique.Ads

open Storefront

variable (env : AdEnv)

/-! ## Page views of the frontend -/

/-- `publishPageView`, less the fields that the worker does not read. -/
def publishPageView (session pageType : String) (categories : List String) (messageId requestId : String)
    (now : ℤ) : Envelope where
  messageId := messageId
  occurredAt := some (now / 1000000000, now % 1000000000)
  aggregateId := session
  aggregateVersion := (now % 2 ^ 64).toNat
  correlationId := requestId
  data := some { sessionId := session, pageType := pageType, categoryIds := categories }

/-- A page view as the frontend publishes it, while `UnixNano` is defined. -/
structure Envelope.OfFrontend (view : Envelope) : Prop where
  positive : 0 < view.aggregateVersion
  range : view.aggregateVersion < 2 ^ 63
  occurredAt : view.occurredAt =
    some ((view.aggregateVersion : ℤ) / 1000000000, (view.aggregateVersion : ℤ) % 1000000000)
  data : ∃ page, view.data = some page ∧ page.sessionId = view.aggregateId

/-- A clock between 1970 and 2262. -/
def ClockOk (now : ℤ) : Prop := 0 < now ∧ now < 2 ^ 63

instance (now : ℤ) : Decidable (ClockOk now) := inferInstanceAs (Decidable (_ ∧ _))

/-- `publishPageView` publishes such page views. -/
lemma publishPageView_ofFrontend {session pageType : String} {categories : List String}
    {messageId requestId : String} {now : ℤ} (h : ClockOk now) :
    (publishPageView session pageType categories messageId requestId now).OfFrontend := by
  obtain ⟨hpos, hlt⟩ := h
  have hmod : now % 2 ^ 64 = now := Int.emod_eq_of_lt hpos.le (by omega)
  have hnat : ((now % 2 ^ 64).toNat : ℤ) = now := by rw [hmod, Int.toNat_of_nonneg hpos.le]
  refine ⟨?_, ?_, ?_, _, rfl, rfl⟩
  · change 0 < (now % 2 ^ 64).toNat
    omega
  · change (now % 2 ^ 64).toNat < 2 ^ 63
    omega
  · change some (now / 1000000000, now % 1000000000) = _
    change _ = some (((now % 2 ^ 64).toNat : ℤ) / 1000000000, ((now % 2 ^ 64).toNat : ℤ) % 1000000000)
    rw [hnat]

/-- An instant between 1970 and a day after the end of `UnixNano`. -/
lemma checkInstant_eq {nanos : ℤ} (hpos : 0 ≤ nanos) (hlt : nanos < 2 ^ 63 + 86400 * 1000000000) :
    checkInstant nanos = .ok nanos := by
  refine if_pos ⟨?_, ?_⟩
  · simp only [minSecond]
    omega
  · simp only [maxSecond]
    omega

/-- A small `uint64` is the same as a `long`. -/
lemma bmod_of_lt {version : ℕ} (h : version < 2 ^ 63) : Int.bmod (version : ℤ) (2 ^ 64) = version := by
  refine Int.bmod_eq_of_le_mul_two ?_ ?_
  · omega
  · omega

/-- What the worker decodes of it. -/
lemma decodeEnvelope_ofFrontend {view : Envelope} (h : view.OfFrontend) (number : ℕ) :
    decodeEnvelope env ⟨number, some view⟩ =
      { message := ⟨number, some view⟩, source := some view, decodeException := none
        version := view.aggregateVersion, eventTime := view.aggregateVersion } := by
  have hrange := h.range
  have hpos := h.positive
  have htime : view.eventTime = .ok (view.aggregateVersion : ℤ) := by
    have hsum : (view.aggregateVersion : ℤ) / 1000000000 * 1000000000 +
        (view.aggregateVersion : ℤ) % 1000000000 = view.aggregateVersion := by omega
    simp only [Envelope.eventTime, h.occurredAt, ofEpochSecond, hsum]
    exact checkInstant_eq (by omega) (by omega)
  have hbmod := bmod_of_lt hrange
  have hversion : contextVersion env view = view.aggregateVersion := by
    have hne : (view.aggregateVersion : ℤ) ≠ 0 := by omega
    unfold contextVersion
    rw [hbmod]
    exact if_neg hne
  simp only [decodeEnvelope, htime, hversion]

/-! ## Answers -/

/-- The selection answers the page view. -/
structure Answers (view : Envelope) (selection : Selection) : Prop where
  messageId : selection.messageId = selectionId env view.messageId
  sessionId : selection.sessionId = view.aggregateId
  version : selection.aggregateVersion = view.aggregateVersion
  causationId : selection.causationId = view.messageId
  count : 1 ≤ selection.ads.length ∧ selection.ads.length ≤ maxAdsToServe
  /-- The ads are of the categories of the page, if there are any. -/
  page : ∃ page, view.data = some page ∧ selection.triggeringPageType = page.pageType ∧
    (Known page.categoryIds → ∀ ad ∈ selection.ads, ∃ category ∈ page.categoryIds, ad ∈ adsOf category)

/-- The page of a page view has a category with ads. -/
def Envelope.Known (view : Envelope) : Prop := ∃ page, view.data = some page ∧ Ads.Known page.categoryIds

/-- The selection that a process makes of a page view of the frontend, before the span is injected. -/
def selectionOf (order : List (String × List Ad)) (view : Envelope) (page : PageView) : Selection where
  messageId := selectionId env view.messageId
  messageType := "boutique.ad.SelectionGenerated.v1"
  occurredAt := view.aggregateVersion
  producer := "adservice/phase2"
  aggregateType := "ad-context"
  aggregateId := page.sessionId
  aggregateVersion := view.aggregateVersion
  correlationId := view.correlationId
  causationId := view.messageId
  traceparent := view.traceparent
  tracestate := view.tracestate
  sessionId := page.sessionId
  triggeringPageType := page.pageType
  expiresAt := (view.aggregateVersion : ℤ) + 600 * 1000000000
  ads := selectAds env order page.categoryIds (env.seed (view.messageId ++ "\u0000" ++ configRevision))

/-- A worker made the selection of the page view. -/
def MadeOf (number : ℕ) (view : Envelope) (selection : Selection) : Prop :=
  ∃ order trace, order.Perm adsMap ∧
    process env order trace (decodeEnvelope env ⟨number, some view⟩) = .ok selection

section Answers

variable {env} {view : Envelope} {number : ℕ} {selection selection' : Selection}
  {order : List (String × List Ad)}

/-- What a process makes of a page view of the frontend. -/
lemma process_ofFrontend (h : view.OfFrontend) {page : PageView} (hpage : view.data = some page)
    (order : List (String × List Ad)) (trace : TraceContext) :
    process env order trace (decodeEnvelope env ⟨number, some view⟩) =
      .ok (inject trace (selectionOf env order view page)) := by
  have hrange := h.range
  have hexpires : checkInstant ((view.aggregateVersion : ℤ) + 600 * 1000000000) =
      .ok ((view.aggregateVersion : ℤ) + 600 * 1000000000) :=
    checkInstant_eq (by omega) (by omega)
  simp only [process, decodeEnvelope_ofFrontend env h, handle, hpage]
  exact bind_eq_ok.mpr ⟨_, hexpires, rfl⟩

/-- Every page view of the frontend is understood. -/
lemma exists_selection (h : view.OfFrontend) (order : List (String × List Ad)) (trace : TraceContext) :
    ∃ selection, process env order trace (decodeEnvelope env ⟨number, some view⟩) = .ok selection := by
  obtain ⟨page, hpage, -⟩ := h.data
  exact ⟨_, process_ofFrontend h hpage order trace⟩

/-- A selection that was made, as a function of the page view, and of the order and the span of the process. -/
lemma MadeOf.eq (h : view.OfFrontend) {page : PageView} (hpage : view.data = some page)
    (hmade : MadeOf env number view selection) :
    ∃ order trace, order.Perm adsMap ∧ selection = inject trace (selectionOf env order view page) := by
  obtain ⟨order, trace, horder, hprocess⟩ := hmade
  rw [process_ofFrontend h hpage order trace] at hprocess
  cases hprocess
  exact ⟨order, trace, horder, rfl⟩

/-- A selection that was made answers its page view. -/
lemma MadeOf.answers (hshuffle : ∀ seed ads, (env.shuffle seed ads).Perm ads) (h : view.OfFrontend)
    (hmade : MadeOf env number view selection) : Answers env view selection := by
  obtain ⟨page, hpage, hsession⟩ := h.data
  obtain ⟨order, trace, horder, rfl⟩ := hmade.eq h hpage
  exact ⟨rfl, hsession, rfl, rfl, length_selectAds hshuffle horder _ _,
    page, hpage, rfl, fun hknown ad had => mem_of_mem_selectAds hshuffle hknown had⟩

/-- The processes agree on the page views of known categories, up to their spans. -/
lemma MadeOf.unique (h : view.OfFrontend) (hknown : view.Known) (hmade : MadeOf env number view selection)
    (hmade' : MadeOf env number view selection') : selection.untraced = selection'.untraced := by
  obtain ⟨page, hpage, hcategories⟩ := hknown
  obtain ⟨order, trace, -, rfl⟩ := hmade.eq h hpage
  obtain ⟨order', trace', -, rfl⟩ := hmade'.eq h hpage
  simp only [untraced_inject, selectionOf, selectAds_eq_of_known hcategories]

/-- A selection tells the page view. -/
lemma selectionId_injective (hname : Function.Injective env.nameUuid) {messageId messageId' : String}
    (h : selectionId env messageId = selectionId env messageId') : messageId = messageId' := by
  have hname := hname h
  simp only [String.append_assoc] at hname
  have hrest := JoinedNames.append_left_cancel (JoinedNames.append_left_cancel hname)
  exact JoinedNames.append_right_cancel hrest

end Answers

/-! ## The projection -/

/-- `AdView`. -/
structure AdView extends ProjectionMetadata where
  sessionId : String
  pageType : String
  contextVersion : ℕ
  ads : List Ad
  expiresAt : Time := Time.zero
  failureCode : String := ""
  updatedAt : Time
  deriving DecidableEq

/-- `AdKey`. -/
def adKey (sessionId : String) : String := "ad." ++ sessionId

/-- `AsTime` of a timestamp that `IsValid`: in the years 1 to 9999. -/
def asTime (instant : Instant) : Option Time :=
  if -62135596800 * 1000000000 ≤ instant ∧ instant < 253402300800 * 1000000000 then
    some (unixEpoch + instant)
  else none

/-- The call of `updateJSON` that `applyEnvelope` makes for a selection, with the clock reading `now`. -/
def adCall (now : Time) (selection : Selection) : Except ProjectionError (JsonCall AdView) :=
  if selection.schemaVersion ≠ 1 then .error (.message "unsupported or empty envelope")
  else if isBlank selection.messageId then .error (.message "envelope message ID is required")
  else
    let version := (selection.aggregateVersion % 2 ^ 64).toNat
    .ok { incomingVersion := version
          incomingSourceEventId := selection.messageId
          next := { sourceEventId := selection.messageId
                    sourceVersion := version
                    appliedEventIds := [selection.messageId]
                    sessionId := selection.sessionId
                    pageType := selection.triggeringPageType
                    contextVersion := version
                    ads := selection.ads
                    expiresAt := (asTime selection.expiresAt).getD Time.zero
                    updatedAt := (asTime selection.occurredAt).getD now } }

/-- The loop of `updateJSON` on an ad view. -/
def adLoop : CasLoop.Loop (JsonCall AdView) AdView Unit :=
  jsonLoop AdView.contextVersion fun view => view.sourceEventId

/-- The view shows the selection. -/
structure AdView.Shows (view : AdView) (selection : Selection) : Prop where
  sourceEventId : view.sourceEventId = selection.messageId
  sessionId : view.sessionId = selection.sessionId
  pageType : view.pageType = selection.triggeringPageType
  contextVersion : view.contextVersion = (selection.aggregateVersion % 2 ^ 64).toNat
  ads : view.ads = selection.ads

/-- What a call for a selection stores. -/
lemma adCall_spec {now : Time} {selection : Selection} {call : JsonCall AdView}
    (h : adCall now selection = .ok call) :
    call.WellFormed AdView.contextVersion (fun view => view.sourceEventId) ∧
      call.incomingSourceEventId = selection.messageId ∧
      call.incomingVersion = (selection.aggregateVersion % 2 ^ 64).toNat ∧
      call.next.Shows selection := by
  unfold adCall at h
  split_ifs at h
  cases h
  exact ⟨⟨rfl, rfl⟩, rfl, rfl, rfl, rfl, rfl, rfl, rfl⟩

/-- `updateJSON` is a gate, also when events with one ID differ in more than their version. -/
lemma adLoop_gate {P : JsonCall AdView → Prop}
    (hformed : ∀ call, P call → call.WellFormed AdView.contextVersion fun view => view.sourceEventId)
    (hids : ∀ e e', P e → P e' → e.incomingSourceEventId = e'.incomingSourceEventId →
      e.incomingVersion = e'.incomingVersion) :
    CasLoop.Gate adLoop JsonCall.next AdView.contextVersion P where
  keep := by
    intro call v next w result hdecide
    cases v with
    | none =>
      cases hdecide
      rfl
    | some v =>
      simp only [adLoop, jsonLoop] at hdecide
      split_ifs at hdecide
      cases hdecide
      rfl
  absent := fun _ => rfl
  present := by
    intro e e' he he'
    obtain ⟨hversion, -⟩ := hformed e he
    obtain ⟨hversion', hsource'⟩ := hformed e' he'
    simp only [adLoop, jsonLoop, hsource', hversion', hversion]
    by_cases hid : e'.incomingSourceEventId = e.incomingSourceEventId
    · have hsame := hids e' e he' he hid
      split_ifs <;> first | rfl | omega
    · simp [hid]

end Boutique.Ads
