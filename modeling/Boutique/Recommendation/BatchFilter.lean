import Boutique.Lib.NewestPerKey
import Boutique.Common.Message

/-!
# The batch filters of the recommendation service

`_fresh_page_views` and `_latest_cart_triggers` of `recommendationservice/nats_events.py`.  Of the
triggers of a batch that can be decoded the newest one of each session is retained, and the others are
acknowledged.  Messages that cannot be decoded are retained for the normal processing.  The time of a page
view is read after it was decoded, outside of the `try`: a time that is out of range ends the filter with
an exception, and nothing of the batch is acknowledged or processed.
-/

namespace Boutique.Recommendation

open NewestPerKey

/-! ## Triggers -/

/-- `google.protobuf.Timestamp`. -/
structure Timestamp where
  seconds : ℤ := 0
  nanos : ℤ := 0
  deriving DecidableEq

/-- What a trigger can unpack from the payload of an envelope; `other` is a payload of another type, and
one that cannot be decoded. -/
inductive Fact where
  | pageViewed (sessionId productId : String)
  | cartItemAdded (userId : String) (productIds : List String)
  | cartCleared (userId : String)
  | other
  deriving DecidableEq

/-- The fields of a `MessageEnvelope` that the filters read. -/
structure Envelope where
  messageId : String
  aggregateType : String := ""
  aggregateVersion : ℕ := 0
  occurredAt : Timestamp := {}
  data : Fact
  deriving DecidableEq

/-- A message of a batch. -/
structure Message where
  subject : String
  data : List UInt8
  deriving DecidableEq

/-- `_DecodedTrigger`. -/
structure DecodedTrigger where
  message : Message
  envelope : Envelope
  sessionId : String
  excluded : List String
  contextVersion : ℤ
  deriving DecidableEq

/-- What the filters take from libraries. -/
structure FilterEnv where
  /-- `MessageEnvelope.FromString`, `none` where it raises. -/
  fromString : List UInt8 → Option Envelope
  /-- The first eight bytes of the SHA-256 of a message ID, as a number. -/
  digest : String → ℕ
  /-- `Timestamp.ToDatetime` in microseconds since the epoch, `none` where it raises. -/
  toDatetime : Timestamp → Option ℤ
  /-- Rounding of an exact result to the nearest `float`. -/
  round64 : ℚ → ℚ

/-- `PAGE_VIEW_SUBJECT`. -/
def pageViewSubject : String := "boutique.evt.storefront.page-viewed.v1"

/-- The subject of an added item. -/
def itemAddedSubject : String := "boutique.evt.cart.item-added.v1"

/-- The subject of a cleared cart. -/
def clearedSubject : String := "boutique.evt.cart.cleared.v1"

variable (env : FilterEnv)

/-- `_context_version`. -/
def contextVersion (envelope : Envelope) : ℤ :=
  if envelope.aggregateType = "storefront-session" ∧ envelope.aggregateVersion ≠ 0 then
    envelope.aggregateVersion
  else if envelope.occurredAt.seconds ≠ 0 then
    envelope.occurredAt.seconds * 1000000000 + envelope.occurredAt.nanos
  else
    let version : ℕ := env.digest envelope.messageId % 2 ^ 63
    if version = 0 then 1 else version

/-- `_trigger_time`, `none` where it raises. -/
def triggerTime (envelope : Envelope) : Option ℤ :=
  if envelope.occurredAt.seconds ≠ 0 ∨ envelope.occurredAt.nanos ≠ 0 then
    env.toDatetime envelope.occurredAt
  else some 0

/-- The session and the excluded products of a trigger. -/
def decodePayload (subject : String) (data : Fact) : Except String (String × List String) :=
  if subject = pageViewSubject then
    match data with
    | .pageViewed sessionId productId =>
      if sessionId = "" then .error "page-view payload is invalid"
      else .ok (sessionId, if productId = "" then [] else [productId])
    | _ => .error "page-view payload is invalid"
  else if subject = itemAddedSubject then
    match data with
    | .cartItemAdded userId productIds =>
      if userId = "" then .error "cart item payload is invalid" else .ok (userId, productIds)
    | _ => .error "cart item payload is invalid"
  else if subject = clearedSubject then
    match data with
    | .cartCleared userId =>
      if userId = "" then .error "cart clear payload is invalid" else .ok (userId, [])
    | _ => .error "cart clear payload is invalid"
  else .error "unsupported recommendation trigger subject"

/-- `_decode_trigger`. -/
def decodeTrigger (message : Message) : Except String DecodedTrigger :=
  match env.fromString message.data with
  | none => .error "Error parsing message"
  | some envelope => do
    let (sessionId, excluded) ← decodePayload message.subject envelope.data
    return { message, envelope, sessionId, excluded, contextVersion := contextVersion env envelope }

/-! ## The filters -/

/-- What a filter does with a message of the batch. -/
inductive Verdict where
  | retain
  | discard
  | offer (trigger : DecodedTrigger)

/-- The variables of the loops. -/
structure Loop where
  newest : List DecodedTrigger := []
  retained : List Message := []
  discarded : List Message := []

/-- The end of an iteration. -/
def Loop.next (loop : Loop) (message : Message) : Verdict → Loop
  | .retain => { loop with retained := loop.retained ++ [message] }
  | .discard => { loop with discarded := loop.discarded ++ [message] }
  | .offer trigger =>
    let offered := offer DecodedTrigger.sessionId DecodedTrigger.contextVersion loop.newest trigger
    { loop with
      newest := offered.1
      discarded := loop.discarded ++ offered.2.toList.map DecodedTrigger.message }

/-- An element of the list that a filter returns. -/
inductive Item where
  | raw (message : Message)
  | decoded (trigger : DecodedTrigger)

/-- The message of an element. -/
def Item.source : Item → Message
  | .raw message => message
  | .decoded trigger => trigger.message

/-- What a filter returns, and the messages it acknowledges. -/
structure Filtered where
  retained : List Item
  acked : List Message

/-- The end of a filter. -/
def Loop.result (loop : Loop) : Filtered where
  retained := loop.retained.map .raw ++ loop.newest.map .decoded
  acked := loop.discarded

/-- `(now - occurred_at).total_seconds()`. -/
def totalSeconds (now occurredAt : ℤ) : ℚ := env.round64 (((now - occurredAt : ℤ) : ℚ) / 1000000)

/-- An iteration of the loop of `_fresh_page_views`: the time of the trigger is read outside of the
`try`. -/
def pageViewVerdict (now : ℤ) (maxAge : ℚ) (message : Message) : Except String Verdict :=
  match decodeTrigger env message with
  | .error _ => .ok .retain
  | .ok trigger =>
    match triggerTime env trigger.envelope with
    | none => .error "Timestamp is not valid"
    | some occurredAt =>
      if 0 < occurredAt ∧ maxAge < totalSeconds env now occurredAt then .ok .discard
      else .ok (.offer trigger)

/-- `_fresh_page_views` at the time `now`, in microseconds since the epoch. -/
def freshPageViews (now : ℤ) (maxAge : ℚ) (messages : List Message) : Except String Filtered :=
  if maxAge < 0 then .error "RECOMMENDATION_PAGE_VIEW_MAX_AGE must not be negative"
  else do
    let loop ← messages.foldlM (fun loop message => do
      let verdict ← pageViewVerdict env now maxAge message
      return loop.next message verdict) {}
    return Loop.result loop

/-- An iteration of the loop of `_latest_cart_triggers`. -/
def cartVerdict (message : Message) : Verdict :=
  if message.subject ≠ itemAddedSubject ∧ message.subject ≠ clearedSubject then .retain
  else
    match decodeTrigger env message with
    | .error _ => .retain
    | .ok trigger => .offer trigger

/-- `_latest_cart_triggers`. -/
def latestCartTriggers (messages : List Message) : Filtered :=
  (messages.foldl (fun loop message => Loop.next loop message (cartVerdict env message)) {}).result

/-! ## The specification -/

/-- The message of an element that was not decoded. -/
def Item.raw? : Item → Option Message
  | .raw message => some message
  | .decoded _ => none

/-- The trigger of an element that was decoded. -/
def Item.decoded? : Item → Option DecodedTrigger
  | .raw _ => none
  | .decoded trigger => some trigger

/-- The trigger of a message that was offered. -/
def Verdict.offered? : Verdict → Option DecodedTrigger
  | .offer trigger => some trigger
  | _ => none

/-- The message is retained as it is. -/
def Verdict.isRetain : Verdict → Bool
  | .retain => true
  | _ => false

/-- The triggers of a session, in the order of the batch. -/
def ofSession (session : String) (triggers : List DecodedTrigger) : List DecodedTrigger :=
  triggers.filter fun trigger => trigger.sessionId = session

/-- The message is acknowledged, whatever the other messages are. -/
def Verdict.isDiscard : Verdict → Bool
  | .discard => true
  | _ => false

/-- A batch is split: the messages for which `keep` holds are retained as they are, of the triggers that
`candidate` finds in the messages the newest one of each session is retained, and the other messages are
acknowledged. -/
structure NewestKept (keep : Message → Bool) (candidate : Message → Option DecodedTrigger)
    (batch : List Message) (out : Filtered) : Prop where
  /-- Each message is acknowledged or retained, and only once. -/
  once : (out.acked ++ out.retained.map Item.source).Perm batch
  /-- The messages to be kept are retained. -/
  kept : out.retained.filterMap Item.raw? = batch.filter keep
  /-- The messages that are not to be kept and in which no candidate is found are acknowledged. -/
  dropped : (batch.filter fun message => !keep message && (candidate message).isNone).Sublist out.acked
  /-- Of each session with a candidate, the last one with the largest version is retained, and no
  other. -/
  newest : ∀ session, ofSession session (batch.filterMap candidate) ≠ [] →
    ∃ trigger, LastMax DecodedTrigger.contextVersion
        (ofSession session (batch.filterMap candidate)) trigger ∧
      ofSession session (out.retained.filterMap Item.decoded?) = [trigger]

/-- A page view that is too old; its time can be read. -/
def overAge (now : ℤ) (maxAge : ℚ) (trigger : DecodedTrigger) : Bool :=
  match triggerTime env trigger.envelope with
  | none => false
  | some occurredAt => 0 < occurredAt ∧ maxAge < totalSeconds env now occurredAt

/-- The message cannot be decoded. -/
def malformed (message : Message) : Bool := !(decodeTrigger env message).isOk

/-- The page view of a message, if it can be decoded and is not too old. -/
def freshTrigger (now : ℤ) (maxAge : ℚ) (message : Message) : Option DecodedTrigger :=
  (decodeTrigger env message).toOption.filter fun trigger => !overAge env now maxAge trigger

/-- The message has another subject than those of the cart triggers. -/
def otherSubject (message : Message) : Bool :=
  message.subject ≠ itemAddedSubject ∧ message.subject ≠ clearedSubject

/-- The cart trigger of a message, if it can be decoded. -/
def cartTrigger (message : Message) : Option DecodedTrigger :=
  if otherSubject message then none else (decodeTrigger env message).toOption

/-! ## The loops -/

variable {env} {batch : List Message} {verdict : Message → Verdict}

/-- The variables of a loop after the messages of a batch. -/
structure LoopInv (verdict : Message → Verdict) (batch : List Message) (loop : Loop) : Prop where
  newest : loop.newest = NewestPerKey.newest DecodedTrigger.sessionId DecodedTrigger.contextVersion
    (batch.filterMap fun message => (verdict message).offered?)
  retained : loop.retained = batch.filter fun message => (verdict message).isRetain
  dropped : (batch.filter fun message => (verdict message).isDiscard).Sublist loop.discarded
  once : (loop.discarded ++ (loop.retained ++ loop.newest.map DecodedTrigger.message)).Perm batch

/-- One more message. -/
lemma LoopInv.next {loop : Loop} {message : Message} (h : LoopInv verdict batch loop)
    (hsource : ∀ trigger, verdict message = .offer trigger → trigger.message = message) :
    LoopInv verdict (batch ++ [message]) (loop.next message (verdict message)) := by
  have hlast : ∀ rest : List Message, (loop.discarded ++ rest).Perm batch →
      (loop.discarded ++ (rest ++ [message])).Perm (batch ++ [message]) := by
    intro rest hperm
    rw [← List.append_assoc]
    exact hperm.append_right [message]
  cases hverdict : verdict message with
  | retain =>
    refine ⟨?_, ?_, ?_, ?_⟩
    · simp [Loop.next, h.newest, hverdict, Verdict.offered?]
    · simp [Loop.next, h.retained, hverdict, Verdict.isRetain]
    · simpa [Loop.next, hverdict, Verdict.isDiscard] using h.dropped
    · refine List.Perm.trans ?_ (hlast _ h.once)
      refine List.Perm.append_left _ ?_
      simp only [Loop.next, List.append_assoc]
      refine List.Perm.append_left _ ?_
      exact List.perm_append_comm
  | discard =>
    refine ⟨?_, ?_, ?_, ?_⟩
    · simp [Loop.next, h.newest, hverdict, Verdict.offered?]
    · simp [Loop.next, h.retained, hverdict, Verdict.isRetain]
    · simpa [Loop.next, hverdict, Verdict.isDiscard] using h.dropped
    · refine List.Perm.trans ?_ (hlast _ h.once)
      rw [Loop.next, List.append_assoc]
      exact List.Perm.append_left _ List.perm_append_comm
  | offer trigger =>
    obtain rfl := hsource trigger hverdict
    have hnodup : (loop.newest.map DecodedTrigger.sessionId).Nodup := by
      rw [h.newest]
      exact (table_newest _ _ _).nodup
    have hoffer := (@offer_perm _ _ _ _ _ DecodedTrigger.sessionId DecodedTrigger.contextVersion
      loop.newest trigger hnodup).map DecodedTrigger.message
    rw [List.map_append, List.map_append] at hoffer
    refine ⟨?_, ?_, ?_, ?_⟩
    · rw [List.filterMap_append, NewestPerKey.newest, List.foldl_append, ← NewestPerKey.newest,
        ← h.newest]
      simp [Loop.next, hverdict, Verdict.offered?]
    · simp [Loop.next, h.retained, hverdict, Verdict.isRetain]
    · have hsame : (batch ++ [trigger.message]).filter (fun m => (verdict m).isDiscard) =
          batch.filter fun m => (verdict m).isDiscard := by
        simp [hverdict, Verdict.isDiscard]
      rw [hsame]
      exact h.dropped.trans (List.sublist_append_left _ _)
    · refine List.Perm.trans ?_ (hlast _ h.once)
      simp only [Loop.next, List.append_assoc]
      refine List.Perm.append_left _ ?_
      -- the superseded trigger and the new table are the table before and the trigger
      refine List.perm_append_comm_assoc _ _ _ |>.trans ?_
      exact List.Perm.append_left _ hoffer

/-- The variables after a whole batch. -/
lemma loopInv_foldl (hsource : ∀ message ∈ batch, ∀ trigger, verdict message = .offer trigger →
      trigger.message = message) :
    LoopInv verdict batch
      (batch.foldl (fun loop message => Loop.next loop message (verdict message)) {}) := by
  induction batch using List.reverseRecOn with
  | nil => exact ⟨rfl, rfl, List.Sublist.refl _, List.Perm.refl _⟩
  | append_singleton batch message ih =>
    rw [List.foldl_append]
    refine (ih fun m hm => hsource m (List.mem_append_left _ hm)).next ?_
    exact hsource message (List.mem_append_right _ (List.mem_singleton_self message))

/-- The result of a loop. -/
lemma LoopInv.newestKept {loop : Loop} (h : LoopInv verdict batch loop) :
    NewestKept (fun message => (verdict message).isRetain) (fun message => (verdict message).offered?)
      batch loop.result := by
  have hraw : (loop.result.retained.filterMap Item.raw?) = loop.retained := by
    simp [Loop.result, List.filterMap_append, List.filterMap_map, Function.comp_def, Item.raw?]
  have hdecoded : (loop.result.retained.filterMap Item.decoded?) = loop.newest := by
    simp [Loop.result, List.filterMap_append, List.filterMap_map, Function.comp_def, Item.decoded?]
  have hdiscard : (fun message => !(verdict message).isRetain && (verdict message).offered?.isNone) =
      fun message => (verdict message).isDiscard := by
    funext message
    cases verdict message <;> rfl
  refine ⟨?_, hraw.trans h.retained, hdiscard ▸ h.dropped, fun session hsession => ?_⟩
  · have hsource : loop.result.retained.map Item.source =
        loop.retained ++ loop.newest.map DecodedTrigger.message := by
      simp [Loop.result, Function.comp_def, Item.source]
    rw [hsource]
    exact h.once
  · rw [hdecoded, h.newest]
    have htable := table_newest DecodedTrigger.sessionId DecodedTrigger.contextVersion
      (batch.filterMap fun message => (verdict message).offered?)
    obtain ⟨candidate, hcandidate⟩ := List.exists_mem_of_ne_nil _ hsession
    obtain ⟨hmem, hkey⟩ := List.mem_filter.mp hcandidate
    obtain ⟨trigger, htrigger, hsame⟩ := htable.complete candidate hmem
    obtain rfl : trigger.sessionId = session := hsame.trans (of_decide_eq_true hkey)
    exact ⟨trigger, htable.lastMax trigger htrigger, filter_key_eq htable.nodup htrigger⟩

/-- The loop of a filter ends exactly if none of its iterations raises. -/
lemma foldlM_next {f : Message → Except String Verdict} {start : Loop} :
    (∃ loop, batch.foldlM (fun loop message => do
        let verdict ← f message
        return Loop.next loop message verdict) start = .ok loop) ↔
      ∀ message ∈ batch, ∃ verdict, f message = .ok verdict := by
  induction batch generalizing start with
  | nil => exact iff_of_true ⟨start, rfl⟩ (by simp)
  | cons message batch ih =>
    rw [List.foldlM_cons, List.forall_mem_cons]
    cases hverdict : f message with
    | error text => simp [bind, Except.bind]
    | ok verdict =>
      simp only [Except.ok.injEq, exists_eq', true_and]
      exact ih

/-- What the loop of a filter ends with. -/
lemma foldlM_next_eq {f : Message → Except String Verdict} {start : Loop}
    (h : ∀ message ∈ batch, f message = .ok (verdict message)) :
    batch.foldlM (fun loop message => do
        let verdict ← f message
        return Loop.next loop message verdict) start =
      .ok (batch.foldl (fun loop message => Loop.next loop message (verdict message)) start) := by
  induction batch generalizing start with
  | nil => rfl
  | cons message batch ih =>
    rw [List.forall_mem_cons] at h
    rw [List.foldlM_cons, h.1]
    exact ih h.2

/-! ## The two filters -/

/-- A decoded trigger has the message it was decoded from. -/
lemma decodeTrigger_message {message : Message} {trigger : DecodedTrigger}
    (h : decodeTrigger env message = .ok trigger) : trigger.message = message := by
  unfold decodeTrigger at h
  split at h
  · cases h
  · obtain ⟨_, -, h⟩ := bind_eq_ok.mp h
    cases h
    rfl

/-- `_latest_cart_triggers` keeps the newest trigger of each user. -/
lemma latestCartTriggers_newestKept (env : FilterEnv) (batch : List Message) :
    NewestKept (fun message => otherSubject message || malformed env message) (cartTrigger env)
      batch (latestCartTriggers env batch) := by
  have hsource : ∀ message ∈ batch, ∀ trigger, cartVerdict env message = .offer trigger →
      trigger.message = message := by
    intro message _ trigger h
    unfold cartVerdict at h
    split_ifs at h
    split at h
    · cases h
    · cases h
      exact decodeTrigger_message (by assumption)
  have hkept := (loopInv_foldl hsource).newestKept
  have hretain : (fun message => (cartVerdict env message).isRetain) =
      fun message => otherSubject message || malformed env message := by
    funext message
    unfold cartVerdict otherSubject malformed
    by_cases hsubject : message.subject ≠ itemAddedSubject ∧ message.subject ≠ clearedSubject
    · simp [hsubject, Verdict.isRetain]
    · rw [if_neg hsubject]
      cases decodeTrigger env message <;> simp [hsubject, Verdict.isRetain, Except.isOk, Except.toBool]
  have hoffered : (fun message => (cartVerdict env message).offered?) = cartTrigger env := by
    funext message
    unfold cartVerdict cartTrigger otherSubject
    by_cases hsubject : message.subject ≠ itemAddedSubject ∧ message.subject ≠ clearedSubject
    · simp [hsubject, Verdict.offered?]
    · rw [if_neg hsubject]
      cases decodeTrigger env message <;> simp [hsubject, Verdict.offered?, Except.toOption]
  rwa [hretain, hoffered] at hkept

/-- The time of a trigger can be read. -/
def Readable (env : FilterEnv) (message : Message) : Prop :=
  ∀ trigger, decodeTrigger env message = .ok trigger →
    (triggerTime env trigger.envelope).isSome = true

/-- An iteration of `_fresh_page_views` raises exactly if the time of its trigger cannot be read. -/
lemma pageViewVerdict_ok_iff {now : ℤ} {maxAge : ℚ} {message : Message} :
    (∃ verdict, pageViewVerdict env now maxAge message = .ok verdict) ↔ Readable env message := by
  unfold pageViewVerdict Readable
  cases decodeTrigger env message with
  | error => simp
  | ok trigger =>
    cases htime : triggerTime env trigger.envelope with
    | none => simp [htime]
    | some occurredAt =>
      simp only [Except.ok.injEq, forall_eq', htime, Option.isSome_some, iff_true]
      split_ifs
      · exact ⟨_, rfl⟩
      · exact ⟨_, rfl⟩

/-- The verdict on a page view whose time can be read. -/
def pageVerdict (env : FilterEnv) (now : ℤ) (maxAge : ℚ) (message : Message) : Verdict :=
  match decodeTrigger env message with
  | .error _ => .retain
  | .ok trigger => if overAge env now maxAge trigger then .discard else .offer trigger

/-- An iteration of `_fresh_page_views` that does not raise. -/
lemma pageViewVerdict_eq {now : ℤ} {maxAge : ℚ} {message : Message} (h : Readable env message) :
    pageViewVerdict env now maxAge message = .ok (pageVerdict env now maxAge message) := by
  unfold pageViewVerdict pageVerdict
  cases hdecode : decodeTrigger env message with
  | error => rfl
  | ok trigger =>
    obtain ⟨occurredAt, htime⟩ := Option.isSome_iff_exists.mp (h trigger hdecode)
    have hover : overAge env now maxAge trigger =
        decide (0 < occurredAt ∧ maxAge < totalSeconds env now occurredAt) := by
      simp only [overAge, htime]
    simp only [htime, hover]
    by_cases hold : 0 < occurredAt ∧ maxAge < totalSeconds env now occurredAt
    · rw [if_pos hold, if_pos (decide_eq_true hold)]
    · rw [if_neg hold, if_neg (by simpa using hold)]

/-- `_fresh_page_views` keeps the newest page view of each session, if it does not raise. -/
lemma freshPageViews_newestKept {now : ℤ} {maxAge : ℚ} (hage : 0 ≤ maxAge)
    (h : ∀ message ∈ batch, Readable env message) :
    ∃ out, freshPageViews env now maxAge batch = .ok out ∧
      NewestKept (malformed env) (freshTrigger env now maxAge) batch out := by
  have hsource : ∀ message ∈ batch, ∀ trigger, pageVerdict env now maxAge message = .offer trigger →
      trigger.message = message := by
    intro message _ trigger hoffer
    unfold pageVerdict at hoffer
    split at hoffer
    · cases hoffer
    · split_ifs at hoffer
      cases hoffer
      exact decodeTrigger_message (by assumption)
  have hkept := (loopInv_foldl hsource).newestKept
  have hretain : (fun message => (pageVerdict env now maxAge message).isRetain) = malformed env := by
    funext message
    unfold pageVerdict malformed
    cases decodeTrigger env message with
    | error => rfl
    | ok trigger =>
      simp only
      split_ifs <;> rfl
  have hoffered : (fun message => (pageVerdict env now maxAge message).offered?) =
      freshTrigger env now maxAge := by
    funext message
    unfold pageVerdict freshTrigger
    cases decodeTrigger env message with
    | error => rfl
    | ok trigger =>
      cases hold : overAge env now maxAge trigger <;>
        simp [hold, Verdict.offered?, Except.toOption, Option.filter]
  rw [hretain, hoffered] at hkept
  refine ⟨_, ?_, hkept⟩
  rw [freshPageViews, if_neg (not_lt.mpr hage),
    foldlM_next_eq fun message hm => pageViewVerdict_eq (h message hm)]
  rfl

/-- The two filters keep exactly the newest trigger of each session, exactly if the time of every
trigger of the batch can be read. -/
theorem batch_filters_iff (env : FilterEnv) (now : ℤ) (maxAge : ℚ) (batch : List Message) :
    ((∃ out, freshPageViews env now maxAge batch = .ok out ∧
        NewestKept (malformed env) (freshTrigger env now maxAge) batch out) ∧
      NewestKept (fun message => otherSubject message || malformed env message) (cartTrigger env)
        batch (latestCartTriggers env batch)) ↔
      0 ≤ maxAge ∧ ∀ message ∈ batch, ∀ trigger, decodeTrigger env message = .ok trigger →
        (triggerTime env trigger.envelope).isSome = true := by
  constructor
  · rintro ⟨⟨out, hout, -⟩, -⟩
    unfold freshPageViews at hout
    split_ifs at hout with hage
    obtain ⟨loop, hloop, -⟩ := bind_eq_ok.mp hout
    refine ⟨not_lt.mp hage, fun message hm => ?_⟩
    exact pageViewVerdict_ok_iff.mp (foldlM_next.mp ⟨loop, hloop⟩ message hm)
  · rintro ⟨hage, hreadable⟩
    exact ⟨freshPageViews_newestKept hage hreadable, latestCartTriggers_newestKept env batch⟩

namespace Sample

/-- The envelope of a page view. -/
def pageView (sessionId : String) (seconds : ℤ) : Envelope where
  messageId := "view-" ++ sessionId
  aggregateType := "storefront-session"
  aggregateVersion := 1
  occurredAt := { seconds := seconds }
  data := .pageViewed sessionId ""

/-- A service that reads two messages, with the range of `Timestamp.ToDatetime`. -/
def filterEnv : FilterEnv where
  fromString := fun data =>
    if data = [1] then some (pageView "session-1" 1700000000)
    else if data = [2] then some (pageView "session-2" 253402300800)
    else none
  digest := fun messageId => messageId.length
  toDatetime := fun t =>
    if -62135596800 ≤ t.seconds ∧ t.seconds ≤ 253402300799 ∧ 0 ≤ t.nanos ∧ t.nanos ≤ 999999999 then
      some (t.seconds * 1000000 + t.nanos / 1000)
    else none
  round64 := id

/-- A page view of the last second, and one of the year 10,000. -/
def pageViews : List Message := [⟨pageViewSubject, [1]⟩, ⟨pageViewSubject, [2]⟩]

end Sample

/-- A page view of the year 10,000 can be decoded, and ends the filter for the whole batch. -/
theorem page_view_out_of_range :
    (∀ message ∈ Sample.pageViews, malformed Sample.filterEnv message = false) ∧
      freshPageViews Sample.filterEnv 1700000001000000 5 Sample.pageViews =
        .error "Timestamp is not valid" ∧
      ¬ ∃ out, freshPageViews Sample.filterEnv 1700000001000000 5 Sample.pageViews = .ok out ∧
        NewestKept (malformed Sample.filterEnv) (freshTrigger Sample.filterEnv 1700000001000000 5)
          Sample.pageViews out := by
  have herror : freshPageViews Sample.filterEnv 1700000001000000 5 Sample.pageViews =
      .error "Timestamp is not valid" := by
    have hage : ¬ (5 : ℚ) < 0 := by norm_num
    have hfirst : pageViewVerdict Sample.filterEnv 1700000001000000 5 ⟨pageViewSubject, [1]⟩ =
        .ok (pageVerdict Sample.filterEnv 1700000001000000 5 ⟨pageViewSubject, [1]⟩) := by
      refine pageViewVerdict_eq ?_
      rintro trigger ⟨⟩
      decide
    have hsecond : pageViewVerdict Sample.filterEnv 1700000001000000 5 ⟨pageViewSubject, [2]⟩ =
        .error "Timestamp is not valid" := rfl
    rw [freshPageViews, if_neg hage, Sample.pageViews, List.foldlM_cons, hfirst]
    simp only [bind, Except.bind, pure, Except.pure, List.foldlM_cons, hsecond]
  refine ⟨by decide, herror, ?_⟩
  rintro ⟨out, hout, -⟩
  rw [herror] at hout
  cases hout

end Boutique.Recommendation
