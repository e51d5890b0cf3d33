import Boutique.Checkout.Flow

/-!
# Compensation safety

What the stored saga and the journals of an order say about money and goods.  `SagaFacts` is the
inductive invariant: it relates the stage of a saga, the identifiers and flags it holds and the
events that were committed.  A call may write back a saga that it loaded before other commits; the
facts survive that, because they held of the loaded saga with the commits it had seen, and the log
only grows.
-/

namespace Boutique

variable {env : CheckoutEnv} {orderId : String}

/-! ## Committed events -/

/-- An event with this subject was committed while the order compensated. -/
def AcknowledgedIn (log : List Commit) (subject : SagaSubject) : Prop :=
  ∃ e ∈ log, (∃ envelope, e.input = .event subject envelope) ∧
    ∃ s, e.before.saga = some s ∧ s.stage = .compensating

/-- An authorized event with this authorization was committed. -/
def AuthorizedIn (log : List Commit) (authorizationId : String) : Prop :=
  ∃ e ∈ log, ∃ envelope id, e.input = .event .paymentAuthorized envelope ∧
    envelope.data = .paymentAuthorized id authorizationId

/-- A shipment-created event with this shipment was committed. -/
def ShippedIn (log : List Commit) (shipmentId : String) : Prop :=
  ∃ e ∈ log, ∃ envelope id trackingId, e.input = .event .shipmentCreated envelope ∧
    envelope.data = .shipmentCreated id shipmentId trackingId

section Monotone

variable {pre log : List Commit}

lemma AcknowledgedIn.mono {subject : SagaSubject} (h : AcknowledgedIn pre subject)
    (hpre : pre ⊆ log) : AcknowledgedIn log subject := by
  obtain ⟨e, he, hrest⟩ := h
  exact ⟨e, hpre he, hrest⟩

lemma AuthorizedIn.mono {authorizationId : String} (h : AuthorizedIn pre authorizationId)
    (hpre : pre ⊆ log) : AuthorizedIn log authorizationId := by
  obtain ⟨e, he, hrest⟩ := h
  exact ⟨e, hpre he, hrest⟩

lemma ShippedIn.mono {shipmentId : String} (h : ShippedIn pre shipmentId) (hpre : pre ⊆ log) :
    ShippedIn log shipmentId := by
  obtain ⟨e, he, hrest⟩ := h
  exact ⟨e, hpre he, hrest⟩

end Monotone

/-! ## The invariant of a stored saga -/

/-- What a stored saga says about the committed events. -/
structure SagaFacts (log : List Commit) (s : OrderSaga) : Prop where
  no_authorization : s.stage = .waitingQuote ∨ s.stage = .waitingAuthorize →
    s.authorizationId = ""
  no_shipment : s.stage = .waitingQuote ∨ s.stage = .waitingAuthorize ∨
    s.stage = .waitingShipment → s.shipmentId = ""
  authorized : s.stage = .waitingShipment → AuthorizedIn log s.authorizationId
  need_release : s.stage = .compensating → s.needRelease = true
  need_cancel : s.stage = .compensating → s.shipmentId ≠ "" → s.needShipmentCancel = true
  released : s.authorizationReleased = true → AcknowledgedIn log .authorizationReleased
  shipment_cancelled : s.shipmentCancelled = true → AcknowledgedIn log .shipmentCancelled
  cancelled_released : s.stage = .cancelled → s.authorizationId ≠ "" →
    AcknowledgedIn log .authorizationReleased
  cancelled_shipment : s.stage = .cancelled → s.shipmentId ≠ "" →
    AcknowledgedIn log .shipmentCancelled

/-- The facts survive a longer log. -/
lemma SagaFacts.mono {pre log : List Commit} {s : OrderSaga} (h : SagaFacts pre s)
    (hpre : pre ⊆ log) : SagaFacts log s where
  no_authorization := h.no_authorization
  no_shipment := h.no_shipment
  authorized hstage := (h.authorized hstage).mono hpre
  need_release := h.need_release
  need_cancel := h.need_cancel
  released hflag := (h.released hflag).mono hpre
  shipment_cancelled hflag := (h.shipment_cancelled hflag).mono hpre
  cancelled_released hstage hid := (h.cancelled_released hstage hid).mono hpre
  cancelled_shipment hstage hid := (h.cancelled_shipment hstage hid).mono hpre

/-- The facts depend on the flags, the needs and the identifiers only; a saga at a stage for which
nothing else is required has them as soon as it keeps these. -/
lemma SagaFacts.of_stage {log : List Commit} {s s' : OrderSaga} (h : SagaFacts log s)
    (hreleased : s'.authorizationReleased = s.authorizationReleased)
    (hcancelled : s'.shipmentCancelled = s.shipmentCancelled)
    (hstage : s'.stage = .completed ∨ s'.stage = .manualReview ∨ s'.stage = .waitingCapture) :
    SagaFacts log s' := by
  constructor
  case released => rw [hreleased]; exact h.released
  case shipment_cancelled => rw [hcancelled]; exact h.shipment_cancelled
  all_goals rcases hstage with hstage | hstage | hstage <;> simp [hstage]

/-- A flag that an acknowledgement leaves set was set before, or is its own. -/
lemma OrderSaga.acknowledge_released {s : OrderSaga} {subject : SagaSubject}
    (h : (s.acknowledge subject).authorizationReleased = true) :
    s.authorizationReleased = true ∨ subject = .authorizationReleased := by
  cases subject <;> first | exact .inr rfl | exact .inl h

lemma OrderSaga.acknowledge_cancelled {s : OrderSaga} {subject : SagaSubject}
    (h : (s.acknowledge subject).shipmentCancelled = true) :
    s.shipmentCancelled = true ∨ subject = .shipmentCancelled := by
  cases subject <;> first | exact .inr rfl | exact .inl h

/-- An acknowledgement keeps everything but its flag. -/
lemma OrderSaga.acknowledge_keeps (s : OrderSaga) (subject : SagaSubject) :
    (s.acknowledge subject).stage = s.stage ∧
    (s.acknowledge subject).authorizationId = s.authorizationId ∧
    (s.acknowledge subject).shipmentId = s.shipmentId ∧
    (s.acknowledge subject).needRelease = s.needRelease ∧
    (s.acknowledge subject).needShipmentCancel = s.needShipmentCancel ∧
    (s.acknowledge subject).snapshot = s.snapshot := by
  cases subject <;> exact ⟨rfl, rfl, rfl, rfl, rfl, rfl⟩

section Commits

variable {log : List Commit} {v : OrderView} {e : Commit}

/-- The commit of an acknowledgement, in the log that ends with it. -/
lemma HistoryStep.acknowledgedIn {s : OrderSaga} {subject : SagaSubject}
    {envelope : MessageEnvelope} (h : HistoryStep env orderId log v e)
    (hinput : e.input = .event subject envelope) (hs : e.loaded.saga = some s)
    (hstage : s.stage = .compensating) : AcknowledgedIn (log ++ [e]) subject := by
  obtain ⟨t, ht, hcore⟩ := h.core_eq hs
  refine ⟨e, by simp, ⟨envelope, hinput⟩, t, h.valid.before_eq ▸ ht, ?_⟩
  exact (OrderSaga.stage_eq_of_core hcore).trans hstage

/-- The facts after an acknowledgement, as far as the flags go. -/
lemma HistoryStep.flags_acknowledged {s : OrderSaga} {subject : SagaSubject}
    {envelope : MessageEnvelope} (h : HistoryStep env orderId log v e)
    (hinput : e.input = .event subject envelope) (hs : e.loaded.saga = some s)
    (hstage : s.stage = .compensating) (hfacts : SagaFacts (log ++ [e]) s) :
    ((s.acknowledge subject).authorizationReleased = true →
      AcknowledgedIn (log ++ [e]) .authorizationReleased) ∧
    ((s.acknowledge subject).shipmentCancelled = true →
      AcknowledgedIn (log ++ [e]) .shipmentCancelled) := by
  have hack := h.acknowledgedIn hinput hs hstage
  refine ⟨fun hflag => ?_, fun hflag => ?_⟩
  · rcases OrderSaga.acknowledge_released hflag with hflag | rfl
    · exact hfacts.released hflag
    · exact hack
  · rcases OrderSaga.acknowledge_cancelled hflag with hflag | rfl
    · exact hfacts.shipment_cancelled hflag
    · exact hack

/-- A commit keeps the facts of the stored saga. -/
lemma HistoryStep.sagaFacts {s' : OrderSaga} (h : HistoryStep env orderId log v e)
    (hfacts : ∀ s, e.loaded.saga = some s → SagaFacts (log ++ [e]) s)
    (hs' : e.after.saga = some s') : SagaFacts (log ++ [e]) s' := by
  have hmove := h.move
  rw [hs'] at hmove
  generalize hresults : e.results = results at hmove
  cases hmove with
  | idle horder => exact hfacts _ (by simpa using horder)
  | rejected => constructor <;> simp [rejectedSaga]
  | accepted => constructor <;> simp [acceptedSaga]
  | @quoted s _ _ _ _ _ _ horder _ hstage =>
    have hf := hfacts s (by simpa using horder)
    have hauth := hf.no_authorization (.inl hstage)
    have hship := hf.no_shipment (.inl hstage)
    constructor
    case released => exact hf.released
    case shipment_cancelled => exact hf.shipment_cancelled
    all_goals simp [OrderSaga.advance, hauth, hship]
  | @cancelled s _ _ _ _ horder hstage =>
    have hf := hfacts s (by simpa using horder)
    have hauth := hf.no_authorization hstage
    have hship := hf.no_shipment (hstage.imp_right .inl)
    constructor
    case released => exact hf.released
    case shipment_cancelled => exact hf.shipment_cancelled
    all_goals simp [OrderSaga.close, hauth, hship]
  | @authorized s envelope id authorizationId _ hinput horder hdata hstage =>
    have hf := hfacts s (by simpa using horder)
    have hship := hf.no_shipment (.inr (.inl hstage))
    constructor
    case released => exact hf.released
    case shipment_cancelled => exact hf.shipment_cancelled
    case authorized => exact fun _ => ⟨e, by simp, envelope, id, hinput, hdata⟩
    all_goals simp [OrderSaga.advance, hship]
  | @shipped s _ _ _ _ _ _ horder =>
    exact (hfacts s (by simpa using horder)).of_stage rfl rfl (.inr (.inr rfl))
  | @completed s _ _ horder =>
    exact (hfacts s (by simpa using horder)).of_stage rfl rfl (.inl rfl)
  | @compensating s _ _ _ withShipment _ horder hstage hcompensating =>
    subst hcompensating
    have hf := hfacts s (by simpa using horder)
    constructor
    case released => exact hf.released
    case shipment_cancelled => exact hf.shipment_cancelled
    case need_cancel =>
      intro _ hid
      cases withShipment with
      | true => rfl
      | false => exact absurd (hf.no_shipment (.inr (.inr hstage))) hid
    all_goals simp [OrderSaga.advance]
  | @acknowledged s subject _ hinput _ horder hstage =>
    have hs : e.loaded.saga = some s := by simpa using horder
    have hf := hfacts s hs
    obtain ⟨hreleased, hcancelled⟩ := h.flags_acknowledged hinput hs hstage hf
    obtain ⟨kstage, -, kship, krelease, kcancel, -⟩ := OrderSaga.acknowledge_keeps s subject
    constructor
    case released => exact hreleased
    case shipment_cancelled => exact hcancelled
    case need_release => exact fun _ => krelease ▸ hf.need_release hstage
    case need_cancel => exact fun _ hid => kcancel ▸ hf.need_cancel hstage (kship ▸ hid)
    all_goals simp [kstage, hstage]
  | @compensated s subject _ hinput _ horder hstage hpending =>
    have hs : e.loaded.saga = some s := by simpa using horder
    have hf := hfacts s hs
    obtain ⟨hreleased, hcancelled⟩ := h.flags_acknowledged hinput hs hstage hf
    obtain ⟨-, -, kship, krelease, kcancel, -⟩ := OrderSaga.acknowledge_keeps s subject
    -- nothing is pending, so what was needed has been acknowledged
    obtain ⟨hdone, hdoneCancel⟩ := Bool.or_eq_false_iff.mp hpending
    have hrelease : (s.acknowledge subject).authorizationReleased = true := by
      simpa [krelease, hf.need_release hstage] using hdone
    constructor
    case released => exact hreleased
    case shipment_cancelled => exact hcancelled
    case cancelled_released => exact fun _ _ => hreleased hrelease
    case cancelled_shipment =>
      intro _ hid
      have hneed : s.needShipmentCancel = true := hf.need_cancel hstage (kship ▸ hid)
      exact hcancelled (by simpa [kcancel, hneed] using hdoneCancel)
    all_goals simp [OrderSaga.close]
  | @reviewed s _ _ _ _ _ _ horder | @timedOut s _ _ _ _ _ horder =>
    exact (hfacts s (by simpa using horder)).of_stage rfl rfl (.inr (.inl rfl))

end Commits

/-- The facts hold of every stored saga. -/
theorem OrderHistory.sagaFacts {log : List Commit} {v : OrderView} {s : OrderSaga}
    (h : OrderHistory env orderId log v) (hs : v.saga = some s) : SagaFacts log s := by
  refine OrderHistory.induction (P := fun log v => ∀ s, v.saga = some s → SagaFacts log s)
    (by rintro _ ⟨⟩) ?_ h s hs
  intro log v e pre hstep _ hpre ih s' hs'
  refine hstep.sagaFacts (fun s hs => (ih s hs).mono ?_) hs'
  exact fun _ hx => List.mem_append_left _ (hpre.subset hx)

/-! ## The capture and its amount -/

/-- The total of an order, once it has a snapshot. -/
def OrderSaga.total (s : OrderSaga) : Option (Option Money) :=
  s.snapshot.map SanitizedOrderSnapshot.total

section Moves

variable {input : OrderInput} {ws : PersistedState} {after : Option OrderSaga}
  {results : List ResultMessage} {s s' : OrderSaga} {result : ResultMessage}

/-- The total is fixed by the quote, the authorization by the authorized event and the shipment by
the shipment-created event. -/
lemma SagaMove.keeps (h : SagaMove env input ws after results) (hs : ws.orders = some s)
    (hs' : after = some s') :
    (s.stage ≠ .waitingQuote → s'.total = s.total) ∧
    (s.stage ≠ .waitingAuthorize → s'.authorizationId = s.authorizationId) ∧
    (s.stage ≠ .waitingShipment → s'.shipmentId = s.shipmentId) := by
  cases h with
  | absent horder | rejected _ horder | accepted _ horder => cases hs.symm.trans horder
  | idle horder | cancelled _ horder | completed _ horder | reviewed _ _ horder
  | timedOut _ horder =>
    cases hs.symm.trans horder
    cases hs'
    exact ⟨fun _ => rfl, fun _ => rfl, fun _ => rfl⟩
  | quoted _ horder _ hstage =>
    cases hs.symm.trans horder
    cases hs'
    exact ⟨fun hne => absurd hstage hne, fun _ => rfl, fun _ => rfl⟩
  | authorized _ horder _ hstage =>
    cases hs.symm.trans horder
    cases hs'
    exact ⟨fun _ => rfl, fun hne => absurd hstage hne, fun _ => rfl⟩
  | shipped _ horder _ hstage hsnapshot =>
    cases hs.symm.trans horder
    cases hs'
    refine ⟨fun _ => ?_, fun _ => rfl, fun hne => absurd hstage hne⟩
    simp [OrderSaga.total, OrderSaga.advance, hsnapshot]
  | compensating _ horder _ hcompensating =>
    cases hs.symm.trans horder
    cases hs'
    subst hcompensating
    exact ⟨fun _ => rfl, fun _ => rfl, fun _ => rfl⟩
  | @acknowledged _ subject _ _ _ horder | @compensated _ subject _ _ _ horder =>
    cases hs.symm.trans horder
    cases hs'
    cases subject <;> exact ⟨fun _ => rfl, fun _ => rfl, fun _ => rfl⟩

/-- The transition that queues an authorize command fixes the amount in the saga. -/
lemma SagaMove.authorize_amount (h : SagaMove env input ws after results) (hmem : result ∈ results)
    (hsubject : result.subject = .authorize) :
    ∃ s' commandId id amount token key, after = some s' ∧ s'.total = some amount ∧
      result.data.data = .authorize commandId id amount token key := by
  cases h with
  | quoted _ _ _ _ _ hsnapshot =>
    cases List.mem_singleton.mp hmem
    exact ⟨_, _, _, _, _, _, rfl, rfl, rfl⟩
  | @compensating _ _ _ _ withShipment _ _ _ hs' =>
    subst hs'
    cases withShipment <;>
      simp [compensationResults, OrderSaga.advance] at hmem <;>
      rcases hmem with rfl | rfl | rfl <;> cases hsubject
  | absent | idle | acknowledged => cases hmem
  | rejected | cancelled | authorized | shipped | compensated | reviewed =>
    cases List.mem_singleton.mp hmem
    cases hsubject
  | accepted | completed | timedOut =>
    rcases List.mem_pair.mp hmem with rfl | rfl <;> cases hsubject

/-- The transition that queues a capture command is the one of a shipment-created event. -/
lemma SagaMove.capture_shipped (h : SagaMove env input ws after results) (hmem : result ∈ results)
    (hsubject : result.subject = .capture) :
    ∃ s s' envelope id trackingId commandId id' amount key,
      ws.orders = some s ∧ s.stage = .waitingShipment ∧ after = some s' ∧
      input = .event .shipmentCreated envelope ∧
      envelope.data = .shipmentCreated id s'.shipmentId trackingId ∧
      s'.authorizationId = s.authorizationId ∧ s'.total = some amount ∧
      result.data.data = .capture commandId id' s'.authorizationId amount key := by
  cases h with
  | shipped hinput horder hdata hstage hsnapshot =>
    cases List.mem_singleton.mp hmem
    exact ⟨_, _, _, _, _, _, _, _, _, horder, hstage, rfl, hinput, hdata, rfl, rfl, rfl⟩
  | @compensating _ _ _ _ withShipment _ _ _ hs' =>
    subst hs'
    cases withShipment <;>
      simp [compensationResults, OrderSaga.advance] at hmem <;>
      rcases hmem with rfl | rfl | rfl <;> cases hsubject
  | absent | idle | acknowledged => cases hmem
  | rejected | cancelled | authorized | quoted | compensated | reviewed =>
    cases List.mem_singleton.mp hmem
    cases hsubject
  | accepted | completed | timedOut =>
    rcases List.mem_pair.mp hmem with rfl | rfl <;> cases hsubject

end Moves

/-- The result is an authorize command for `amount`. -/
def ResultMessage.AuthorizesAmount (result : ResultMessage) (amount : Option Money) : Prop :=
  ∃ commandId id token key, result.data.data = .authorize commandId id amount token key

/-- The result is a capture command for `amount` on an authorization. -/
def ResultMessage.CapturesAmount (result : ResultMessage) (authorizationId : String)
    (amount : Option Money) : Prop :=
  ∃ commandId id key, result.data.data = .capture commandId id authorizationId amount key

/-- What the journalled commands say about the stored saga. -/
structure CommandFacts (log : List Commit) (v : OrderView) : Prop where
  authorize : ∀ result ∈ journalledResults log, result.subject = .authorize →
    ∃ s amount, v.saga = some s ∧ s.total = some amount ∧ result.AuthorizesAmount amount
  capture : ∀ result ∈ journalledResults log, result.subject = .capture →
    ∃ s amount, v.saga = some s ∧ s.total = some amount ∧
      result.CapturesAmount s.authorizationId amount ∧
      AuthorizedIn log s.authorizationId ∧ ShippedIn log s.shipmentId

section Commits

variable {log : List Commit} {v : OrderView} {e : Commit}

/-- A commit keeps the total, the authorization and the shipment of the stored saga where its
transition does. -/
lemma HistoryStep.keeps {t : OrderSaga} (h : HistoryStep env orderId log v e)
    (ht : v.saga = some t) :
    ∃ s', e.after.saga = some s' ∧
      (t.stage ≠ .waitingQuote → s'.total = t.total) ∧
      (t.stage ≠ .waitingAuthorize → s'.authorizationId = t.authorizationId) ∧
      (t.stage ≠ .waitingShipment → s'.shipmentId = t.shipmentId) := by
  obtain ⟨s, hs, hcore⟩ : ∃ s, e.loaded.saga = some s ∧ s.core = t.core := by
    have hmap := h.similar.saga_core
    rw [ht, Option.map_some] at hmap
    exact Option.map_eq_some_iff.mp hmap
  obtain ⟨s', hs', -⟩ := h.move.of_some (by simpa using hs)
  have hstage : s.stage = t.stage := OrderSaga.stage_eq_of_core hcore
  have htotal : s.total = t.total := OrderSaga.eq_of_core OrderSaga.total (fun _ => rfl) hcore
  have hauth : s.authorizationId = t.authorizationId :=
    OrderSaga.eq_of_core OrderSaga.authorizationId (fun _ => rfl) hcore
  have hship : s.shipmentId = t.shipmentId :=
    OrderSaga.eq_of_core OrderSaga.shipmentId (fun _ => rfl) hcore
  obtain ⟨htotal', hauth', hship'⟩ := h.move.keeps (by simpa using hs) hs'
  rw [hstage] at htotal' hauth' hship'
  exact ⟨s', hs', fun hne => (htotal' hne).trans htotal, fun hne => (hauth' hne).trans hauth,
    fun hne => (hship' hne).trans hship⟩

/-- The stage after a subject has been published. -/
lemma OrderHistory.allows {result : ResultMessage} (h : OrderHistory env orderId log v)
    (hmem : result ∈ journalledResults log) :
    result.subject.allows (stageOf v.saga) = true :=
  h.flow.allows (List.mem_map_of_mem hmem)

/-- A commit keeps what the journalled commands say. -/
lemma HistoryStep.commandFacts (h : HistoryStep env orderId log v e) (hfacts : CommandFacts log v) :
    CommandFacts (log ++ [e]) e.after := by
  have hsub : log ⊆ log ++ [e] := List.subset_append_left _ _
  constructor
  · intro result hmem hsubject
    rw [journalledResults_snoc] at hmem
    rcases List.mem_append.mp hmem with hmem | hmem
    · obtain ⟨t, amount, ht, htotal, hamount⟩ := hfacts.authorize result hmem hsubject
      obtain ⟨s', hs', hkeep, -⟩ := h.keeps ht
      have hallows := h.history.allows hmem
      rw [hsubject, ht] at hallows
      have hstage : t.stage ≠ .waitingQuote := by
        intro hstage
        rw [stageOf_some, hstage] at hallows
        cases hallows
      exact ⟨s', amount, hs', (hkeep hstage).trans htotal, hamount⟩
    · obtain ⟨s', commandId, id, amount, token, key, hs', htotal, hdata⟩ :=
        h.move.authorize_amount hmem hsubject
      exact ⟨s', amount, hs', htotal, commandId, id, token, key, hdata⟩
  · intro result hmem hsubject
    rw [journalledResults_snoc] at hmem
    rcases List.mem_append.mp hmem with hmem | hmem
    · obtain ⟨t, amount, ht, htotal, hamount, hauth, hship⟩ :=
        hfacts.capture result hmem hsubject
      obtain ⟨s', hs', hktotal, hkauth, hkship⟩ := h.keeps ht
      have hallows := h.history.allows hmem
      rw [hsubject, ht, stageOf_some] at hallows
      have hstage : t.stage ≠ .waitingQuote ∧ t.stage ≠ .waitingAuthorize ∧
          t.stage ≠ .waitingShipment := by
        refine ⟨?_, ?_, ?_⟩ <;> intro hstage <;> rw [hstage] at hallows <;> cases hallows
      refine ⟨s', amount, hs', (hktotal hstage.1).trans htotal, ?_, ?_, ?_⟩
      · rw [hkauth hstage.2.1]
        exact hamount
      · rw [hkauth hstage.2.1]
        exact hauth.mono hsub
      · rw [hkship hstage.2.2]
        exact hship.mono hsub
    · obtain ⟨s, s', envelope, id, trackingId, commandId, id', amount, key, hs, hstage, hs', hinput,
        hdata, hauth, htotal, hresult⟩ := h.move.capture_shipped hmem hsubject
      obtain ⟨pre, hpre, hload⟩ := h.load
      have hauthorized : AuthorizedIn (log ++ [e]) s'.authorizationId := by
        rw [hauth]
        exact ((hload.sagaFacts (by simpa using hs)).authorized hstage).mono
          (fun _ hx => hsub (hpre.subset hx))
      exact ⟨s', amount, hs', htotal, ⟨commandId, id', key, hresult⟩, hauthorized,
        ⟨e, by simp, envelope, id, trackingId, hinput, hdata⟩⟩

end Commits

/-- The journalled commands and the stored saga agree. -/
theorem OrderHistory.commandFacts {log : List Commit} {v : OrderView}
    (h : OrderHistory env orderId log v) : CommandFacts log v := by
  refine OrderHistory.induction (P := CommandFacts) ?_ ?_ h
  · constructor <;> simp [journalledResults]
  · exact fun log v e pre hstep ih _ _ => hstep.commandFacts ih

/-! ## Closed orders -/

/-- A transition leaves a closed order as it is. -/
lemma SagaMove.terminal {input : OrderInput} {ws : PersistedState} {after : Option OrderSaga}
    {results : List ResultMessage} {s : OrderSaga} (h : SagaMove env input ws after results)
    (hopen : OpenDeadline input ws.orders) (hs : ws.orders = some s)
    (hterminal : s.stage.terminal = true) : after = some s ∧ results = [] := by
  cases h with
  | absent horder | rejected _ horder | accepted _ horder => cases hs.symm.trans horder
  | idle horder =>
    cases hs.symm.trans horder
    exact ⟨rfl, rfl⟩
  | quoted _ horder _ hstage | authorized _ horder _ hstage | shipped _ horder _ hstage
  | completed _ horder hstage | acknowledged _ _ horder hstage | compensated _ _ horder hstage
  | reviewed _ _ horder hstage =>
    cases hs.symm.trans horder
    rw [hstage] at hterminal
    cases hterminal
  | cancelled _ horder hstage =>
    cases hs.symm.trans horder
    rcases hstage with hstage | hstage <;> rw [hstage] at hterminal <;> cases hterminal
  | @compensating _ _ _ _ withShipment _ horder hstage =>
    cases hs.symm.trans horder
    rw [hstage] at hterminal
    cases withShipment <;> cases hterminal
  | timedOut hinput horder _ hdue =>
    cases hs.symm.trans horder
    rw [hopen s _ _ _ _ hs hinput hdue] at hterminal
    cases hterminal

/-- A commit leaves a closed order as it is. -/
lemma HistoryStep.terminal {log : List Commit} {v : OrderView} {e : Commit} {s : OrderSaga}
    (h : HistoryStep env orderId log v e) (hs : v.saga = some s)
    (hterminal : s.stage.terminal = true) :
    e.after.saga = some s ∧ e.after.version = v.version := by
  have hstage : s.stage ≠ .compensating := by
    intro hstage
    rw [hstage] at hterminal
    cases hterminal
  have hloaded : e.loaded.saga = some s := h.similar.symm.saga_eq hs hstage
  have hafter : e.after.saga = some s :=
    (h.move.terminal (by simpa using h.openDeadline) (by simpa using hloaded) hterminal).1
  refine ⟨hafter, ?_⟩
  have hconsistent : e.after.Consistent orderId :=
    h.valid.consistent h.loaded_consistent h.history.consistent
  exact (hconsistent.version_eq s hafter).symm.trans (h.history.consistent.version_eq s hs)

/-- Once an order is closed, no continuation of the run changes its saga or its version. -/
theorem closed_order_stays {s s' : CheckoutState} {saga : OrderSaga} {more : List Action}
    (h : HistoryInv env orderId s) (hsaga : s.keys.view.saga = some saga)
    (hterminal : saga.stage.terminal = true)
    (hrun : StepSystem.run (step env orderId) s more = some s') :
    s'.keys.view.saga = some saga ∧ s'.keys.view.version = s.keys.view.version := by
  have hinv := StepSystem.run_invariant_of_step
    (I := fun t => HistoryInv env orderId t ∧ t.keys.view.saga = some saga ∧
      t.keys.view.version = s.keys.view.version) ?_ ⟨h, hsaga, rfl⟩ hrun
  · exact hinv.2
  · rintro t a t' ⟨ht, hts, htv⟩ hstep
    refine ⟨ht.step hstep, ?_⟩
    rcases step_history ht hstep with ⟨-, hview⟩ | ⟨e, -, hview, hcommit⟩
    · rw [hview]
      exact ⟨hts, htv⟩
    · obtain ⟨hafter, hversion⟩ := hcommit.terminal hts hterminal
      rw [hview]
      exact ⟨hafter, hversion.trans htv⟩

/-! ## Compensation safety of a run -/

/-- For every run of any number of workers on one order:

* a journalled completion excludes a journalled release, shipment cancellation, cancellation and
  manual review;
* a cancelled order with an authorization had its release committed while it compensated, and one
  with a shipment the cancellation of the shipment;
* a journalled capture is on the authorization of the stored saga, which like its shipment comes
  from a committed event, and has the amount of every journalled authorize command, the total of
  the order;
* a closed order is never changed again. -/
theorem compensation_safety (env : CheckoutEnv) (orderId : String) (actions : List Action)
    (s : CheckoutState) (hrun : runs env orderId actions = some s) :
    (.orderCompleted ∈ subjects (journalledResults s.log) →
      ∀ subject ∈ [ResultSubject.releaseAuthorization, .cancelShipment, .orderCancelled,
        .orderManualReview], subject ∉ subjects (journalledResults s.log)) ∧
    (∀ saga, s.keys.view.saga = some saga → saga.stage = .cancelled →
      (saga.authorizationId ≠ "" → AcknowledgedIn s.log .authorizationReleased) ∧
      (saga.shipmentId ≠ "" → AcknowledgedIn s.log .shipmentCancelled)) ∧
    (∀ result ∈ journalledResults s.log, result.subject = .capture →
      ∃ saga amount, s.keys.view.saga = some saga ∧ saga.total = some amount ∧
        result.CapturesAmount saga.authorizationId amount ∧
        AuthorizedIn s.log saga.authorizationId ∧ ShippedIn s.log saga.shipmentId ∧
        ∀ other ∈ journalledResults s.log, other.subject = .authorize →
          other.AuthorizesAmount amount) ∧
    (∀ saga, s.keys.view.saga = some saga → saga.stage.terminal = true →
      ∀ more s', StepSystem.run (step env orderId) s more = some s' →
        s'.keys.view.saga = some saga ∧ s'.keys.view.version = s.keys.view.version) := by
  have hinv := run_history hrun
  have h := hinv.history
  refine ⟨?_, ?_, ?_, ?_⟩
  · intro hcompleted subject hsubject hmem
    have hstage : stageOf s.keys.view.saga = some .completed :=
      of_decide_eq_true (h.flow.allows hcompleted)
    have hallows := h.flow.allows hmem
    rw [hstage] at hallows
    simp only [List.mem_cons, List.not_mem_nil, or_false] at hsubject
    rcases hsubject with rfl | rfl | rfl | rfl <;> cases hallows
  · intro saga hsaga hstage
    have hfacts := h.sagaFacts hsaga
    exact ⟨hfacts.cancelled_released hstage, hfacts.cancelled_shipment hstage⟩
  · intro result hmem hsubject
    obtain ⟨saga, amount, hsaga, htotal, hcapture, hauth, hship⟩ :=
      h.commandFacts.capture result hmem hsubject
    refine ⟨saga, amount, hsaga, htotal, hcapture, hauth, hship, fun other hother hauthorize => ?_⟩
    obtain ⟨saga', amount', hsaga', htotal', hamount⟩ :=
      h.commandFacts.authorize other hother hauthorize
    cases hsaga.symm.trans hsaga'
    cases htotal.symm.trans htotal'
    exact hamount
  · exact fun saga hsaga hterminal more s' hmore => closed_order_stays hinv hsaga hterminal hmore

/-- The cancelled sample order had both compensations acknowledged while it compensated. -/
theorem cancelled_order_acknowledged :
    ∃ s saga, runs Sample.env Sample.orderId Sample.cancelledRun = some s ∧
      s.keys.view.saga = some saga ∧ saga.stage = .cancelled ∧
      AcknowledgedIn s.log .authorizationReleased ∧ AcknowledgedIn s.log .shipmentCancelled := by
  have hrun : (runs Sample.env Sample.orderId Sample.cancelledRun).map (fun s =>
      s.keys.view.saga.map fun saga => (saga.stage, saga.authorizationId, saga.shipmentId)) =
      some (some (.cancelled, "authorization-1", "shipment-1")) := by
    decide +kernel
  obtain ⟨s, hs, hfacts⟩ := Option.map_eq_some_iff.mp hrun
  obtain ⟨saga, hsaga, hfields⟩ := Option.map_eq_some_iff.mp hfacts
  simp only [Prod.mk.injEq] at hfields
  obtain ⟨hstage, hauthorization, hshipment⟩ := hfields
  obtain ⟨hreleased, hcancelled⟩ :=
    (compensation_safety _ _ _ s hs).2.1 saga hsaga hstage
  exact ⟨s, saga, hs, hsaga, hstage, hreleased (by rw [hauthorization]; decide),
    hcancelled (by rw [hshipment]; decide)⟩

end Boutique
