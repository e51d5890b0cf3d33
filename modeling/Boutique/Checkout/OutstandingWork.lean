import Boutique.Checkout.NeverPoisoned
import Boutique.Checkout.OrderProvenance

/-!
# An open order waits for outstanding work

While an order is open, the stage it is in was entered by a commit that journalled the command to move it
on.  The message of that commit is not acknowledged before the command is published, the command not before
its reply is published, and the reply not before it is committed, which moves the order on.  So one of the
three is still to be delivered, and when all messages around an order are acknowledged it is closed.

The exception is an order that compensates both its authorization and its shipment: the two acknowledgements
are written under one version, and one may overwrite the other.
-/

namespace Boutique

open Payment (PaymentEnv Reply processCommand)

variable {env : CheckoutEnv} {orderId : String}

/-! ## Journalled results by their IDs -/

section Journal

variable {log : List Commit} {v : OrderView} {e : Commit}

/-- What a commit journals has result IDs for its message. -/
lemma SagaMove.messageId {input : OrderInput} {ws : PersistedState} {after : Option OrderSaga}
    {results : List ResultMessage} (h : SagaMove env input ws after results) {result : ResultMessage}
    (hmem : result ∈ results) :
    result.messageId = "br1_" ++ env.resultHash input.messageId result.slot ∧
      result.data.messageId = result.messageId := by
  cases h with
  | absent | idle | acknowledged => cases hmem
  | rejected hinput | quoted hinput | cancelled hinput | authorized hinput | shipped hinput
  | compensated hinput | reviewed hinput =>
    obtain rfl := List.mem_singleton.mp hmem
    rw [hinput]
    exact ⟨rfl, rfl⟩
  | accepted hinput | completed hinput =>
    rw [hinput]
    rcases List.mem_cons.mp hmem with rfl | hmem
    · exact ⟨rfl, rfl⟩
    · obtain rfl := List.mem_singleton.mp hmem
      exact ⟨rfl, rfl⟩
  | timedOut hinput =>
    rcases List.mem_cons.mp hmem with rfl | hmem
    · exact ⟨rfl, rfl⟩
    · obtain rfl := List.mem_singleton.mp hmem
      exact ⟨rfl, rfl⟩
  | compensating hinput =>
    rw [hinput]
    simp only [compensationResults, List.mem_append, List.mem_singleton] at hmem
    rcases hmem with (rfl | hmem) | rfl
    · exact ⟨rfl, rfl⟩
    · split_ifs at hmem
      · obtain rfl := List.mem_singleton.mp hmem
        exact ⟨rfl, rfl⟩
      · cases hmem
    · exact ⟨rfl, rfl⟩

/-- A deadline journals no command that a stage waits for. -/
lemma SagaMove.awaits_of_deadline {ws : PersistedState} {after : Option OrderSaga}
    {results : List ResultMessage} {version : ℕ} {due : Time} {inputId : String}
    (h : SagaMove env (.deadline orderId version due inputId) ws after results) {result : ResultMessage}
    (hmem : result ∈ results) : result.subject.awaits = none := by
  cases h with
  | absent | idle => cases hmem
  | timedOut =>
    rcases List.mem_cons.mp hmem with rfl | hmem
    · rfl
    · obtain rfl := List.mem_singleton.mp hmem
      rfl
  | rejected hinput | accepted hinput | quoted hinput | cancelled hinput | authorized hinput
  | shipped hinput | completed hinput | compensating hinput | acknowledged hinput | compensated hinput
  | reviewed hinput => cases hinput

/-- What the commits of a history say about their results. -/
structure Commit.ResultsOk (env : CheckoutEnv) (e : Commit) : Prop where
  messageId : ∀ result ∈ e.results,
    result.messageId = "br1_" ++ env.resultHash e.messageId result.slot ∧
      result.data.messageId = result.messageId
  slots : (e.results.map ResultMessage.slot).Nodup
  deadline : ∀ id version due inputId, e.input = .deadline id version due inputId →
    ∀ result ∈ e.results, result.subject.awaits = none

/-- All commits of a history are so. -/
lemma OrderHistory.resultsOk (h : OrderHistory env orderId log v) :
    ∀ e ∈ log, e.ResultsOk env := by
  refine OrderHistory.induction (P := fun log _ => ∀ e ∈ log, e.ResultsOk env)
    (fun _ h => (List.not_mem_nil h).elim) ?_ h
  intro log v e pre hstep ih _ _ e' he'
  rcases List.mem_append.mp he' with hold | hnew
  · exact ih e' hold
  · obtain rfl := List.mem_singleton.mp hnew
    refine ⟨fun result hmem => hstep.move.messageId hmem, hstep.move.slots_nodup, ?_⟩
    intro id version due inputId hinput result hmem
    have hmove := hstep.move
    rw [hinput] at hmove
    exact hmove.awaits_of_deadline hmem

/-- The hash of result IDs does not collide. -/
def ResultHashInjective (env : CheckoutEnv) : Prop :=
  ∀ input slot input' slot', env.resultHash input slot = env.resultHash input' slot' →
    input = input' ∧ slot = slot'

/-- A result ID tells the input and the slot. -/
lemma ResultHashInjective.of_messageId (hhash : ResultHashInjective env) {input slot input' slot' : String}
    (h : "br1_" ++ env.resultHash input slot = "br1_" ++ env.resultHash input' slot') :
    input = input' ∧ slot = slot' := by
  refine hhash _ _ _ _ (String.ext ?_)
  have hlist := congrArg String.toList h
  rw [String.toList_append, String.toList_append] at hlist
  exact List.append_cancel_left hlist

/-- Journalled results with one ID are the same, when no message has two commits. -/
lemma journalled_eq (hhash : ResultHashInjective env) (hok : ∀ e ∈ log, e.ResultsOk env)
    (hnodup : (log.map Commit.messageId).Nodup) {a b : ResultMessage} (ha : a ∈ journalledResults log)
    (hb : b ∈ journalledResults log) (hid : a.messageId = b.messageId) : a = b := by
  obtain ⟨e, he, hae⟩ := List.mem_flatMap.mp ha
  obtain ⟨e', he', hbe⟩ := List.mem_flatMap.mp hb
  rw [((hok e he).messageId a hae).1, ((hok e' he').messageId b hbe).1] at hid
  obtain ⟨hinput, hslot⟩ := hhash.of_messageId hid
  obtain rfl : e = e' := List.inj_on_of_nodup_map hnodup he he' hinput
  exact List.inj_on_of_nodup_map (hok e he).slots hae hbe hslot

end Journal

/-! ## The commands that a stage waits for -/

section Waiting

/-- An order waits for the reply to a command. -/
def OrderSaga.WaitsFor (saga : OrderSaga) (subject : ResultSubject) : Prop :=
  subject.awaits = some saga.stage ∧ (subject = .cancelShipment → saga.needShipmentCancel = true)

/-- The first command that a stage waits for. -/
def Stage.command : Stage → Option ResultSubject
  | .waitingQuote => some .calculateOrderQuote
  | .waitingAuthorize => some .authorize
  | .waitingShipment => some .createShipment
  | .waitingCapture => some .capture
  | .compensating => some .releaseAuthorization
  | .completed | .cancelled | .rejected | .manualReview => none

/-- An open order has published the first command that its stage waits for. -/
lemma FlowRun.command {emitted : List ResultSubject} {stage : Option Stage} (h : FlowRun emitted stage) :
    ∀ subject, stage.bind Stage.command = some subject → subject ∈ emitted := by
  induction h with
  | start => rintro _ ⟨⟩
  | step _ hstep ih =>
    intro subject hsubject
    cases hstep with
    | stay => exact List.mem_append_left _ (ih subject hsubject)
    | reject | cancelQuote | decline | complete | compensated | review | timeOut => cases hsubject
    | accept | quote | authorize | ship | shipmentFailed | captureFailed =>
      cases hsubject
      refine List.mem_append_right _ ?_
      decide

section Compensation

variable {log : List Commit} {v : OrderView} {e : Commit}

/-- A commit that leaves an order compensating keeps what has to be compensated, or starts the
compensation and journals its commands. -/
lemma HistoryStep.compensating (h : HistoryStep env orderId log v e) {s' : OrderSaga}
    (hs' : e.after.saga = some s') (hstage : s'.stage = .compensating) :
    ∃ s, e.loaded.saga = some s ∧
      (s.stage = .compensating ∧ s'.needShipmentCancel = s.needShipmentCancel ∨
        s.stage ≠ .compensating ∧
          (s'.needShipmentCancel = true → .cancelShipment ∈ subjects e.results)) := by
  have hmove := h.move
  rw [hs'] at hmove
  generalize e.results = results at hmove ⊢
  cases hmove with
  | idle horder => exact ⟨_, by simpa using horder, Or.inl ⟨hstage, rfl⟩⟩
  | @acknowledged s subject _ _ _ horder hsource =>
    exact ⟨s, by simpa using horder, Or.inl ⟨hsource, (OrderSaga.acknowledge_keeps s subject).2.2.2.2.1⟩⟩
  | @compensating s _ _ _ withShipment _ horder hsource hcompensating =>
    refine ⟨s, by simpa using horder, Or.inr ⟨?_, fun hneed => ?_⟩⟩
    · rw [hsource]
      cases withShipment <;> decide
    · simp [compensationResults, subjects, hneed]
  | rejected | accepted | quoted | cancelled | authorized | shipped | completed | compensated | reviewed
  | timedOut => cases hstage

/-- The loaded saga of a commit that compensates has the needs of the stored one. -/
lemma HistoryStep.loaded_needs (h : HistoryStep env orderId log v e) {s t : OrderSaga}
    (hs : e.loaded.saga = some s) (ht : v.saga = some t) :
    s.stage = t.stage ∧ s.needShipmentCancel = t.needShipmentCancel := by
  obtain ⟨t', ht', hcore⟩ := h.core_eq hs
  cases ht.symm.trans ht'
  exact ⟨OrderSaga.stage_eq_of_core hcore.symm,
    OrderSaga.eq_of_core OrderSaga.needShipmentCancel (fun _ => rfl) hcore.symm⟩

/-- An order that has to cancel its shipment has journalled the command. -/
lemma OrderHistory.cancelShipment (h : OrderHistory env orderId log v) :
    ∀ saga, v.saga = some saga → saga.stage = .compensating → saga.needShipmentCancel = true →
      .cancelShipment ∈ subjects (journalledResults log) := by
  refine OrderHistory.induction (P := fun log v => ∀ saga, v.saga = some saga →
    saga.stage = .compensating → saga.needShipmentCancel = true →
      .cancelShipment ∈ subjects (journalledResults log)) (by rintro _ ⟨⟩) ?_ h
  intro log v e pre hstep _ hpre ih saga hsaga hstage hneed
  rw [journalledResults_snoc, subjects, List.map_append, List.mem_append]
  obtain ⟨s, hs, ⟨hsource, hkept⟩ | ⟨-, hjournal⟩⟩ := hstep.compensating hsaga hstage
  · have hold := ih s hs hsource (hkept ▸ hneed)
    obtain ⟨rest, rfl⟩ := hpre
    left
    simp only [journalledResults, List.flatMap_append, List.map_append, List.mem_append]
    exact Or.inl hold
  · exact Or.inr (hjournal hneed)

end Compensation

/-- An open order has journalled every command that it waits for. -/
lemma OrderHistory.waitsFor {log : List Commit} {v : OrderView} (h : OrderHistory env orderId log v)
    {saga : OrderSaga} (hsaga : v.saga = some saga) {subject : ResultSubject}
    (hwaits : saga.WaitsFor subject) :
    ∃ command ∈ journalledResults log, command.subject = subject := by
  refine List.mem_map.mp (?_ : subject ∈ subjects (journalledResults log))
  obtain ⟨hawaits, hneed⟩ := hwaits
  by_cases hcancel : subject = .cancelShipment
  · subst hcancel
    exact h.cancelShipment saga hsaga (Option.some.inj hawaits).symm (hneed rfl)
  · refine h.flow.command subject ?_
    rw [hsaga, stageOf_some, Option.bind_some]
    generalize saga.stage = stage at hawaits
    cases subject <;> cases hawaits <;> first | rfl | exact (hcancel rfl).elim

/-- Every open order waits for a command, a compensating one for the release of its authorization. -/
lemma OrderSaga.exists_waitsFor {saga : OrderSaga} (hopen : saga.stage.terminal = false) :
    ∃ subject, saga.WaitsFor subject ∧ (saga.stage = .compensating → subject = .releaseAuthorization) := by
  cases hstage : saga.stage with
  | waitingQuote => exact ⟨.calculateOrderQuote, ⟨by rw [hstage]; rfl, by rintro ⟨⟩⟩, by rintro ⟨⟩⟩
  | waitingAuthorize => exact ⟨.authorize, ⟨by rw [hstage]; rfl, by rintro ⟨⟩⟩, by rintro ⟨⟩⟩
  | waitingShipment => exact ⟨.createShipment, ⟨by rw [hstage]; rfl, by rintro ⟨⟩⟩, by rintro ⟨⟩⟩
  | waitingCapture => exact ⟨.capture, ⟨by rw [hstage]; rfl, by rintro ⟨⟩⟩, by rintro ⟨⟩⟩
  | compensating => exact ⟨.releaseAuthorization, ⟨by rw [hstage]; rfl, by rintro ⟨⟩⟩, fun _ => rfl⟩
  | completed | cancelled | rejected | manualReview =>
    rw [hstage] at hopen
    cases hopen

end Waiting

/-! ## Replies move an order on for good -/

section Past

variable {log : List Commit} {v : OrderView} {e : Commit}

/-- A step of the flow never goes back. -/
lemma FlowStep.rank_le {stage stage' : Option Stage} {published : List ResultSubject}
    (h : FlowStep stage published stage') : stageRank stage ≤ stageRank stage' := by
  cases h with
  | stay => exact le_rfl
  | @timeOut stage => cases stage <;> decide
  | reject | accept | quote | cancelQuote | decline | authorize | ship | complete | shipmentFailed
  | captureFailed | compensated | review => decide

/-- An order that has published a command is not before the stage that waits for it. -/
lemma rank_le_of_allows {subject : ResultSubject} {stage : Stage} {current : Option Stage}
    (hawaits : subject.awaits = some stage) (hallows : subject.allows current = true) :
    stageRank (some stage) ≤ stageRank current := by
  cases subject <;> cases hawaits <;>
    rcases current with _ | (_ | _ | _ | _ | _ | _ | _ | _ | _) <;> first | decide | cases hallows

/-- An open stage is told by its rank. -/
lemma eq_of_rank {subject : ResultSubject} {stage : Stage} {current : Option Stage}
    (hawaits : subject.awaits = some stage) (hrank : stageRank (some stage) = stageRank current) :
    current = some stage := by
  cases subject <;> cases hawaits <;>
    rcases current with _ | (_ | _ | _ | _ | _ | _ | _ | _ | _) <;> first | rfl | cases hrank

/-- A step of the flow that publishes goes on. -/
lemma FlowStep.rank_lt {stage stage' : Option Stage} {published : List ResultSubject}
    (h : FlowStep stage published stage') (hne : published ≠ []) : stageRank stage < stageRank stage' := by
  cases h with
  | stay => exact (hne rfl).elim
  | @timeOut stage hopen => cases stage <;> cases hopen <;> decide
  | reject | accept | quote | cancelQuote | decline | authorize | ship | complete | shipmentFailed
  | captureFailed | compensated | review => decide

/-- A commit that raises the version of an order moves it to a later stage. -/
lemma HistoryStep.rank_lt {s s' : OrderSaga} (h : HistoryStep env orderId log v e)
    (hs : e.loaded.saga = some s) (hs' : e.after.saga = some s') (hversion : s.version < s'.version) :
    stageRank (stageOf v.saga) < stageRank (stageOf e.after.saga) := by
  refine h.flow.rank_lt ?_
  have hmove := h.move
  rw [hs'] at hmove
  have hloaded : (transitionWorkspace e.input e.now e.loaded).orders = some s := by simpa using hs
  generalize e.results = results at hmove ⊢
  cases hmove with
  | idle horder =>
    cases hloaded.symm.trans horder
    exact (lt_irrefl _ hversion).elim
  | @acknowledged _ subject _ _ _ horder =>
    cases hloaded.symm.trans horder
    cases subject <;> exact (lt_irrefl _ hversion).elim
  | compensating => simp [compensationResults, subjects]
  | rejected | accepted | quoted | cancelled | authorized | shipped | completed | compensated | reviewed
  | timedOut => exact List.cons_ne_nil _ _

/-- What a committed reply leaves behind: the order is past the stage that waited for it; or it acknowledged
one of two compensations, and the order still compensates. -/
def PastReply (log : List Commit) (v : OrderView) (subject : SagaSubject) : Prop :=
  ∀ stage, subject.stage = some stage → stageRank (some stage) < stageRank (stageOf v.saga) ∨
    ∃ saga, v.saga = some saga ∧ saga.stage = .compensating ∧ subject.isAck = true ∧
      AcknowledgedIn log subject ∧
        (subject = .authorizationReleased → saga.needShipmentCancel = true)

/-- A commit keeps what is past. -/
lemma HistoryStep.pastReply (h : HistoryStep env orderId log v e) {subject : SagaSubject}
    (hpast : PastReply log v subject) : PastReply (log ++ [e]) e.after subject := by
  have hrank := h.flow.rank_le
  intro stage hstage
  rcases hpast stage hstage with hlt | ⟨t, ht, hcompensating, hack, hcommitted, hneed⟩
  · exact Or.inl (hlt.trans_le hrank)
  · have hmono := AcknowledgedIn.mono hcommitted (List.subset_append_left log [e])
    have hfive : stage = .compensating := by
      cases subject <;> cases hack <;> cases hstage <;> rfl
    rw [ht, stageOf_some, hcompensating] at hrank
    obtain ⟨s', hs', -⟩ := h.keeps ht
    by_cases hstays : s'.stage = .compensating
    · refine Or.inr ⟨s', hs', hstays, hack, hmono, fun hreleased => ?_⟩
      obtain ⟨s, hs, ⟨-, hkept⟩ | ⟨hsource, -⟩⟩ := h.compensating hs' hstays
      · rw [hkept, (h.loaded_needs hs ht).2]
        exact hneed hreleased
      · exact (hsource ((h.loaded_needs hs ht).1.trans hcompensating)).elim
    · left
      rw [hs', stageOf_some] at hrank ⊢
      rw [hfive]
      refine lt_of_le_of_ne hrank fun heq => hstays ?_
      exact Option.some.inj (@eq_of_rank .releaseAuthorization _ _ rfl heq)

/-- An acknowledgement that is committed while the order compensates closes it, unless another one is
still needed. -/
lemma HistoryStep.acknowledgement {s : OrderSaga} {subject : SagaSubject} {envelope : MessageEnvelope}
    (h : HistoryStep env orderId log v e) (hinput : e.input = .event subject envelope)
    (hs : e.loaded.saga = some s) (hstage : s.stage = .compensating) (hack : subject.isAck = true) :
    ∃ s', e.after.saga = some s' ∧ (s'.stage = .cancelled ∨ s'.stage = .compensating ∧
      (subject = .authorizationReleased → s'.needShipmentCancel = true)) := by
  have hmove := h.move
  have hloaded : (transitionWorkspace e.input e.now e.loaded).orders = some s := by simpa using hs
  generalize e.results = results at hmove
  generalize e.after.saga = after at hmove ⊢
  cases hmove with
  | absent horder => cases hloaded.symm.trans horder
  | idle horder hnone =>
    cases hloaded.symm.trans horder
    exact (hnone subject envelope hinput hack hstage).elim
  | rejected _ horder | accepted _ horder => cases hloaded.symm.trans horder
  | @acknowledged _ subject' _ hinput' _ horder _ hpending =>
    cases hloaded.symm.trans horder
    cases hinput.symm.trans hinput'
    obtain ⟨kstage, -, -, -, kcancel, -⟩ := OrderSaga.acknowledge_keeps s subject
    refine ⟨_, rfl, Or.inr ⟨kstage.trans hstage, ?_⟩⟩
    rintro rfl
    simpa [OrderSaga.compensationPending, OrderSaga.acknowledge] using
      (Bool.or_eq_true_iff.mp hpending).elim (fun hfirst => by
        simp [OrderSaga.acknowledge] at hfirst) (fun hlast => (Bool.and_eq_true_iff.mp hlast).1)
  | compensated => exact ⟨_, rfl, Or.inl rfl⟩
  | quoted hinput' | authorized hinput' | shipped hinput' | completed hinput' =>
    cases hinput.symm.trans hinput'
    cases hack
  | @compensating _ _ _ _ withShipment hinput' =>
    cases hinput.symm.trans hinput'
    cases withShipment <;> cases hack
  | cancelled hinput' horder hstage' =>
    cases hloaded.symm.trans horder
    rw [hstage] at hstage'
    rcases hstage' with hstage' | hstage' <;> cases hstage'
  | reviewed hinput' hfailed =>
    cases hinput.symm.trans hinput'
    rcases hfailed with rfl | rfl <;> cases hack
  | timedOut hinput' => cases hinput.symm.trans hinput'

/-- The reply that a commit handles, with the command it answers. -/
lemma InputOk.reply {subject : SagaSubject} {envelope : MessageEnvelope}
    (h : InputOk log (.event subject envelope)) (hcontract : ContractInv orderId log v)
    (hid : isBlank orderId = false) :
    ∃ result ∈ journalledResults log, ∃ reply, ReplyOk orderId result.subject.awaits reply ∧
      reply.subject = subject ∧ SameMessage reply.data envelope := by
  obtain ⟨result, hresult, reply, hhandled, hsubject, hsame⟩ := h
  have hcommand : result.subject.isCommand = true := by
    cases hhandled with
    | payment env envelope _ hok =>
      have hpayment := isPayment_of_processCommand hok
      cases hs : result.subject <;> simp_all [ResultSubject.isPayment, ResultSubject.isCommand,
        ResultSubject.awaits]
    | shipping env envelope _ hok =>
      have hshipping := isShipping_of_buildShippingOutcome hok
      cases hs : result.subject <;> simp_all [ResultSubject.isShipping, ResultSubject.isCommand,
        ResultSubject.awaits]
  exact ⟨result, hresult, reply, (hcontract.commands result hresult hcommand).replyOk hid hhandled,
    hsubject, hsame⟩

/-- A committed reply is past. -/
lemma HistoryStep.committed_pastReply {subject : SagaSubject} {envelope : MessageEnvelope}
    (h : HistoryStep env orderId log v e) (hinput : e.input = .event subject envelope)
    (hok : InputOk log e.input) (hcontract : ContractInv orderId log v)
    (hloaded : ∀ s, e.loaded.saga = some s → s.stage.terminal = false → OpenSaga s) :
    PastReply (log ++ [e]) e.after subject := by
  intro stage hstage
  rw [hinput] at hok
  obtain ⟨result, hresult, reply, hreply, rfl, hsame⟩ := hok.reply hcontract h.orderId_not_blank
  have hawaits : result.subject.awaits = some stage := hreply.stage.symm.trans hstage
  have hle := rank_le_of_allows hawaits (h.history.allows hresult)
  rcases hle.lt_or_eq with hlt | heq
  · exact Or.inl (hlt.trans_le h.flow.rank_le)
  · -- the order still waits for the reply, and moves on
    obtain ⟨t, ht, htstage⟩ := Option.map_eq_some_iff.mp (eq_of_rank hawaits heq)
    obtain ⟨s, hs, hcore⟩ : ∃ s, e.loaded.saga = some s ∧ s.core = t.core := by
      have hmap := h.similar.saga_core
      rw [ht, Option.map_some] at hmap
      exact Option.map_eq_some_iff.mp hmap
    have hsstage : s.stage = stage := (OrderSaga.stage_eq_of_core hcore).trans htstage
    have hterminal : s.stage.terminal = false := by
      rw [hsstage]
      cases hsubject : result.subject <;> rw [hsubject] at hawaits <;> cases hawaits <;> rfl
    have horder := h.loaded_consistent.order_id s hs
    have hdata : envelope.data = reply.data.data := by
      obtain ⟨_, _, rfl⟩ := hsame
      rfl
    obtain ⟨args, s', hargs, hs', hprogress⟩ := prepareCommit_moves hs
      (horder.symm ▸ h.orderId_not_blank) (hloaded s hs hterminal) hterminal
      (hsame.envelopeOk hreply.envelope) (hstage.trans (congrArg some hsstage.symm))
      (horder.symm ▸ hreply.fields) hdata
    have hprepared := h.valid.prepared
    rw [hinput] at hprepared
    cases hprepared.symm.trans hargs
    have hafter := h.after_saga.trans hs'
    rcases hprogress with hversion | hack
    · have hlt := h.rank_lt hs hafter hversion
      rw [← heq] at hlt
      exact Or.inl hlt
    · have hisAck : reply.subject.isAck = true := by
        rcases hack with ⟨hsubject, -⟩ | ⟨hsubject, -⟩ <;> rw [hsubject] <;> rfl
      have hcompensating : stage = .compensating := by
        rcases hack with ⟨hsubject, -⟩ | ⟨hsubject, -⟩ <;> rw [hsubject] at hstage <;> cases hstage <;> rfl
      rw [hcompensating] at hsstage ⊢
      obtain ⟨s'', hs'', hcancelled | ⟨hstays, hneed⟩⟩ := h.acknowledgement hinput hs hsstage hisAck
      · left
        rw [hs'', stageOf_some, hcancelled]
        decide
      · exact Or.inr ⟨s'', hs'', hstays, hisAck, h.acknowledgedIn hinput hs hsstage, hneed⟩

/-- Along every history whose inputs come from the services, committed replies are past. -/
theorem OrderHistory.pastReply (hstable : ∀ parts, env.stableID parts ≠ "")
    (h : OrderHistory env orderId log v) : InputsOk log → ∀ e ∈ log, ∀ subject envelope,
      e.input = .event subject envelope → PastReply log v subject := by
  refine OrderHistory.induction (P := fun log v => InputsOk log → ∀ e ∈ log, ∀ subject envelope,
    e.input = .event subject envelope → PastReply log v subject)
    (fun _ _ h => (List.not_mem_nil h).elim) ?_ h
  intro log v e pre hstep ih hpre _ hinputs e' he' subject envelope hinput
  have hbefore : InputsOk log := fun pre' e' hpre' => hinputs pre' e' (hpre'.trans
    (List.prefix_append _ _))
  rcases List.mem_append.mp he' with hold | hnew
  · exact hstep.pastReply (ih hbefore e' hold subject envelope hinput)
  · obtain rfl := List.mem_singleton.mp hnew
    obtain ⟨pre', hpre', hload⟩ := hstep.load
    have hloaded := hload.contract hstable fun p e hp => hbefore p e (hp.trans hpre')
    exact hstep.committed_pastReply hinput (hinputs log e' List.prefix_rfl)
      (hstep.history.contract hstable hbefore) hloaded.saga

end Past

/-! ## Outstanding work -/

/-- The IDs around the order do not collide: neither the hashes nor the forms of the IDs. -/
structure DistinctIds (env : CheckoutEnv) (orderId : String) : Prop where
  digest : Function.Injective env.digest
  resultHash : ResultHashInjective env
  stable : ∀ parts text, env.stableID parts ≠ "br1_" ++ text
  order : ∀ text, orderId ≠ "br1_" ++ text

/-- Work on a journalled command is to be done: the message of its commit is not acknowledged, or it is
published and not acknowledged, or a reply to it is published and not acknowledged. -/
def OrderPath.Outstanding (env : CheckoutEnv) (s : OrderPath) (command : ResultMessage) : Prop :=
  (∃ e ∈ s.checkout.log, command ∈ e.results ∧ ∃ source input, s.Names source input ∧
    input.messageId = e.messageId ∧ some source ∉ s.results.acked) ∨
  (∃ n, s.results.events[n]? = some command ∧ n ∉ s.replies.acked) ∨
  ∃ m reply, s.replies.events[m]? = some reply ∧ Replies env command reply ∧
    some (.reply m) ∉ s.results.acked

/-- Both compensations of an order have been acknowledged, and one acknowledgement is lost. -/
structure OrderSaga.LostAcknowledgement (saga : OrderSaga) (log : List Commit) : Prop where
  compensating : saga.stage = .compensating
  needShipmentCancel : saga.needShipmentCancel = true
  released : AcknowledgedIn log .authorizationReleased
  cancelled : AcknowledgedIn log .shipmentCancelled

section Outstanding

variable {s : OrderPath}

/-- No message has two commits. -/
lemma OrderPath.Inv.nodup (h : s.Inv env orderId) : (s.checkout.log.map Commit.messageId).Nodup := by
  have hnodup := h.journal.nodup
  have hpairs : (s.checkout.log.map fun e => (e.epoch, e.messageId)) =
      (s.checkout.log.map Commit.messageId).map fun id => ((0 : ℕ), id) := by
    rw [List.map_map]
    refine List.map_congr_left fun e he => ?_
    have hle := h.journal.epoch_le e he
    rw [h.unexpired] at hle
    rw [Nat.le_zero.mp hle]
    rfl
  rw [hpairs] at hnodup
  exact List.Nodup.of_map _ hnodup

/-- The messages with one number have one ID. -/
lemma OrderPath.Names.messageId_eq {source : Source} {input input' : OrderInput}
    (h : s.Names source input) (h' : s.Names source input') : input.messageId = input'.messageId := by
  cases source with
  | submit n =>
    obtain ⟨envelope, delivered, payload, projections, hn, ⟨_, _, rfl⟩, rfl⟩ := h
    obtain ⟨envelope', delivered', payload', projections', hn', ⟨_, _, rfl⟩, rfl⟩ := h'
    cases hn.symm.trans hn'
    rfl
  | reply n =>
    obtain ⟨reply, delivered, hn, ⟨_, _, rfl⟩, rfl⟩ := h
    obtain ⟨reply', delivered', hn', ⟨_, _, rfl⟩, rfl⟩ := h'
    cases hn.symm.trans hn'
    rfl

/-- The results of an acknowledged message are published. -/
lemma OrderPath.Inv.published_of_acked (h : s.Inv env orderId) (hids : DistinctIds env orderId)
    {source : Source} {input : OrderInput} (hacked : some source ∈ s.results.acked)
    (hnames : s.Names source input) :
    ∃ e ∈ s.checkout.log, e.messageId = input.messageId ∧
      ∀ result ∈ e.results, result ∈ s.results.events := by
  obtain ⟨work, hwork, hsource, hdelivered⟩ := h.results.acked _ hacked
  obtain ⟨e, he, hevents, hnamed⟩ := h.works work hwork
  obtain ⟨input', hnames', hid⟩ := hnamed source hsource
  refine ⟨e, he, hid.symm.trans (hnames'.messageId_eq hnames), fun result hresult => ?_⟩
  obtain ⟨result', hmem, hsame⟩ := hdelivered result (hevents ▸ hresult)
  have heq := journalled_eq hids.resultHash h.inputs.history.history.resultsOk h.nodup
    (h.journalled hmem) (List.mem_flatMap.mpr ⟨e, he, hresult⟩) hsame
  exact heq ▸ hmem

/-- Replies with one ID answer one command. -/
lemma OrderPath.Inv.command_eq (h : s.Inv env orderId) (hids : DistinctIds env orderId)
    {command command' : ResultMessage} {reply reply' : Reply}
    (hcommand : command ∈ journalledResults s.checkout.log)
    (hcommand' : command' ∈ journalledResults s.checkout.log) (hreply : Replies env command reply)
    (hreply' : Replies env command' reply') (hid : reply.messageId = reply'.messageId) :
    command = command' := by
  have hok := h.inputs.history.history.resultsOk
  obtain ⟨-, slot, hslot⟩ := hreply.messageId
  obtain ⟨-, slot', hslot'⟩ := hreply'.messageId
  rw [hslot, hslot'] at hid
  have hinput := (hids.resultHash.of_messageId hid).1
  obtain ⟨e, he, hce⟩ := List.mem_flatMap.mp hcommand
  obtain ⟨e', he', hce'⟩ := List.mem_flatMap.mp hcommand'
  rw [((hok e he).messageId command hce).2, ((hok e' he').messageId command' hce').2] at hinput
  exact journalled_eq hids.resultHash hok h.nodup hcommand hcommand' hinput

/-- An acknowledged command has a published reply. -/
lemma OrderPath.Inv.answered_of_acked (h : s.Inv env orderId) (hids : DistinctIds env orderId) {n : ℕ}
    {command : ResultMessage} (hn : s.results.events[n]? = some command) (hacked : n ∈ s.replies.acked) :
    ∃ (m : ℕ) (reply : Reply), s.replies.events[m]? = some reply ∧ Replies env command reply := by
  obtain ⟨work, hwork, rfl, hdelivered⟩ := h.replies.acked n hacked
  obtain ⟨command', reply, hn', hevents, hreplies⟩ := h.served work hwork
  cases hn.symm.trans hn'
  obtain ⟨reply', hmem, hid⟩ := hdelivered reply (by rw [hevents]; exact List.mem_singleton_self _)
  obtain ⟨command', hcommand', hreplies'⟩ := h.replied hmem
  have heq := h.command_eq hids (h.journalled hcommand') (h.journalled (List.mem_of_getElem? hn))
    hreplies' hreplies hid
  obtain ⟨m, hm⟩ := List.mem_iff_getElem?.mp hmem
  exact ⟨m, reply', hm, heq ▸ hreplies'⟩

/-- A commit for a result ID handled a reply to the command that the ID was made of. -/
lemma OrderPath.Inv.committed_reply (h : s.Inv env orderId) (hids : DistinctIds env orderId)
    {command : ResultMessage} {reply : Reply} {e : Commit}
    (hcommand : command ∈ journalledResults s.checkout.log) (hreply : Replies env command reply)
    (he : e ∈ s.checkout.log) (hid : e.messageId = reply.messageId) :
    ∃ reply' delivered, reply' ∈ s.replies.events ∧ Replies env command reply' ∧
      SameMessage reply'.data delivered ∧ e.input = .event reply'.subject delivered := by
  obtain ⟨-, slot, hslot⟩ := hreply.messageId
  rcases h.commits e he with ⟨source, hnames⟩ | ⟨record, hinput, parts, hstable⟩
  · cases source with
    | submit n =>
      obtain ⟨envelope, delivered, payload, projections, hn, ⟨_, _, rfl⟩, hinput⟩ := hnames
      have horder := h.submits envelope (List.mem_of_getElem? hn)
      have hmessage : e.messageId = envelope.messageId := congrArg OrderInput.messageId hinput
      exact (hids.order _ (horder.symm.trans (hmessage.symm.trans (hid.trans hslot)))).elim
    | reply m =>
      obtain ⟨reply', delivered, hm, hsame, hinput⟩ := hnames
      have hmem := List.mem_of_getElem? hm
      obtain ⟨command', hcommand', hreplies⟩ := h.replied hmem
      have hmessage : e.messageId = reply'.data.messageId := by
        obtain ⟨_, _, rfl⟩ := hsame
        exact congrArg OrderInput.messageId hinput
      have heq := h.command_eq hids (h.journalled hcommand') hcommand hreplies hreply
        (hreplies.messageId.1.trans (hmessage.symm.trans hid))
      exact ⟨reply', delivered, hmem, heq ▸ hreplies, hsame, hinput⟩
  · have hmessage : e.messageId = record.workId := congrArg OrderInput.messageId hinput
    exact (hids.stable parts _ (hstable.symm.trans (hmessage.symm.trans (hid.trans hslot)))).elim

/-- The commit that journalled a command handled a message of the streams. -/
lemma OrderPath.Inv.source_of_command (h : s.Inv env orderId) {command : ResultMessage} {e : Commit}
    (he : e ∈ s.checkout.log) (hcommand : command ∈ e.results)
    (hawaits : command.subject.awaits.isSome = true) : ∃ source, s.Names source e.input := by
  rcases h.commits e he with hnames | ⟨record, hinput, -⟩
  · exact hnames
  · have hnone := (h.inputs.history.history.resultsOk e he).deadline _ _ _ _ hinput command hcommand
    rw [hnone] at hawaits
    cases hawaits

/-- Unless work on it is outstanding, a reply to a command has been committed. -/
lemma OrderPath.Inv.outstanding_or_committed (h : s.Inv env orderId) (hids : DistinctIds env orderId)
    {command : ResultMessage} (hcommand : command ∈ journalledResults s.checkout.log)
    (hawaits : command.subject.awaits.isSome = true) :
    s.Outstanding env command ∨ ∃ e ∈ s.checkout.log, ∃ reply delivered, Replies env command reply ∧
      SameMessage reply.data delivered ∧ e.input = .event reply.subject delivered := by
  obtain ⟨e, he, hmem⟩ := List.mem_flatMap.mp hcommand
  obtain ⟨source, hnames⟩ := h.source_of_command he hmem hawaits
  by_cases hacked : some source ∈ s.results.acked
  swap
  · exact Or.inl (Or.inl ⟨e, he, hmem, source, e.input, hnames, rfl, hacked⟩)
  -- the message of the commit is acknowledged, so the command is published
  obtain ⟨e', he', hid, hpublished⟩ := h.published_of_acked hids hacked hnames
  obtain rfl : e' = e := List.inj_on_of_nodup_map h.nodup he' he hid
  obtain ⟨n, hn⟩ := List.mem_iff_getElem?.mp (hpublished command hmem)
  by_cases hanswered : n ∈ s.replies.acked
  swap
  · exact Or.inl (Or.inr (Or.inl ⟨n, hn, hanswered⟩))
  -- the command is acknowledged, so there is a reply
  obtain ⟨m, reply, hm, hreply⟩ := h.answered_of_acked hids hn hanswered
  by_cases hheard : some (Source.reply m) ∈ s.results.acked
  swap
  · exact Or.inl (Or.inr (Or.inr ⟨m, reply, hm, hreply, hheard⟩))
  -- the reply is acknowledged, so it is committed
  have hnamed : s.Names (.reply m) (.event reply.subject reply.data) := ⟨reply, _, hm, ⟨_, _, rfl⟩, rfl⟩
  obtain ⟨e'', he'', hid', -⟩ := h.published_of_acked hids hheard hnamed
  obtain ⟨reply', delivered, -, hreply', hsame, hinput⟩ :=
    h.committed_reply hids hcommand hreply he'' (hid'.trans hreply.messageId.1.symm)
  exact Or.inr ⟨e'', he'', reply', delivered, hreply', hsame, hinput⟩

/-- Unless work on it is outstanding, a command that the order waits for is one of two compensations. -/
lemma OrderPath.Inv.outstanding_or_acknowledged (h : s.Inv env orderId)
    (hids : DistinctIds env orderId) (hstable : ∀ parts, env.stableID parts ≠ "") {saga : OrderSaga}
    (hsaga : s.checkout.keys.view.saga = some saga) {subject : ResultSubject}
    (hwaits : saga.WaitsFor subject) :
    ∃ command ∈ journalledResults s.checkout.log, command.subject = subject ∧
      (s.Outstanding env command ∨ saga.stage = .compensating ∧
        ∃ ack : SagaSubject, ack.stage = subject.awaits ∧ ack.isAck = true ∧
          (∃ reply, Replies env command reply ∧ reply.subject = ack) ∧
          AcknowledgedIn s.checkout.log ack ∧
            (ack = .authorizationReleased → saga.needShipmentCancel = true)) := by
  have hhistory := h.inputs.history.history
  obtain ⟨command, hcommand, rfl⟩ := hhistory.waitsFor hsaga hwaits
  refine ⟨command, hcommand, rfl, ?_⟩
  rcases h.outstanding_or_committed hids hcommand (by rw [hwaits.1]; rfl) with hout |
    ⟨e, he, reply, delivered, hreply, hsame, hinput⟩
  · exact Or.inl hout
  · have hlog : s.checkout.log ≠ [] := List.ne_nil_of_mem he
    have hisCommand : command.subject.isCommand = true := by
      simp [ResultSubject.isCommand, hwaits.1]
    have hok := ((hhistory.contract hstable h.inputs.commits).commands command hcommand
      hisCommand).replyOk (hhistory.orderId_not_blank hlog) hreply.handled
    have hstage := hok.stage.trans hwaits.1
    rcases hhistory.pastReply hstable h.inputs.commits e he _ _ hinput saga.stage hstage with hlt |
      ⟨saga', hsaga', hcompensating, hack, hcommitted, hneed⟩
    · rw [hsaga, stageOf_some] at hlt
      exact (lt_irrefl _ hlt).elim
    · cases hsaga.symm.trans hsaga'
      exact Or.inr ⟨hcompensating, reply.subject, hok.stage, hack, ⟨reply, hreply, rfl⟩, hcommitted, hneed⟩

/-- The acknowledgement of a compensation has its own subject. -/
lemma Replies.acknowledges {command : ResultMessage} {reply : Reply} (h : Replies env command reply)
    (hack : reply.subject.isAck = true) :
    (command.subject = .releaseAuthorization → reply.subject = .authorizationReleased) ∧
      (command.subject = .cancelShipment → reply.subject = .shipmentCancelled) := by
  have hreplied := h.repliedBy
  generalize reply.subject = subject at hack hreplied
  constructor
  all_goals
    intro hcommand
    rw [hcommand] at hreplied
    cases subject <;> first | rfl | (cases hreplied; done) | cases hack

/-- An open order waits for outstanding work, or has lost an acknowledgement. -/
lemma OrderPath.Inv.outstanding (h : s.Inv env orderId) (hids : DistinctIds env orderId)
    (hstable : ∀ parts, env.stableID parts ≠ "") {saga : OrderSaga}
    (hsaga : s.checkout.keys.view.saga = some saga) (hopen : saga.stage.terminal = false) :
    (∃ command ∈ journalledResults s.checkout.log, saga.WaitsFor command.subject ∧
      s.Outstanding env command) ∨ saga.LostAcknowledgement s.checkout.log := by
  obtain ⟨subject, hwaits, hrelease⟩ := OrderSaga.exists_waitsFor hopen
  obtain ⟨command, hcommand, rfl, hout | ⟨hstage, ack, -, hack, ⟨reply, hreply, rfl⟩, hreleased, hneed⟩⟩ :=
    h.outstanding_or_acknowledged hids hstable hsaga hwaits
  · exact Or.inl ⟨command, hcommand, hwaits, hout⟩
  -- the authorization is released, so the order waits for the shipment to be cancelled
  have hsubject := (hreply.acknowledges hack).1 (hrelease hstage)
  have hneeds := hneed hsubject
  have hwaits' : saga.WaitsFor .cancelShipment := ⟨hstage ▸ rfl, fun _ => hneeds⟩
  obtain ⟨command', hcommand', hcancel, hout | ⟨-, ack', -, hack', ⟨reply', hreply', rfl⟩, hcancelled, -⟩⟩ :=
    h.outstanding_or_acknowledged hids hstable hsaga hwaits'
  · exact Or.inl ⟨command', hcommand', hcancel.symm ▸ hwaits', hout⟩
  · exact Or.inr ⟨hstage, hneeds, hsubject ▸ hreleased, (hreply'.acknowledges hack').2 hcancel ▸ hcancelled⟩

/-- All messages around the order are acknowledged, the commands among the results by their services. -/
structure OrderPath.Quiet (s : OrderPath) : Prop where
  submits : ∀ n, n < s.submits.length → some (.submit n) ∈ s.results.acked
  commands : ∀ n result, s.results.events[n]? = some result → result.subject.awaits.isSome = true →
    n ∈ s.replies.acked
  replies : ∀ n, n < s.replies.events.length → some (.reply n) ∈ s.results.acked

/-- No work is outstanding when all messages are acknowledged. -/
lemma OrderPath.Quiet.not_outstanding (h : s.Quiet) {command : ResultMessage}
    (hawaits : command.subject.awaits.isSome = true) : ¬s.Outstanding env command := by
  rintro (⟨e, -, -, source, input, hnames, -, hunacked⟩ | ⟨n, hn, hunacked⟩ | ⟨m, reply, hm, -, hunacked⟩)
  · cases source with
    | submit n =>
      obtain ⟨_, _, _, _, hn, -⟩ := hnames
      exact hunacked (h.submits n (List.getElem?_eq_some_iff.mp hn).1)
    | reply n =>
      obtain ⟨_, _, hn, -⟩ := hnames
      exact hunacked (h.replies n (List.getElem?_eq_some_iff.mp hn).1)
  · exact hunacked (h.commands n command hn hawaits)
  · exact hunacked (h.replies m (List.getElem?_eq_some_iff.mp hm).1)

/-- Over every run: an open order waits for a command on which work is outstanding, so that it is closed when
all messages are acknowledged; unless it compensates both its authorization and its shipment, and one of the
acknowledgements is lost. -/
theorem open_order_has_outstanding_work (hids : DistinctIds env orderId)
    (hstable : ∀ parts, env.stableID parts ≠ "") {actions : List OrderPathAction}
    (hserved : ∀ action ∈ actions, action.Served)
    (hrun : StepSystem.run (OrderPath.step env orderId) {} actions = some s) {saga : OrderSaga}
    (hsaga : s.checkout.keys.view.saga = some saga) :
    saga.LostAcknowledgement s.checkout.log ∨
      (saga.stage.terminal = false → ∃ command ∈ journalledResults s.checkout.log,
        saga.WaitsFor command.subject ∧ s.Outstanding env command) ∧
      (s.Quiet → saga.stage.terminal = true) := by
  have hinv := OrderPath.inv_of_run hids.digest hserved hrun
  by_cases hlost : saga.LostAcknowledgement s.checkout.log
  · exact Or.inl hlost
  have hwork : saga.stage.terminal = false → ∃ command ∈ journalledResults s.checkout.log,
      saga.WaitsFor command.subject ∧ s.Outstanding env command := fun hopen =>
    (hinv.outstanding hids hstable hsaga hopen).resolve_right hlost
  refine Or.inr ⟨hwork, fun hquiet => ?_⟩
  by_contra hne
  obtain ⟨command, -, hwaits, hout⟩ := hwork (Bool.eq_false_iff.mpr hne)
  exact hquiet.not_outstanding (by rw [hwaits.1]; rfl) hout

end Outstanding

/-! ## A sample order -/

namespace Sample

/-- A hash of result IDs that does not collide: it marks every character by its text. -/
def markedHash (messageId slot : String) : String :=
  String.ofList ((messageId.toList.flatMap fun c => ['m', c]) ++ slot.toList.flatMap fun c => ['s', c])

/-- Marked texts are told apart. -/
lemma marked_injective (a b a' b' : List Char)
    (h : ((a.flatMap fun c => ['m', c]) ++ b.flatMap fun c => ['s', c]) =
      (a'.flatMap fun c => ['m', c]) ++ b'.flatMap fun c => ['s', c]) : a = a' ∧ b = b' := by
  induction a generalizing a' with
  | nil =>
    cases a' with
    | cons c a' => cases b <;> simp at h
    | nil =>
      refine ⟨rfl, ?_⟩
      simp only [List.flatMap_nil, List.nil_append] at h
      induction b generalizing b' with
      | nil => cases b' <;> simp at h ⊢
      | cons c b ih =>
        cases b' with
        | nil => simp at h
        | cons c' b' =>
          simp only [List.flatMap_cons, List.cons_append, List.nil_append, List.cons.injEq,
            true_and] at h
          exact List.cons_eq_cons.mpr ⟨h.1, ih b' h.2⟩
  | cons c a ih =>
    cases a' with
    | nil => cases b' <;> simp at h
    | cons c' a' =>
      simp only [List.flatMap_cons, List.cons_append, List.nil_append, List.cons.injEq, true_and] at h
      obtain ⟨ha, hb⟩ := ih a' h.2
      exact ⟨List.cons_eq_cons.mpr ⟨h.1, ha⟩, hb⟩

/-- The configuration of the sample with that hash. -/
def pathEnv : CheckoutEnv := { contractEnv with resultHash := markedHash }

/-- The IDs of the sample do not collide. -/
lemma pathEnv_distinct : DistinctIds pathEnv Sample.orderId where
  digest := fun _ _ h => h
  resultHash := by
    intro input slot input' slot' h
    obtain ⟨hinput, hslot⟩ := marked_injective _ _ _ _ (String.ofList_injective h)
    exact ⟨String.toList_injective hinput, String.toList_injective hslot⟩
  stable := by
    intro parts text h
    have hlist := congrArg String.toList h
    simp [pathEnv, contractEnv, String.toList_append] at hlist
  order := by
    intro text h
    have hlist := congrArg String.toList h
    simp [Sample.orderId, String.toList_append] at hlist

/-- The IDs of the sample are not empty. -/
lemma pathEnv_stable : ∀ parts, pathEnv.stableID parts ≠ "" := by
  intro parts hempty
  simpa [pathEnv, contractEnv] using congrArg String.length hempty

/-- The order is submitted, and checkout publishes the command for the quote twice, since the first
acknowledgement is lost; shipping replies, and the reply is committed. -/
def quotedPath : List OrderPathAction :=
  [.submit (envelope Sample.orderId "boutique.order.Submit.v1" (.orderSubmit command)),
    .receive 0 (.submit 0) time projections "" "", .checkout (.load 0), .commit 0 .delivered,
    .publish 0 .stored, .publish 0 .lost, .fail 0,
    .receive 1 (.submit 0) time projections "" "", .checkout (.load 1), .commit 1 .delivered,
    .publish 1 .duplicate, .publish 1 .duplicate, .ack 1 true,
    .serve 0 1 (.shipping shippingEnv) "" "", .reply (.publish 0 .stored), .reply (.finish 0 true),
    .receive 0 (.reply 0) time projections "" "", .checkout (.load 0), .commit 0 .delivered]

/-- The cart of the sample is served by the cart service. -/
lemma quotedPath_served : ∀ action ∈ quotedPath, action.Served := by
  intro action haction
  simp only [quotedPath, List.mem_cons, List.not_mem_nil, or_false] at haction
  rcases haction with rfl | rfl | rfl | rfl | rfl | rfl | rfl | rfl | rfl | rfl | rfl | rfl | rfl | rfl |
    rfl | rfl | rfl | rfl | rfl
  all_goals first | trivial | exact submit_inputOk []

end Sample

/-- After the reply of the shipping service the sample order waits for its payment to be authorized. -/
theorem quoted_order_waits_for_payment :
    ∃ s saga, StepSystem.run (OrderPath.step Sample.pathEnv Sample.orderId) {} Sample.quotedPath = some s ∧
      s.checkout.keys.view.saga = some saga ∧ saga.stage = .waitingAuthorize ∧
      ∃ command ∈ journalledResults s.checkout.log, command.subject = .authorize ∧
        s.Outstanding Sample.pathEnv command := by
  have hrun : ((StepSystem.run (OrderPath.step Sample.pathEnv Sample.orderId) {} Sample.quotedPath).bind
      fun s => s.checkout.keys.view.saga.map OrderSaga.stage) = some .waitingAuthorize := by
    decide +kernel
  obtain ⟨s, hs, hsaga⟩ := Option.bind_eq_some_iff.mp hrun
  obtain ⟨saga, hsaga, hstage⟩ := Option.map_eq_some_iff.mp hsaga
  refine ⟨s, saga, hs, hsaga, hstage, ?_⟩
  rcases open_order_has_outstanding_work Sample.pathEnv_distinct Sample.pathEnv_stable
    Sample.quotedPath_served hs hsaga with hlost | ⟨hwork, -⟩
  · rw [hlost.compensating] at hstage
    cases hstage
  · obtain ⟨command, hcommand, ⟨hawaits, -⟩, hout⟩ := hwork (by rw [hstage]; rfl)
    refine ⟨command, hcommand, ?_, hout⟩
    rw [hstage] at hawaits
    cases hsubject : command.subject <;> rw [hsubject] at hawaits <;> first | rfl | cases hawaits

end Boutique
