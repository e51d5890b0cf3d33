import Boutique.Checkout.Compensation

/-!
# Lost updates of an order

An acknowledgement of one of two compensations sets a flag of the saga but leaves its version as it
was.  A call that loaded the saga before such a commit can therefore still commit after it, and
writes back the saga without the flag.  `interleaved_acknowledgements_lost` is the shortest such
run: both acknowledgements are committed and the order compensates for ever.

`NoStaleAcknowledgement` excludes exactly these commits.  In every run without them each commit
applies its transition to the stored order, so the stored order is the fold of the committed inputs
in commit order.
-/

namespace Boutique

open OptimisticRegister

variable {env : CheckoutEnv} {orderId : String}

/-! ## Commits that apply to the stored order -/

/-- The commit is what its input's transition makes of the view that was stored when it ran. -/
def Commit.Current (env : CheckoutEnv) (orderId : String) (e : Commit) : Prop :=
  prepareCommit env orderId e.input e.now e.before = .ok e.args

instance (e : Commit) : Decidable (e.Current env orderId) :=
  inferInstanceAs (Decidable (prepareCommit env orderId e.input e.now e.before = .ok e.args))

/-- The order after one more input, applied to the stored view. -/
def applyCommitted (env : CheckoutEnv) (orderId : String) (view : OrderView) (e : Commit) :
    OrderView :=
  match prepareCommit env orderId e.input e.now view with
  | .ok args => view.write args
  | .error _ => view

/-- The fold of current commits is the view they leave. -/
lemma OrderHistory.fold_eq {log : List Commit} {v : OrderView}
    (h : OrderHistory env orderId log v) (hcurrent : ∀ e ∈ log, e.Current env orderId) :
    log.foldl (applyCommitted env orderId) {} = v := by
  refine OrderHistory.induction (P := fun log v => (∀ e ∈ log, e.Current env orderId) →
    log.foldl (applyCommitted env orderId) {} = v) (fun _ => rfl) ?_ h hcurrent
  intro log v e pre hstep ih _ _ hcurrent
  have hlog := ih fun e he => hcurrent e (List.mem_append_left _ he)
  have he : prepareCommit env orderId e.input e.now e.before = .ok e.args :=
    hcurrent e (List.mem_append_right _ (List.mem_singleton_self _))
  rw [hstep.valid.before_eq] at he
  rw [List.foldl_append, hlog]
  simp only [List.foldl_cons, List.foldl_nil, applyCommitted, he]
  rw [Commit.after, hstep.valid.before_eq]

/-! ## Acknowledgements at an unchanged version -/

/-- The view with acknowledgement flags set. -/
def OrderView.acknowledgeAll (view : OrderView) (acks : List SagaSubject) : OrderView :=
  { view with saga := view.saga.map fun s => acks.foldl OrderSaga.acknowledge s }

/-- The commit is the first acknowledgement of a compensation, and another one is still pending. -/
def Commit.PartialAck (e : Commit) (subject : SagaSubject) : Prop :=
  subject.isAck = true ∧ (∃ envelope, e.input = .event subject envelope) ∧
    ∃ s, e.before.saga = some s ∧ s.stage = .compensating ∧ s.acknowledge subject ≠ s ∧
      (s.acknowledge subject).compensationPending = true

/-- No call commits over the partial acknowledgement of a compensation that was committed after the
call had loaded the order, unless its own input is an event with the same subject. -/
def NoStaleAcknowledgement (env : CheckoutEnv) (orderId : String) (s : CheckoutState)
    (a : Action) : Prop :=
  ∀ call l, Commits env orderId s a call l →
    ∀ e ∈ s.log.drop l.seen, ∀ subject, e.PartialAck subject →
      ∃ envelope, call.input = .event subject envelope

namespace OrderView

variable {view : OrderView} {acks : List SagaSubject}

lemma acknowledgeAll_nil : view.acknowledgeAll [] = view := by
  simp [acknowledgeAll]

lemma acknowledgeAll_snoc (subject : SagaSubject) :
    view.acknowledgeAll (acks ++ [subject]) = (view.acknowledgeAll acks).acknowledgeAll [subject] := by
  simp [acknowledgeAll, Function.comp_def]

end OrderView

/-- Acknowledging keeps the stage. -/
lemma OrderSaga.stage_foldl_acknowledge (s : OrderSaga) (acks : List SagaSubject) :
    (acks.foldl OrderSaga.acknowledge s).stage = s.stage := by
  induction acks generalizing s with
  | nil => rfl
  | cons a acks ih =>
    rw [List.foldl_cons, ih]
    exact OrderSaga.stage_eq_of_core (OrderSaga.core_acknowledge s a)

/-- Acknowledging the same compensation again changes nothing. -/
lemma OrderSaga.acknowledge_idem (s : OrderSaga) (subject : SagaSubject) :
    (s.acknowledge subject).acknowledge subject = s.acknowledge subject := by
  cases subject <;> rfl

/-- Acknowledging one compensation several times is acknowledging it once. -/
lemma OrderSaga.foldl_acknowledge_eq (s : OrderSaga) {acks : List SagaSubject}
    {subject : SagaSubject} (hne : acks ≠ []) (hacks : ∀ a ∈ acks, a = subject) :
    acks.foldl OrderSaga.acknowledge s = s.acknowledge subject := by
  induction acks generalizing s with
  | nil => exact absurd rfl hne
  | cons a acks ih =>
    obtain rfl := hacks a (List.mem_cons_self ..)
    rw [List.foldl_cons]
    cases acks with
    | nil => rfl
    | cons b bs =>
      rw [ih _ (List.cons_ne_nil _ _) fun x hx => hacks x (List.mem_cons_of_mem _ hx)]
      exact OrderSaga.acknowledge_idem s a

/-- A compensation event does not read the flag that it sets. -/
lemma prepareCommit_acknowledge {subject : SagaSubject} {envelope : MessageEnvelope} {now : Time}
    {view : OrderView} {s : OrderSaga} (hack : subject.isAck = true) (hs : view.saga = some s)
    (hstage : s.stage = .compensating) :
    prepareCommit env orderId (.event subject envelope) now
        { view with saga := some (s.acknowledge subject) } =
      prepareCommit env orderId (.event subject envelope) now view := by
  cases subject <;> cases hack
  all_goals
    simp only [prepareCommit, OrderInput.update, applySagaEvent, transitionWorkspace,
      loadOrderWorkspace, hydratedOrder, hs, hstage, OrderSaga.acknowledge, commitArgs,
      OrderInput.base, PersistedState.withProjections, PersistedState.withAccepted,
      PersistedState.new, PersistedState.setInbox, PersistedState.setOrder, sagaEventSwitch,
      Stage.terminal, reduceCtorEq, if_false, Option.isSome_none, Bool.false_eq_true, ne_eq,
      not_true_eq_false]

/-- A current commit at an unchanged version changes nothing, or sets the flag of a partial
acknowledgement. -/
lemma HistoryStep.same_version {log : List Commit} {v : OrderView} {e : Commit}
    (h : HistoryStep env orderId log v e) (hcurrent : e.Current env orderId)
    (hversion : e.after.version = v.version) :
    e.after = v ∨ ∃ subject, e.PartialAck subject ∧ e.after = v.acknowledgeAll [subject] := by
  have hbefore := h.valid.before_eq
  have hp := prepareCommit_prepared (show prepareCommit env orderId e.input e.now v = .ok e.args by
    rw [← hbefore]; exact hcurrent)
  have hconsistent := h.history.consistent
  cases hsaga : e.args.saga with
  | none =>
    left
    rw [Commit.after, hbefore]
    exact OrderView.write_none hsaga (hp.accepted (.inr hsaga))
  | some s' =>
    obtain ⟨hs', hnext⟩ := OrderView.write_some (v := e.before) hsaga
    have hafter : e.after.version = s'.version := by rw [Commit.after, hnext, hp.nextVersion, hsaga]; rfl
    have hmove := hp.move
    rw [hsaga] at hmove
    cases hs : v.saga with
    | none =>
      have hzero := hconsistent.version_zero hs
      rcases hmove.of_none (by simpa using hs) with ⟨hnone, -⟩ | ⟨t, ht, hone⟩
      · cases hnone
      · cases ht
        omega
    | some s =>
      obtain ⟨t, ht, -, hsame⟩ := hmove.of_some (by simpa using hs)
      cases ht
      have heq : s'.version = s.version := by
        have := hconsistent.version_eq s hs
        omega
      have haccepted : e.after.accepted = v.accepted := by
        have : e.args.accepted = none := hp.accepted (.inl (hconsistent.version_pos s hs))
        rw [Commit.after, hbefore]
        simp [OrderView.write, this]
      have hview : ∀ w : OrderView, w.version = v.version → w.saga = some s' →
          w.accepted = v.accepted → e.after = w := by
        intro w hwv hws hwa
        cases w
        rw [show e.after = ⟨e.after.version, e.after.saga, e.after.accepted⟩ from rfl]
        simp_all [Commit.after]
      rcases (hsame heq).2 with rfl | ⟨subject, envelope, hinput, hack, hstage, rfl, hpending⟩
      · exact .inl (hview v rfl hs rfl)
      · by_cases hchange : s.acknowledge subject = s
        · exact .inl (hview v rfl (by rw [hchange]; exact hs) rfl)
        · refine .inr ⟨subject, ⟨hack, ⟨envelope, hinput⟩, s, hbefore ▸ hs, hstage, hchange,
            hpending⟩, hview _ rfl ?_ rfl⟩
          simp [OrderView.acknowledgeAll, hs]

/-! ## Runs without stale acknowledgements -/

/-- The invariant of such runs: all commits are current, and a call that could still commit has
loaded the stored view up to partial acknowledgements committed since. -/
structure CurrentInv (env : CheckoutEnv) (orderId : String) (s : CheckoutState) : Prop where
  history : HistoryInv env orderId s
  current : ∀ e ∈ s.log, e.Current env orderId
  acked : ∀ w l, s.HasLoaded w l → l.view.version = s.keys.view.version →
    ∃ acks, (∀ a ∈ acks, ∃ e ∈ s.log.drop l.seen, e.PartialAck a) ∧
      (acks ≠ [] → ∃ t, l.view.saga = some t ∧ t.stage = .compensating) ∧
      s.keys.view = l.view.acknowledgeAll acks

section Steps

variable {s s' : CheckoutState} {a : Action}

/-- A commit that meets the condition is current. -/
lemma CurrentInv.commit_current {call : Call} {l : LoadedView} {args : CommitArgs}
    (h : CurrentInv env orderId s) (hok : NoStaleAcknowledgement env orderId s a)
    (hcommits : Commits env orderId s a call l)
    (hargs : prepareCommit env orderId call.input call.now l.view = .ok args) :
    (s.commitRecord call l args).Current env orderId := by
  obtain ⟨w, delivery, -, ⟨scan, hworker⟩, -⟩ := hcommits.action
  obtain ⟨acks, hacks, hstage, hview⟩ :=
    h.acked w l ⟨call, scan, hworker, hcommits.loaded⟩ hcommits.version.symm
  change prepareCommit env orderId call.input call.now s.keys.view = .ok args
  cases acks with
  | nil =>
    rw [hview, OrderView.acknowledgeAll_nil]
    exact hargs
  | cons subject acks =>
    obtain ⟨t, ht, hstage⟩ := hstage (List.cons_ne_nil _ _)
    -- the condition makes every acknowledgement since the load one with the subject of the input
    have hinput : ∀ b ∈ subject :: acks, ∃ envelope, call.input = .event b envelope := by
      intro b hb
      obtain ⟨e, he, hpartial⟩ := hacks b hb
      exact hok call l hcommits e he b hpartial
    obtain ⟨envelope, henvelope⟩ := hinput subject (List.mem_cons_self ..)
    have hall : ∀ b ∈ subject :: acks, b = subject := by
      intro b hb
      obtain ⟨envelope', henvelope'⟩ := hinput b hb
      cases henvelope.symm.trans henvelope'
      rfl
    obtain ⟨e, -, hpartial⟩ := hacks subject (List.mem_cons_self ..)
    have hview' : s.keys.view = { l.view with saga := some (t.acknowledge subject) } := by
      rw [hview, OrderView.acknowledgeAll, ht, Option.map_some,
        OrderSaga.foldl_acknowledge_eq t (List.cons_ne_nil _ _) hall]
    rw [hview', henvelope, prepareCommit_acknowledge hpartial.1 ht hstage, ← henvelope]
    exact hargs

/-- A commit keeps what is known of the loaded views. -/
lemma CurrentInv.acked_of_commit {e : Commit} {w : ℕ} {l : LoadedView}
    (h : CurrentInv env orderId s) (hcommit : HistoryStep env orderId s.log s.keys.view e)
    (hcurrent : e.Current env orderId) (hl : s.HasLoaded w l)
    (hversion : l.view.version = e.after.version) :
    ∃ acks, (∀ a ∈ acks, ∃ e' ∈ (s.log ++ [e]).drop l.seen, e'.PartialAck a) ∧
      (acks ≠ [] → ∃ t, l.view.saga = some t ∧ t.stage = .compensating) ∧
      e.after = l.view.acknowledgeAll acks := by
  obtain ⟨hseen, hload⟩ := h.history.calls.loaded w l hl
  have hle : l.view.version ≤ s.keys.view.version :=
    (h.history.history.fresh (List.take_prefix _ _) hload).1
  have hstep : s.keys.view.version ≤ e.after.version :=
    (hcommit.valid.fresh hcommit.loaded_consistent hcommit.similar hcommit.version_eq).1
  obtain ⟨acks, hacks, hstage, hview⟩ := h.acked w l hl (by omega)
  have hdrop : (s.log ++ [e]).drop l.seen = s.log.drop l.seen ++ [e] :=
    List.drop_append_of_le_length hseen
  have hold : ∀ a ∈ acks, ∃ e' ∈ (s.log ++ [e]).drop l.seen, e'.PartialAck a := by
    intro a ha
    obtain ⟨e', he', hpartial⟩ := hacks a ha
    exact ⟨e', hdrop ▸ List.mem_append_left _ he', hpartial⟩
  rcases hcommit.same_version hcurrent (by omega) with hsame | ⟨subject, hpartial, hafter⟩
  · exact ⟨acks, hold, hstage, hsame.trans hview⟩
  · refine ⟨acks ++ [subject], ?_, fun _ => ?_, ?_⟩
    · intro a ha
      rcases List.mem_append.mp ha with ha | ha
      · exact hold a ha
      · cases List.mem_singleton.mp ha
        exact ⟨e, hdrop ▸ List.mem_append_right _ (List.mem_singleton_self _), hpartial⟩
    · obtain ⟨-, -, t, ht, htstage, -⟩ := hpartial
      rw [hcommit.valid.before_eq, hview, OrderView.acknowledgeAll] at ht
      obtain ⟨u, hu, rfl⟩ := Option.map_eq_some_iff.mp ht
      exact ⟨u, hu, by rw [← htstage, OrderSaga.stage_foldl_acknowledge]⟩
    · rw [hafter, hview, ← OrderView.acknowledgeAll_snoc]

/-- Every step that meets the condition keeps the invariant. -/
lemma CurrentInv.step (h : CurrentInv env orderId s)
    (hok : NoStaleAcknowledgement env orderId s a)
    (hstep : step env orderId s a = some s') : CurrentInv env orderId s' := by
  have hhistory := h.history.step hstep
  rcases step_commits hstep with ⟨hlog, hview⟩ | ⟨call, l, args, hcommits, hargs, hlog, hview⟩
  · refine ⟨hhistory, hlog ▸ h.current, fun w l hl hversion => ?_⟩
    rw [hlog, hview]
    rcases step_loaded hstep hl with hl | ⟨rfl, -, -⟩
    · exact h.acked w l hl (hview ▸ hversion)
    · exact ⟨[], by simp, by simp, OrderView.acknowledgeAll_nil.symm⟩
  · have hcurrent := h.commit_current hok hcommits hargs
    obtain ⟨w, delivery, -, ⟨scan, hworker⟩, -⟩ := hcommits.action
    have hcommit := h.history.historyStep hworker hcommits.loaded hargs
      (hcommits.version.trans (prepareCommit_expected hargs).symm)
    refine ⟨hhistory, fun e he => ?_, fun w' l' hl' hversion => ?_⟩
    · rw [hlog] at he
      rcases List.mem_append.mp he with he | he
      · exact h.current e he
      · cases List.mem_singleton.mp he
        exact hcurrent
    · rw [hlog, hview]
      rcases step_loaded hstep hl' with hl' | ⟨-, -, hsame⟩
      · exact h.acked_of_commit hcommit hcurrent hl' (hview ▸ hversion)
      · rw [hlog] at hsame
        simp at hsame

end Steps

/-- Runs without stale acknowledgements keep the invariant. -/
theorem run_current {actions : List Action} {s : CheckoutState}
    (hrun : runs env orderId actions = some s)
    (hok : StepSystem.Along (step env orderId) (NoStaleAcknowledgement env orderId) {} actions) :
    CurrentInv env orderId s := by
  refine StepSystem.run_invariant (fun _ _ _ => CurrentInv.step) ?_ hok hrun
  refine ⟨.init, by rintro _ ⟨⟩, ?_⟩
  rintro _ _ ⟨_, _, ⟨⟩, _⟩

/-! ## Both compensations acknowledged -/

/-- An event with this subject is among the commits. -/
def CommittedIn (log : List Commit) (subject : SagaSubject) : Prop :=
  ∃ e ∈ log, ∃ envelope, e.input = .event subject envelope

/-- The commit is a timeout of the order or the failure of a compensation. -/
def Commit.Disrupts (e : Commit) : Prop :=
  .orderStepTimedOut ∈ subjects e.results ∨
    ∃ envelope, e.input = .event .authorizationReleaseFailed envelope ∨
      e.input = .event .shipmentCancellationFailed envelope

/-- An order that entered compensation with both needs, after the commits `post`: it still
compensates and has the flag of every acknowledgement among them, or it is cancelled. -/
def CompensationProgress (post : List Commit) (v : OrderView) : Prop :=
  (∃ t, v.saga = some t ∧ t.stage = .compensating ∧ t.needRelease = true ∧
    t.needShipmentCancel = true ∧
    (CommittedIn post .authorizationReleased → t.authorizationReleased = true) ∧
    (CommittedIn post .shipmentCancelled → t.shipmentCancelled = true) ∧
    (CommittedIn post .authorizationReleased → t.compensationPending = true)) ∨
  ((∃ t, v.saga = some t ∧ t.stage = .cancelled) ∧
    ∃ e ∈ post, .orderCancelled ∈ subjects e.results)

/-- An event that a longer list has is the last one or in the shorter list. -/
lemma CommittedIn.of_snoc {log : List Commit} {e : Commit} {subject : SagaSubject}
    (h : CommittedIn (log ++ [e]) subject) :
    CommittedIn log subject ∨ ∃ envelope, e.input = .event subject envelope := by
  obtain ⟨x, hx, hinput⟩ := h
  rcases List.mem_append.mp hx with hx | hx
  · exact .inl ⟨x, hx, hinput⟩
  · cases List.mem_singleton.mp hx
    exact .inr hinput

section Progress

variable {log post : List Commit} {v : OrderView} {e : Commit}

/-- An acknowledgement keeps the flags that are set. -/
lemma OrderSaga.acknowledge_mono (t : OrderSaga) (subject : SagaSubject) :
    (t.authorizationReleased = true → (t.acknowledge subject).authorizationReleased = true) ∧
      (t.shipmentCancelled = true → (t.acknowledge subject).shipmentCancelled = true) := by
  cases subject <;> simp [OrderSaga.acknowledge]

/-- A current commit on a compensating order makes progress. -/
lemma HistoryStep.progress_compensating {t : OrderSaga} (h : HistoryStep env orderId log v e)
    (hcurrent : e.Current env orderId) (hdisrupts : ¬ e.Disrupts) (ht : v.saga = some t)
    (hstage : t.stage = .compensating) (hrelease : t.needRelease = true)
    (hcancel : t.needShipmentCancel = true)
    (hreleased : CommittedIn post .authorizationReleased → t.authorizationReleased = true)
    (hcancelled : CommittedIn post .shipmentCancelled → t.shipmentCancelled = true)
    (hpending : CommittedIn post .authorizationReleased → t.compensationPending = true) :
    CompensationProgress (post ++ [e]) e.after := by
  have hmove : SagaMove env e.input (transitionWorkspace e.input e.now v) e.args.saga e.results :=
    (prepareCommit_prepared (show prepareCommit env orderId e.input e.now v = .ok e.args by
      rw [← h.valid.before_eq]; exact hcurrent)).move
  have horders : (transitionWorkspace e.input e.now v).orders = some t := by simpa using ht
  unfold CompensationProgress
  rw [h.after_saga]
  generalize hafter : e.args.saga = after at hmove
  generalize hresults : e.results = results at hmove
  cases hmove with
  | absent horder | rejected _ horder | accepted _ horder => cases horders.symm.trans horder
  | idle horder hack =>
    cases horders.symm.trans horder
    -- an acknowledgement would not leave a compensating order as it is
    have hnot : ∀ subject, subject.isAck = true → ¬ ∃ envelope, e.input = .event subject envelope :=
      fun subject hsubject ⟨envelope, hinput⟩ => hack subject envelope hinput hsubject hstage
    refine .inl ⟨t, rfl, hstage, hrelease, hcancel, fun hc => ?_, fun hc => ?_, fun hc => ?_⟩
    · exact hreleased (hc.of_snoc.resolve_right (hnot _ rfl))
    · exact hcancelled (hc.of_snoc.resolve_right (hnot _ rfl))
    · exact hpending (hc.of_snoc.resolve_right (hnot _ rfl))
  | quoted _ horder _ hother | authorized _ horder _ hother | shipped _ horder _ hother
  | completed _ horder hother =>
    cases horders.symm.trans horder
    cases hstage.symm.trans hother
  | cancelled _ horder hother =>
    cases horders.symm.trans horder
    rcases hother with hother | hother <;> cases hstage.symm.trans hother
  | @compensating _ _ _ _ withShipment _ horder hother =>
    cases horders.symm.trans horder
    cases withShipment <;> cases hstage.symm.trans hother
  | @acknowledged _ subject envelope hinput hack horder _ hstill =>
    cases horders.symm.trans horder
    obtain ⟨kstage, -, -, krelease, kcancel, -⟩ := OrderSaga.acknowledge_keeps t subject
    obtain ⟨mreleased, mcancelled⟩ := OrderSaga.acknowledge_mono t subject
    refine .inl ⟨t.acknowledge subject, rfl, kstage.trans hstage, krelease.trans hrelease,
      kcancel.trans hcancel, fun hc => ?_, fun hc => ?_, fun _ => hstill⟩
    · rcases hc.of_snoc with hc | ⟨envelope', hinput'⟩
      · exact mreleased (hreleased hc)
      · cases hinput.symm.trans hinput'
        rfl
    · rcases hc.of_snoc with hc | ⟨envelope', hinput'⟩
      · exact mcancelled (hcancelled hc)
      · cases hinput.symm.trans hinput'
        rfl
  | compensated _ _ horder =>
    cases horders.symm.trans horder
    refine .inr ⟨⟨_, rfl, rfl⟩, e, by simp, ?_⟩
    rw [hresults]
    simp [subjects]
  | reviewed hinput hfailed =>
    refine absurd (.inr ?_) hdisrupts
    rcases hfailed with rfl | rfl
    · exact ⟨_, .inl hinput⟩
    · exact ⟨_, .inr hinput⟩
  | timedOut =>
    refine absurd (.inl ?_) hdisrupts
    rw [hresults]
    simp [subjects]

/-- A current commit makes progress. -/
lemma HistoryStep.progress (h : HistoryStep env orderId log v e)
    (hcurrent : e.Current env orderId) (hdisrupts : ¬ e.Disrupts)
    (hprogress : CompensationProgress post v) : CompensationProgress (post ++ [e]) e.after := by
  rcases hprogress with ⟨t, ht, hstage, hrelease, hcancel, hreleased, hcancelled, hpending⟩ |
    ⟨⟨t, ht, hstage⟩, x, hx, hxresult⟩
  · exact h.progress_compensating hcurrent hdisrupts ht hstage hrelease hcancel hreleased hcancelled
      hpending
  · have hafter := (h.terminal ht (by rw [hstage]; rfl)).1
    exact .inr ⟨⟨t, hafter, hstage⟩, x, List.mem_append_left _ hx, hxresult⟩

end Progress

/-- The progress of an order after it entered compensation. -/
lemma OrderHistory.progress {log : List Commit} {v : OrderView}
    (h : OrderHistory env orderId log v) (hcurrent : ∀ e ∈ log, e.Current env orderId)
    {pre post : List Commit} {c : Commit} {t : OrderSaga} (hlog : log = pre ++ c :: post)
    (ht : c.after.saga = some t) (hstage : t.stage = .compensating)
    (hrelease : t.needRelease = true) (hcancel : t.needShipmentCancel = true)
    (hdisrupts : ∀ e ∈ post, ¬ e.Disrupts) : CompensationProgress post v := by
  refine OrderHistory.induction (P := fun log v => (∀ e ∈ log, e.Current env orderId) →
    ∀ post, log = pre ++ c :: post → (∀ e ∈ post, ¬ e.Disrupts) → CompensationProgress post v)
    ?_ ?_ h hcurrent post hlog hdisrupts
  · intro _ post hnil
    simp at hnil
  · intro log v e _ hstep ih _ _ hcurrent post hpost hdisrupts
    rcases List.eq_nil_or_concat post with rfl | ⟨post', x, rfl⟩
    · obtain ⟨-, hc⟩ := List.append_inj' hpost rfl
      cases List.singleton_inj.mp hc
      refine .inl ⟨t, ht, hstage, hrelease, hcancel, ?_, ?_, ?_⟩ <;> rintro ⟨_, ⟨⟩, _⟩
    · rw [List.concat_eq_append] at hpost hdisrupts ⊢
      rw [← List.cons_append, ← List.append_assoc] at hpost
      obtain ⟨hlog, hx⟩ := List.append_inj' hpost rfl
      cases List.singleton_inj.mp hx
      refine hstep.progress (hcurrent e (by simp)) (hdisrupts e (by simp)) ?_
      exact ih (fun x hx => hcurrent x (List.mem_append_left _ hx)) post' hlog
        fun x hx => hdisrupts x (List.mem_append_left _ hx)

/-! ## No lost update -/

/-- In every run without stale acknowledgements: every commit with status 0 writes what its input's
transition makes of the order stored at that moment; the stored order is the fold of the committed
inputs in commit order; and an order that entered compensation with both needs, and had both
acknowledgements but no timeout and no failed compensation committed since, is cancelled and has
journalled its cancellation. -/
theorem no_lost_update_without_stale_acknowledgement (env : CheckoutEnv) (orderId : String)
    (actions : List Action) (s : CheckoutState) (hrun : runs env orderId actions = some s)
    (hok : StepSystem.Along (step env orderId) (NoStaleAcknowledgement env orderId) {} actions) :
    (∀ e ∈ s.log, e.Current env orderId) ∧
    s.log.foldl (applyCommitted env orderId) {} = s.keys.view ∧
    ∀ pre c post t, s.log = pre ++ c :: post → c.after.saga = some t → t.stage = .compensating →
      t.needRelease = true → t.needShipmentCancel = true →
      CommittedIn post .authorizationReleased → CommittedIn post .shipmentCancelled →
      (∀ e ∈ post, ¬ e.Disrupts) →
      stageOf s.keys.view.saga = some .cancelled ∧
        ∃ e ∈ post, .orderCancelled ∈ subjects e.results := by
  have h := run_current hrun hok
  have hhistory := h.history.history
  refine ⟨h.current, hhistory.fold_eq h.current, ?_⟩
  intro pre c post t hlog ht hstage hrelease hcancel hreleased hcancelled hdisrupts
  rcases hhistory.progress h.current hlog ht hstage hrelease hcancel hdisrupts with
    ⟨u, -, -, -, -, hflag, hflag', hpending⟩ | ⟨⟨u, hu, hustage⟩, hresult⟩
  · -- with both flags set nothing is pending
    have hpending := hpending hreleased
    rw [OrderSaga.compensationPending, hflag hreleased, hflag' hcancelled] at hpending
    simp at hpending
  · exact ⟨by rw [hu, stageOf_some, hustage], hresult⟩

/-- The commit of a call during which nothing else was committed. -/
def uninterrupted (s : CheckoutState) : Action → Bool
  | .commit w _ =>
    match s.workers w with
    | .applying call _ => (call.loaded.map fun l => decide (s.log.length ≤ l.seen)).getD true
    | _ => true
  | _ => true

/-- An uninterrupted call commits over no acknowledgement. -/
lemma noStaleAcknowledgement_of_uninterrupted {s : CheckoutState} {a : Action}
    (h : uninterrupted s a = true) : NoStaleAcknowledgement env orderId s a := by
  intro call l hcommits e he
  obtain ⟨w, delivery, rfl, ⟨scan, hworker⟩, -⟩ := hcommits.action
  simp only [uninterrupted, hworker, hcommits.loaded, Option.map_some, Option.getD_some,
    decide_eq_true_eq] at h
  rw [List.drop_eq_nil_of_le h] at he
  cases he

/-- The sample order, whose acknowledgements are handled one after the other, loses nothing. -/
theorem sequential_acknowledgements_applied :
    ∃ s, runs Sample.env Sample.orderId Sample.cancelledRun = some s ∧
      StepSystem.Along (step Sample.env Sample.orderId)
        (NoStaleAcknowledgement Sample.env Sample.orderId) {} Sample.cancelledRun ∧
      stageOf s.keys.view.saga = some .cancelled ∧
      ∀ e ∈ s.log, e.Current Sample.env Sample.orderId := by
  have hrun : (runs Sample.env Sample.orderId Sample.cancelledRun).map
      (fun s => stageOf s.keys.view.saga) = some (some .cancelled) := by
    decide +kernel
  obtain ⟨s, hs, hstage⟩ := Option.map_eq_some_iff.mp hrun
  have hok : StepSystem.Along (step Sample.env Sample.orderId)
      (NoStaleAcknowledgement Sample.env Sample.orderId) {} Sample.cancelledRun := by
    refine StepSystem.Along.mono (P := fun s a => uninterrupted s a = true)
      (fun _ _ => noStaleAcknowledgement_of_uninterrupted) ?_
    decide +kernel
  exact ⟨s, hs, hok, hstage, (no_lost_update_without_stale_acknowledgement _ _ _ s hs hok).1⟩

/-- Two workers load the compensating sample order and then commit one acknowledgement each: the
second writes back the saga without the flag of the first, and the order is neither cancelled nor
is a cancellation journalled. -/
theorem interleaved_acknowledgements_lost :
    ∃ s, runs Sample.env Sample.orderId Sample.interleavedRun = some s ∧
      ¬ (∀ e ∈ s.log, e.Current Sample.env Sample.orderId) ∧
      s.log.map Commit.messageId = ["submit", "quoted", "authorized", "shipped", "capture-failed",
        "released", "shipment-cancelled"] ∧
      stageOf s.keys.view.saga = some .compensating ∧
      .orderCancelled ∉ subjects (journalledResults s.log) := by
  have hrun : (runs Sample.env Sample.orderId Sample.interleavedRun).map (fun s =>
      (decide (∀ e ∈ s.log, e.Current Sample.env Sample.orderId), s.log.map Commit.messageId,
        stageOf s.keys.view.saga,
        decide (.orderCancelled ∈ subjects (journalledResults s.log)))) =
      some (false, ["submit", "quoted", "authorized", "shipped", "capture-failed", "released",
        "shipment-cancelled"], some .compensating, false) := by
    decide +kernel
  obtain ⟨s, hs, hfacts⟩ := Option.map_eq_some_iff.mp hrun
  simp only [Prod.mk.injEq, decide_eq_false_iff_not] at hfacts
  exact ⟨s, hs, hfacts⟩

end Boutique
