import Boutique.Lib.OptimisticRegister
import Boutique.Checkout.StepCases

/-!
# The history of an order

The keys `:version`, `:saga` and `:accepted` form a register that calls of `ApplyOrder` write by
compare-and-set on the saga's own version.  `orderRegister` instantiates the register of
`Boutique.Lib.OptimisticRegister`; `run_history` says that the commits of every run form a history
of it, in which every commit was prepared on a view that had been stored before.  The properties of
an order over whole runs are then proved by induction on the history, without the workers.
-/

namespace Boutique

open OptimisticRegister

variable {env : CheckoutEnv} {orderId : String}

/-! ## One attempt of `ApplyOrder` -/

section Attempt

variable {input : OrderInput} {now : Time} {view : OrderView} {args : CommitArgs}

@[simp] lemma transitionWorkspace_orders :
    (transitionWorkspace input now view).orders = view.saga := by
  unfold transitionWorkspace loadOrderWorkspace
  cases hydratedOrder view <;> rfl

@[simp] lemma transitionWorkspace_results :
    (transitionWorkspace input now view).results = [] := by
  unfold transitionWorkspace loadOrderWorkspace
  cases hydratedOrder view <;> cases input.base <;> rfl

@[simp] lemma transitionWorkspace_inbox :
    (transitionWorkspace input now view).inbox = fun _ => none := by
  unfold transitionWorkspace loadOrderWorkspace
  cases hydratedOrder view <;> cases input.base <;> rfl

/-- What an attempt passes to the commit script. -/
structure Prepared (env : CheckoutEnv) (input : OrderInput) (now : Time) (view : OrderView)
    (args : CommitArgs) : Prop where
  move : SagaMove env input (transitionWorkspace input now view) args.saga args.journal
  inputKey : args.inputKey = env.digest input.messageId
  expected : args.expected = view.version
  nextVersion : args.nextVersion = (args.saga.map OrderSaga.version).getD view.version
  accepted : view.version ≠ 0 ∨ args.saga = none → args.accepted = none
  deadline : args.deadline = deadlineMode env input args.saga

/-- The specification of `prepareCommit`. -/
lemma prepareCommit_prepared (h : prepareCommit env orderId input now view = .ok args) :
    Prepared env input now view args := by
  unfold prepareCommit at h
  obtain ⟨state, hupdate, h⟩ := bind_eq_ok.mp h
  cases h
  refine ⟨OrderInput.update_move (by simp) rfl (by simp) hupdate, rfl, rfl, rfl, ?_, rfl⟩
  rintro (hversion | hsaga)
  · simp [commitArgs, hversion]
  · have horders : state.orders = none := hsaga
    simp [commitArgs, horders]

end Attempt

/-! ## The register -/

/-- A commit that `ApplyOrder` can make over the stored view `view`. -/
structure ValidCommit (env : CheckoutEnv) (orderId : String) (view : OrderView) (e : Commit) :
    Prop where
  before_eq : e.before = view
  addressed : e.input.addressed orderId
  accepted : e.input.accepted orderId = true
  prepared : prepareCommit env orderId e.input e.now e.loaded = .ok e.args

/-- The stored order as a register. -/
def orderRegister (env : CheckoutEnv) (orderId : String) : Register OrderView Commit where
  version := OrderView.version
  initial := {}
  loaded := Commit.loaded
  after := Commit.after
  valid := ValidCommit env orderId

/-- The commits of an order and the view they leave. -/
abbrev OrderHistory (env : CheckoutEnv) (orderId : String) : List Commit → OrderView → Prop :=
  History (orderRegister env orderId)

/-! ## Stored views are consistent -/

/-- The facts that hold of every stored view on its own. -/
structure OrderView.Consistent (orderId : String) (view : OrderView) : Prop where
  order_id : ∀ s, view.saga = some s → s.orderId = orderId
  version_eq : ∀ s, view.saga = some s → s.version = view.version
  version_pos : ∀ s, view.saga = some s → view.version ≠ 0
  closed : ∀ s, view.saga = some s → s.stage.terminal = true → s.deadline = 0
  version_zero : view.saga = none → view.version = 0
  accepted_none : view.saga = none → view.accepted = none

/-- A deadline input carries a non-zero deadline: `ApplyOrder` refuses a zero occurrence time. -/
lemma due_ne_zero_of_accepted {id : String} {version : ℕ} {due : Time} {inputId : String}
    (h : (OrderInput.deadline id version due inputId).accepted orderId = true) : due ≠ 0 := by
  intro hdue
  subst hdue
  simp [OrderInput.accepted, OrderInput.envelope, deadlineEnvelope] at h

section Moves

variable {input : OrderInput} {ws : PersistedState} {after : Option OrderSaga}
  {results : List ResultMessage}

/-- A transition keeps the order's ID. -/
lemma SagaMove.order_id {s' : OrderSaga} (h : SagaMove env input ws after results)
    (haddressed : input.addressed orderId) (hid : ∀ s, ws.orders = some s → s.orderId = orderId)
    (hs' : after = some s') : s'.orderId = orderId := by
  cases h with
  | absent => cases hs'
  | rejected hinput | accepted hinput =>
    subst hinput
    cases hs'
    exact haddressed.2
  | idle horder | quoted _ horder | cancelled _ horder | authorized _ horder | shipped _ horder
  | completed _ horder | reviewed _ _ horder | timedOut _ horder =>
    have hs := hid _ horder
    cases hs'
    exact hs
  | compensating _ horder _ hcompensating =>
    have hs := hid _ horder
    cases hs'
    subst hcompensating
    exact hs
  | @acknowledged _ subject _ _ _ horder | @compensated _ subject _ _ _ horder =>
    have hs := hid _ horder
    cases hs'
    cases subject <;> exact hs

/-- A transition that ends an order clears its deadline. -/
lemma SagaMove.closed {s' : OrderSaga} (h : SagaMove env input ws after results)
    (hclosed : ∀ s, ws.orders = some s → s.stage.terminal = true → s.deadline = 0)
    (hs' : after = some s') (hterminal : s'.stage.terminal = true) : s'.deadline = 0 := by
  cases h with
  | absent => cases hs'
  | idle horder =>
    cases hs'
    exact hclosed _ horder hterminal
  | rejected | cancelled | completed | reviewed | timedOut =>
    cases hs'
    rfl
  | accepted | quoted | authorized | shipped =>
    cases hs'
    cases hterminal
  | compensating _ _ _ hcompensating =>
    cases hs'
    subst hcompensating
    cases hterminal
  | @acknowledged _ subject _ _ _ horder =>
    have hs := hclosed _ horder
    cases hs'
    cases subject <;> exact hs hterminal
  | @compensated _ subject =>
    cases hs'
    cases subject <;> rfl

end Moves

/-- What a commit leaves when it writes a saga. -/
lemma OrderView.write_some {v : OrderView} {args : CommitArgs} {s : OrderSaga}
    (hsaga : args.saga = some s) :
    (v.write args).saga = some s ∧ (v.write args).version = args.nextVersion := by
  simp [OrderView.write, hsaga]

/-- What a commit leaves when it writes no saga. -/
lemma OrderView.write_none {view : OrderView} {args : CommitArgs} (hsaga : args.saga = none)
    (haccepted : args.accepted = none) : view.write args = view := by
  simp [OrderView.write, hsaga, haccepted]

/-- A valid commit keeps stored views consistent. -/
lemma ValidCommit.consistent {view : OrderView} {e : Commit}
    (hloaded : e.loaded.Consistent orderId) (hview : view.Consistent orderId)
    (h : ValidCommit env orderId view e) : e.after.Consistent orderId := by
  have hp := prepareCommit_prepared h.prepared
  have hbefore := h.before_eq
  cases hsaga : e.args.saga with
  | none =>
    have : e.after = view := by
      rw [Commit.after, hbefore]
      exact OrderView.write_none hsaga (hp.accepted (.inr hsaga))
    rw [this]
    exact hview
  | some s' =>
    obtain ⟨hs', hversion⟩ := OrderView.write_some (v := e.before) hsaga
    have hnext : e.args.nextVersion = s'.version := by rw [hp.nextVersion, hsaga]; rfl
    have hmove := hp.move
    rw [hsaga] at hmove
    have hpos : s'.version ≠ 0 := by
      cases hload : e.loaded.saga with
      | none =>
        rcases hmove.of_none (by simpa using hload) with ⟨h, -⟩ | ⟨t, ht, hone⟩
        · cases h
        · cases ht
          omega
      | some s =>
        obtain ⟨t, ht, hle, -⟩ := hmove.of_some (by simpa using hload)
        cases ht
        have := hloaded.version_eq s hload
        have := hloaded.version_pos s hload
        omega
    refine ⟨?_, ?_, ?_, ?_, ?_, ?_⟩
    · intro t ht
      exact hmove.order_id h.addressed (by simpa using hloaded.order_id) (hs'.symm.trans ht)
    · intro t ht
      cases hs'.symm.trans ht
      exact (hversion.trans hnext).symm
    · intro t _
      rw [Commit.after, hversion, hnext]
      exact hpos
    · intro t ht
      exact hmove.closed (by simpa using hloaded.closed) (hs'.symm.trans ht)
    · intro hnone
      cases hs'.symm.trans hnone
    · intro hnone
      cases hs'.symm.trans hnone

/-- Every stored view is consistent. -/
theorem OrderHistory.consistent {log : List Commit} {view : OrderView}
    (h : OrderHistory env orderId log view) : view.Consistent orderId := by
  refine History.invariant (G := orderRegister env orderId) ?_ ?_ h
  · exact ⟨by rintro _ ⟨⟩, by rintro _ ⟨⟩, by rintro _ ⟨⟩, by rintro _ ⟨⟩, fun _ => rfl,
      fun _ => rfl⟩
  · exact fun v e hloaded hview _ hvalid => hvalid.consistent hloaded hview

/-! ## Views of the same version -/

/-- The relation between stored views of the same version: they are equal, up to acknowledgement
flags of a compensating saga. -/
def OrderView.Similar (u v : OrderView) : Prop :=
  u.accepted = v.accepted ∧
    (u.saga = v.saga ∨
      ∃ s t, u.saga = some s ∧ v.saga = some t ∧ s.stage = .compensating ∧ s.core = t.core)

namespace OrderView.Similar

variable {u v w : OrderView}

/-- Similarity is reflexive. -/
protected lemma refl (v : OrderView) : v.Similar v := ⟨rfl, .inl rfl⟩

/-- Similarity is symmetric. -/
protected lemma symm (h : u.Similar v) : v.Similar u := by
  obtain ⟨haccepted, hsaga | ⟨s, t, hs, ht, hstage, hcore⟩⟩ := h
  · exact ⟨haccepted.symm, .inl hsaga.symm⟩
  · exact ⟨haccepted.symm, .inr ⟨t, s, ht, hs, (OrderSaga.stage_eq_of_core hcore) ▸ hstage, hcore.symm⟩⟩

/-- Similarity is transitive. -/
protected lemma trans (huv : u.Similar v) (hvw : v.Similar w) : u.Similar w := by
  obtain ⟨ha, hsaga | ⟨s, t, hs, ht, hstage, hcore⟩⟩ := huv
  · exact ⟨ha.trans hvw.1, by rw [hsaga]; exact hvw.2⟩
  · refine ⟨ha.trans hvw.1, .inr ?_⟩
    obtain hsaga | ⟨s', t', hs', ht', -, hcore'⟩ := hvw.2
    · exact ⟨s, t, hs, hsaga ▸ ht, hstage, hcore⟩
    · cases ht.symm.trans hs'
      exact ⟨s, t', hs, ht', hstage, hcore.trans hcore'⟩

/-- Similar views both have a saga or both have none. -/
lemma saga_core (h : u.Similar v) : u.saga.map OrderSaga.core = v.saga.map OrderSaga.core := by
  obtain ⟨-, hsaga | ⟨s, t, hs, ht, -, hcore⟩⟩ := h
  · rw [hsaga]
  · simp [hs, ht, hcore]

/-- A view that is similar to one whose order does not compensate has the same saga. -/
lemma saga_eq {s : OrderSaga} (h : u.Similar v) (hs : u.saga = some s)
    (hstage : s.stage ≠ .compensating) : v.saga = some s := by
  obtain ⟨-, hsaga | ⟨s', t, hs', ht, hstage', hcore⟩⟩ := h
  · rw [← hsaga, hs]
  · cases hs.symm.trans hs'
    exact absurd hstage' hstage

end OrderView.Similar

/-- A valid commit by a call that loaded a similar view leaves a fresh view. -/
lemma ValidCommit.fresh {view : OrderView} {e : Commit} (hloaded : e.loaded.Consistent orderId)
    (hsimilar : e.loaded.Similar view)
    (hversion : e.loaded.version = view.version) (h : ValidCommit env orderId view e) :
    Fresh OrderView.version OrderView.Similar view e.after := by
  have hp := prepareCommit_prepared h.prepared
  have hbefore := h.before_eq
  cases hsaga : e.args.saga with
  | none =>
    have : e.after = view := by
      rw [Commit.after, hbefore]
      exact OrderView.write_none hsaga (hp.accepted (.inr hsaga))
    rw [this]
    exact Fresh.refl OrderView.Similar.refl view
  | some s' =>
    obtain ⟨hs', hnext⟩ := OrderView.write_some (v := e.before) hsaga
    rw [hp.nextVersion, hsaga] at hnext
    have hmove := hp.move
    rw [hsaga] at hmove
    cases hload : e.loaded.saga with
    | none =>
      have hzero := hloaded.version_zero hload
      rcases hmove.of_none (by simpa using hload) with ⟨h, -⟩ | ⟨t, ht, hone⟩
      · cases h
      · cases ht
        -- the version goes from zero to one, so the views have different versions
        have hafter : e.after.version = 1 := hnext.trans hone
        exact ⟨by omega, fun h => absurd h (by omega)⟩
    | some s =>
      obtain ⟨t, ht, hle, hsame⟩ := hmove.of_some (by simpa using hload)
      cases ht
      have hafter : e.after.version = s'.version := hnext
      have hs := hloaded.version_eq s hload
      refine ⟨by omega, fun heq => ?_⟩
      obtain ⟨-, hcases⟩ := hsame (by omega)
      have haccepted : e.after.accepted = view.accepted := by
        have : e.args.accepted = none := hp.accepted (.inl (hloaded.version_pos s hload))
        rw [Commit.after, hbefore]
        simp [OrderView.write, this]
      refine OrderView.Similar.trans hsimilar.symm ⟨hsimilar.1.trans haccepted.symm, ?_⟩
      rcases hcases with rfl | ⟨subject, _, -, -, hstage, rfl, -⟩
      · exact .inl (hload.trans hs'.symm)
      · exact .inr ⟨s, _, hload, hs', hstage, (OrderSaga.core_acknowledge s subject).symm⟩

/-- Every view stored earlier is fresh: its version is not larger, and a view of the same version is
similar. -/
theorem OrderHistory.fresh {log pre : List Commit} {u v : OrderView}
    (h : OrderHistory env orderId log v) (hpre : pre <+: log)
    (hu : OrderHistory env orderId pre u) : Fresh OrderView.version OrderView.Similar u v :=
  History.fresh (G := orderRegister env orderId) OrderView.Similar.refl
    (fun _ _ _ => OrderView.Similar.trans)
    (fun _ _ _ _ hR hversion hvalid hload => ValidCommit.fresh
      (OrderHistory.consistent hload.choose_spec) hR hversion hvalid)
    h hpre hu

/-! ## Induction on the history -/

/-- A commit `e` after the history `log` that left the view `v`. -/
structure HistoryStep (env : CheckoutEnv) (orderId : String) (log : List Commit) (v : OrderView)
    (e : Commit) : Prop where
  history : OrderHistory env orderId log v
  load : ∃ pre, pre <+: log ∧ OrderHistory env orderId pre e.loaded
  version_eq : e.loaded.version = v.version
  valid : ValidCommit env orderId v e

/-- A transition by a deadline input of the loaded saga is on an open order. -/
def OpenDeadline (input : OrderInput) (saga : Option OrderSaga) : Prop :=
  ∀ s id version due inputId, saga = some s → input = .deadline id version due inputId →
    s.deadline = due → s.stage.terminal = false

namespace HistoryStep

variable {log : List Commit} {v : OrderView} {e : Commit}

/-- The view that the committing call had loaded is similar to the one it replaces. -/
lemma similar (h : HistoryStep env orderId log v e) : e.loaded.Similar v := by
  obtain ⟨pre, hpre, hload⟩ := h.load
  exact (h.history.fresh hpre hload).2 h.version_eq

/-- The loaded view is consistent. -/
lemma loaded_consistent (h : HistoryStep env orderId log v e) : e.loaded.Consistent orderId := by
  obtain ⟨pre, -, hload⟩ := h.load
  exact hload.consistent

/-- The loaded and the replaced saga have the same core. -/
lemma core_eq {s : OrderSaga} (h : HistoryStep env orderId log v e) (hs : e.loaded.saga = some s) :
    ∃ t, v.saga = some t ∧ t.core = s.core := by
  have hcore := h.similar.saga_core
  rw [hs, Option.map_some] at hcore
  obtain ⟨t, ht, heq⟩ := Option.map_eq_some_iff.mp hcore.symm
  exact ⟨t, ht, heq⟩

/-- The stored saga after the commit is the one the call sent. -/
lemma after_saga (h : HistoryStep env orderId log v e) : e.after.saga = e.args.saga := by
  have hp := prepareCommit_prepared h.valid.prepared
  cases hsaga : e.args.saga with
  | some s => exact (OrderView.write_some hsaga).1
  | none =>
    cases hload : e.loaded.saga with
    | some s =>
      obtain ⟨t, ht, -⟩ := hp.move.of_some (by simpa using hload)
      cases hsaga.symm.trans ht
    | none =>
      have hv : v.saga = none := by
        have hcore := h.similar.saga_core
        rw [hload, Option.map_none] at hcore
        exact Option.map_eq_none_iff.mp hcore.symm
      rw [Commit.after, OrderView.write_none hsaga (hp.accepted (.inr hsaga)), h.valid.before_eq]
      exact hv

/-- What the commit does to the saga that its call had loaded. -/
lemma move (h : HistoryStep env orderId log v e) :
    SagaMove env e.input (transitionWorkspace e.input e.now e.loaded) e.after.saga e.results := by
  rw [h.after_saga]
  exact (prepareCommit_prepared h.valid.prepared).move

/-- Deadline inputs time out open orders only: a closed order has a zero deadline, and `ApplyOrder`
refuses an input without an occurrence time. -/
lemma openDeadline (h : HistoryStep env orderId log v e) :
    OpenDeadline e.input e.loaded.saga := by
  intro s id version due inputId hs hinput hdue
  have hne : due ≠ 0 := by
    have haccepted := h.valid.accepted
    rw [hinput] at haccepted
    exact due_ne_zero_of_accepted haccepted
  cases hterminal : s.stage.terminal with
  | false => rfl
  | true => exact absurd (hdue.symm.trans (h.loaded_consistent.closed s hs hterminal)) hne

end HistoryStep

/-- Induction on the history of an order: the step may use the property both for the whole log and
for the part of it that the committing call had seen. -/
theorem OrderHistory.induction {P : List Commit → OrderView → Prop} (nil : P [] {})
    (snoc : ∀ log v e pre, HistoryStep env orderId log v e → P log v → pre <+: log →
      P pre e.loaded → P (log ++ [e]) e.after)
    {log : List Commit} {v : OrderView} (h : OrderHistory env orderId log v) : P log v := by
  induction h with
  | nil => exact nil
  | @snoc log pre v e hlog hpre hload hversion hvalid ihlog ihload =>
    exact snoc log v e pre ⟨hlog, ⟨pre, hpre, hload⟩, hversion, hvalid⟩ ihlog hpre ihload

/-! ## Runs produce histories -/

/-- The invariant of the calls in progress: their inputs passed the checks of `ApplyOrder`, and what
they have loaded is what some earlier part of the log had left. -/
structure CallsLoaded (env : CheckoutEnv) (orderId : String) (s : CheckoutState) : Prop where
  checked : ∀ w call scan, s.workers w = .applying call scan →
    call.input.addressed orderId ∧ call.input.accepted orderId = true
  loaded : ∀ w l, s.HasLoaded w l →
    l.seen ≤ s.log.length ∧ OrderHistory env orderId (s.log.take l.seen) l.view

/-- The commits of a state form a history and the calls in progress loaded from it. -/
structure HistoryInv (env : CheckoutEnv) (orderId : String) (s : CheckoutState) : Prop where
  history : OrderHistory env orderId s.log s.keys.view
  calls : CallsLoaded env orderId s

section Steps

variable {s s' : CheckoutState} {w : ℕ} {call : Call} {scan : Option Scan}

/-- A commit with status 0 is a step of the history. -/
lemma HistoryInv.historyStep {l : LoadedView} {args : CommitArgs} (h : HistoryInv env orderId s)
    (hworker : s.workers w = .applying call scan) (hloaded : call.loaded = some l)
    (hargs : prepareCommit env orderId call.input call.now l.view = .ok args)
    (hversion : s.keys.view.version = args.expected) :
    HistoryStep env orderId s.log s.keys.view (s.commitRecord call l args) := by
  obtain ⟨haddressed, haccepted⟩ := h.calls.checked w call scan hworker
  exact {
    history := h.history
    load := ⟨_, List.take_prefix _ _, (h.calls.loaded w l ⟨call, scan, hworker, hloaded⟩).2⟩
    version_eq := (prepareCommit_prepared hargs).expected.symm.trans hversion.symm
    valid := ⟨rfl, haddressed, haccepted, hargs⟩ }

/-- A step of the history extends it. -/
lemma HistoryStep.next {log : List Commit} {v : OrderView} {e : Commit}
    (h : HistoryStep env orderId log v e) : OrderHistory env orderId (log ++ [e]) e.after := by
  obtain ⟨pre, hpre, hload⟩ := h.load
  exact History.snoc (G := orderRegister env orderId) h.history hpre hload h.version_eq h.valid

/-- The stored order changes only by commits with status 0, which are steps of the history. -/
theorem step_history {a : Action} (h : HistoryInv env orderId s)
    (hstep : step env orderId s a = some s') :
    (s'.log = s.log ∧ s'.keys.view = s.keys.view) ∨
      ∃ e, s'.log = s.log ++ [e] ∧ s'.keys.view = e.after ∧
        HistoryStep env orderId s.log s.keys.view e := by
  rcases step_commits hstep with hsame | ⟨call, l, args, hcommits, hargs, hlog, hview⟩
  · exact .inl hsame
  · obtain ⟨w, delivery, -, ⟨scan, hworker⟩, -⟩ := hcommits.action
    have hversion := hcommits.version.trans (prepareCommit_prepared hargs).expected.symm
    exact .inr ⟨_, hlog, hview, h.historyStep hworker hcommits.loaded hargs hversion⟩

/-- Every step keeps the history. -/
lemma HistoryInv.step {a : Action} (h : HistoryInv env orderId s)
    (hstep : step env orderId s a = some s') : HistoryInv env orderId s' := by
  have hhistory : OrderHistory env orderId s'.log s'.keys.view ∧ s.log <+: s'.log := by
    rcases step_history h hstep with ⟨hlog, hview⟩ | ⟨e, hlog, hview, hcommit⟩
    · rw [hlog, hview]
      exact ⟨h.history, List.prefix_rfl⟩
    · rw [hlog, hview]
      exact ⟨hcommit.next, List.prefix_append _ _⟩
  refine ⟨hhistory.1, fun w call scan hw => ?_, fun w l hl => ?_⟩
  · rcases step_call hstep hw with ⟨call', hw', hinput, -⟩ | ⟨haddressed, haccepted, -⟩
    · rw [hinput]
      exact h.calls.checked w call' scan hw'
    · exact ⟨haddressed, haccepted⟩
  · rcases step_loaded hstep hl with hl | ⟨rfl, -, hlog⟩
    · obtain ⟨hseen, hload⟩ := h.calls.loaded w l hl
      obtain ⟨rest, hrest⟩ := hhistory.2
      rw [← hrest, List.length_append, List.take_append_of_le_length hseen]
      exact ⟨by omega, hload⟩
    · rw [hlog, List.take_length]
      exact ⟨le_rfl, h.history⟩

/-- The empty store has the empty history. -/
lemma HistoryInv.init : HistoryInv env orderId {} := by
  refine ⟨.nil, by rintro _ _ _ ⟨⟩, ?_⟩
  rintro _ _ ⟨_, _, ⟨⟩, _⟩

/-- The commits of every run form a history of the order. -/
theorem run_history {actions : List Action} (h : runs env orderId actions = some s) :
    HistoryInv env orderId s := by
  exact StepSystem.run_invariant_of_step (fun _ _ _ => HistoryInv.step) .init h

end Steps

end Boutique
