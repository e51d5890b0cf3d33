import Boutique.Ads.Projection
import Boutique.Lib.Relay

/-!
# From page views to the ads of a session

Frontends publish page views, any number of ad services fetch them in batches, drop those that are stale or
superseded and publish selections for the others, and the projector of the storefront stores the newest
selection of a session.  The steps interleave in any order; every one of the ad services may stop at any
time, and acknowledgements and selections may get lost.

Two processes may make different selections of one page view, since they iterate over `adsMap` in
different orders and inject spans of their own.  The entry of the session does not expire in a run.
-/

namespace Boutique.Ads

open Storefront

/-! ## The system -/

/-- The page views of an ad service that it has still to acknowledge and to process. -/
structure Batch where
  discarded : List PageViewInput := []
  retained : List PageViewInput := []

/-- The stream of page views, the batches of the ad services, the page views that were found stale with the
clock reading, those that were acknowledged without a selection, the workers with the stream of selections,
and the entry of the session. -/
structure State (κ R : Type) where
  views : List Envelope := []
  batches : ℕ → Batch := fun _ => {}
  stale : List (ℕ × Instant) := []
  passed : List ℕ := []
  relay : Relay.State ℕ Selection := {}
  store : CasLoop.State κ R (JsonCall AdView) AdView Unit := {}

/-- The page views that were acknowledged. -/
def State.acked {κ R : Type} (s : State κ R) : List ℕ := s.passed ++ s.relay.acked

/-- The steps of the frontend, of ad services and their workers, and of the projector. -/
inductive Action (κ R : Type) where
  | view (session pageType : String) (categories : List String) (messageId requestId : String) (now : ℤ)
  | fetch (r : ℕ) (numbers : List ℕ) (now : Instant)
  | discard (r : ℕ) (arrives : Bool)
  | dispatch (r w i : ℕ) (order : List (String × List Ad)) (trace : TraceContext)
  | relay (action : Relay.Action)
  | crash (r : ℕ)
  | call (c : κ) (n : ℕ) (now : Time)
  | store (action : CasLoop.Action κ R (JsonCall AdView))

section System

variable {κ R : Type} (env : AdEnv) (maxAge : ℤ) (session : String)
  (N : CasLoop.Net κ R)

/-- The state with another batch of an ad service. -/
def State.setBatch (s : State κ R) (r : ℕ) (batch : Batch) : State κ R :=
  { s with batches := Function.update s.batches r batch }

/-- The inputs of a batch. -/
def State.inputs (s : State κ R) (numbers : List ℕ) : List PageViewInput :=
  numbers.filterMap fun n => (s.views[n]?).map fun view => decodeEnvelope env ⟨n, some view⟩

/-- The stale page views of a batch. -/
def staleOf (maxAge : ℤ) (inputs : List PageViewInput) (now : Instant) : List (ℕ × Instant) :=
  (inputs.filter (PageViewInput.dropped now maxAge)).map fun input => (input.message.number, now)

/-- The end of the step that starts the processing of a page view: an error leaves it to a later delivery. -/
def State.dispatched (s : State κ R) (w number : ℕ) : Except String Selection → Option (State κ R)
  | .ok selection => (s.relay.start w ⟨number, [selection]⟩).map fun relay => { s with relay := relay }
  | .error _ => some s

/-- One step. -/
def step [DecidableEq κ] [DecidableEq R] (s : State κ R) : Action κ R → Option (State κ R)
  | .view session pageType categories messageId requestId now =>
    -- `uuid.NewString` does not repeat an ID
    if ClockOk now ∧ messageId ∉ s.views.map Envelope.messageId then
      some { s with views := s.views ++ [publishPageView session pageType categories messageId requestId now] }
    else none
  | .fetch r numbers now =>
    if (s.batches r).discarded = [] ∧ (s.batches r).retained = [] ∧ numbers.Nodup ∧
        ∀ n ∈ numbers, n ∉ s.acked then
      match freshestPageViews (s.inputs env numbers) now maxAge with
      | .ok filtered =>
        some { s.setBatch r ⟨filtered.discarded, filtered.retained⟩ with
          stale := s.stale ++ staleOf maxAge (s.inputs env numbers) now }
      | .error _ => none
    else none
  | .discard r arrives =>
    match s.batches r with
    | ⟨input :: discarded, retained⟩ =>
      some { s.setBatch r ⟨discarded, retained⟩ with
        passed := if arrives then s.passed ++ [input.message.number] else s.passed }
    | _ => none
  | .dispatch r w i order trace =>
    match s.batches r with
    | ⟨[], retained⟩ =>
      match retained[i]? with
      | some input =>
        if order.Perm adsMap then
          (s.setBatch r ⟨[], retained.eraseIdx i⟩).dispatched w input.message.number
            (process env order trace input)
        else none
      | none => none
    | _ => none
  | .relay action => (s.relay.step Selection.messageId action).map fun relay => { s with relay := relay }
  | .crash r => some (s.setBatch r {})
  | .call c n now =>
    match s.relay.events[n]? with
    | some selection =>
      match adCall now selection with
      | .ok call =>
        if adKey selection.sessionId = adKey session then
          (CasLoop.step adLoop N s.store (.start c call)).map fun store => { s with store := store }
        else none
      | .error _ => none
    | none => none
  | .store action =>
    match action with
    | .start _ _ => none
    | action => (CasLoop.step adLoop N s.store action).map fun store => { s with store := store }

/-! ## The invariant -/

/-- The input was fetched. -/
def Fetched (s : State κ R) (input : PageViewInput) : Prop :=
  ∃ view, s.views[input.message.number]? = some view ∧
    input = decodeEnvelope env ⟨input.message.number, some view⟩

/-- Another page view of the session is in the stream that is not older. -/
def Superseded (s : State κ R) (n : ℕ) : Prop :=
  ∃ view m newer, s.views[n]? = some view ∧ s.views[m]? = some newer ∧ m ≠ n ∧
    newer.aggregateId = view.aggregateId ∧ view.aggregateVersion ≤ newer.aggregateVersion

/-- The page view needs no selection. -/
def Passed (s : State κ R) (n : ℕ) : Prop := (∃ now, (n, now) ∈ s.stale) ∨ Superseded s n

/-- What is retained was fetched, and what is discarded needs no selection. -/
structure Batch.Ok (s : State κ R) (batch : Batch) : Prop where
  retained : ∀ input ∈ batch.retained, Fetched env s input
  discarded : ∀ input ∈ batch.discarded, Passed s input.message.number

/-- The stream of page views keeps its messages, the other records only grow. -/
structure Grows (s s' : State κ R) : Prop where
  views : s.views <+: s'.views
  stale : s.stale <+: s'.stale
  events : s.relay.events <+: s'.relay.events

/-- What holds in every state. -/
structure Inv [DecidableEq κ] [DecidableEq R] (s : State κ R) : Prop where
  views : ∀ view ∈ s.views, view.OfFrontend
  ids : (s.views.map Envelope.messageId).Nodup
  batches : ∀ r, (s.batches r).Ok env s
  stale : ∀ n now, (n, now) ∈ s.stale → ∃ view, s.views[n]? = some view ∧ maxAge < now - view.aggregateVersion
  passed : ∀ n ∈ s.passed, Passed s n
  relay : Relay.Inv Selection.messageId s.relay
  works : ∀ work ∈ s.relay.started, ∃ view selection, s.views[work.source]? = some view ∧
    work.events = [selection] ∧ MadeOf env work.source view selection
  store : ∃ acts, StepSystem.run (CasLoop.step adLoop N) {} acts = some s.store ∧
    ∀ call, CasLoop.Delivered acts call →
      ∃ selection ∈ s.relay.events, selection.sessionId = session ∧ ∃ now, adCall now selection = .ok call

variable {env} {maxAge} {session} {N} {s s' : State κ R} {n : ℕ}

/-- Growing records keep what is fetched and what has passed. -/
lemma Grows.fetched (h : Grows s s') {input : PageViewInput} (hfetched : Fetched env s input) :
    Fetched env s' input := by
  obtain ⟨view, hview, hinput⟩ := hfetched
  exact ⟨view, Publish.getElem?_of_prefix h.views hview, hinput⟩

lemma Grows.passed (h : Grows s s') (hpassed : Passed s n) : Passed s' n := by
  rcases hpassed with ⟨now, hmem⟩ | ⟨view, m, newer, hview, hnewer, hne, hsession, hversion⟩
  · exact .inl ⟨now, h.stale.subset hmem⟩
  · exact .inr ⟨view, m, newer, Publish.getElem?_of_prefix h.views hview,
      Publish.getElem?_of_prefix h.views hnewer, hne, hsession, hversion⟩

lemma Batch.Ok.mono {batch : Batch} (h : batch.Ok env s) (hgrows : Grows s s') : batch.Ok env s' :=
  ⟨fun input hinput => hgrows.fetched (h.retained input hinput),
    fun input hinput => hgrows.passed (h.discarded input hinput)⟩

/-- The rest of a batch is right. -/
lemma Batch.Ok.erase {retained : List PageViewInput} (h : Batch.Ok env s ⟨[], retained⟩) (i : ℕ) :
    Batch.Ok env s ⟨[], retained.eraseIdx i⟩ :=
  ⟨fun input hinput => h.retained input (List.mem_of_mem_eraseIdx hinput), fun _ hmem => by cases hmem⟩

/-- An input is a page view of the stream. -/
lemma mem_inputs {numbers : List ℕ} {input : PageViewInput} (h : input ∈ s.inputs env numbers) :
    input.message.number ∈ numbers ∧ Fetched env s input := by
  obtain ⟨m, hm, hinput⟩ := List.mem_filterMap.mp h
  obtain ⟨view, hview, rfl⟩ := Option.map_eq_some_iff.mp hinput
  have hnumber := decodeEnvelope_message env ⟨m, some view⟩
  rw [hnumber]
  exact ⟨hm, view, by rw [hnumber]; exact hview, by rw [hnumber]⟩

/-- The inputs of different messages are different messages. -/
lemma nodup_inputs {numbers : List ℕ} (h : numbers.Nodup) :
    ((s.inputs env numbers).map fun input => input.message.number).Nodup := by
  induction numbers with
  | nil => exact List.nodup_nil
  | cons m numbers ih =>
    obtain ⟨hfresh, hrest⟩ := List.nodup_cons.mp h
    unfold State.inputs
    rw [List.filterMap_cons]
    cases hview : s.views[m]? with
    | none => exact ih hrest
    | some view =>
      refine List.nodup_cons.mpr ⟨fun hmem => hfresh ?_, ih hrest⟩
      obtain ⟨input, hinput, hnumber⟩ := List.mem_map.mp hmem
      have hm : input.message.number = m :=
        hnumber.trans (congrArg Message.number (decodeEnvelope_message env ⟨m, some view⟩))
      exact hm ▸ (mem_inputs hinput).1

/-- What a fetched page view of the frontend says. -/
lemma Fetched.spec {input : PageViewInput} (hfetched : Fetched env s input)
    (hviews : ∀ view ∈ s.views, view.OfFrontend) :
    ∃ view, s.views[input.message.number]? = some view ∧ input.session = view.aggregateId ∧
      input.version = view.aggregateVersion ∧ input.eventTime = view.aggregateVersion := by
  obtain ⟨view, hview, hinput⟩ := hfetched
  rw [decodeEnvelope_ofFrontend env (hviews view (List.mem_of_getElem? hview))] at hinput
  refine ⟨view, hview, ?_⟩
  rw [hinput]
  exact ⟨rfl, rfl, rfl⟩

/-- What a batch discards needs no selection. -/
lemma passed_of_discarded {numbers : List ℕ} {now : Instant} {input : PageViewInput}
    (hviews : ∀ view ∈ s.views, view.OfFrontend) (hinput : input ∈ s.inputs env numbers)
    (hreason : input.dropped now maxAge = true ∨
      ∃ newer ∈ s.inputs env numbers, input.SupersededBy newer) :
    (input.message.number, now) ∈ staleOf maxAge (s.inputs env numbers) now ∨
      Superseded s input.message.number := by
  rcases hreason with hdropped | ⟨newer, hnewer, hsession, hversion, hne⟩
  · exact .inl (List.mem_map_of_mem (List.mem_filter.mpr ⟨hinput, hdropped⟩))
  · obtain ⟨view, hview, hid, hv, -⟩ := (mem_inputs hinput).2.spec hviews
    obtain ⟨view', hview', hid', hv', -⟩ := (mem_inputs hnewer).2.spec hviews
    rw [hid, hid'] at hsession
    rw [hv, hv'] at hversion
    exact .inr ⟨view, _, view', hview, hview', hne, hsession, by exact_mod_cast hversion⟩

/-- What a batch finds stale is older than the limit. -/
lemma age_of_mem_staleOf {numbers : List ℕ} {now now' : Instant}
    (hviews : ∀ view ∈ s.views, view.OfFrontend)
    (h : (n, now') ∈ staleOf maxAge (s.inputs env numbers) now) :
    ∃ view, s.views[n]? = some view ∧ maxAge < now' - view.aggregateVersion := by
  obtain ⟨input, hinput, heq⟩ := List.mem_map.mp h
  obtain ⟨hmem, hdropped⟩ := List.mem_filter.mp hinput
  obtain ⟨rfl, rfl⟩ := Prod.mk.inj heq
  obtain ⟨view, hview, -, -, htime⟩ := (mem_inputs hmem).2.spec hviews
  refine ⟨view, hview, ?_⟩
  simp only [PageViewInput.dropped, PageViewInput.stale, Bool.and_eq_true, decide_eq_true_eq, htime] at hdropped
  exact hdropped.2.2

/-- The inputs of the batches after one of them changed. -/
lemma forall_setBatch {P : Batch → Prop} {r : ℕ} {batch : Batch} (h : ∀ r, P (s.batches r)) (hbatch : P batch) :
    ∀ r', P ((s.setBatch r batch).batches r') := by
  intro r'
  by_cases hr : r' = r
  · rw [hr]
    simpa [State.setBatch] using hbatch
  · simpa [State.setBatch, Function.update_of_ne hr] using h r'

/-! ## Steps -/

variable [DecidableEq κ] [DecidableEq R]

/-- What a step does. -/
inductive StepCase (env : AdEnv) (maxAge : ℤ) (session : String) (N : CasLoop.Net κ R) (s : State κ R) :
    State κ R → Prop where
  | viewed {view : Envelope} (hview : view.OfFrontend)
      (hfresh : view.messageId ∉ s.views.map Envelope.messageId) :
      StepCase env maxAge session N s { s with views := s.views ++ [view] }
  | fetched {r : ℕ} {numbers : List ℕ} {now : Instant} {filtered : FilteredPageViews}
      (hnodup : numbers.Nodup) (hfilter : freshestPageViews (s.inputs env numbers) now maxAge = .ok filtered) :
      StepCase env maxAge session N s { s.setBatch r ⟨filtered.discarded, filtered.retained⟩ with
        stale := s.stale ++ staleOf maxAge (s.inputs env numbers) now }
  | discarded {r : ℕ} {input : PageViewInput} {discarded retained : List PageViewInput} {arrives : Bool}
      (hbatch : s.batches r = ⟨input :: discarded, retained⟩) :
      StepCase env maxAge session N s { s.setBatch r ⟨discarded, retained⟩ with
        passed := if arrives then s.passed ++ [input.message.number] else s.passed }
  | dispatched {r w i : ℕ} {input : PageViewInput} {retained : List PageViewInput}
      {order : List (String × List Ad)} {trace : TraceContext} {selection : Selection}
      {relay : Relay.State ℕ Selection}
      (hbatch : s.batches r = ⟨[], retained⟩) (hinput : retained[i]? = some input)
      (horder : order.Perm adsMap) (hprocess : process env order trace input = .ok selection)
      (hstart : s.relay.start w ⟨input.message.number, [selection]⟩ = some relay) :
      StepCase env maxAge session N s { s.setBatch r ⟨[], retained.eraseIdx i⟩ with relay := relay }
  | refused {r i : ℕ} {retained : List PageViewInput} (hbatch : s.batches r = ⟨[], retained⟩) :
      StepCase env maxAge session N s (s.setBatch r ⟨[], retained.eraseIdx i⟩)
  | relayed {action : Relay.Action} {relay : Relay.State ℕ Selection}
      (hrelay : s.relay.step Selection.messageId action = some relay) :
      StepCase env maxAge session N s { s with relay := relay }
  | crashed {r : ℕ} : StepCase env maxAge session N s (s.setBatch r {})
  | stored {action : CasLoop.Action κ R (JsonCall AdView)}
      {store : CasLoop.State κ R (JsonCall AdView) AdView Unit}
      (hstore : CasLoop.step adLoop N s.store action = some store)
      (hcall : ∀ c call, action = .start c call → ∃ selection ∈ s.relay.events,
        selection.sessionId = session ∧ ∃ now, adCall now selection = .ok call) :
      StepCase env maxAge session N s { s with store := store }

/-- Every step is one of these. -/
lemma step_cases {action : Action κ R} (h : step env maxAge session N s action = some s') :
    StepCase env maxAge session N s s' := by
  cases action with
  | view session' pageType categories messageId requestId now =>
    simp only [step] at h
    split_ifs at h with hguard
    cases h
    exact .viewed (publishPageView_ofFrontend hguard.1) hguard.2
  | fetch r numbers now =>
    simp only [step] at h
    split_ifs at h with hguard
    split at h
    · next hfilter =>
      cases h
      exact .fetched hguard.2.2.1 hfilter
    · cases h
  | discard r arrives =>
    simp only [step] at h
    split at h
    · next hbatch =>
      cases h
      exact .discarded hbatch
    · cases h
  | dispatch r w i order trace =>
    simp only [step] at h
    split at h
    · next hbatch =>
      split at h
      · next hinput =>
        split_ifs at h with horder
        cases hprocess : process env order trace _ with
        | ok selection =>
          rw [hprocess] at h
          obtain ⟨relay, hstart, rfl⟩ := Option.map_eq_some_iff.mp h
          exact .dispatched hbatch hinput horder hprocess hstart
        | error text =>
          rw [hprocess] at h
          cases h
          exact .refused hbatch
      · cases h
    · cases h
  | relay action =>
    obtain ⟨relay, hrelay, rfl⟩ := Option.map_eq_some_iff.mp h
    exact .relayed hrelay
  | crash r =>
    cases h
    exact .crashed
  | call c m now =>
    simp only [step] at h
    split at h
    · next selection hselection =>
      split at h
      · next call hcall =>
        split_ifs at h with hkey
        obtain ⟨store, hstore, rfl⟩ := Option.map_eq_some_iff.mp h
        refine .stored hstore fun c' call' heq => ?_
        cases heq
        exact ⟨selection, List.mem_of_getElem? hselection, JoinedNames.append_left_cancel hkey, now, hcall⟩
      · cases h
    · cases h
  | store action =>
    simp only [step] at h
    split at h
    · cases h
    · next hstart =>
      obtain ⟨store, hstore, rfl⟩ := Option.map_eq_some_iff.mp h
      exact .stored hstore fun c call heq => absurd heq (hstart c call)

/-- A step only adds to the records. -/
lemma StepCase.grows (h : StepCase env maxAge session N s s') : Grows s s' := by
  cases h with
  | viewed => exact ⟨List.prefix_append _ _, List.prefix_rfl, List.prefix_rfl⟩
  | fetched => exact ⟨List.prefix_rfl, List.prefix_append _ _, List.prefix_rfl⟩
  | dispatched _ _ _ _ hstart =>
    exact ⟨List.prefix_rfl, List.prefix_rfl, (Relay.State.start_grows hstart).events⟩
  | relayed hrelay => exact ⟨List.prefix_rfl, List.prefix_rfl, (Relay.State.step_grows hrelay).events⟩
  | discarded | refused | crashed | stored => exact ⟨List.prefix_rfl, List.prefix_rfl, List.prefix_rfl⟩

/-! ## The invariant is kept -/

/-- A step that only adds page views of the frontend, and changes batches, keeps the invariant if what it
adds to the records is right. -/
lemma Inv.next (h : Inv env maxAge session N s) (hgrows : Grows s s')
    (hviews : ∀ view ∈ s'.views, view.OfFrontend) (hids : (s'.views.map Envelope.messageId).Nodup)
    (hbatches : ∀ r, (s'.batches r).Ok env s')
    (hstale : ∀ n now, (n, now) ∈ s'.stale → (n, now) ∈ s.stale ∨
      ∃ view, s'.views[n]? = some view ∧ maxAge < now - view.aggregateVersion)
    (hpassed : ∀ n ∈ s'.passed, n ∈ s.passed ∨ Passed s' n)
    (hrelay : Relay.Inv Selection.messageId s'.relay)
    (hworks : ∀ work ∈ s'.relay.started, work ∈ s.relay.started ∨ ∃ view selection,
      s'.views[work.source]? = some view ∧ work.events = [selection] ∧
        MadeOf env work.source view selection)
    (hstore : ∃ acts, StepSystem.run (CasLoop.step adLoop N) {} acts = some s'.store ∧
      ∀ call, CasLoop.Delivered acts call → ∃ selection ∈ s'.relay.events,
        selection.sessionId = session ∧ ∃ now, adCall now selection = .ok call) :
    Inv env maxAge session N s' where
  views := hviews
  ids := hids
  batches := hbatches
  stale := by
    intro n now hmem
    rcases hstale n now hmem with hold | hnew
    · obtain ⟨view, hview, hage⟩ := h.stale n now hold
      exact ⟨view, Publish.getElem?_of_prefix hgrows.views hview, hage⟩
    · exact hnew
  passed := fun n hn => (hpassed n hn).elim (fun hold => hgrows.passed (h.passed n hold)) id
  relay := hrelay
  works := by
    intro work hwork
    rcases hworks work hwork with hold | hnew
    · obtain ⟨view, selection, hview, hmade⟩ := h.works work hold
      exact ⟨view, selection, Publish.getElem?_of_prefix hgrows.views hview, hmade⟩
    · exact hnew
  store := hstore

/-- The calls of the projector stay calls for selections of the stream. -/
lemma Inv.store_grows (h : Inv env maxAge session N s) {events : List Selection}
    (hgrows : s.relay.events <+: events) :
    ∃ acts, StepSystem.run (CasLoop.step adLoop N) {} acts = some s.store ∧
      ∀ call, CasLoop.Delivered acts call → ∃ selection ∈ events,
        selection.sessionId = session ∧ ∃ now, adCall now selection = .ok call := by
  obtain ⟨acts, hrun, hdelivered⟩ := h.store
  refine ⟨acts, hrun, fun call hcall => ?_⟩
  obtain ⟨selection, hmem, hselection⟩ := hdelivered call hcall
  exact ⟨selection, hgrows.subset hmem, hselection⟩

/-- The batches stay right. -/
lemma Inv.batches_mono (h : Inv env maxAge session N s) (hgrows : Grows s s') (r : ℕ) :
    (s.batches r).Ok env s' := (h.batches r).mono hgrows

/-- A page view is added. -/
lemma Inv.viewed (h : Inv env maxAge session N s) {view : Envelope} (hview : view.OfFrontend)
    (hfresh : view.messageId ∉ s.views.map Envelope.messageId) :
    Inv env maxAge session N { s with views := s.views ++ [view] } := by
  have hgrows : Grows s { s with views := s.views ++ [view] } :=
    ⟨List.prefix_append _ _, List.prefix_rfl, List.prefix_rfl⟩
  refine h.next hgrows (fun v hv => ?_) ?_ (h.batches_mono hgrows) (fun _ _ => .inl)
    (fun _ => .inl) h.relay (fun _ => .inl) h.store
  · rcases List.mem_append.mp hv with hv | hv
    · exact h.views v hv
    · exact List.mem_singleton.mp hv ▸ hview
  · rw [List.map_append, List.map_singleton, List.nodup_append]
    refine ⟨h.ids, List.nodup_singleton _, ?_⟩
    rintro id hid _ hlast rfl
    exact hfresh (List.mem_singleton.mp hlast ▸ hid)

/-- A batch is fetched. -/
lemma Inv.fetched (h : Inv env maxAge session N s) {r : ℕ} {numbers : List ℕ} {now : Instant}
    {filtered : FilteredPageViews} (hnodup : numbers.Nodup)
    (hfilter : freshestPageViews (s.inputs env numbers) now maxAge = .ok filtered) :
    Inv env maxAge session N { s.setBatch r ⟨filtered.discarded, filtered.retained⟩ with
      stale := s.stale ++ staleOf maxAge (s.inputs env numbers) now } := by
  obtain ⟨hretained, hdiscarded⟩ := freshestPageViews_spec (nodup_inputs hnodup) hfilter
  have hgrows : Grows s { s.setBatch r ⟨filtered.discarded, filtered.retained⟩ with
      stale := s.stale ++ staleOf maxAge (s.inputs env numbers) now } :=
    ⟨List.prefix_rfl, List.prefix_append _ _, List.prefix_rfl⟩
  refine h.next hgrows h.views h.ids (forall_setBatch (h.batches_mono hgrows) ⟨?_, ?_⟩)
    (fun n now' hn => ?_) (fun _ => .inl) h.relay (fun _ => .inl) h.store
  · exact fun input hinput => hgrows.fetched (mem_inputs (hretained input hinput)).2
  · intro input hinput
    obtain ⟨hmem, hreason⟩ := hdiscarded input hinput
    exact (passed_of_discarded h.views hmem hreason).imp
      (fun hstale => ⟨now, List.mem_append_right _ hstale⟩) id
  · rcases List.mem_append.mp hn with hold | hnew
    · exact .inl hold
    · exact .inr (age_of_mem_staleOf h.views hnew)

/-- The first page view that a batch discarded is acknowledged, or its acknowledgement lost. -/
lemma Inv.discarded (h : Inv env maxAge session N s) {r : ℕ} {input : PageViewInput}
    {discarded retained : List PageViewInput} {arrives : Bool}
    (hbatch : s.batches r = ⟨input :: discarded, retained⟩) :
    Inv env maxAge session N { s.setBatch r ⟨discarded, retained⟩ with
      passed := if arrives then s.passed ++ [input.message.number] else s.passed } := by
  obtain ⟨hretained, hdiscarded⟩ : Batch.Ok env s ⟨input :: discarded, retained⟩ := hbatch ▸ h.batches r
  have hgrows : Grows s { s.setBatch r ⟨discarded, retained⟩ with
      passed := if arrives then s.passed ++ [input.message.number] else s.passed } :=
    ⟨List.prefix_rfl, List.prefix_rfl, List.prefix_rfl⟩
  refine h.next hgrows h.views h.ids
    (forall_setBatch (h.batches_mono hgrows) ⟨hretained, fun x hx => hdiscarded x (List.mem_cons_of_mem _ hx)⟩)
    (fun _ _ => .inl) (fun n hn => ?_) h.relay (fun _ => .inl) h.store
  change n ∈ (if arrives then s.passed ++ [input.message.number] else s.passed) at hn
  split_ifs at hn
  · rcases List.mem_append.mp hn with hn | hn
    · exact .inl hn
    · rw [List.mem_singleton.mp hn]
      exact .inr (hdiscarded input List.mem_cons_self)
  · exact .inl hn

/-- A worker starts with a page view. -/
lemma Inv.dispatched (h : Inv env maxAge session N s) {r w i : ℕ} {input : PageViewInput}
    {retained : List PageViewInput} {order : List (String × List Ad)} {trace : TraceContext}
    {selection : Selection} {relay : Relay.State ℕ Selection} (hbatch : s.batches r = ⟨[], retained⟩)
    (hinput : retained[i]? = some input) (horder : order.Perm adsMap)
    (hprocess : process env order trace input = .ok selection)
    (hstart : s.relay.start w ⟨input.message.number, [selection]⟩ = some relay) :
    Inv env maxAge session N { s.setBatch r ⟨[], retained.eraseIdx i⟩ with relay := relay } := by
  have hok : Batch.Ok env s ⟨[], retained⟩ := hbatch ▸ h.batches r
  have hrelay := Relay.State.start_grows hstart
  have hgrows : Grows s { s.setBatch r ⟨[], retained.eraseIdx i⟩ with relay := relay } :=
    ⟨List.prefix_rfl, List.prefix_rfl, hrelay.events⟩
  refine h.next hgrows h.views h.ids (forall_setBatch (h.batches_mono hgrows) ((hok.erase i).mono hgrows))
    (fun _ _ => .inl) (fun _ => .inl) (h.relay.start hstart) (fun work hwork => ?_) ?_
  · obtain ⟨-, rfl⟩ := Relay.State.start_eq_some hstart
    rcases List.mem_append.mp hwork with hold | hnew
    · exact .inl hold
    · obtain rfl := List.mem_singleton.mp hnew
      obtain ⟨view, hview, hdecoded⟩ := hok.retained input (List.mem_of_getElem? hinput)
      exact .inr ⟨view, selection, hview, rfl, order, trace, horder, hdecoded ▸ hprocess⟩
  · exact h.store_grows hrelay.events

/-- A step keeps the invariant. -/
lemma Inv.step (h : Inv env maxAge session N s) (hcase : StepCase env maxAge session N s s') :
    Inv env maxAge session N s' := by
  have hgrows := hcase.grows
  cases hcase with
  | viewed hview hfresh => exact h.viewed hview hfresh
  | fetched hnodup hfilter => exact h.fetched hnodup hfilter
  | discarded hbatch => exact h.discarded hbatch
  | dispatched hbatch hinput horder hprocess hstart => exact h.dispatched hbatch hinput horder hprocess hstart
  | @refused r i retained hbatch =>
    have hok : Batch.Ok env s ⟨[], retained⟩ := hbatch ▸ h.batches r
    exact h.next hgrows h.views h.ids (forall_setBatch (h.batches_mono hgrows) ((hok.erase i).mono hgrows))
      (fun _ _ => .inl) (fun _ => .inl) h.relay (fun _ => .inl) h.store
  | relayed hrelay =>
    refine h.next hgrows h.views h.ids (h.batches_mono hgrows) (fun _ _ => .inl) (fun _ => .inl)
      (h.relay.step hrelay)
      (fun work hwork => .inl ?_) (h.store_grows hgrows.events)
    exact Relay.State.step_started hrelay ▸ hwork
  | crashed =>
    exact h.next hgrows h.views h.ids (forall_setBatch (h.batches_mono hgrows) ⟨by simp, by simp⟩)
      (fun _ _ => .inl)
      (fun _ => .inl) h.relay (fun _ => .inl) h.store
  | @stored action store hstore hcall =>
    refine h.next hgrows h.views h.ids (h.batches_mono hgrows) (fun _ _ => .inl) (fun _ => .inl) h.relay
      (fun _ => .inl) ?_
    obtain ⟨acts, hrun, hdelivered⟩ := h.store
    refine ⟨acts ++ [action], StepSystem.run_append.mpr ⟨_, hrun, StepSystem.run_cons.mpr ⟨_, hstore, rfl⟩⟩,
      fun call ⟨c, hc⟩ => ?_⟩
    rcases List.mem_append.mp hc with hc | hc
    · exact hdelivered call ⟨c, hc⟩
    · exact hcall c call (List.mem_singleton.mp hc).symm

/-- The invariant holds over every run. -/
theorem inv_of_run {actions : List (Action κ R)}
    (hrun : StepSystem.run (step env maxAge session N) {} actions = some s) : Inv env maxAge session N s := by
  refine StepSystem.run_invariant_of_step (fun t action t' h hstep => h.step (step_cases hstep)) ?_ hrun
  refine ⟨by simp, List.nodup_nil, fun r => ⟨by simp, by simp⟩, by simp, by simp, Relay.Inv.init, by simp,
    [], rfl, fun call ⟨c, hc⟩ => by cases hc⟩

/-! ## The main result -/

/-- The page view is the newest one of the session. -/
structure Newest (session : String) (s : State κ R) (n : ℕ) (view : Envelope) : Prop where
  number : s.views[n]? = some view
  aggregateId : view.aggregateId = session
  newest : ∀ m other, s.views[m]? = some other → other.aggregateId = session →
    m = n ∨ other.aggregateVersion < view.aggregateVersion

/-- A call of the projector for the selection has returned without an error. -/
def Applied (s : State κ R) (selection : Selection) : Prop :=
  ∃ c now call, adCall now selection = .ok call ∧ s.store.phase c = .returned call (some ())

/-- The ads of the session follow its page views. -/
structure Followed (env : AdEnv) (maxAge : ℤ) (session : String) (s : State κ R) : Prop where
  /-- Every page view can be answered by every process. -/
  understood : ∀ n view, s.views[n]? = some view → ∀ order trace,
    ∃ selection, process env order trace (decodeEnvelope env ⟨n, some view⟩) = .ok selection
  /-- An acknowledged page view is answered, is superseded or was stale. -/
  acknowledged : ∀ n ∈ s.acked, ∃ view, s.views[n]? = some view ∧
    ((∃ selection ∈ s.relay.events, Answers env view selection) ∨ Superseded s n ∨
      ∃ now, (n, now) ∈ s.stale ∧ maxAge < now - view.aggregateVersion)
  /-- Selections with one ID answer the same page view, and are the same up to the span if its categories
  have ads. -/
  selections : ∀ a ∈ s.relay.events, ∃ view ∈ s.views, Answers env view a ∧
    ∀ b ∈ s.relay.events, b.messageId = a.messageId →
      Answers env view b ∧ (view.Known → a.untraced = b.untraced)
  /-- The entry shows a selection of the session after the other, each for a newer page view. -/
  rising : (s.store.log.map CasLoop.Write.value).Pairwise fun u v => u.contextVersion < v.contextVersion
  stored : ∀ w ∈ s.store.log, ∃ selection ∈ s.relay.events, selection.sessionId = session ∧
    w.value.Shows selection
  /-- If the newest page view was acknowledged and was not stale, and its selections are applied, then the
  entry shows one of them. -/
  newest : ∀ n view, Newest session s n view → n ∈ s.acked → (∀ now, (n, now) ∉ s.stale) →
    (∀ selection ∈ s.relay.events, Answers env view selection → Applied s selection) →
    ∃ selection ∈ s.relay.events, Answers env view selection ∧
      ∃ shown, CasLoop.current s.store.log = some shown ∧ shown.Shows selection

/-- A message ID tells the page view. -/
lemma Inv.number_eq (h : Inv env maxAge session N s) {m : ℕ} {view view' : Envelope}
    (hview : s.views[n]? = some view) (hview' : s.views[m]? = some view')
    (hid : view.messageId = view'.messageId) : n = m ∧ view = view' := by
  have hlt : n < (s.views.map Envelope.messageId).length := by
    rw [List.length_map]
    exact (List.getElem?_eq_some_iff.mp hview).1
  have hnumber : n = m := by
    refine (List.getElem?_inj hlt h.ids).mp ?_
    rw [List.getElem?_map, List.getElem?_map, hview, hview']
    exact congrArg some hid
  subst hnumber
  exact ⟨rfl, Option.some.inj (hview.symm.trans hview')⟩

/-- A selection of the stream was made of a page view. -/
lemma Inv.made (h : Inv env maxAge session N s) {selection : Selection} (hmem : selection ∈ s.relay.events) :
    ∃ m view, s.views[m]? = some view ∧ MadeOf env m view selection := by
  obtain ⟨work, hwork, hevent⟩ := h.relay.source selection hmem
  obtain ⟨view, made, hview, hevents, hmade⟩ := h.works work hwork
  rw [hevents] at hevent
  exact ⟨_, view, hview, List.mem_singleton.mp hevent ▸ hmade⟩

/-- A selection with the ID of one that was made of a page view was made of it, too. -/
lemma Inv.made_of_id (h : Inv env maxAge session N s) (hname : Function.Injective env.nameUuid)
    (hshuffle : ∀ seed ads, (env.shuffle seed ads).Perm ads) {view : Envelope}
    {selection selection' : Selection}
    (hview : s.views[n]? = some view) (hmade : MadeOf env n view selection)
    (hmem : selection' ∈ s.relay.events) (hid : selection'.messageId = selection.messageId) :
    MadeOf env n view selection' := by
  obtain ⟨m, view', hview', hmade'⟩ := h.made hmem
  have hanswers := hmade.answers hshuffle (h.views view (List.mem_of_getElem? hview))
  have hanswers' := hmade'.answers hshuffle (h.views view' (List.mem_of_getElem? hview'))
  rw [hanswers.messageId, hanswers'.messageId] at hid
  obtain ⟨rfl, rfl⟩ := h.number_eq hview' hview (selectionId_injective hname hid)
  exact hmade'

/-- An acknowledged page view is answered or needs no selection. -/
lemma Inv.answered (h : Inv env maxAge session N s) (hname : Function.Injective env.nameUuid)
    (hshuffle : ∀ seed ads, (env.shuffle seed ads).Perm ads) (hn : n ∈ s.acked) :
    Passed s n ∨ ∃ view selection, s.views[n]? = some view ∧ selection ∈ s.relay.events ∧
      MadeOf env n view selection := by
  rcases List.mem_append.mp hn with hpassed | hacked
  · exact .inl (h.passed n hpassed)
  · obtain ⟨work, hwork, rfl, hdelivered⟩ := h.relay.acked n hacked
    obtain ⟨view, selection, hview, hevents, hmade⟩ := h.works work hwork
    obtain ⟨selection', hmem, hid⟩ := hdelivered selection (hevents ▸ List.mem_singleton_self selection)
    exact .inr ⟨view, selection', hview, hmem, h.made_of_id hname hshuffle hview hmade hmem hid⟩

/-- The calls of the projector are those of selections of one version for each ID. -/
lemma Inv.gate (h : Inv env maxAge session N s) (hname : Function.Injective env.nameUuid)
    (hshuffle : ∀ seed ads, (env.shuffle seed ads).Perm ads)
    {acts : List (CasLoop.Action κ R (JsonCall AdView))}
    (hdelivered : ∀ call, CasLoop.Delivered acts call → ∃ selection ∈ s.relay.events,
      selection.sessionId = session ∧ ∃ now, adCall now selection = .ok call) :
    CasLoop.Gate adLoop JsonCall.next AdView.contextVersion (CasLoop.Delivered acts) := by
  refine adLoop_gate (fun call hcall => ?_) (fun e e' he he' hid => ?_)
  · obtain ⟨selection, -, -, now, hselection⟩ := hdelivered call hcall
    exact (adCall_spec hselection).1
  · obtain ⟨selection, hmem, -, now, hcall⟩ := hdelivered e he
    obtain ⟨selection', hmem', -, now', hcall'⟩ := hdelivered e' he'
    obtain ⟨-, hsource, hversion, -⟩ := adCall_spec hcall
    obtain ⟨-, hsource', hversion', -⟩ := adCall_spec hcall'
    rw [hsource, hsource'] at hid
    obtain ⟨m, view, hview, hmade⟩ := h.made hmem
    have hmade' := h.made_of_id hname hshuffle hview hmade hmem' hid.symm
    have hof := h.views view (List.mem_of_getElem? hview)
    rw [hversion, hversion', (hmade.answers hshuffle hof).version, (hmade'.answers hshuffle hof).version]

/-- The entry of a session of which the newest page view is answered and its selection applied. -/
lemma Inv.shown (h : Inv env maxAge session N s) (hname : Function.Injective env.nameUuid)
    (hshuffle : ∀ seed ads, (env.shuffle seed ads).Perm ads) {view : Envelope} {selection : Selection}
    (hnewest : Newest session s n view) (hmade : MadeOf env n view selection) (happlied : Applied s selection) :
    ∃ selection' ∈ s.relay.events, Answers env view selection' ∧
      ∃ shown, CasLoop.current s.store.log = some shown ∧ shown.Shows selection' := by
  have hof := h.views view (List.mem_of_getElem? hnewest.number)
  have hanswers := hmade.answers hshuffle hof
  obtain ⟨c, now, call, hcall, hreturned⟩ := happlied
  obtain ⟨acts, hrun, hdelivered⟩ := h.store
  obtain ⟨e', he', hcurrent, hle⟩ := (h.gate hname hshuffle hdelivered).current_of_returned hrun hreturned
  obtain ⟨selection', hmem', hsession', now', hcall'⟩ := hdelivered e' he'
  obtain ⟨m, view', hview', hmade'⟩ := h.made hmem'
  have hof' := h.views view' (List.mem_of_getElem? hview')
  have hanswers' := hmade'.answers hshuffle hof'
  obtain ⟨-, -, -, hshows⟩ := adCall_spec hcall
  obtain ⟨-, -, -, hshows'⟩ := adCall_spec hcall'
  have hversions : view.aggregateVersion ≤ view'.aggregateVersion := by
    rw [hshows.contextVersion, hshows'.contextVersion, hanswers.version, hanswers'.version] at hle
    have hrange := hof.range
    have hrange' := hof'.range
    omega
  have hsame : view'.aggregateId = session := hanswers'.sessionId.symm.trans hsession'
  rcases hnewest.newest m view' hview' hsame with rfl | hlt
  · obtain rfl := Option.some.inj (hview'.symm.trans hnewest.number)
    exact ⟨selection', hmem', hanswers', _, hcurrent, hshows'⟩
  · exact absurd hversions (by omega)

/-- Over every run the ads of a session follow its page views. -/
theorem ads_follow_page_views (hname : Function.Injective env.nameUuid)
    (hshuffle : ∀ seed ads, (env.shuffle seed ads).Perm ads) {actions : List (Action κ R)}
    (hrun : StepSystem.run (step env maxAge session N) {} actions = some s) :
    Followed env maxAge session s := by
  have h := inv_of_run hrun
  have hofFrontend : ∀ {n : ℕ} {view : Envelope}, s.views[n]? = some view → view.OfFrontend := fun hview =>
    h.views _ (List.mem_of_getElem? hview)
  obtain ⟨acts, hacts, hdelivered⟩ := h.store
  have hgate := h.gate hname hshuffle hdelivered
  have hwritten := (CasLoop.sound_of_run hacts).written
  have hinputs := hgate.inputs hacts
  have hvalue := hgate.written hwritten hinputs.log
  refine ⟨fun n view hview order trace => exists_selection (hofFrontend hview) order trace, fun n hn => ?_,
    fun a ha => ?_, ?_, fun w hw => ?_, fun n view hnewest hn hfresh happlied => ?_⟩
  · rcases h.answered hname hshuffle hn with
      (⟨now, hstale⟩ | hsuperseded) | ⟨view, selection, hview, hmem, hmade⟩
    · obtain ⟨view, hview, hage⟩ := h.stale n now hstale
      exact ⟨view, hview, .inr (.inr ⟨now, hstale, hage⟩)⟩
    · obtain ⟨view, -, -, hview, -⟩ := id hsuperseded
      exact ⟨view, hview, .inr (.inl hsuperseded)⟩
    · exact ⟨view, hview, .inl ⟨selection, hmem, hmade.answers hshuffle (hofFrontend hview)⟩⟩
  · obtain ⟨m, view, hview, hmade⟩ := h.made ha
    have hof := hofFrontend hview
    refine ⟨view, List.mem_of_getElem? hview, hmade.answers hshuffle hof, fun b hb hid => ?_⟩
    have hmade' := h.made_of_id hname hshuffle hview hmade hb hid
    exact ⟨hmade'.answers hshuffle hof, fun hknown => hmade.unique hof hknown hmade'⟩
  · refine hwritten.pairwise (fun _ _ _ => lt_trans) ?_
    intro w hw u hu next result hdecide
    rw [hvalue u hu] at hdecide ⊢
    exact hgate.lt_of_write (hinputs.log w hw) (hinputs.log u hu) hdecide
  · obtain ⟨selection, hmem, hsession, now, hcall⟩ := hdelivered w.input (hinputs.log w hw)
    rw [hvalue w hw]
    exact ⟨selection, hmem, hsession, (adCall_spec hcall).2.2.2⟩
  · rcases h.answered hname hshuffle hn with
      (⟨now, hstale⟩ | ⟨view', m, newer, hview', hnewer, hne, hsession, hle⟩) |
      ⟨view', selection, hview', hmem, hmade⟩
    · exact absurd hstale (hfresh now)
    · obtain rfl := Option.some.inj (hview'.symm.trans hnewest.number)
      rcases hnewest.newest m newer hnewer (hsession.trans hnewest.aggregateId) with rfl | hlt
      · exact absurd rfl hne
      · exact absurd hle (by omega)
    · obtain rfl := Option.some.inj (hview'.symm.trans hnewest.number)
      have hanswers := hmade.answers hshuffle (hofFrontend hview')
      exact h.shown hname hshuffle hnewest hmade (happlied selection hmem hanswers)

end System

/-! ## Two page views -/

namespace Sample

/-- Hash functions that repeat nothing, and a shuffle that changes nothing. -/
def adEnv : AdEnv where
  seed := fun _ => 5
  nameUuid := id
  shuffle := fun _ ads => ads

/-- Two page views are fetched together.  The older one is discarded, and the newer one answered. -/
def twoPageViews : List (Action ℕ Unit) :=
  [.view "session-1" "home" [] "view-1" "request-1" 1000,
    .view "session-1" "product" ["kitchen"] "view-2" "request-2" 2000,
    .fetch 0 [0, 1] 3000, .discard 0 true, .dispatch 0 0 0 adsMap { traceparent := some "00-1-2-01" },
    .relay (.publish 0 .stored), .relay (.finish 0 true),
    .call 0 0 0, .store (.lookup 0), .store (.fetch 0), .store (.write 0), .store (.store 0)]

end Sample

/-- The storefront shows the ads for the newer page view. -/
theorem newer_page_view_shown : ∃ s,
    StepSystem.run (step Sample.adEnv 5000 "session-1" (CasLoop.Net.plain ℕ)) {} Sample.twoPageViews = some s ∧
    Followed Sample.adEnv 5000 "session-1" s ∧ s.acked = [0, 1] ∧
    (CasLoop.current s.store.log).map AdView.ads = some (adsOf "kitchen") := by
  have hrun : ((StepSystem.run (step Sample.adEnv 5000 "session-1" (CasLoop.Net.plain ℕ)) {}
      Sample.twoPageViews).map fun s => (s.acked, (CasLoop.current s.store.log).map AdView.ads)) =
      some ([0, 1], some (adsOf "kitchen")) := by
    decide +kernel
  obtain ⟨s, hs, hresult⟩ := Option.map_eq_some_iff.mp hrun
  obtain ⟨hacked, hads⟩ := Prod.mk.inj hresult
  exact ⟨s, hs, ads_follow_page_views Function.injective_id (fun _ _ => List.Perm.refl _) hs, hacked, hads⟩

end Boutique.Ads
