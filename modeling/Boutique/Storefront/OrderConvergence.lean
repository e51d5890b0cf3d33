import Mathlib.Data.List.Forall2
import Boutique.Storefront.OrderRun

/-!
# Order views converge, but for the snapshot

The events that one run of the producers emits for an order, delivered at least once each in any order,
end in views that agree on everything but the snapshot.  The snapshot comes from the submission unless
the order was completed, and `updateOrder` takes only the user from a submission that arrives after an
event of a higher version.
-/

namespace Boutique.Storefront

/-! ## Sequences and views -/

namespace OrderRun

variable (run : OrderRun)

/-- A sequence of deliveries, each at a time of the projector's clock. -/
structure Delivers (deliveries : List (Time × Fact)) : Prop where
  only : ∀ d ∈ deliveries, d.2 ∈ run.facts
  all : ∀ f ∈ run.facts, ∃ d ∈ deliveries, d.2 = f

/-- A later event of the checkout is delivered before the submission is. -/
def Late (deliveries : List (Time × Fact)) : Prop :=
  run.submitted.isSome = true ∧ ∃ before d after, deliveries = before ++ d :: after ∧
    (d.2 ∈ run.progress ∨ d.2 = run.outcome) ∧ ∀ x ∈ before, run.submitted ≠ some x.2

end OrderRun

/-- The projector after a sequence of deliveries. -/
def deliverAll (buckets : Buckets) (deliveries : List (Time × Fact)) :
    Except ProjectionError Buckets :=
  deliveries.foldlM deliver buckets

/-- Two views agree on what they show. -/
structure SameView (u v : OrderView) : Prop where
  userId : u.userId = v.userId
  status : u.status = v.status
  stage : u.stage = v.stage
  snapshot : u.snapshot = v.snapshot
  failureCode : u.failureCode = v.failureCode
  retryable : u.retryable = v.retryable
  safeMessage : u.safeMessage = v.safeMessage
  notificationStatus : u.notificationStatus = v.notificationStatus
  cartClearStatus : u.cartClearStatus = v.cartClearStatus
  cartClearFailureCode : u.cartClearFailureCode = v.cartClearFailureCode
  aggregateVersion : u.aggregateVersion = v.aggregateVersion
  outcomeAt : u.outcomeAt = v.outcomeAt

/-! ## A sequence of deliveries -/

section Sequence

/-- The other side of a related element. -/
lemma exists_of_forall₂ {α β : Type} {R : α → β → Prop} {l : List α} {l' : List β}
    (h : List.Forall₂ R l l') {b : β} (hb : b ∈ l') : ∃ a ∈ l, R a b := by
  induction h with
  | nil => cases hb
  | cons hab _ ih =>
    rcases List.mem_cons.mp hb with rfl | hb
    · exact ⟨_, List.mem_cons_self, hab⟩
    · obtain ⟨a, ha, hr⟩ := ih hb
      exact ⟨a, List.mem_cons_of_mem _ ha, hr⟩

variable {run : OrderRun} {ending : Ending} {deliveries : List (Time × Fact)} {buckets : Buckets}
  {told : List OrderEvent}

/-- A split of one of two related lists splits the other. -/
lemma forall₂_split {α β : Type} {R : α → β → Prop} {l : List α} {b : β} {k k' : List β}
    (h : List.Forall₂ R l (k ++ b :: k')) :
    ∃ j a j', l = j ++ a :: j' ∧ List.Forall₂ R j k ∧ R a b := by
  have hdrop := List.forall₂_drop_append l k (b :: k') h
  obtain ⟨a, j', hab, -, heq⟩ := List.forall₂_cons_right_iff.mp hdrop
  refine ⟨l.take k.length, a, j', ?_, List.forall₂_take_append l k (b :: k') h, hab⟩
  rw [← heq, List.take_append_drop]

/-- The event that a delivery makes. -/
structure Matches (d : Time × Fact) (e : OrderEvent) : Prop where
  role : e.role = d.2.role
  version : e.version = d.2.version
  eventId : e.call.eventId = d.2.envelope.messageId

/-- The events that some deliveries made, and what the record says after them. -/
structure Told (run : OrderRun) (deliveries : List (Time × Fact)) (buckets : Buckets)
    (told : List OrderEvent) : Prop where
  only : ∀ d ∈ deliveries, d.2 ∈ run.facts
  oneUser : OneUser run buckets
  made : List.Forall₂ Matches deliveries told
  first : deliveries = [] → buckets.orders run.orderId = none
  record : deliveries ≠ [] → ∃ view, buckets.orders run.orderId = some view ∧ Says run.story told view

/-- One more delivery. -/
lemma Told.step (h : run.Emitted ending) (htold : Told run deliveries buckets told) {d : Time × Fact}
    (hd : d.2 ∈ run.facts) :
    ∃ buckets' e, deliver buckets d = .ok buckets' ∧ Told run (deliveries ++ [d]) buckets' (told ++ [e]) := by
  obtain ⟨now, f⟩ := d
  obtain ⟨buckets', call, hdeliver, hone⟩ := fact_delivered now h hd htold.oneUser
  refine ⟨buckets', ⟨f.role, call⟩, hdeliver, ?_, hone.oneUser, ?_, ?_, ?_⟩
  · intro x hx
    rcases List.mem_append.mp hx with hx | hx
    · exact htold.only x hx
    · rw [List.mem_singleton.mp hx]
      exact hd
  · exact List.rel_append htold.made (.cons ⟨rfl, hone.version, hone.eventId⟩ .nil)
  · intro hnil
    simp at hnil
  · intro _
    refine ⟨_, hone.order, ?_⟩
    by_cases hempty : deliveries = []
    · subst hempty
      obtain rfl := List.forall₂_nil_left_iff.mp htold.made
      rw [htold.first rfl]
      exact says_first hone.ok
    · obtain ⟨view, hview, hsaid⟩ := htold.record hempty
      rw [hview]
      refine hsaid.step h.complete hone.ok ?_
      intro g hg hid
      obtain ⟨x, hx, hmatches⟩ := exists_of_forall₂ htold.made hg
      have hsame : x.2 = f := h.ids x.2 (htold.only x hx) f hd (by
        rw [← hmatches.eventId, hid]
        exact hone.eventId)
      exact ⟨hmatches.role.trans (by rw [hsame]), hmatches.version.trans (by rw [hsame, hone.version])⟩

/-- A sequence of deliveries is applied without error. -/
lemma told_deliverAll (h : run.Emitted ending) (honly : ∀ d ∈ deliveries, d.2 ∈ run.facts) :
    ∃ buckets told, deliverAll {} deliveries = .ok buckets ∧ Told run deliveries buckets told := by
  induction deliveries using List.reverseRecOn with
  | nil =>
    refine ⟨{}, [], rfl, by simp, ?_, .nil, fun _ => rfl, by simp⟩
    intro key
    exact Or.inl rfl
  | append_singleton deliveries d ih =>
    obtain ⟨buckets, told, hall, htold⟩ := ih fun x hx => honly x (List.mem_append_left _ hx)
    obtain ⟨buckets', e, hdeliver, hstep⟩ := htold.step h (honly d (by simp))
    refine ⟨buckets', told ++ [e], ?_, hstep⟩
    rw [deliverAll, List.foldlM_append]
    change (deliverAll {} deliveries >>= fun _ => _) = _
    rw [hall]
    change (deliver buckets d >>= fun _ => _) = _
    rw [hdeliver]
    rfl

/-- The roles of the events that were made are those of the run. -/
lemma Told.mem_roles (htold : Told run deliveries buckets told) (hall : run.Delivers deliveries)
    (role : Role) : role ∈ roles told ↔ ∃ f ∈ run.facts, f.role = role := by
  constructor
  · intro hrole
    obtain ⟨e, he, rfl⟩ := List.mem_map.mp hrole
    obtain ⟨d, hd, hmatches⟩ := exists_of_forall₂ htold.made he
    exact ⟨d.2, htold.only d hd, hmatches.role.symm⟩
  · rintro ⟨f, hf, rfl⟩
    obtain ⟨d, hd, rfl⟩ := hall.all f hf
    obtain ⟨e, he, hmatches⟩ := exists_of_forall₂ htold.made.flip hd
    exact List.mem_map.mpr ⟨e, he, hmatches.role⟩

/-- The submission is the only event in its role. -/
lemma OrderRun.Emitted.eq_submitted (h : run.Emitted ending) {f : Fact} (hf : f ∈ run.facts) :
    f.role = .submitted ↔ run.submitted = some f := by
  constructor
  · intro hrole
    simp only [OrderRun.facts, List.mem_cons, List.mem_append, Option.mem_toList] at hf
    rcases hf with rfl | rfl | ((hf | hf) | hf) | hf
    · simp [Fact.role, h.accepted.1] at hrole
    · have houtcome := h.outcome
      cases ending <;> simp [Fact.role, houtcome.1] at hrole
    · exact hf
    · rcases h.progress f hf with hsubject | hsubject <;> simp [Fact.role, hsubject.1] at hrole
    · rcases (h.notification f hf).2.2 with hsubject | hsubject <;>
        simp [Fact.role, hsubject.1] at hrole
    · rcases (h.settlement f hf).2 with hsubject | hsubject <;> simp [Fact.role, hsubject.1] at hrole
  · intro hsome
    simp [Fact.role, (h.submitted f hsome).1]

/-- The events of a version above the submission's, of an order that is compensated. -/
lemma OrderRun.Emitted.later_iff (h : run.Emitted ending) (hrejected : ending ≠ .rejected)
    (hcompleted : ending ≠ .completed) {f : Fact} (hf : f ∈ run.facts) :
    1 < f.version ↔ f ∈ run.progress ∨ f = run.outcome := by
  constructor
  · intro hlt
    simp only [OrderRun.facts, List.mem_cons, List.mem_append, Option.mem_toList] at hf
    rcases hf with rfl | rfl | ((hf | hf) | hf) | hf
    · simp [Fact.version, Fact.role, h.accepted.1] at hlt
    · exact Or.inr rfl
    · obtain ⟨hsubject, hone, -⟩ := h.submitted f hf
      simp [Fact.version, Fact.role, hsubject, hone] at hlt
    · exact Or.inl hf
    · exact absurd (h.notification f hf).1 hcompleted
    · exact absurd (h.settlement f hf).1 hcompleted
  · intro hlater
    have hlt := h.one_lt hrejected hlater
    have hversion : f.version = f.envelope.aggregateVersion := by
      rcases hlater with hprogress | rfl
      · rcases h.progress f hprogress with hsubject | hsubject <;>
          simp [Fact.version, Fact.role, hsubject.1]
      · have houtcome := h.outcome
        cases ending <;> simp [Fact.version, Fact.role, houtcome.1]
    omega

/-- Some event has the highest version. -/
lemma exists_of_lt_highest {n : ℕ} (hlt : n < highest told) : ∃ e ∈ told, n < e.version := by
  induction told using List.reverseRecOn with
  | nil => simp [highest] at hlt
  | append_singleton told e ih =>
    rw [highest_concat, lt_max_iff] at hlt
    rcases hlt with hold | hnow
    · obtain ⟨f, hf, hversion⟩ := ih hold
      exact ⟨f, List.mem_append_left _ hf, hversion⟩
    · exact ⟨e, by simp, hnow⟩

/-- The first of some deliveries that is of a fact. -/
lemma exists_first {f : Fact} (hf : ∃ d ∈ deliveries, d.2 = f) :
    ∃ before d after, deliveries = before ++ d :: after ∧ d.2 = f ∧ ∀ x ∈ before, x.2 ≠ f := by
  induction deliveries with
  | nil => simp at hf
  | cons x rest ih =>
    by_cases hx : x.2 = f
    · exact ⟨[], x, rest, rfl, hx, by simp⟩
    · obtain ⟨d, hd, hdf⟩ := hf
      have hrest : d ∈ rest := (List.mem_cons.mp hd).resolve_left fun heq => hx (heq ▸ hdf)
      obtain ⟨before, y, after, rfl, hy, hbefore⟩ := ih ⟨d, hrest, hdf⟩
      refine ⟨x :: before, y, after, rfl, hy, ?_⟩
      intro z hz
      rcases List.mem_cons.mp hz with rfl | hz
      · exact hx
      · exact hbefore z hz

/-- Two splits of one list: the one comes first, or they are at the same place, or the other is. -/
lemma split_cases {α : Type} {k l k' l' : List α} {a b : α} (h : k ++ a :: l = k' ++ b :: l') :
    a ∈ k' ∨ a = b ∨ b ∈ k := by
  rcases List.append_eq_append_iff.mp h with ⟨between, hk, hrest⟩ | ⟨between, hk, hrest⟩
  · rcases List.cons_eq_append_iff.mp hrest with ⟨-, heq⟩ | ⟨_, rfl, -⟩
    · exact Or.inr (Or.inl (List.cons.inj heq).1.symm)
    · exact Or.inl (by simp [hk])
  · rcases List.cons_eq_append_iff.mp hrest with ⟨-, heq⟩ | ⟨_, rfl, -⟩
    · exact Or.inr (Or.inl (List.cons.inj heq).1)
    · exact Or.inr (Or.inr (by simp [hk]))

/-- The submission of an order that is compensated is on time if no later event came before it. -/
lemma Told.onTime_iff (h : run.Emitted ending) (hrejected : ending ≠ .rejected)
    (hcompleted : ending ≠ .completed) (htold : Told run deliveries buckets told)
    (hall : run.Delivers deliveries) : OnTime told ↔ ¬run.Late deliveries := by
  obtain ⟨s, hs⟩ := Option.ne_none_iff_exists'.mp fun hnone => hrejected (h.rejected.mpr hnone)
  have hmem : s ∈ run.facts := by simp [OrderRun.facts, hs]
  have hrole : s.role = .submitted := (h.eq_submitted hmem).mpr hs
  have hearlier : ¬(s ∈ run.progress ∨ s = run.outcome) := by
    rw [← h.later_iff hrejected hcompleted hmem]
    simp [Fact.version, hrole, (h.submitted s hs).2.1]
  have honly := hall.only
  constructor
  · rintro ⟨before, e, after, rfl, he, hle⟩ ⟨-, before', d, after', hsplit, hlater, hnone⟩
    obtain ⟨early, x, rest, rfl, hmade, hx⟩ := forall₂_split htold.made
    have hxs : x.2 = s := by
      have hsome := (h.eq_submitted (honly x (by simp))).mp (hx.role.symm.trans he)
      exact (Option.some.inj (hs.symm.trans hsome)).symm
    rcases split_cases hsplit with hbefore | rfl | hearly
    · exact hnone x hbefore (hxs ▸ hs)
    · exact hearlier (hxs ▸ hlater)
    · -- the later event was made before the submission, so the version was above one
      obtain ⟨g, hg, hmatches⟩ := exists_of_forall₂ hmade.flip hearly
      have hlt := (h.later_iff hrejected hcompleted (honly d (by simp [hearly]))).mpr hlater
      have hversion := version_le_highest hg
      rw [hmatches.version] at hversion
      omega
  · intro hlate
    obtain ⟨early, d, rest, rfl, hd, hbefore⟩ := exists_first (hall.all s hmem)
    obtain ⟨before, e, after, rfl, hmade, he⟩ := forall₂_split htold.made.flip
    refine ⟨before, e, after, rfl, he.role.trans (hd ▸ hrole), ?_⟩
    by_contra hlt
    obtain ⟨g, hg, hversion⟩ := exists_of_lt_highest (not_le.mp hlt)
    obtain ⟨x, hx, hmatches⟩ := exists_of_forall₂ hmade.flip hg
    have hlater := (h.later_iff hrejected hcompleted (honly x (by simp [hx]))).mp
      (hmatches.version ▸ hversion)
    obtain ⟨first, others, rfl⟩ := List.append_of_mem hx
    refine hlate ⟨by simp [hs], first, x, others ++ d :: rest, by simp, hlater, ?_⟩
    intro y hy hsome
    exact hbefore y (by simp [hy]) (Option.some.inj (hsome.symm.trans hs))

end Sequence

/-! ## Convergence -/

section Convergence

variable {run : OrderRun} {ending : Ending}

/-- Two records to which the same events were told agree, but for the snapshot. -/
lemma Says.sameView_iff {story : OrderStory} {told₁ told₂ : List OrderEvent} {v₁ v₂ : OrderView}
    (h₁ : Says story told₁ v₁) (h₂ : Says story told₂ v₂)
    (hroles : ∀ role, role ∈ roles told₁ ↔ role ∈ roles told₂)
    (haccepted : .accepted ∈ roles told₁) (houtcome : .outcome ∈ roles told₁) :
    SameView v₁ v₂ ↔ v₁.snapshot = v₂.snapshot := by
  refine ⟨SameView.snapshot, ?_⟩
  intro hsnapshot
  have hsaid₁ := h₁.outcome houtcome
  have hsaid₂ := h₂.outcome ((hroles _).mp houtcome)
  have hcart : v₁.cartClearStatus = v₂.cartClearStatus ∧
      v₁.cartClearFailureCode = v₂.cartClearFailureCode := by
    by_cases hsettled : .settled ∈ roles told₁
    · obtain ⟨hstatus₁, hcode₁⟩ := h₁.settled hsettled
      obtain ⟨hstatus₂, hcode₂⟩ := h₂.settled ((hroles _).mp hsettled)
      exact ⟨hstatus₁.trans hstatus₂.symm, hcode₁.trans hcode₂.symm⟩
    · obtain ⟨hstatus₁, hcode₁⟩ := h₁.unsettled hsettled
      obtain ⟨hstatus₂, hcode₂⟩ := h₂.unsettled (fun hmem => hsettled ((hroles _).mpr hmem))
      exact ⟨hstatus₁.trans hstatus₂.symm, hcode₁.trans hcode₂.symm⟩
  have hnotification : v₁.notificationStatus = v₂.notificationStatus := by
    by_cases hnotified : .notified ∈ roles told₁
    · exact (h₁.notified hnotified).trans (h₂.notified ((hroles _).mp hnotified)).symm
    · have hnot₂ : .notified ∉ roles told₂ := fun hmem => hnotified ((hroles _).mpr hmem)
      exact (h₁.unnotified hnotified).trans (h₂.unnotified hnot₂).symm
  exact {
    userId := (h₁.accepted haccepted).trans (h₂.accepted ((hroles _).mp haccepted)).symm
    status := hsaid₁.status.trans hsaid₂.status.symm
    stage := hsaid₁.stage.trans hsaid₂.stage.symm
    snapshot := hsnapshot
    failureCode := hsaid₁.failureCode.trans hsaid₂.failureCode.symm
    retryable := hsaid₁.retryable.trans hsaid₂.retryable.symm
    safeMessage := hsaid₁.safeMessage.trans hsaid₂.safeMessage.symm
    notificationStatus := hnotification
    cartClearStatus := hcart.1
    cartClearFailureCode := hcart.2
    aggregateVersion := hsaid₁.version.trans hsaid₂.version.symm
    outcomeAt := hsaid₁.outcomeAt.trans hsaid₂.outcomeAt.symm }

/-- Only a completed order brings a snapshot with its outcome. -/
lemma OrderRun.Emitted.snapshot_isSome_iff (h : run.Emitted ending) :
    run.story.snapshot.isSome = true ↔ ending = .completed := by
  have houtcome := h.outcome
  cases ending with
  | rejected =>
    obtain ⟨hsubject, failure, -, hdata⟩ := houtcome
    simp [OrderRun.story, OrderRun.outcomeView, orderEvent, hsubject, hdata, applyOrderFailure,
      terminalView, orderEventView]
  | completed =>
    obtain ⟨hsubject, order, hdata, -⟩ := houtcome
    simp [OrderRun.story, OrderRun.outcomeView, orderEvent, hsubject, hdata]
  | cancelled =>
    obtain ⟨hsubject, failure, _, -, hdata⟩ := houtcome
    simp [OrderRun.story, OrderRun.outcomeView, orderEvent, hsubject, hdata, applyOrderFailure,
      terminalView, orderEventView]
  | manualReview =>
    obtain ⟨hsubject, _, failedCompensation, _, -, hdata⟩ := houtcome
    simp [OrderRun.story, OrderRun.outcomeView, orderEvent, hsubject, hdata, terminalView,
      orderEventView]

/-- A submission brings a snapshot. -/
lemma OrderRun.Emitted.submittedSnapshot_isSome (h : run.Emitted ending) :
    run.story.submitted.isSome = true ↔ ending ≠ .rejected := by
  rw [ne_eq, h.rejected]
  cases hs : run.submitted with
  | none => simp [OrderRun.story, OrderRun.submittedSnapshot, hs]
  | some f =>
    obtain ⟨-, -, _, order, _, _, _, hdata, -⟩ := h.submitted f hs
    simp [OrderRun.story, OrderRun.submittedSnapshot, hs, hdata]

/-- Where neither the outcome nor a submission brings a snapshot there is none. -/
lemma Says.snapshot_none {story : OrderStory} {told : List OrderEvent} {view : OrderView}
    (h : Says story told view) (hstory : story.snapshot = none) (hsubmitted : story.submitted = none) :
    view.snapshot = none := by
  by_cases hon : OnTime told
  · exact (h.onTime hstory hon).trans hsubmitted
  · exact h.late hstory hon

/-- A sequence that delivers all events is not empty. -/
lemma OrderRun.Delivers.ne_nil {deliveries : List (Time × Fact)} (h : run.Delivers deliveries) :
    deliveries ≠ [] := by
  obtain ⟨d, hd, -⟩ := h.all run.accepted (by simp [OrderRun.facts])
  exact List.ne_nil_of_mem hd

/-- The role of the outcome. -/
lemma OrderRun.Emitted.outcome_role (h : run.Emitted ending) : run.outcome.role = .outcome := by
  have houtcome := h.outcome
  cases ending <;> simp [Fact.role, houtcome.1]

/-- The snapshot that the record of a compensated order ends with. -/
lemma Told.snapshot_eq (h : run.Emitted ending) (hrejected : ending ≠ .rejected)
    (hcompleted : ending ≠ .completed) {deliveries : List (Time × Fact)} {buckets : Buckets}
    {told : List OrderEvent} {view : OrderView} (htold : Told run deliveries buckets told)
    (hall : run.Delivers deliveries) (hsaid : Says run.story told view) :
    (run.Late deliveries → view.snapshot = none) ∧
      (¬run.Late deliveries → view.snapshot = run.story.submitted) := by
  have hnone : run.story.snapshot = none := by
    rw [← Option.not_isSome_iff_eq_none, h.snapshot_isSome_iff]
    exact hcompleted
  have hon := htold.onTime_iff h hrejected hcompleted hall
  constructor
  · intro hlate
    exact hsaid.late hnone fun hontime => hon.mp hontime hlate
  · intro hlate
    exact hsaid.onTime hnone (hon.mpr hlate)

/-- For every run of the producers and any two sequences that deliver each of its events at least once,
both are applied without error, and the views agree if and only if the order was completed, or a later
event of the checkout came before the submission in both of the sequences or in neither. -/
theorem order_views_converge_iff (run : OrderRun) (ending : Ending) (h : run.Emitted ending)
    (deliveries₁ deliveries₂ : List (Time × Fact)) (h₁ : run.Delivers deliveries₁)
    (h₂ : run.Delivers deliveries₂) :
    ∃ buckets₁ buckets₂ v₁ v₂, deliverAll {} deliveries₁ = .ok buckets₁ ∧
      deliverAll {} deliveries₂ = .ok buckets₂ ∧ buckets₁.orders run.orderId = some v₁ ∧
      buckets₂.orders run.orderId = some v₂ ∧
      (SameView v₁ v₂ ↔ ending = .completed ∨ (run.Late deliveries₁ ↔ run.Late deliveries₂)) := by
  obtain ⟨buckets₁, told₁, hrun₁, htold₁⟩ := told_deliverAll h h₁.only
  obtain ⟨buckets₂, told₂, hrun₂, htold₂⟩ := told_deliverAll h h₂.only
  obtain ⟨v₁, hv₁, hsaid₁⟩ := htold₁.record (h₁.ne_nil)
  obtain ⟨v₂, hv₂, hsaid₂⟩ := htold₂.record (h₂.ne_nil)
  refine ⟨buckets₁, buckets₂, v₁, v₂, hrun₁, hrun₂, hv₁, hv₂, ?_⟩
  have hroles : ∀ role, role ∈ roles told₁ ↔ role ∈ roles told₂ := by
    intro role
    rw [htold₁.mem_roles h₁, htold₂.mem_roles h₂]
  have haccepted : .accepted ∈ roles told₁ := by
    rw [htold₁.mem_roles h₁]
    exact ⟨run.accepted, by simp [OrderRun.facts], by simp [Fact.role, h.accepted.1]⟩
  have houtcome : .outcome ∈ roles told₁ := by
    rw [htold₁.mem_roles h₁]
    exact ⟨run.outcome, by simp [OrderRun.facts], h.outcome_role⟩
  rw [hsaid₁.sameView_iff hsaid₂ hroles haccepted houtcome]
  by_cases hcompleted : ending = .completed
  · have hsome := h.snapshot_isSome_iff.mpr hcompleted
    refine iff_of_true ?_ (Or.inl hcompleted)
    rw [(hsaid₁.outcome houtcome).snapshot hsome,
      (hsaid₂.outcome ((hroles _).mp houtcome)).snapshot hsome]
  by_cases hrejected : ending = .rejected
  · -- without a submission no snapshot is told
    have hlate : ∀ deliveries, ¬run.Late deliveries := by
      intro deliveries hlate
      simpa [h.rejected.mp hrejected] using hlate.1
    have hstory : run.story.snapshot = none := by
      rw [← Option.not_isSome_iff_eq_none, h.snapshot_isSome_iff]
      exact hcompleted
    have hsubmitted : run.story.submitted = none := by
      rw [← Option.not_isSome_iff_eq_none, h.submittedSnapshot_isSome, not_not]
      exact hrejected
    refine iff_of_true ?_ (Or.inr (iff_of_false (hlate _) (hlate _)))
    rw [hsaid₁.snapshot_none hstory hsubmitted, hsaid₂.snapshot_none hstory hsubmitted]
  · obtain ⟨hlate₁, hon₁⟩ := htold₁.snapshot_eq h hrejected hcompleted h₁ hsaid₁
    obtain ⟨hlate₂, hon₂⟩ := htold₂.snapshot_eq h hrejected hcompleted h₂ hsaid₂
    have hsome : run.story.submitted ≠ none :=
      Option.isSome_iff_ne_none.mp (h.submittedSnapshot_isSome.mpr hrejected)
    by_cases hl₁ : run.Late deliveries₁ <;> by_cases hl₂ : run.Late deliveries₂
    · simp [hlate₁ hl₁, hlate₂ hl₂, hl₁, hl₂]
    · simp [hlate₁ hl₁, hon₂ hl₂, hl₁, hl₂, hcompleted, hsome.symm]
    · simp [hon₁ hl₁, hlate₂ hl₂, hl₁, hl₂, hcompleted, hsome]
    · simp [hon₁ hl₁, hon₂ hl₂, hl₁, hl₂]

/-- An event of a sample order. -/
def sampleFact (subject : EventSubject) (messageId : String) (version : ℕ) (data : Payload) : Fact where
  subject := subject
  envelope :=
    { messageId := messageId, messageType := "", occurredAt := some version, producer := ""
      aggregateType := "order", aggregateId := "o", aggregateVersion := version, correlationId := "o"
      data := data }
  publishedAt := version + 1

/-- The snapshot of the sample order. -/
def sampleSnapshot : SanitizedOrderSnapshot where
  orderId := "o"
  userId := "u"
  email := "e"
  shippingAddress := none
  shippingCost := none
  total := none

/-- An order whose shipping cannot be quoted. -/
def sampleRun : OrderRun where
  orderId := "o"
  userId := "u"
  accepted := sampleFact .operationAccepted "a" 0
    (.operationAccepted "o" "c" "order.submit" "ACCEPTED" "u")
  submitted := some (sampleFact .orderSubmitted "s" 1 (.orderSubmitted "o" (some sampleSnapshot) 1 1 1))
  outcome := sampleFact .orderCancelled "x" 2 (.orderCancelled "o" (some { code := "QUOTE" }) [])

/-- Its events as they are emitted. -/
def sampleInOrder : List (Time × Fact) := (sampleRun.accepted :: sampleRun.saga).map fun f => (9, f)

/-- Its events, where the cancellation comes before the submission. -/
def sampleLate : List (Time × Fact) := sampleRun.facts.map fun f => (9, f)

/-- Its events, with a submission that is delivered again after the cancellation. -/
def sampleAgain : List (Time × Fact) := sampleInOrder ++ sampleLate

/-- The events of the sample order are those of one run. -/
lemma sampleRun_emitted : sampleRun.Emitted .cancelled where
  orderId := by decide
  userId := by decide
  formed := by
    intro f hf
    rcases List.mem_cons.mp hf with rfl | hf
    · exact ⟨rfl, by decide, rfl, by decide⟩
    rcases List.mem_cons.mp hf with rfl | hf
    · exact ⟨rfl, by decide, rfl, by decide⟩
    obtain rfl := List.mem_singleton.mp hf
    exact ⟨rfl, by decide, rfl, by decide⟩
  ids := by decide
  accepted := ⟨rfl, "c", "ACCEPTED", by decide, rfl⟩
  submitted := by
    rintro f ⟨⟩
    exact ⟨rfl, rfl, "o", sampleSnapshot, 1, 1, 1, rfl, rfl, rfl⟩
  progress := by simp [sampleRun]
  outcome := ⟨rfl, { code := "QUOTE" }, [], by decide, rfl⟩
  versions := by decide
  rejected := by simp [sampleRun]
  straight := by simp
  positive := by decide
  notification := by simp [sampleRun]
  settlement := by simp [sampleRun]

/-- Each of the sequences delivers every event of the order. -/
lemma sample_delivers : sampleRun.Delivers sampleInOrder ∧ sampleRun.Delivers sampleLate ∧
    sampleRun.Delivers sampleAgain := by
  refine ⟨⟨by decide, by decide⟩, ⟨by decide, by decide⟩, ⟨by decide, by decide⟩⟩

/-- The submission is not late where it is the second event, after the acceptance. -/
lemma not_late_of_second {now now' : Time} {f : Fact} {rest : List (Time × Fact)}
    (hsubmitted : sampleRun.submitted = some f) :
    ¬sampleRun.Late ((now, sampleRun.accepted) :: (now', f) :: rest) := by
  rintro ⟨-, before, d, after, hsplit, hlater, hnone⟩
  match before with
  | [] =>
    cases hsplit
    have hearly : ¬(sampleRun.accepted ∈ sampleRun.progress ∨ sampleRun.accepted = sampleRun.outcome) := by
      decide
    exact hearly hlater
  | [x] =>
    cases hsplit
    have hearly : ∀ f, sampleRun.submitted = some f → ¬(f ∈ sampleRun.progress ∨ f = sampleRun.outcome) := by
      rintro _ ⟨⟩
      decide
    exact hearly f hsubmitted hlater
  | x :: y :: before =>
    cases hsplit
    exact hnone (now', f) (by simp) hsubmitted

/-- Two sequences in which the submission comes first end in the same view, although it comes again after the
cancellation in one of them. -/
theorem sample_views_converge : ∃ buckets₁ buckets₂ v₁ v₂,
    deliverAll {} sampleInOrder = .ok buckets₁ ∧ deliverAll {} sampleAgain = .ok buckets₂ ∧
      buckets₁.orders "o" = some v₁ ∧ buckets₂.orders "o" = some v₂ ∧ SameView v₁ v₂ := by
  obtain ⟨buckets₁, buckets₂, v₁, v₂, hrun₁, hrun₂, hv₁, hv₂, hiff⟩ :=
    order_views_converge_iff sampleRun .cancelled sampleRun_emitted sampleInOrder sampleAgain
      sample_delivers.1 sample_delivers.2.2
  refine ⟨buckets₁, buckets₂, v₁, v₂, hrun₁, hrun₂, hv₁, hv₂, hiff.mpr (.inr ?_)⟩
  exact iff_of_false (not_late_of_second rfl) (not_late_of_second rfl)

/-- The view of the sample order is without its items when the submission comes late. -/
theorem sample_views_diverge : sampleRun.Emitted .cancelled ∧ sampleRun.Delivers sampleInOrder ∧
    sampleRun.Delivers sampleLate ∧ ∃ buckets₁ buckets₂ v₁ v₂,
      deliverAll {} sampleInOrder = .ok buckets₁ ∧ deliverAll {} sampleLate = .ok buckets₂ ∧
      buckets₁.orders "o" = some v₁ ∧ buckets₂.orders "o" = some v₂ ∧
      v₁.snapshot = some sampleSnapshot ∧ v₂.snapshot = none ∧ ¬SameView v₁ v₂ := by
  refine ⟨sampleRun_emitted, sample_delivers.1, sample_delivers.2.1, _, _, _, _, rfl, rfl, rfl, rfl,
    rfl, rfl, ?_⟩
  intro hsame
  exact absurd hsame.snapshot (by decide)

end Convergence

end Boutique.Storefront
