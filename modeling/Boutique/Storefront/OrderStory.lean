import Boutique.Storefront.Forward

/-!
# What an order record says after some of its events

The events of one order, as the calls of `updateOrder` and `updateOrderSettlement` that they make, and
what the record says after a sequence of them, delivered in any order and more than once.  Every field
but the snapshot is settled by which events were delivered, as soon as the outcome was.  The snapshot of
the submission is kept only if no event of a higher version came before it.
-/

namespace Boutique.Storefront

/-! ## Events and stories -/

/-- The part that an event plays for an order. -/
inductive Role where
  | accepted | submitted | progress | outcome | notified | settled
  deriving DecidableEq

/-- An event of an order, as the call that it makes. -/
structure OrderEvent where
  role : Role
  call : OrderCall

/-- The aggregate version that an event offers; a settlement has none. -/
def OrderEvent.version (e : OrderEvent) : ℕ :=
  match e.call with
  | .update incoming => incoming.aggregateVersion
  | .settle _ _ _ _ _ => 0

/-- What the events of one order say when all of them are told. -/
structure OrderStory where
  userId : String
  version : ℕ
  submitted : Option SanitizedOrderSnapshot
  status : OrderStatus
  stage : String
  snapshot : Option SanitizedOrderSnapshot
  failureCode : String
  retryable : Bool
  safeMessage : String
  outcomeAt : Time
  notificationStatus : NotificationStatus
  cartClearStatus : CartClearStatus
  cartClearFailureCode : String

/-- A story has an outcome, whose failure is complete. -/
structure OrderStory.Complete (story : OrderStory) : Prop where
  terminal : story.status.terminal = true
  stage : story.stage ≠ ""
  failure : story.failureCode = "" → story.retryable = false ∧ story.safeMessage = ""

/-- What the update of an event in its role may say. -/
structure UpdateOk (story : OrderStory) (role : Role) (v : OrderView) : Prop where
  user : v.userId = "" ∨ v.userId = story.userId
  accepted : role = .accepted → v.userId = story.userId
  version : v.aggregateVersion ≤ story.version
  early : role ≠ .outcome → v.aggregateVersion < story.version ∨
    v.status = .unset ∧ v.stage = "" ∧ v.failureCode = ""
  running : role ≠ .outcome → v.status.terminal = false ∧ v.outcomeAt = none
  outcome : role = .outcome → v.aggregateVersion = story.version ∧ v.status = story.status ∧
    v.stage = story.stage ∧ v.outcomeAt = some story.outcomeAt ∧ v.failureCode = story.failureCode ∧
    v.retryable = story.retryable ∧ v.safeMessage = story.safeMessage ∧ v.snapshot = story.snapshot
  late : v.userId ≠ "" → role ≠ .outcome → v.failureCode = ""
  unfailed : v.failureCode = "" → v.retryable = false ∧ v.safeMessage = ""
  failure : story.failureCode = "" → v.failureCode = ""
  notified : role = .notified → v.notificationStatus = story.notificationStatus ∧
    v.notificationStatus ≠ .unset ∧ v.aggregateVersion = story.version
  unnotified : role ≠ .notified → v.notificationStatus = .unset
  cart : v.cartClearStatus = .unset ∧ v.cartClearFailureCode = ""
  submitted : role = .submitted → v.snapshot = story.submitted ∧ v.snapshot.isSome = true ∧
    v.aggregateVersion = 1 ∧ 1 < story.version
  unsubmitted : role ≠ .submitted → role ≠ .outcome → v.snapshot = none
  unsettled : role ≠ .settled
  remembers : v.appliedEventIds = [v.sourceEventId]

/-- An event is one of the story. -/
def OrderEvent.Ok (story : OrderStory) (e : OrderEvent) : Prop :=
  match e.call with
  | .update v => UpdateOk story e.role v
  | .settle _ status failureCode _ source =>
    e.role = .settled ∧ status = story.cartClearStatus ∧ failureCode = story.cartClearFailureCode ∧
      source.appliedEventIds = [source.sourceEventId]

/-- The record after a call. -/
def afterCall (current : Option OrderView) : OrderCall → OrderView
  | .update incoming => orderAfter current incoming
  | .settle orderId status failureCode updatedAt source =>
    settlementAfter current orderId status failureCode updatedAt source

/-- The highest version of some events. -/
def highest (told : List OrderEvent) : ℕ := told.foldl (fun version e => max version e.version) 0

/-- The roles of some events. -/
def roles (told : List OrderEvent) : List Role := told.map OrderEvent.role

/-- The submission was delivered before every event of a higher version. -/
def OnTime (told : List OrderEvent) : Prop :=
  ∃ before e after, told = before ++ e :: after ∧ e.role = .submitted ∧ highest before ≤ 1

variable {story : OrderStory} {told : List OrderEvent} {e : OrderEvent} {view v : OrderView}

@[simp] lemma highest_concat : highest (told ++ [e]) = max (highest told) e.version := by
  simp [highest]

@[simp] lemma roles_concat : roles (told ++ [e]) = roles told ++ [e.role] := by
  simp [roles]

/-- Versions grow with the events. -/
lemma highest_append_le (before after : List OrderEvent) :
    highest before ≤ highest (before ++ after) := by
  induction after using List.reverseRecOn with
  | nil => simp
  | append_singleton after e ih =>
    rw [← List.append_assoc, highest_concat]
    exact ih.trans (le_max_left _ _)

/-- An event is not above the highest version. -/
lemma version_le_highest (he : e ∈ told) : e.version ≤ highest told := by
  obtain ⟨before, after, rfl⟩ := List.append_of_mem he
  rw [List.append_cons]
  refine le_trans ?_ (highest_append_le _ _)
  simp

/-- When one more event is delivered. -/
lemma onTime_concat : OnTime (told ++ [e]) ↔ OnTime told ∨ e.role = .submitted ∧ highest told ≤ 1 := by
  constructor
  · rintro ⟨before, f, after, hsplit, hrole, hle⟩
    rcases List.eq_nil_or_concat after with rfl | ⟨after, g, rfl⟩
    · obtain ⟨rfl, hlast⟩ := List.append_inj' hsplit rfl
      obtain rfl := List.singleton_inj.mp hlast
      exact Or.inr ⟨hrole, hle⟩
    · rw [List.concat_eq_append, ← List.cons_append, ← List.append_assoc] at hsplit
      obtain ⟨rfl, -⟩ := List.append_inj' hsplit rfl
      exact Or.inl ⟨before, f, after, rfl, hrole, hle⟩
  · rintro (⟨before, f, after, rfl, hrole, hle⟩ | ⟨hrole, hle⟩)
    · exact ⟨before, f, after ++ [e], by simp, hrole, hle⟩
    · exact ⟨told, e, [], rfl, hrole, hle⟩

/-- A submission that was delivered while no version was above its own was on time. -/
lemma onTime_of_mem {f : OrderEvent} (hf : f ∈ told) (hrole : f.role = .submitted)
    (hle : highest told ≤ 1) : OnTime told := by
  obtain ⟨before, after, rfl⟩ := List.append_of_mem hf
  exact ⟨before, f, after, rfl, hrole, (highest_append_le _ _).trans hle⟩

/-! ## What the record says -/

/-- The record says the outcome. -/
structure SaysOutcome (story : OrderStory) (view : OrderView) : Prop where
  version : view.aggregateVersion = story.version
  status : view.status = story.status
  stage : view.stage = story.stage
  outcomeAt : view.outcomeAt = some story.outcomeAt
  failureCode : view.failureCode = story.failureCode
  retryable : view.retryable = story.retryable
  safeMessage : view.safeMessage = story.safeMessage
  snapshot : story.snapshot.isSome = true → view.snapshot = story.snapshot

/-- What the record says after some events. -/
structure Says (story : OrderStory) (told : List OrderEvent) (view : OrderView) : Prop where
  version : view.aggregateVersion = highest told
  bound : view.aggregateVersion ≤ story.version
  user : view.userId = "" ∨ view.userId = story.userId
  accepted : .accepted ∈ roles told → view.userId = story.userId
  outcome : .outcome ∈ roles told → SaysOutcome story view
  running : .outcome ∉ roles told → view.status.terminal = false ∧ view.outcomeAt = none
  unfailed : story.failureCode = "" →
    view.failureCode = "" ∧ view.retryable = false ∧ view.safeMessage = ""
  notified : .notified ∈ roles told → view.notificationStatus = story.notificationStatus
  unnotified : .notified ∉ roles told → view.notificationStatus = .unset
  settled : .settled ∈ roles told → view.cartClearStatus = story.cartClearStatus ∧
    view.cartClearFailureCode = story.cartClearFailureCode
  unsettled : .settled ∉ roles told → view.cartClearStatus = .unset ∧ view.cartClearFailureCode = ""
  onTime : story.snapshot = none → OnTime told → view.snapshot = story.submitted
  late : story.snapshot = none → ¬OnTime told → view.snapshot = none
  remembered : ∀ id, projectionApplied view.toProjectionMetadata id = true →
    ∃ f ∈ told, f.call.eventId = id

/-- An event that was delivered before changes nothing. -/
lemma Says.again (h : Says story told view) {f : OrderEvent} (hf : f ∈ told) (hrole : f.role = e.role)
    (hversion : f.version = e.version) : Says story (told ++ [e]) view := by
  have hmem : e.role ∈ roles told := hrole ▸ List.mem_map_of_mem hf
  have hroles : ∀ role, role ∈ roles (told ++ [e]) ↔ role ∈ roles told := by
    intro role
    rw [roles_concat, List.mem_append, List.mem_singleton]
    exact ⟨fun hor => hor.elim id fun heq => heq ▸ hmem, Or.inl⟩
  have hhighest : highest (told ++ [e]) = highest told := by
    rw [highest_concat, ← hversion]
    exact max_eq_left (version_le_highest hf)
  have honTime : OnTime (told ++ [e]) ↔ OnTime told := by
    rw [onTime_concat]
    refine ⟨?_, Or.inl⟩
    rintro (hon | ⟨hsubmitted, hle⟩)
    · exact hon
    · exact onTime_of_mem hf (hrole.trans hsubmitted) hle
  refine ⟨hhighest ▸ h.version, h.bound, h.user, ?_, ?_, ?_, h.unfailed, ?_, ?_, ?_, ?_, ?_, ?_, ?_⟩
  · rw [hroles]
    exact h.accepted
  · rw [hroles]
    exact h.outcome
  · rw [hroles]
    exact h.running
  · rw [hroles]
    exact h.notified
  · rw [hroles]
    exact h.unnotified
  · rw [hroles]
    exact h.settled
  · rw [hroles]
    exact h.unsettled
  · rw [honTime]
    exact h.onTime
  · rw [honTime]
    exact h.late
  · intro id hid
    obtain ⟨g, hg, heq⟩ := h.remembered id hid
    exact ⟨g, List.mem_append_left _ hg, heq⟩

/-! ## Remembered events -/

/-- An event is remembered only if it was, or is the one that is added. -/
lemma mem_rememberEvent {applied : List String} {eventId id : String}
    (h : id ∈ rememberEvent applied eventId) : id ∈ applied ∨ id = eventId := by
  unfold rememberEvent at h
  split_ifs at h
  · exact Or.inl h
  · simpa using h

/-- A merged record remembers no other events. -/
lemma applied_merge {current incoming : ProjectionMetadata} {id : String}
    (h : projectionApplied (mergeProjectionMetadata current incoming) id = true) :
    projectionApplied current id = true ∨ id = incoming.sourceEventId := by
  simp only [mergeProjectionMetadata] at h
  by_cases hempty : incoming.sourceEventId = ""
  · rw [if_pos hempty] at h
    exact Or.inl h
  · rw [if_neg hempty] at h
    simp only [projectionApplied, Bool.and_eq_true, decide_eq_true_eq, Bool.or_eq_true] at h ⊢
    obtain ⟨hne, heq | hmem⟩ := h
    · exact Or.inr heq.symm
    · rcases mem_rememberEvent (List.mem_of_mem_drop hmem) with hmem | heq
      · refine Or.inl ⟨hne, ?_⟩
        by_cases hsource : current.sourceEventId = ""
        · rw [if_neg (not_not.mpr hsource)] at hmem
          exact Or.inr hmem
        · rw [if_pos hsource] at hmem
          rcases mem_rememberEvent hmem with hmem | heq
          · exact Or.inr hmem
          · exact Or.inl heq.symm
      · exact Or.inr heq

/-- A record of one event remembers that event. -/
lemma eq_of_applied {metadata : ProjectionMetadata} {id : String}
    (h : metadata.appliedEventIds = [metadata.sourceEventId])
    (happlied : projectionApplied metadata id = true) : id = metadata.sourceEventId := by
  simp only [projectionApplied, h, List.mem_singleton, Bool.and_eq_true, decide_eq_true_eq,
    Bool.or_eq_true] at happlied
  rcases happlied.2 with heq | heq
  · exact heq.symm
  · exact heq

/-! ## One event -/

/-- The first event. -/
lemma says_first (hok : e.Ok story) : Says story [e] (afterCall none e.call) := by
  obtain ⟨role, call⟩ := e
  have honTime : OnTime [(⟨role, call⟩ : OrderEvent)] ↔ role = .submitted := by
    have hconcat : OnTime ([] ++ [(⟨role, call⟩ : OrderEvent)]) ↔ _ := onTime_concat
    rw [List.nil_append] at hconcat
    rw [hconcat]
    simp [OnTime, highest]
  cases call with
  | update v =>
    have hv : UpdateOk story role v := hok
    refine ⟨by simp [highest, OrderEvent.version, afterCall, orderAfter], hv.version, hv.user, ?_, ?_,
      ?_, ?_, ?_, ?_, ?_, ?_, ?_, ?_, ?_⟩
    · intro hrole
      exact hv.accepted (by simpa [roles, eq_comm] using hrole)
    · intro hrole
      obtain ⟨hversion, hstatus, hstage, hat, hcode, hretryable, hmessage, hsnapshot⟩ :=
        hv.outcome (by simpa [roles, eq_comm] using hrole)
      exact ⟨hversion, hstatus, hstage, hat, hcode, hretryable, hmessage, fun _ => hsnapshot⟩
    · intro hrole
      exact hv.running (by simpa [roles, eq_comm] using hrole)
    · intro hnone
      have hcode := hv.failure hnone
      exact ⟨hcode, hv.unfailed hcode⟩
    · intro hrole
      exact (hv.notified (by simpa [roles, eq_comm] using hrole)).1
    · intro hrole
      exact hv.unnotified (by simpa [roles, eq_comm] using hrole)
    · intro hrole
      exact absurd (by simpa [roles, eq_comm] using hrole) hv.unsettled
    · intro _
      exact hv.cart
    · intro _ hon
      exact (hv.submitted (honTime.mp hon)).1
    · intro hnone hlate
      by_cases houtcome : role = .outcome
      · obtain ⟨-, -, -, -, -, -, -, hsnapshot⟩ := hv.outcome houtcome
        exact hsnapshot.trans hnone
      · exact hv.unsubmitted (fun hrole => hlate (honTime.mpr hrole)) houtcome
    · intro id hid
      exact ⟨_, List.mem_singleton_self _, (eq_of_applied hv.remembers hid).symm⟩
  | settle orderId status failureCode updatedAt source =>
    obtain ⟨hrole, hstatus, hcode, hremembers⟩ := hok
    simp only at hrole
    subst hrole
    refine ⟨rfl, Nat.zero_le _, Or.inl rfl, ?_, ?_, fun _ => ⟨rfl, rfl⟩, fun _ => ⟨rfl, rfl, rfl⟩, ?_,
      fun _ => rfl, fun _ => ⟨hstatus, hcode⟩, ?_, ?_, fun _ _ => rfl, ?_⟩
    · intro hmem
      simp [roles] at hmem
    · intro hmem
      simp [roles] at hmem
    · intro hmem
      simp [roles] at hmem
    · intro hmem
      simp [roles] at hmem
    · intro _ hon
      exact absurd (honTime.mp hon) (by decide)
    · intro id hid
      exact ⟨_, List.mem_singleton_self _, (eq_of_applied hremembers hid).symm⟩

/-- The fields of a record that a late event leaves. -/
structure SameFacts (u w : OrderView) : Prop where
  status : w.status = u.status
  stage : w.stage = u.stage
  snapshot : w.snapshot = u.snapshot
  failureCode : w.failureCode = u.failureCode
  retryable : w.retryable = u.retryable
  safeMessage : w.safeMessage = u.safeMessage
  notificationStatus : w.notificationStatus = u.notificationStatus
  aggregateVersion : w.aggregateVersion = u.aggregateVersion
  outcomeAt : w.outcomeAt = u.outcomeAt

/-- The outcome is said with the same fields. -/
lemma SaysOutcome.same {w : OrderView} (h : SaysOutcome story view) (hsame : SameFacts view w) :
    SaysOutcome story w where
  version := hsame.aggregateVersion.trans h.version
  status := hsame.status.trans h.status
  stage := hsame.stage.trans h.stage
  outcomeAt := hsame.outcomeAt.trans h.outcomeAt
  failureCode := hsame.failureCode.trans h.failureCode
  retryable := hsame.retryable.trans h.retryable
  safeMessage := hsame.safeMessage.trans h.safeMessage
  snapshot := fun hsome => hsame.snapshot.trans (h.snapshot hsome)

/-- An event that leaves the facts, and brings the user or the settlement. -/
lemma Says.same {w : OrderView} (h : Says story told view) (hsame : SameFacts view w)
    (houtcome : e.role ≠ .outcome) (hnotified : e.role ≠ .notified) (hversion : e.version ≤ highest told)
    (hsubmitted : e.role = .submitted → 1 < highest told)
    (huser : w.userId = "" ∨ w.userId = story.userId)
    (haccepted : .accepted ∈ roles (told ++ [e]) → w.userId = story.userId)
    (hsettled : .settled ∈ roles (told ++ [e]) → w.cartClearStatus = story.cartClearStatus ∧
      w.cartClearFailureCode = story.cartClearFailureCode)
    (hunsettled : .settled ∉ roles (told ++ [e]) → w.cartClearStatus = .unset ∧
      w.cartClearFailureCode = "")
    (hremembered : ∀ id, projectionApplied w.toProjectionMetadata id = true →
      projectionApplied view.toProjectionMetadata id = true ∨ id = e.call.eventId) :
    Says story (told ++ [e]) w := by
  have honTime : OnTime (told ++ [e]) ↔ OnTime told := by
    rw [onTime_concat]
    refine ⟨?_, Or.inl⟩
    rintro (hon | ⟨hrole, hle⟩)
    · exact hon
    · exact absurd hle (not_le.mpr (hsubmitted hrole))
  have hroles : ∀ role, e.role ≠ role → (role ∈ roles (told ++ [e]) ↔ role ∈ roles told) := by
    intro role hne
    simp [Ne.symm hne]
  refine ⟨?_, hsame.aggregateVersion ▸ h.bound, huser, haccepted, ?_, ?_, ?_, ?_, ?_, hsettled,
    hunsettled, ?_, ?_, ?_⟩
  · rw [hsame.aggregateVersion, highest_concat, h.version, max_eq_left hversion]
  · rw [hroles _ houtcome]
    exact fun hmem => (h.outcome hmem).same hsame
  · rw [hroles _ houtcome, hsame.status, hsame.outcomeAt]
    exact h.running
  · rw [hsame.failureCode, hsame.retryable, hsame.safeMessage]
    exact h.unfailed
  · rw [hroles _ hnotified, hsame.notificationStatus]
    exact h.notified
  · rw [hroles _ hnotified, hsame.notificationStatus]
    exact h.unnotified
  · rw [honTime, hsame.snapshot]
    exact h.onTime
  · rw [honTime, hsame.snapshot]
    exact h.late
  · intro id hid
    rcases hremembered id hid with hold | rfl
    · obtain ⟨f, hf, heq⟩ := h.remembered id hold
      exact ⟨f, List.mem_append_left _ hf, heq⟩
    · exact ⟨e, by simp, rfl⟩

/-- A late event brings the user at most. -/
lemma Says.stale (h : Says story told view) (hv : UpdateOk story e.role v) (hcall : e.call = .update v)
    (hstale : v.aggregateVersion < view.aggregateVersion)
    (hnew : projectionApplied view.toProjectionMetadata v.sourceEventId = false) :
    Says story (told ++ [e]) (orderAfter (some view) v) := by
  have hversion : e.version = v.aggregateVersion := by simp [OrderEvent.version, hcall]
  have hbound := h.bound
  have houtcome : e.role ≠ .outcome := by
    intro hrole
    have := (hv.outcome hrole).1
    omega
  have hnotified : e.role ≠ .notified := by
    intro hrole
    have := (hv.notified hrole).2.2
    omega
  have hsubmitted : e.role = .submitted → 1 < highest told := by
    intro hrole
    have := (hv.submitted hrole).2.2.1
    rw [← h.version]
    omega
  have hle : e.version ≤ highest told := by
    rw [hversion, ← h.version]
    exact hstale.le
  have hroles : .settled ∈ roles (told ++ [e]) ↔ .settled ∈ roles told := by
    simp [Ne.symm hv.unsettled]
  have hid : e.call.eventId = v.sourceEventId := by simp [OrderCall.eventId, hcall]
  simp only [orderAfter, hnew, Bool.false_eq_true, if_false, if_pos hstale]
  split_ifs with hskip
  · refine h.same ⟨rfl, rfl, rfl, rfl, rfl, rfl, rfl, rfl, rfl⟩ houtcome hnotified hle hsubmitted h.user
      ?_ (fun hmem => h.settled (hroles.mp hmem))
      (fun hmem => h.unsettled fun hold => hmem (hroles.mpr hold)) fun _ hid => Or.inl hid
    intro hmem
    rcases List.mem_append.mp (roles_concat ▸ hmem) with hold | hnow
    · exact h.accepted hold
    · have huser := hv.accepted (List.mem_singleton.mp hnow).symm
      simp only [Bool.or_eq_true, decide_eq_true_eq] at hskip
      rcases hskip with hknown | hempty
      · exact h.user.resolve_left hknown
      · rw [huser] at hempty
        rcases h.user with hnone | hknown
        · rw [hnone, hempty]
        · exact hknown
  · simp only [Bool.or_eq_true, decide_eq_true_eq, not_or, not_not] at hskip
    obtain ⟨hunknown, huser⟩ := hskip
    have hfailure := hv.late huser houtcome
    have hstory := hv.user.resolve_left huser
    have hsame : SameFacts view (mergeOrder view { v with
        aggregateVersion := view.aggregateVersion, status := view.status
        stage := view.stage, snapshot := view.snapshot }) := by
      refine ⟨?_, ?_, ?_, ?_, ?_, ?_, ?_, ?_, ?_⟩
      · simp [mergeOrder]
      · simp [mergeOrder]
      · simp [mergeOrder]
      · simp [mergeOrder, hfailure]
      · simp [mergeOrder, hfailure]
      · simp [mergeOrder, hfailure]
      · simp [mergeOrder, hv.unnotified hnotified]
      · simp [mergeOrder]
      · simp only [mergeOrder, (hv.running houtcome).2]
        split_ifs with hsome
        · rfl
        · exact (Option.not_isSome_iff_eq_none.mp hsome).symm
    refine h.same hsame houtcome hnotified hle hsubmitted (Or.inr ?_) (fun _ => ?_) ?_ ?_ ?_
    · exact (if_neg huser).trans hstory
    · exact (if_neg huser).trans hstory
    · rw [hroles]
      simpa [mergeOrder, hv.cart.1] using h.settled
    · rw [hroles]
      simpa [mergeOrder, hv.cart.1] using h.unsettled
    · intro id happlied
      rw [hid]
      exact applied_merge happlied

/-- The outcome that is merged, for the first time or again. -/
lemma Says.merge_outcome (h : Says story told view) (hstory : story.Complete)
    (hv : UpdateOk story .outcome v) (hle : view.aggregateVersion ≤ v.aggregateVersion) :
    SaysOutcome story (mergeOrder view v) := by
  obtain ⟨hversion, hstatus, hstage, hat, hcode, hretryable, hmessage, hsnapshot⟩ := hv.outcome rfl
  have hterminal := hstory.terminal
  have hset : story.status ≠ .unset := by
    intro hunset
    rw [hunset] at hterminal
    cases hterminal
  have hold : view.outcomeAt = none ∨ view.outcomeAt = some story.outcomeAt := by
    by_cases hmem : .outcome ∈ roles told
    · exact Or.inr (h.outcome hmem).outcomeAt
    · exact Or.inl (h.running hmem).2
  refine ⟨?_, ?_, ?_, ?_, ?_, ?_, ?_, ?_⟩
  · exact (if_neg (not_lt.mpr hle)).trans hversion
  · simp [mergeOrder, hstatus, hset, hterminal]
  · simp [mergeOrder, hstatus, hset, hterminal, hstage, hstory.stage]
  · rcases hold with hnone | hsome
    · simp [mergeOrder, hnone, hat]
    · simp [mergeOrder, hsome]
  · by_cases hempty : story.failureCode = ""
    · simp [mergeOrder, hcode, hempty, (h.unfailed hempty).1]
    · simp [mergeOrder, hcode, hempty]
  · by_cases hempty : story.failureCode = ""
    · simp [mergeOrder, hcode, hempty, (h.unfailed hempty).2.1, (hstory.failure hempty).1]
    · simp [mergeOrder, hcode, hempty, hretryable]
  · by_cases hempty : story.failureCode = ""
    · simp [mergeOrder, hcode, hempty, (h.unfailed hempty).2.2, (hstory.failure hempty).2]
    · simp [mergeOrder, hcode, hempty, hmessage]
  · intro hsome
    have hset' : ¬v.snapshot.isNone = true := by
      rw [hsnapshot, Option.isNone_iff_eq_none]
      exact Option.isSome_iff_ne_none.mp hsome
    exact (if_neg hset').trans hsnapshot

/-- The outcome is kept by every other event. -/
lemma SaysOutcome.merge {role : Role} (h : SaysOutcome story view) (hstory : story.Complete)
    (hv : UpdateOk story role v) (hrole : role ≠ .outcome)
    (hle : view.aggregateVersion ≤ v.aggregateVersion) : SaysOutcome story (mergeOrder view v) := by
  have hversion := h.version
  -- an event of the highest version that is not the outcome has no status
  obtain ⟨hstatus, hstage, hcode⟩ := (hv.early hrole).resolve_left (by omega)
  have hterminal := hstory.terminal
  refine ⟨?_, ?_, ?_, ?_, ?_, ?_, ?_, ?_⟩
  · have hmerged : (mergeOrder view v).aggregateVersion = v.aggregateVersion :=
      if_neg (not_lt.mpr hle)
    have hequal := hv.version
    omega
  · simp [mergeOrder, hstatus, h.status]
  · simp [mergeOrder, hstatus, hstage, h.stage]
  · simp [mergeOrder, h.outcomeAt]
  · simp [mergeOrder, hcode, h.failureCode]
  · simp [mergeOrder, hcode, h.retryable]
  · simp [mergeOrder, hcode, h.safeMessage]
  · intro hsome
    have hsubmitted : role ≠ .submitted := by
      intro hsubmitted
      obtain ⟨-, -, hone, hlt⟩ := hv.submitted hsubmitted
      omega
    simp [mergeOrder, hv.unsubmitted hsubmitted hrole, h.snapshot hsome]

/-- An event that is not late is merged. -/
lemma Says.merge (h : Says story told view) (hstory : story.Complete) (hv : UpdateOk story e.role v)
    (hcall : e.call = .update v) (hle : view.aggregateVersion ≤ v.aggregateVersion) :
    Says story (told ++ [e]) (mergeOrder view v) := by
  have hversion : e.version = v.aggregateVersion := by simp [OrderEvent.version, hcall]
  have hmerged : (mergeOrder view v).aggregateVersion = v.aggregateVersion :=
    if_neg (not_lt.mpr hle)
  have hid : e.call.eventId = v.sourceEventId := by simp [OrderCall.eventId, hcall]
  -- an event without a snapshot keeps the one of the record
  have hkept : story.snapshot = none → e.role ≠ .submitted →
      (mergeOrder view v).snapshot = view.snapshot := by
    intro hnone hsubmitted
    have hempty : v.snapshot = none := by
      by_cases hrole : e.role = .outcome
      · obtain ⟨-, -, -, -, -, -, -, hsnapshot⟩ := hv.outcome hrole
        exact hsnapshot.trans hnone
      · exact hv.unsubmitted hsubmitted hrole
    simp [mergeOrder, hempty]
  refine ⟨?_, hmerged ▸ hv.version, ?_, ?_, ?_, ?_, ?_, ?_, ?_, ?_, ?_, ?_, ?_, ?_⟩
  · rw [hmerged, highest_concat, hversion, max_eq_right (h.version ▸ hle)]
  · simp only [mergeOrder]
    split_ifs
    · exact h.user
    · exact hv.user
  · intro hmem
    simp only [mergeOrder]
    rcases List.mem_append.mp (roles_concat ▸ hmem) with hold | hnow
    · split_ifs with hempty
      · exact h.accepted hold
      · exact hv.user.resolve_left hempty
    · have huser := hv.accepted (List.mem_singleton.mp hnow).symm
      split_ifs with hempty
      · rcases h.user with hnone | hknown
        · rw [hnone, ← huser, hempty]
        · exact hknown
      · exact huser
  · intro hmem
    by_cases hrole : e.role = .outcome
    · exact h.merge_outcome hstory (hrole ▸ hv) hle
    · have hold : .outcome ∈ roles told := by simpa [Ne.symm hrole] using hmem
      exact (h.outcome hold).merge hstory hv hrole hle
  · intro hmem
    simp only [roles_concat, List.mem_append, List.mem_singleton, not_or] at hmem
    obtain ⟨hopen, hat⟩ := h.running hmem.1
    obtain ⟨hopen', hat'⟩ := hv.running (Ne.symm hmem.2)
    constructor
    · simp only [mergeOrder, hopen, Bool.false_and, Bool.false_eq_true, if_false]
      split_ifs
      · exact hopen
      · exact hopen'
    · simp [mergeOrder, hat, hat']
  · intro hempty
    have hcode := hv.failure hempty
    simpa [mergeOrder, hcode] using h.unfailed hempty
  · intro hmem
    by_cases hrole : e.role = .notified
    · obtain ⟨hstatus, hset, -⟩ := hv.notified hrole
      exact (if_neg hset).trans hstatus
    · have hold : .notified ∈ roles told := by simpa [Ne.symm hrole] using hmem
      simp only [mergeOrder, hv.unnotified hrole, if_true, h.notified hold]
  · intro hmem
    simp only [roles_concat, List.mem_append, List.mem_singleton, not_or] at hmem
    simp only [mergeOrder, hv.unnotified (Ne.symm hmem.2), if_true, h.unnotified hmem.1]
  · intro hmem
    have hold : .settled ∈ roles told := by simpa [Ne.symm hv.unsettled] using hmem
    simpa [mergeOrder, hv.cart.1] using h.settled hold
  · intro hmem
    simp only [roles_concat, List.mem_append, List.mem_singleton, not_or] at hmem
    simpa [mergeOrder, hv.cart.1] using h.unsettled hmem.1
  · intro hnone hon
    by_cases hrole : e.role = .submitted
    · obtain ⟨hsnapshot, hsome, -⟩ := hv.submitted hrole
      have hset : ¬v.snapshot.isNone = true := by
        rw [Option.isNone_iff_eq_none]
        exact Option.isSome_iff_ne_none.mp hsome
      exact (if_neg hset).trans hsnapshot
    · rw [hkept hnone hrole]
      exact h.onTime hnone ((onTime_concat.mp hon).resolve_right fun hnow => hrole hnow.1)
  · intro hnone hlate
    rw [onTime_concat, not_or, not_and] at hlate
    have hrole : e.role ≠ .submitted := by
      intro hrole
      obtain ⟨-, -, hone, -⟩ := hv.submitted hrole
      exact hlate.2 hrole (by rw [← h.version]; omega)
    rw [hkept hnone hrole]
    exact h.late hnone hlate.1
  · intro id happlied
    rcases applied_merge happlied with hold | rfl
    · obtain ⟨f, hf, heq⟩ := h.remembered id hold
      exact ⟨f, List.mem_append_left _ hf, heq⟩
    · exact ⟨e, by simp, hid⟩

/-- A settlement brings the state of the cart. -/
lemma Says.settle (h : Says story told view) {orderId failureCode : String} {status : CartClearStatus}
    {updatedAt : Time} {source : ProjectionMetadata}
    (hcall : e.call = .settle orderId status failureCode updatedAt source) (hok : e.Ok story)
    (hnew : projectionApplied view.toProjectionMetadata source.sourceEventId = false) :
    Says story (told ++ [e])
      (settlementAfter (some view) orderId status failureCode updatedAt source) := by
  simp only [OrderEvent.Ok, hcall] at hok
  obtain ⟨hrole, hstatus, hcode, -⟩ := hok
  have hversion : e.version = 0 := by simp [OrderEvent.version, hcall]
  have hid : e.call.eventId = source.sourceEventId := by simp [OrderCall.eventId, hcall]
  simp only [settlementAfter, hnew, Bool.false_eq_true, if_false]
  refine h.same ⟨rfl, rfl, rfl, rfl, rfl, rfl, rfl, rfl, rfl⟩ (by simp [hrole]) (by simp [hrole])
    (by simp [hversion]) (by simp [hrole]) h.user ?_ (fun _ => ⟨hstatus, hcode⟩) ?_ ?_
  · intro hmem
    exact h.accepted (by simpa [hrole] using hmem)
  · intro hmem
    simp [hrole] at hmem
  · intro id happlied
    rw [hid]
    exact applied_merge happlied

/-- What the record says after one more event. -/
theorem Says.step (h : Says story told view) (hstory : story.Complete) (hok : e.Ok story)
    (hsame : ∀ f ∈ told, f.call.eventId = e.call.eventId →
      f.role = e.role ∧ f.version = e.version) :
    Says story (told ++ [e]) (afterCall (some view) e.call) := by
  cases happlied : projectionApplied view.toProjectionMetadata e.call.eventId with
  | true =>
    -- only an event that was delivered is remembered
    obtain ⟨f, hf, hid⟩ := h.remembered _ happlied
    obtain ⟨hrole, hversion⟩ := hsame f hf hid
    have hkept : afterCall (some view) e.call = view := by
      cases hcall : e.call with
      | update v =>
        rw [hcall] at happlied
        exact if_pos happlied
      | settle orderId status failureCode updatedAt source =>
        rw [hcall] at happlied
        exact if_pos happlied
    rw [hkept]
    exact h.again hf hrole hversion
  | false =>
    cases hcall : e.call with
    | update v =>
      rw [hcall] at happlied
      have hv : UpdateOk story e.role v := by simpa [OrderEvent.Ok, hcall] using hok
      by_cases hstale : v.aggregateVersion < view.aggregateVersion
      · exact h.stale hv hcall hstale happlied
      · have hmerged : afterCall (some view) (.update v) = mergeOrder view v := by
          have hnew : ¬projectionApplied view.toProjectionMetadata v.sourceEventId = true := by
            rw [Bool.not_eq_true]
            exact happlied
          simp only [afterCall, orderAfter, if_neg hnew, if_neg hstale]
        rw [hmerged]
        exact h.merge hstory hv hcall (not_lt.mp hstale)
    | settle orderId status failureCode updatedAt source =>
      rw [hcall] at happlied
      exact h.settle hcall hok happlied

end Boutique.Storefront
