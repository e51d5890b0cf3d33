import Boutique.Recommendation.IndexDuties

/-!
# The index and the product records

Between the read of a product record and the write of the index by a call of `apply_product` another
call can change the record and bring the index in line first: the first call then writes back what is
outdated, and no call is left to repair it.

If the stored record of the product still has the flag that the call has read whenever its update of the
index takes effect, the index agrees with the records whenever all calls have returned.  A bucket that
has records and no index gets it from `ensure_catalog_index` before a product is applied.
-/

namespace Boutique.Recommendation

open StoreProgram

/-! ## Runs -/

instance (s : Store Value) (productId : String) : Decidable (Active s productId) :=
  match hrecord : s.record (.product productId) with
  | none => isFalse (by rintro ⟨entry, hentry, -⟩; rw [hrecord] at hentry; cases hentry)
  | some entry =>
    decidable_of_iff (ProductRecord.removed entry.value = false) (by
      constructor
      · intro hactive
        exact ⟨entry, hrecord, hactive⟩
      · rintro ⟨entry', hentry', hactive⟩
        rw [hrecord] at hentry'
        cases hentry'
        exact hactive)

/-- The system with a note, for every call, of the product record that it read last. -/
abbrev NotedSystem := Noted Value Query.Result Failure Outcome ℕ (Option ProductRecord)

/-- The product record that a call has read last, after an operation. -/
def lastRead (note : Option ProductRecord) :
    (op : Op Value Query) → Reply Query.Result op → Option ProductRecord
  | .get (.product _), .done entry => some entry.value
  | _, _ => note

/-- One step. -/
abbrev NotedSystem.step : NotedSystem → Step → Option NotedSystem :=
  Noted.step Call.program none lastRead

/-- No call has started. -/
def NotedSystem.initial (s : Store Value) : NotedSystem where
  pool := System.initial s
  note := fun _ => none

/-- The call whose update of the index takes effect in a step. -/
def updatesIndex (s : System) : Step → Option ℕ
  | .step _ .failedBefore => none
  | .step c _ =>
    match s.thread c with
    | some (.call (.update .index _ revision) _) =>
      match s.store.record .index with
      | none => none
      | some entry => if entry.revision = revision then some c else none
    | _ => none
  | _ => none

/-- The stored record of the product has the flag that a record of it has. -/
def SameFlag (s : Store Value) (record : ProductRecord) : Prop :=
  ∃ stored ∈ s.record (.product record.productId),
    ProductRecord.removed stored.value = record.removed

instance (s : Store Value) (record : ProductRecord) : Decidable (SameFlag s record) :=
  inferInstanceAs (Decidable (∃ stored ∈ s.record (.product record.productId), _))

/-- When the update of the index of a call takes effect, the stored record of its product has the flag
that the call has read. -/
def FlagsCurrent (s : NotedSystem) (a : Step) : Prop :=
  ∀ c ∈ updatesIndex s.pool a, ∀ record ∈ s.note c, SameFlag s.pool.store record

instance (s : NotedSystem) (a : Step) : Decidable (FlagsCurrent s a) :=
  inferInstanceAs (Decidable (∀ c ∈ updatesIndex s.pool a, ∀ record ∈ s.note c, _))

/-- What a call at its duty acts on is the record that it has read last. -/
def Duty.ActsOn (note : Option ProductRecord) : Duty → Prop
  | .fixing _ productId removed _ =>
    ∃ record, note = some record ∧ record.productId = productId ∧ record.removed = removed
  | _ => True

/-- A call that has read its product acts on what it has read. -/
lemma actsOn_readProduct {key : String} {note : Option ProductRecord} (otherwise : Duty)
    (h : otherwise.ActsOn note) (r : Answer (Entry ProductRecord)) :
    (Duty.readProduct key otherwise r).ActsOn (lastRead note (.get (.product key)) r) := by
  cases r with
  | done entry => exact ⟨entry.value, rfl, rfl, rfl⟩
  | refused => exact h
  | failed => exact trivial

/-- An operation keeps the note of the call up to date. -/
lemma Duty.ActsOn.after {duty : Duty} {note : Option ProductRecord} {op : Op Value Query}
    (h : duty.ActsOn note) (hallowed : duty.allowed op) (r : Reply Query.Result op) :
    (duty.after op r).ActsOn (lastRead note op r) := by
  cases duty with
  | fresh key =>
    match op, hallowed, r with
    | .get (.product _), rfl, r => exact actsOn_readProduct (.fresh _) trivial r
    | .create (.product _) _, _, r => cases r <;> exact trivial
  | vanished key =>
    match op, hallowed, r with
    | .create (.product _) _, _, r => cases r <;> exact trivial
  | applying key =>
    match op, hallowed, r with
    | .get (.product _), rfl, r => exact actsOn_readProduct (.vanished _) trivial r
  | broken key => cases op <;> exact hallowed.elim
  | settled => cases op <;> exact hallowed.elim
  | ensuring =>
    match op, hallowed, r with
    | .get .index, _, r => cases r <;> exact trivial
  | collecting productIds =>
    match op, hallowed, r with
    | .outside _, _, r => exact trivial
    | .create .index _, _, r => exact trivial
    | .get (.product _), _, r =>
      cases r with
      | done entry =>
        change Duty.ActsOn _ (if _ then _ else _)
        split_ifs
        · exact trivial
        · exact trivial
      | refused => exact trivial
      | failed => exact trivial
  | fixing key productId removed seen =>
    match op, hallowed, r with
    | .get (.product _), rfl, r => exact actsOn_readProduct (.vanished _) trivial r
    | .update (.product _) _ _, _, r => cases r <;> exact trivial
    | .create .index _, _, r =>
      cases r with
      | done revision => exact trivial
      | refused => exact h
      | failed => exact trivial
    | .update .index _ _, _, r =>
      cases r with
      | done revision => exact trivial
      | refused => exact h
      | failed => exact trivial
    | .get .index, _, r =>
      cases r with
      | done entry =>
        change Duty.ActsOn _ (if _ then _ else _)
        split_ifs
        · exact trivial
        · exact h
      | refused => exact h
      | failed => exact trivial

/-- The invariant of the system. -/
structure System.Kept (s : System) (state : ℕ → Duty) : Prop where
  tracks : Tracks duties (fun _ duty => duty.over) s state
  idle : ∀ c, s.thread c = none → state c = .settled
  coherent : Coherent s.store state

/-- The invariant of the system with its notes. -/
structure NotedSystem.Kept (s : NotedSystem) (state : ℕ → Duty) : Prop where
  system : System.Kept s.pool state
  actsOn : ∀ c, (state c).ActsOn (s.note c)

/-- The notes after a step of one call. -/
lemma actsOn_update {note : ℕ → Option ProductRecord} {state : ℕ → Duty} {c : ℕ}
    {record : Option ProductRecord} {duty : Duty} (h : ∀ c', (state c').ActsOn (note c'))
    (hself : duty.ActsOn record) (c' : ℕ) :
    (Function.update state c duty c').ActsOn (Function.update note c record c') := by
  by_cases hc : c' = c
  · subst hc
    rw [Function.update_self, Function.update_self]
    exact hself
  · rw [Function.update_of_ne hc, Function.update_of_ne hc]
    exact h c'

/-- A thread that is free after a step of another was free before it. -/
lemma idle_update {thread : ℕ → Option (Prog Outcome)} {state : ℕ → Duty} {c c' : ℕ}
    {p : Prog Outcome} {duty : Duty} (h : ∀ c, thread c = none → state c = .settled)
    (hnone : Function.update thread c (some p) c' = none) :
    Function.update state c duty c' = .settled := by
  by_cases hc : c' = c
  · subst hc
    rw [Function.update_self] at hnone
    cases hnone
  · rw [Function.update_of_ne hc] at hnone ⊢
    exact h c' hnone

/-- A step of the system with its notes is one of the system. -/
lemma NotedSystem.pool_of_step {s s' : NotedSystem} {a : Step} (h : NotedSystem.step s a = some s') :
    System.step s.pool a = some s'.pool :=
  (Noted.step_pool Call.program none lastRead s a).symm.trans (Option.map_eq_some_iff.mpr ⟨s', h, rfl⟩)

/-- A step that is not a crash keeps the invariant, if an update of the index that takes effect is
about the present record of the product. -/
lemma NotedSystem.Kept.step {s s' : NotedSystem} {state : ℕ → Duty} {a : Step}
    (h : NotedSystem.Kept s state) (hcurrent : FlagsCurrent s a) (hcrash : ∀ c, a ≠ .crash c)
    (hstep : NotedSystem.step s a = some s') : ∃ state', NotedSystem.Kept s' state' := by
  obtain ⟨state', htracks, htracked⟩ := h.system.tracks.step follows_program (NotedSystem.pool_of_step hstep)
  obtain ⟨pool', note'⟩ := s'
  cases htracked with
  | start c call hfree =>
    have hsettled := h.system.idle c hfree
    obtain ⟨t, -, hnoted⟩ := Option.map_eq_some_iff.mp hstep
    cases hnoted
    refine ⟨_, ⟨htracks, fun c' => idle_update h.system.idle, h.system.coherent.same ?_ ?_⟩, ?_⟩
    · rw [hsettled]
      exact fun _ howes => False.elim howes
    · cases call <;> exact trivial
    · refine actsOn_update h.actsOn ?_
      cases call <;> exact trivial
  | crash c => exact absurd rfl (hcrash c)
  | step c event op next r store hthread hallowed hserve =>
    obtain rfl : note' = _ := Noted.note_step hstep hthread hserve
    refine ⟨_, ⟨htracks, fun c' => idle_update h.system.idle,
      h.system.coherent.step_op hallowed hserve ?_⟩,
      actsOn_update h.actsOn ((h.actsOn c).after hallowed r)⟩
    intro value revision entry hop hentry hrevision hevent key productId removed seen hstate
    subst hop
    have hupdates : updatesIndex s.pool (.step c event) = some c := by
      cases event with
      | failedBefore => exact absurd rfl hevent
      | usual => simp [updatesIndex, hthread, hentry, hrevision]
      | lost => simp [updatesIndex, hthread, hentry, hrevision]
      | failedAfter => simp [updatesIndex, hthread, hentry, hrevision]
      | outside reply => simp [updatesIndex, hthread, hentry, hrevision]
    -- the call acts on the record of its note, and the flag of that is current
    have hacts := h.actsOn c
    rw [hstate] at hacts
    obtain ⟨record, hnote, rfl, rfl⟩ := hacts
    exact hcurrent c hupdates record hnote

/-- The calls have returned without error. -/
def AllReturned (s : System) : Prop := ∀ c p, s.thread c = some p → ∃ outcome, p = .ret outcome

/-- The records of a bucket are under the keys of their products. -/
def Named (s : Store Value) : Prop :=
  ∀ id entry, s.record (.product id) = some entry →
    ProductRecord.productId entry.value = id ∧ id ≠ ""

/-- The invariant holds in a bucket whose index agrees with the records, before any call. -/
lemma kept_initial {s : Store Value} (hnamed : Named s) (hagrees : Agrees s) :
    (System.initial s).Kept fun _ => .settled := by
  refine ⟨?_, fun _ _ => rfl, hnamed, ?_, fun _ => trivial, fun id => Or.inl (hagrees id)⟩
  · rintro c p ⟨⟩
  · intro hempty
    obtain ⟨entry, hentry, -⟩ := (hagrees "").mp hempty
    exact (hnamed "" entry hentry).2 rfl

/-- In the invariant the index agrees with the records when all calls have returned without error. -/
lemma System.Kept.agrees {s : System} {state : ℕ → Duty} (h : System.Kept s state)
    (hreturned : AllReturned s) : Agrees s.store := by
  intro id
  rcases h.coherent.agrees id with hid | ⟨c, howes⟩
  · exact hid
  · -- a call that still has to bring the index in line has not returned
    exfalso
    cases hthread : s.thread c with
    | none =>
      rw [h.idle c hthread] at howes
      exact howes
    | some p =>
      obtain ⟨outcome, rfl⟩ := hreturned c p hthread
      rcases h.tracks c _ hthread with hover | ⟨key, hover⟩
      · rw [hover] at howes
        exact howes
      · rw [hover] at howes
        exact howes

/-! ## A bucket without an index -/

/-- While there is no index only `ensure_catalog_index` is started, and `keys` finds every product. -/
def SeedsFirst (s : System) (a : Step) : Prop :=
  s.store.record .index = none →
    (∀ c record, a ≠ .start c (.applyProduct record)) ∧
    ∀ c reply, a = .step c (.outside reply) → ∀ id, Present s.store id → .product id ∈ reply .keys

/-- A bucket without an index is upgraded. -/
structure Upgraded (store : Store Value) (as : List Step) : Prop where
  absent : store.record .index = none
  called : ∃ c, .start c .ensureCatalogIndex ∈ as
  seedsFirst : StepSystem.Along System.step SeedsFirst (System.initial store) as

/-- Where a call of `ensure_catalog_index` is as long as there is no index, with its duty. -/
inductive Seeding (s : Store Value) : Prog Outcome → Duty → Prop where
  | ensuring : Seeding s ensureCatalogIndex .ensuring
  | listing : Seeding s (.call (.outside .keys) fun found => collectActive ∅ found >>= seedIndex)
      (.collecting ∅)
  | collecting (productIds : Finset String) (found : List Key)
      (hactive : ∀ id ∈ productIds, Active s id)
      (hrest : ∀ id, Active s id → id ∈ productIds ∨ .product id ∈ found) :
    Seeding s (collectActive productIds found >>= seedIndex) (.collecting productIds)
  | failed (error : Failure) (duty : Duty)
      (hduty : duty = .settled ∨
        ∃ productIds, duty = .collecting productIds ∧ ∀ id ∈ productIds, Active s id) :
    Seeding s (.raise error) duty

/-- The next operation of `ensure_catalog_index` in its loop: it is still about no product that was
not found, or it creates an index with the active products, or fails. -/
lemma seeding_collect {s s' : Store Value} {productIds : Finset String} {found : List Key}
    {op : Op Value Query} {next : Reply Query.Result op → Prog Outcome} {event : Event Query.Result}
    {r : Reply Query.Result op} (hnamed : Named s) (hindex : s.record .index = none)
    (hactive : ∀ id ∈ productIds, Active s id)
    (hrest : ∀ id, Active s id → id ∈ productIds ∨ .product id ∈ found)
    (hcall : collectActive productIds found >>= seedIndex = .call op next)
    (hserve : s.serve op event = some (r, s')) :
    s' = s ∧ Seeding s (next r) (Duty.after (.collecting productIds) op r) ∨
      s' = s.put .index productIds ∧ (∀ id, id ∈ productIds ↔ Active s id) ∧
        Duty.after (.collecting productIds) op r = .settled := by
  induction found with
  | nil =>
    cases hcall
    rcases serve_create hserve with ⟨-, hput⟩ | ⟨hsame, ⟨⟨entry, hentry⟩, -⟩ | rfl⟩
    · refine Or.inr ⟨hput, fun id => ⟨hactive id, fun hid => ?_⟩, rfl⟩
      exact (hrest id hid).resolve_right List.not_mem_nil
    · rw [hindex] at hentry
      cases hentry
    · exact Or.inl ⟨hsame, .failed _ _ (Or.inl rfl)⟩
  | cons k found ih =>
    cases k with
    | index =>
      refine ih (fun id hid => (hrest id hid).imp_right fun hmem => ?_) hcall
      exact (List.mem_cons.mp hmem).resolve_left (by simp)
    | product productId =>
      cases hcall
      obtain ⟨rfl, hr⟩ := serve_get hserve
      refine Or.inl ⟨rfl, ?_⟩
      -- the rest of the products, when the one that was read is dealt with
      have htail : (Active s' productId → productId ∈ productIds) → ∀ id, Active s' id →
          id ∈ productIds ∨ .product id ∈ found := by
        intro hread id hid
        rcases hrest id hid with hmem | hmem
        · exact Or.inl hmem
        · rcases List.mem_cons.mp hmem with heq | hmem
          · cases heq
            exact Or.inl (hread hid)
          · exact Or.inr hmem
      rcases hr with rfl | rfl
      · unfold Store.get
        cases hrecord : s'.record (.product productId) with
        | none =>
          refine .collecting productIds found hactive (htail ?_)
          rintro ⟨entry, hentry, -⟩
          rw [hrecord] at hentry
          cases hentry
        | some record =>
          have hname := (hnamed productId record hrecord).1
          have hafter : Duty.after (.collecting productIds) (.get (.product productId)) (.done record) =
              if ProductRecord.productId record.value ≠ "" ∧ ProductRecord.removed record.value = false
              then .collecting (insert (ProductRecord.productId record.value) productIds)
              else .collecting productIds := rfl
          rw [hafter]
          change Seeding _ ((if ProductRecord.productId record.value ≠ "" ∧
            ProductRecord.removed record.value = false then _ else _) >>= seedIndex) _
          split_ifs with hadd
          · have hread : Active s' productId := ⟨record, hrecord, hadd.2⟩
            rw [hname]
            refine .collecting _ found ?_ ?_
            · intro id hid
              rcases Finset.mem_insert.mp hid with rfl | hold
              · exact hread
              · exact hactive id hold
            · intro id hid
              rcases hrest id hid with hmem | hmem
              · exact Or.inl (Finset.mem_insert_of_mem hmem)
              · rcases List.mem_cons.mp hmem with heq | hmem
                · cases heq
                  exact Or.inl (Finset.mem_insert_self _ _)
                · exact Or.inr hmem
          · refine .collecting productIds found hactive (htail ?_)
            rintro ⟨entry, hentry, hkept⟩
            rw [hrecord] at hentry
            cases hentry
            refine absurd ⟨?_, hkept⟩ hadd
            rw [hname]
            exact (hnamed productId record hrecord).2
      · exact .failed _ _ (Or.inr ⟨productIds, rfl, hactive⟩)

/-- The next operation of a call of `ensure_catalog_index` as long as there is no index. -/
lemma Seeding.step {s s' : Store Value} {duty : Duty} {op : Op Value Query}
    {next : Reply Query.Result op → Prog Outcome} {event : Event Query.Result}
    {r : Reply Query.Result op} (h : Seeding s (.call op next) duty) (hnamed : Named s)
    (hindex : s.record .index = none) (hserve : s.serve op event = some (r, s'))
    (hkeys : ∀ reply, event = .outside reply → ∀ id, Present s id → .product id ∈ reply .keys) :
    s' = s ∧ Seeding s (next r) (duty.after op r) ∨
      ∃ productIds, s' = s.put .index productIds ∧ (∀ id, id ∈ productIds ↔ Active s id) ∧
        duty.after op r = .settled := by
  generalize hp : Program.call op next = p at h
  cases h with
  | ensuring =>
    cases hp
    obtain ⟨rfl, hr⟩ := serve_get hserve
    refine Or.inl ⟨rfl, ?_⟩
    rcases hr with rfl | rfl
    · unfold Store.get
      rw [hindex]
      exact .listing
    · exact .failed _ _ (Or.inl rfl)
  | listing =>
    cases hp
    cases event with
    | outside reply =>
      cases hserve
      refine Or.inl ⟨rfl, .collecting ∅ (reply .keys) ?_ ?_⟩
      · exact fun id hid => absurd hid (Finset.notMem_empty id)
      · rintro id ⟨entry, hentry, -⟩
        exact Or.inr (hkeys reply rfl id ⟨entry, hentry⟩)
    | _ => cases hserve
  | collecting productIds found hactive hrest =>
    exact (seeding_collect hnamed hindex hactive hrest hp.symm hserve).imp_right
      fun hseeded => ⟨productIds, hseeded⟩
  | failed error duty hduty => cases hp

/-- A call of `ensure_catalog_index` does not return while there is no index. -/
lemma Seeding.not_returned {s : Store Value} {p : Prog Outcome} {duty : Duty} (h : Seeding s p duty)
    (outcome : Outcome) : p ≠ .ret outcome := by
  cases h with
  | ensuring => exact fun heq => by cases heq
  | listing => exact fun heq => by cases heq
  | failed error duty hduty => exact fun heq => by cases heq
  | collecting productIds found hactive hrest =>
    clear hactive hrest
    induction found with
    | nil => exact fun heq => by cases heq
    | cons k found ih =>
      cases k with
      | index => exact ih
      | product productId => exact fun heq => by cases heq

/-- The bucket before it has an index. -/
structure Unseeded (store : Store Value) (s : System) (state : ℕ → Duty) : Prop where
  store_eq : s.store = store
  tracks : Tracks duties (fun _ duty => duty.over) s state
  idle : ∀ c, s.thread c = none → state c = .settled
  seeding : ∀ c p, s.thread c = some p → Seeding store p (state c)

/-- The other calls seed the index as before. -/
lemma seeding_update {store : Store Value} {thread : ℕ → Option (Prog Outcome)} {state : ℕ → Duty} {c : ℕ}
    {p : Prog Outcome} {duty : Duty} (h : ∀ c p, thread c = some p → Seeding store p (state c))
    (hseeding : Seeding store p duty) :
    ∀ c' q, Function.update thread c (some p) c' = some q →
      Seeding store q (Function.update state c duty c') := by
  intro c' q hq
  by_cases hc : c' = c
  · subst hc
    simp only [Function.update_self, Option.some.injEq] at hq ⊢
    subst hq
    exact hseeding
  · simp only [Function.update_of_ne hc] at hq ⊢
    exact h c' q hq

/-- A call of `ensure_catalog_index` has no obligation, and what it has found is active. -/
lemma Seeding.valid {s : Store Value} {p : Prog Outcome} {duty : Duty} (h : Seeding s p duty)
    (hnamed : Named s) {s' : Store Value} {state : ℕ → Duty} (hindex : ∃ entry, s'.record .index = some entry) :
    duty.Valid s' state := by
  have hvalid : ∀ productIds : Finset String, (∀ id ∈ productIds, Active s id) →
      Duty.Valid s' state (.collecting productIds) := by
    intro productIds hactive id hid
    obtain ⟨entry, hentry, -⟩ := hactive id hid
    exact ⟨(hnamed id entry hentry).2, Or.inr (Or.inl hindex)⟩
  cases h with
  | ensuring => exact trivial
  | listing => exact hvalid ∅ fun id hid => absurd hid (Finset.notMem_empty id)
  | collecting productIds found hactive hrest => exact hvalid productIds hactive
  | failed error duty hduty =>
    rcases hduty with rfl | ⟨productIds, rfl, hactive⟩
    · exact trivial
    · exact hvalid productIds hactive

/-- A call of `ensure_catalog_index` acts on no product record that it has read. -/
lemma Seeding.actsOn {s : Store Value} {p : Prog Outcome} {duty : Duty} (h : Seeding s p duty)
    (note : Option ProductRecord) : duty.ActsOn note := by
  cases h with
  | ensuring => exact trivial
  | listing => exact trivial
  | collecting productIds found hactive hrest => exact trivial
  | failed error duty hduty => rcases hduty with rfl | ⟨productIds, rfl, -⟩ <;> exact trivial

/-- A step before there is an index leaves the bucket without one, or creates the index of the active
products. -/
lemma Unseeded.step {store : Store Value} {s s' : System} {state : ℕ → Duty} {a : Step}
    (h : Unseeded store s state) (hnamed : Named store) (habsent : store.record .index = none)
    (hseeds : SeedsFirst s a) (hcrash : ∀ c, a ≠ .crash c) (hstep : s.step a = some s') :
    ∃ state', Unseeded store s' state' ∨
      System.Kept s' state' ∧ ∀ note : ℕ → Option ProductRecord, ∀ c, (state' c).ActsOn (note c) := by
  obtain rfl := h.store_eq
  obtain ⟨hstart, hkeys⟩ := hseeds habsent
  obtain ⟨state', htracks, htracked⟩ := h.tracks.step follows_program hstep
  cases htracked with
  | start c call hfree =>
    cases call with
    | applyProduct record => exact absurd rfl (hstart c record)
    | ensureCatalogIndex =>
      exact ⟨_, Or.inl ⟨rfl, htracks, fun c' => idle_update h.idle,
        seeding_update h.seeding .ensuring⟩⟩
  | crash c => exact absurd rfl (hcrash c)
  | step c event op next r store' hthread hallowed hserve =>
    have hmoved := (h.seeding c _ hthread).step hnamed habsent hserve fun reply hevent =>
      hkeys c reply (by rw [hevent])
    rcases hmoved with ⟨rfl, hseeding⟩ | ⟨productIds, rfl, hproducts, hsettled⟩
    · exact ⟨_, Or.inl ⟨rfl, htracks, fun c' => idle_update h.idle,
        seeding_update h.seeding hseeding⟩⟩
    · have hindex : ∃ entry, (s.store.put .index productIds).record .index = some entry :=
        ⟨_, s.store.put_record_self .index productIds⟩
      have hactive : ∀ id, Active (s.store.put .index productIds) id ↔ Active s.store id := by
        intro id
        unfold Active
        rw [product_put_index]
      have hindexed : indexed (s.store.put .index productIds) = productIds := by
        unfold indexed
        rw [Store.put_record_self]
      have hvalid : ∀ c', (state c').Valid (s.store.put .index productIds)
          (Function.update state c (Duty.after (state c) op r)) := by
        intro c'
        cases hp : s.thread c' with
        | none =>
          rw [h.idle c' hp]
          exact trivial
        | some p => exact (h.seeding c' p hp).valid hnamed hindex
      refine ⟨_, Or.inr ⟨⟨htracks, fun c' => idle_update h.idle, ?_, ?_, ?_, ?_⟩, ?_⟩⟩
      · intro id entry hentry
        rw [product_put_index] at hentry
        exact hnamed id entry hentry
      · rw [hindexed, hproducts]
        rintro ⟨entry, hentry, -⟩
        exact (hnamed "" entry hentry).2 rfl
      · refine valid_update ?_ hvalid
        change Duty.Valid _ _ (Duty.after (state c) op r)
        rw [hsettled]
        exact trivial
      · intro id
        rw [hindexed, hactive id]
        exact Or.inl (hproducts id)
      · intro note c'
        by_cases hc : c' = c
        · subst hc
          rw [Function.update_self]
          change Duty.ActsOn _ (Duty.after (state c') op r)
          rw [hsettled]
          exact trivial
        · rw [Function.update_of_ne hc]
          cases hp : s.thread c' with
          | none =>
            rw [h.idle c' hp]
            exact trivial
          | some p => exact (h.seeding c' p hp).actsOn _

/-- In every run from a bucket whose index agrees with the records, or whose index is created by
`ensure_catalog_index` before a product is applied: if the stored record of a product has the flag that
a call has read when the update of the index by that call takes effect, the index agrees with the
records whenever all calls have returned without error. -/
theorem index_agrees_when_returned {store : Store Value} {as : List Step} {s : System}
    (hnamed : Named store) (hstart : Agrees store ∨ Upgraded store as)
    (hcurrent : StepSystem.Along NotedSystem.step FlagsCurrent (NotedSystem.initial store) as)
    (hrun : StepSystem.run System.step (System.initial store) as = some s)
    (hcrash : ∀ c, Action.crash c ∉ as) (hreturned : AllReturned s) : Agrees s.store := by
  have hsteps : StepSystem.Along NotedSystem.step (fun _ a => ∀ c, a ≠ .crash c)
      (NotedSystem.initial store) as :=
    StepSystem.Along.of_forall (fun a ha _ c heq => hcrash c (by rwa [heq] at ha)) _
  have hlifted : ∃ noted, StepSystem.run NotedSystem.step (NotedSystem.initial store) as = some noted ∧
      noted.pool = s := Noted.run_pool hrun
  obtain ⟨noted, hnoted, rfl⟩ := hlifted
  rcases hstart with hagrees | ⟨habsent, ⟨c, hcalled⟩, hseeds⟩
  · have hinitial : NotedSystem.Kept (NotedSystem.initial store) fun _ => .settled :=
      ⟨kept_initial hnamed hagrees, fun _ => trivial⟩
    obtain ⟨state, hkept⟩ : ∃ state, NotedSystem.Kept noted state := by
      refine StepSystem.run_invariant (I := fun s : NotedSystem => ∃ state, NotedSystem.Kept s state)
        ?_ ⟨_, hinitial⟩ (hcurrent.and hsteps) hnoted
      rintro s a s' ⟨state, hkept⟩ ⟨hok, hnocrash⟩ hstep
      exact hkept.step hok hnocrash hstep
    exact hkept.system.agrees hreturned
  · have hinitial : Unseeded store (System.initial store) fun _ => .settled := by
      refine ⟨rfl, ?_, fun _ _ => rfl, ?_⟩
      · rintro c p ⟨⟩
      · rintro c p ⟨⟩
    have hseeds' : StepSystem.Along NotedSystem.step (fun s a => SeedsFirst s.pool a)
        (NotedSystem.initial store) as := Noted.along_pool hseeds
    obtain ⟨state, hkept⟩ : ∃ state, NotedSystem.Kept noted state ∨ Unseeded store noted.pool state := by
      refine StepSystem.run_invariant
        (I := fun s : NotedSystem => ∃ state, NotedSystem.Kept s state ∨ Unseeded store s.pool state)
        ?_ ⟨_, Or.inr hinitial⟩ ((hcurrent.and hsteps).and hseeds') hnoted
      rintro s a s' ⟨state, hkept | hunseeded⟩ ⟨⟨hok, hnocrash⟩, hseed⟩ hstep
      · obtain ⟨state', hkept'⟩ := hkept.step hok hnocrash hstep
        exact ⟨state', Or.inl hkept'⟩
      · obtain ⟨state', hunseeded' | ⟨hkept', hacts⟩⟩ :=
          hunseeded.step hnamed habsent hseed hnocrash (NotedSystem.pool_of_step hstep)
        · exact ⟨state', Or.inr hunseeded'⟩
        · exact ⟨state', Or.inl ⟨hkept', hacts _⟩⟩
    rcases hkept with hkept | hunseeded
    · exact hkept.system.agrees hreturned
    · -- the call that has to create the index cannot have returned
      exfalso
      cases hthread : noted.pool.thread c with
      | none => exact Pool.thread_of_run hrun (hcrash c) hcalled hthread
      | some p =>
        obtain ⟨outcome, hreturn⟩ := hreturned c p hthread
        exact (hunseeded.seeding c p hthread).not_returned outcome hreturn

/-! ## Samples -/

/-- A bucket without records. -/
def emptyBucket : Store Value where
  record := fun _ => none
  sequence := 0
  bounded := by simp

/-- A product is published. -/
def published : ProductRecord where
  productId := "sku-1"
  productVersion := 1
  sourceEventId := "event-1"
  removed := false

/-- The product is removed. -/
def withdrawn : ProductRecord where
  productId := "sku-1"
  productVersion := 2
  sourceEventId := "event-2"
  removed := true

/-- A call makes a number of operations. -/
def operations (c number : ℕ) : List Step := List.replicate number (.step c .usual)

/-- The product is published and removed, one call after the other. -/
def inOrder : List Step :=
  .start 0 (.applyProduct published) :: operations 0 5 ++
    .start 1 (.applyProduct withdrawn) :: operations 1 5

/-- A bucket with the published product and without an index. -/
def existingBucket : Store Value := emptyBucket.put (.product "sku-1") published

/-- `keys` finds the product. -/
def keysFound : Event Query.Result := .outside fun | .keys => [.product "sku-1"]

/-- The index is created, and the product is removed. -/
def upgrading : List Step :=
  .start 0 .ensureCatalogIndex :: .step 0 .usual :: .step 0 keysFound :: operations 0 2 ++
    .start 1 (.applyProduct withdrawn) :: operations 1 5

/-- The records of the existing bucket. -/
lemma existingBucket_product {id : String} {entry : Entry ProductRecord}
    (h : existingBucket.record (.product id) = some entry) : id = "sku-1" ∧ entry.value = published := by
  by_cases hid : Key.product id = .product "sku-1"
  · cases hid
    cases h
    exact ⟨rfl, rfl⟩
  · have hsame := emptyBucket.put_record_of_ne hid published
    exact absurd (hsame.symm.trans h) (by simp [emptyBucket])

/-- The index of the existing bucket is created first. -/
lemma upgraded_upgrading : Upgraded existingBucket upgrading := by
  refine ⟨rfl, ⟨0, by simp [upgrading]⟩, ?_⟩
  have husual : ∀ (s : System) c, SeedsFirst s (.step c .usual) := by
    intro s c _
    exact ⟨fun _ _ => by simp, fun _ _ heq => by cases heq⟩
  have hensure : ∀ (s : System) c, SeedsFirst s (.start c .ensureCatalogIndex) := by
    intro s c _
    exact ⟨fun _ _ => by simp, fun _ _ heq => by cases heq⟩
  have hkeys : ∀ s : System, s.store = existingBucket → SeedsFirst s (.step 0 keysFound) := by
    rintro s hstore -
    refine ⟨fun _ _ => by simp, ?_⟩
    rintro c reply ⟨⟩ id ⟨entry, hentry⟩
    rw [hstore] at hentry
    rw [(existingBucket_product hentry).1]
    exact List.mem_cons_self
  have hindexed : ∀ s : System, s.store.record .index ≠ none →
      SeedsFirst s (.start 1 (.applyProduct withdrawn)) :=
    fun s hindex habsent => absurd habsent hindex
  have hfirst : StepSystem.Along System.step SeedsFirst (System.initial existingBucket)
      (.start 0 .ensureCatalogIndex :: .step 0 .usual :: .step 0 keysFound :: operations 0 2) :=
    ⟨hensure _ _, husual _ _, hkeys _ rfl, husual _ _, husual _ _, trivial⟩
  refine hfirst.append ?_
  rintro s ⟨⟩
  refine ⟨hindexed _ (by decide), ?_⟩
  refine StepSystem.Along.of_forall ?_ _
  intro a ha s
  rw [List.eq_of_mem_replicate ha]
  exact husual s 1

/-- After the calls the index agrees with the record, in an empty bucket and in an existing one. -/
theorem in_order_agrees :
    (∃ s, StepSystem.run System.step (System.initial emptyBucket) inOrder = some s ∧
      Agrees s.store) ∧
    ∃ s, StepSystem.run System.step (System.initial existingBucket) upgrading = some s ∧
      Agrees s.store := by
  constructor
  · have hcurrent : StepSystem.Along NotedSystem.step FlagsCurrent (NotedSystem.initial emptyBucket)
        inOrder := by decide
    refine ⟨_, rfl, index_agrees_when_returned ?_ (Or.inl ?_) hcurrent rfl ?_ ?_⟩
    · rintro id entry ⟨⟩
    · intro id
      simp [Active, indexed, emptyBucket]
    · simp [inOrder, operations]
    · rintro (_ | _ | c) p hthread
      · cases hthread
        exact ⟨_, rfl⟩
      · cases hthread
        exact ⟨_, rfl⟩
      · cases hthread
  · have hcurrent : StepSystem.Along NotedSystem.step FlagsCurrent
        (NotedSystem.initial existingBucket) upgrading := by decide
    refine ⟨_, rfl, index_agrees_when_returned ?_ (Or.inr upgraded_upgrading) hcurrent rfl ?_ ?_⟩
    · intro id entry hentry
      obtain ⟨rfl, hvalue⟩ := existingBucket_product hentry
      rw [hvalue]
      decide
    · simp [upgrading, operations]
    · rintro (_ | _ | c) p hthread
      · cases hthread
        exact ⟨_, rfl⟩
      · cases hthread
        exact ⟨_, rfl⟩
      · cases hthread

/-- The removal is applied and brings the index in line between the read of the product and the write
of the index by the first call. -/
def overtaken : List Step :=
  .start 0 (.applyProduct published) :: operations 0 3 ++
    .start 1 (.applyProduct withdrawn) :: operations 1 5 ++ operations 0 2

/-- Both calls return, and the index has a product whose record is removed. -/
theorem overtaken_disagrees :
    ∃ s, StepSystem.run System.step (System.initial emptyBucket) overtaken = some s ∧
      AllReturned s ∧ ¬Agrees s.store := by
  refine ⟨_, rfl, ?_, ?_⟩
  · rintro (_ | _ | c) p hthread
    · cases hthread
      exact ⟨_, rfl⟩
    · cases hthread
      exact ⟨_, rfl⟩
    · cases hthread
  · intro hagrees
    have hactive := (hagrees "sku-1").mp (by decide)
    exact absurd hactive (by decide)

end Boutique.Recommendation
