import Boutique.Recommendation.Catalog

/-!
# What the calls owe the index

A product record and the index are two keys.  A call of `apply_product` settles the record, reads the
record that won, and brings the index in line with what it read; a call of `ensure_catalog_index`
creates the index of the products that it found.  A duty says where a call is in this, and every call
follows its duties whatever the store answers.

The invariant: where the index does not agree with a record, some call still owes it a change.
-/

namespace Boutique.Recommendation

open StoreProgram

/-! ## What a call has to do -/

/-- Where a call is, as far as the index is concerned. -/
inductive Duty where
  /-- It has not written the product. -/
  | fresh (key : String)
  /-- It may have written the product and will read it again. -/
  | applying (key : String)
  /-- It has read the product, and perhaps the index. -/
  | fixing (key productId : String) (removed : Bool) (seen : Option (Entry (Finset String)))
  /-- It did not find a product that it has read or written. -/
  | vanished (key : String)
  /-- An operation ended with an error. -/
  | broken (key : String)
  | ensuring
  /-- It has found no index, and has found active products. -/
  | collecting (productIds : Finset String)
  | settled

/-- The index has what the call wants of it. -/
def InLine (productIds : Finset String) (productId : String) (removed : Bool) : Prop :=
  reconciled (productIds.filter (· ≠ "")) productId removed = productIds.filter (· ≠ "")

instance (productIds : Finset String) (productId : String) (removed : Bool) :
    Decidable (InLine productIds productId removed) :=
  inferInstanceAs (Decidable (_ = _))

/-- The operations that a call makes. -/
def Duty.allowed : Duty → Op Value Query → Prop
  | .fresh key, .get (.product k) => k = key
  | .fresh key, .create (.product k) record =>
    k = key ∧ ProductRecord.productId record = key ∧ key ≠ ""
  | .vanished key, .create (.product k) record =>
    k = key ∧ ProductRecord.productId record = key ∧ key ≠ ""
  | .applying key, .get (.product k) => k = key
  | .fixing key _ _ _, .get (.product k) => k = key
  | .fixing key _ _ _, .update (.product k) record _ =>
    k = key ∧ ProductRecord.productId record = key ∧ key ≠ ""
  | .fixing _ _ _ _, .get .index => True
  | .fixing _ productId removed _, .create .index value =>
    value = if removed then ∅ else {productId}
  | .fixing _ productId removed seen, .update .index value revision =>
    ∃ entry, seen = some entry ∧ entry.revision = revision ∧
      value = reconciled (entry.value.filter (· ≠ "")) productId removed
  | .ensuring, .get .index => True
  | .collecting _, .outside _ => True
  | .collecting _, .get (.product _) => True
  | .collecting productIds, .create .index value => value = productIds
  | _, _ => False

/-- Where a call is after the product was read. -/
def Duty.readProduct (key : String) (otherwise : Duty) : Answer (Entry ProductRecord) → Duty
  | .done entry => .fixing key entry.value.productId entry.value.removed none
  | .refused => otherwise
  | .failed => .broken key

/-- Where a call is after a write of the product. -/
def Duty.wroteProduct (key : String) : Answer ℕ → Duty
  | .failed => .broken key
  | _ => .applying key

/-- Where a call is after a write of the index. -/
def Duty.wroteIndex (key productId : String) (removed : Bool) : Answer ℕ → Duty
  | .done _ => .settled
  | .refused => .fixing key productId removed none
  | .failed => .broken key

/-- Where a call is after a reply. -/
def Duty.after : Duty → (op : Op Value Query) → Reply Query.Result op → Duty
  | .fresh key, .get (.product _), reply => readProduct key (.fresh key) reply
  | .fresh key, .create (.product _) _, reply => wroteProduct key reply
  | .vanished key, .create (.product _) _, reply => wroteProduct key reply
  | .applying key, .get (.product _), reply => readProduct key (.vanished key) reply
  | .fixing key _ _ _, .get (.product _), reply => readProduct key (.vanished key) reply
  | .fixing key _ _ _, .update (.product _) _ _, reply => wroteProduct key reply
  | .fixing key productId removed _, .get .index, reply =>
    match reply with
    | .done entry =>
      if InLine entry.value productId removed then .settled
      else .fixing key productId removed (some entry)
    | .refused => .fixing key productId removed none
    | .failed => .broken key
  | .fixing key productId removed _, .create .index _, reply => wroteIndex key productId removed reply
  | .fixing key productId removed _, .update .index _ _, reply =>
    wroteIndex key productId removed reply
  | .ensuring, .get .index, reply =>
    match reply with
    | .done _ => .settled
    | .refused => .collecting ∅
    | .failed => .settled
  | .collecting productIds, .get (.product _), reply =>
    match reply with
    | .done entry =>
      if entry.value.productId ≠ "" ∧ entry.value.removed = false then
        .collecting (insert entry.value.productId productIds)
      else .collecting productIds
    | _ => .collecting productIds
  | .collecting _, .create .index _, _ => .settled
  | duty, _, _ => duty

/-- The protocol of the calls. -/
def duties : @Protocol (Op Value Query) (Reply Query.Result) Duty where
  allowed := Duty.allowed
  after := Duty.after

/-- A call may return. -/
def Duty.over (duty : Duty) : Prop := duty = .settled ∨ ∃ key, duty = .vanished key

/-- A program that returns when its duty is over. -/
abbrev FollowsDuty {α : Type} (duty : Duty) (p : Prog α) : Prop :=
  Follows duties (fun _ duty => duty.over) duty p

/-! ## The calls follow the protocol -/

/-- The loop of `_reconcile_catalog_index`. -/
lemma follows_indexLoop (key productId : String) (removed : Bool)
    (seen : Option (Entry (Finset String))) (attempts : ℕ) :
    FollowsDuty (.fixing key productId removed seen) (indexLoop productId removed attempts) := by
  induction attempts generalizing seen with
  | zero => exact trivial
  | succ attempts ih =>
    refine Follows.call trivial fun reply => ?_
    cases reply with
    | failed => exact trivial
    | refused =>
      refine Follows.call rfl fun reply => ?_
      cases reply with
      | done _ => exact Or.inl rfl
      | refused => exact ih none
      | failed => exact trivial
    | done current =>
      have hafter : duties.after (.fixing key productId removed seen) (.get .index) (.done current) =
          if InLine current.value productId removed then .settled
          else .fixing key productId removed (some current) := rfl
      rw [hafter]
      change FollowsDuty _ (if InLine current.value productId removed then _ else _)
      split_ifs
      · exact Or.inl rfl
      · refine Follows.call ⟨current, rfl, rfl, rfl⟩ fun reply => ?_
        cases reply with
        | done _ => exact Or.inl rfl
        | refused => exact ih none
        | failed => exact trivial

/-- A call that has read or written the product. -/
def Duty.started (key : String) (duty : Duty) : Prop :=
  duty = .applying key ∨ ∃ productId removed seen, duty = .fixing key productId removed seen

/-- Such a call may read the product again. -/
lemma Duty.started.read {key : String} {duty : Duty} (h : duty.started key) :
    duties.allowed duty (.get (.product key)) ∧
      ∀ reply, duties.after duty (.get (.product key)) reply =
        Duty.readProduct key (.vanished key) reply := by
  rcases h with rfl | ⟨productId, removed, seen, rfl⟩
  · exact ⟨rfl, fun _ => rfl⟩
  · exact ⟨rfl, fun _ => rfl⟩

/-- `_reconcile_catalog_index`, for a call that has read or written the product. -/
lemma follows_reconcile {duty : Duty} {key : String} (h : duty.started key) (maxAttempts : ℕ) :
    FollowsDuty duty (reconcileCatalogIndex key maxAttempts) := by
  refine Follows.call h.read.1 fun reply => ?_
  rw [h.read.2 reply]
  cases reply with
  | refused => exact Or.inr ⟨key, rfl⟩
  | failed => exact trivial
  | done record =>
    change FollowsDuty _ (if _ then _ else _)
    split_ifs
    · exact trivial
    · exact follows_indexLoop _ _ _ _ _

/-- A call in the loop of `apply_product`, before it reads the product. -/
def Duty.inLoop (key : String) (duty : Duty) : Prop := duty = .fresh key ∨ duty.started key

/-- The loop of `apply_product` returns with the product read or written. -/
lemma follows_applyLoop {record : ProductRecord} (hid : record.productId ≠ "") (attempts : ℕ)
    {duty : Duty} (h : duty.inLoop record.productId) :
    Follows duties (fun _ duty => duty.started record.productId) duty (applyLoop record attempts) := by
  induction attempts generalizing duty with
  | zero => exact trivial
  | succ attempts ih =>
    have hagain := ih (Or.inr (Or.inl rfl))
    -- whatever the duty was, the product is read and may then be written
    obtain ⟨otherwise, hallowed, hafter, hcreate⟩ : ∃ otherwise : Duty,
        duties.allowed duty (.get (.product record.productId)) ∧
        (∀ reply, duties.after duty (.get (.product record.productId)) reply =
          Duty.readProduct record.productId otherwise reply) ∧
        (duties.allowed otherwise (.create (.product record.productId) record) ∧
          ∀ reply, duties.after otherwise (.create (.product record.productId) record) reply =
            Duty.wroteProduct record.productId reply) := by
      rcases h with rfl | hstarted
      · exact ⟨.fresh record.productId, rfl, fun _ => rfl, ⟨rfl, rfl, hid⟩, fun _ => rfl⟩
      · exact ⟨.vanished record.productId, hstarted.read.1, hstarted.read.2, ⟨rfl, rfl, hid⟩,
          fun _ => rfl⟩
    refine Follows.call hallowed fun reply => ?_
    rw [hafter reply]
    cases reply with
    | failed => exact trivial
    | refused =>
      refine Follows.call hcreate.1 fun reply => ?_
      rw [show Duty.readProduct record.productId otherwise .refused = otherwise from rfl,
        hcreate.2 reply]
      cases reply with
      | done _ => exact Or.inl rfl
      | refused => exact hagain
      | failed => exact trivial
    | done current =>
      change Follows _ _ _ (if _ then _ else if _ then _ else _)
      split_ifs
      · exact Or.inr ⟨_, _, _, rfl⟩
      · exact Or.inr ⟨_, _, _, rfl⟩
      · refine Follows.call ⟨rfl, rfl, hid⟩ fun reply => ?_
        cases reply with
        | done _ => exact Or.inl rfl
        | refused => exact hagain
        | failed => exact trivial

/-- The loop of `ensure_catalog_index` returns with the products it found. -/
lemma follows_collectActive (found : List Key) (productIds : Finset String) :
    Follows duties (fun productIds duty => duty = .collecting productIds) (.collecting productIds)
      (collectActive productIds found) := by
  induction found generalizing productIds with
  | nil => exact rfl
  | cons k found ih =>
    cases k with
    | index => exact ih productIds
    | product productId =>
      refine Follows.call trivial fun reply => ?_
      cases reply with
      | refused => exact ih productIds
      | failed => exact trivial
      | done record =>
        have hafter : duties.after (.collecting productIds) (.get (.product productId)) (.done record) =
            if record.value.productId ≠ "" ∧ record.value.removed = false then
              .collecting (insert record.value.productId productIds)
            else .collecting productIds := rfl
        rw [hafter]
        change Follows _ _ _
          (if record.value.productId ≠ "" ∧ record.value.removed = false then _ else _)
        split_ifs
        · exact ih _
        · exact ih _

/-- The duty with which a call starts. -/
def Call.duty : Call → Duty
  | .applyProduct record => .fresh record.productId
  | .ensureCatalogIndex => .ensuring

/-- Every call follows the protocol. -/
lemma follows_program (call : Call) : FollowsDuty call.duty call.program := by
  cases call with
  | applyProduct record =>
    change FollowsDuty _ (applyProduct record)
    unfold applyProduct
    split_ifs with hinvalid
    · exact trivial
    · exact trivial
    · have hid : record.productId ≠ "" := by
        intro hempty
        simp [invalidProductId, hempty] at hinvalid
      refine (follows_applyLoop hid 20 (Or.inl rfl)).bind fun _ _ hstarted => ?_
      exact (follows_reconcile hstarted 20).bind fun _ _ hover => hover
  | ensureCatalogIndex =>
    refine Follows.call trivial fun reply => ?_
    cases reply with
    | done _ => exact Or.inl rfl
    | failed => exact trivial
    | refused =>
      refine Follows.call trivial fun found => ?_
      refine (follows_collectActive found ∅).bind fun productIds _ hduty => ?_
      rw [hduty]
      refine Follows.call rfl fun reply => ?_
      cases reply with
      | done _ => exact Or.inl rfl
      | refused => exact Or.inl rfl
      | failed => exact trivial

/-! ## The invariant -/

/-- A call will bring the index in line with the stored record of a product. -/
def Owes (s : Store Value) (productId : String) : Duty → Prop
  | .applying key => key = productId
  | .broken key => key = productId
  | .fixing key _ removed _ => key = productId ∧
    ∃ entry, s.record (.product productId) = some entry ∧
      ProductRecord.removed entry.value = removed
  | _ => False

/-- Some call will. -/
def Owed (s : Store Value) (state : ℕ → Duty) (productId : String) : Prop :=
  ∃ c, Owes s productId (state c)

/-- There is an index, or some call will bring it in line. -/
def Watched (s : Store Value) (state : ℕ → Duty) (productId : String) : Prop :=
  (∃ entry, s.record .index = some entry) ∨ Owed s state productId

/-- The product has a record. -/
def Present (s : Store Value) (productId : String) : Prop :=
  ∃ entry, s.record (.product productId) = some entry

/-- What holds of a call at its duty. -/
def Duty.Valid (s : Store Value) (state : ℕ → Duty) : Duty → Prop
  | .applying key => Present s key
  | .fixing key productId _ seen =>
    productId = key ∧ Present s key ∧ Seen s Key.index seen ∧ Watched s state key
  | .vanished _ => False
  | .collecting productIds => ∀ id ∈ productIds, id ≠ "" ∧ (Active s id ∨ Watched s state id)
  | _ => True

/-- The invariant: where the index does not agree with a record, some call will bring it in line. -/
structure Coherent (s : Store Value) (state : ℕ → Duty) : Prop where
  named : ∀ id entry, s.record (.product id) = some entry →
    ProductRecord.productId entry.value = id ∧ id ≠ ""
  nonempty : "" ∉ indexed s
  valid : ∀ c, (state c).Valid s state
  agrees : ∀ id, (id ∈ indexed s ↔ Active s id) ∨ Owed s state id

section Step

variable {s : Store Value} {state : ℕ → Duty} {c : ℕ} {duty : Duty} {key : String}

/-- An obligation is about the record of the product. -/
lemma Owes.of_record {s' : Store Value} {id : String} (h : Owes s id duty)
    (hrecord : s'.record (.product id) = s.record (.product id)) : Owes s' id duty := by
  cases duty with
  | fixing other productId removed seen =>
    obtain ⟨hother, entry, hentry, hflag⟩ := h
    exact ⟨hother, entry, hrecord.trans hentry, hflag⟩
  | applying other => exact h
  | broken other => exact h
  | fresh other => exact h
  | vanished other => exact h
  | ensuring => exact h
  | collecting productIds => exact h
  | settled => exact h

/-- An obligation of another call stays. -/
lemma Owed.of_ne {id : String} {c' : ℕ} (hc : c' ≠ c) (h : Owes s id (state c')) :
    Owed s (Function.update state c duty) id :=
  ⟨c', by rwa [Function.update_of_ne hc]⟩

/-- The obligation of the call that moves. -/
lemma Owed.of_self {id : String} (h : Owes s id duty) :
    Owed s (Function.update state c duty) id :=
  ⟨c, by rwa [Function.update_self]⟩

/-- What holds of a call at its duty holds in another store with other states, if these keep what it
is about. -/
lemma Duty.Valid.mono {s' : Store Value} {state' : ℕ → Duty} (h : duty.Valid s state)
    (hpresent : ∀ id, Present s id → Present s' id)
    (hseen : ∀ seen, Seen s Key.index seen → Seen s' Key.index seen)
    (hwatched : ∀ id, Watched s state id → Watched s' state' id)
    (hactive : ∀ id, Active s id → Active s' id ∨ Watched s' state' id) :
    duty.Valid s' state' := by
  cases duty with
  | applying key => exact hpresent key h
  | fixing key productId removed seen =>
    obtain ⟨hid, hkey, hread, hwatch⟩ := h
    exact ⟨hid, hpresent key hkey, hseen seen hread, hwatched key hwatch⟩
  | vanished key => exact h
  | collecting productIds =>
    intro id hid
    refine ⟨(h id hid).1, ?_⟩
    rcases (h id hid).2 with hact | hwatch
    · exact hactive id hact
    · exact Or.inr (hwatched id hwatch)
  | fresh key => exact trivial
  | broken key => exact trivial
  | ensuring => exact trivial
  | settled => exact trivial

/-- The duties after a step of one call: its own and those of the others. -/
lemma valid_update {s' : Store Value}
    (hself : duty.Valid s' (Function.update state c duty))
    (hothers : ∀ c', (state c').Valid s' (Function.update state c duty)) (c' : ℕ) :
    (Function.update state c duty c').Valid s' (Function.update state c duty) := by
  by_cases hc : c' = c
  · subst hc
    rw [Function.update_self]
    exact hself
  · rw [Function.update_of_ne hc]
    exact hothers c'

/-- A call that writes nothing keeps the invariant if it keeps its obligation, or finds the index in
line. -/
lemma Coherent.same (h : Coherent s state)
    (howes : ∀ id, Owes s id (state c) → Owes s id duty ∨
      (∃ entry, s.record .index = some entry) ∧ (id ∈ indexed s ↔ Active s id))
    (hvalid : duty.Valid s (Function.update state c duty)) :
    Coherent s (Function.update state c duty) := by
  have howed : ∀ id, Owed s state id → Owed s (Function.update state c duty) id ∨
      (∃ entry, s.record .index = some entry) ∧ (id ∈ indexed s ↔ Active s id) := by
    rintro id ⟨c', hc'⟩
    by_cases hc : c' = c
    · subst hc
      rcases howes id hc' with hself | hline
      · exact Or.inl (Owed.of_self hself)
      · exact Or.inr hline
    · exact Or.inl (Owed.of_ne hc hc')
  have hwatched : ∀ id, Watched s state id → Watched s (Function.update state c duty) id := by
    rintro id (hindex | howe)
    · exact Or.inl hindex
    · rcases howed id howe with howe' | ⟨hindex, -⟩
      · exact Or.inr howe'
      · exact Or.inl hindex
  refine ⟨h.named, h.nonempty, ?_, ?_⟩
  · refine valid_update hvalid fun c' => ?_
    exact (h.valid c').mono (fun _ hp => hp) (fun _ hs => hs) hwatched fun _ ha => Or.inl ha
  · intro id
    rcases h.agrees id with hagrees | howe
    · exact Or.inl hagrees
    · rcases howed id howe with howe' | ⟨-, hagrees⟩
      · exact Or.inr howe'
      · exact Or.inl hagrees

/-- The records of other products after a write. -/
lemma record_put_product {id : String} (hid : id ≠ key) (record : ProductRecord) :
    (s.put (.product key) record).record (.product id) = s.record (.product id) :=
  s.put_record_of_ne (show Key.product id ≠ .product key by simpa using hid) record

/-- The index after a write of a product. -/
lemma index_put_product (record : ProductRecord) :
    (s.put (.product key) record).record .index = s.record .index :=
  s.put_record_of_ne (show Key.index ≠ .product key by simp) record

/-- A product after a write of the index. -/
lemma product_put_index (id : String) (value : Finset String) :
    (s.put .index value).record (.product id) = s.record (.product id) :=
  s.put_record_of_ne (show Key.product id ≠ .index by simp) value

/-- A call that writes its product has to bring the index in line. -/
lemma Coherent.write (h : Coherent s state) {record : ProductRecord}
    (hrecord : record.productId = key) (hkey : key ≠ "")
    (hown : ∀ id, Owes s id (state c) → id = key)
    (hduty : duty = .applying key ∨ duty = .broken key) :
    Coherent (s.put (.product key) record) (Function.update state c duty) := by
  set s' := s.put (.product key) record with hs'
  have hself : Owed s' (Function.update state c duty) key := by
    rcases hduty with rfl | rfl
    · exact Owed.of_self rfl
    · exact Owed.of_self rfl
  have howed : ∀ id, Owed s state id → Owed s' (Function.update state c duty) id := by
    rintro id ⟨c', hc'⟩
    by_cases hid : id = key
    · rw [hid]
      exact hself
    · have hc : c' ≠ c := by
        rintro rfl
        exact hid (hown id hc')
      exact Owed.of_ne hc (hc'.of_record (record_put_product hid record))
  have hpresent : ∀ id, Present s id → Present s' id := by
    rintro id ⟨entry, hentry⟩
    by_cases hid : id = key
    · rw [hid]
      exact ⟨_, s.put_record_self (.product key) record⟩
    · exact ⟨entry, (record_put_product hid record).trans hentry⟩
  have hactive : ∀ id, id ≠ key → (Active s' id ↔ Active s id) := by
    intro id hid
    unfold Active
    rw [hs', record_put_product hid record]
  have hindexed : indexed s' = indexed s := by
    unfold indexed
    rw [hs', index_put_product]
  have hwatched : ∀ id, Watched s state id → Watched s' (Function.update state c duty) id := by
    rintro id (⟨entry, hentry⟩ | howe)
    · exact Or.inl ⟨entry, (index_put_product record).trans hentry⟩
    · exact Or.inr (howed id howe)
  refine ⟨?_, ?_, ?_, ?_⟩
  · intro id entry hentry
    by_cases hid : id = key
    · subst hid
      rw [hs', Store.put_record_self] at hentry
      cases hentry
      exact ⟨hrecord, hkey⟩
    · rw [hs', record_put_product hid record] at hentry
      exact h.named id entry hentry
  · rw [hindexed]
    exact h.nonempty
  · refine valid_update ?_ fun c' => ?_
    · rcases hduty with rfl | rfl
      · exact ⟨_, s.put_record_self (.product key) record⟩
      · exact trivial
    · refine (h.valid c').mono hpresent ?_ hwatched ?_
      · exact fun seen hseen => hseen.of_same (index_put_product record) (Nat.le_succ _)
      · intro id hact
        by_cases hid : id = key
        · rw [hid]
          exact Or.inr (Or.inr hself)
        · exact Or.inl ((hactive id hid).mpr hact)
  · intro id
    by_cases hid : id = key
    · rw [hid]
      exact Or.inr hself
    · rw [hindexed, hactive id hid]
      exact (h.agrees id).imp_right (howed id)

/-- A call that writes the index keeps the invariant if, where it does not agree with a record, another
call will bring it in line. -/
lemma Coherent.index (h : Coherent s state) {value : Finset String} (hempty : "" ∉ value)
    (hagrees : ∀ id, (id ∈ value ↔ Active s id) ∨ ∃ c', c' ≠ c ∧ Owes s id (state c'))
    (hvalid : duty.Valid (s.put .index value) (Function.update state c duty)) :
    Coherent (s.put .index value) (Function.update state c duty) := by
  have hindexed : indexed (s.put .index value) = value := by
    unfold indexed
    rw [Store.put_record_self]
  have hactive : ∀ id, Active (s.put .index value) id ↔ Active s id := by
    intro id
    unfold Active
    rw [product_put_index]
  have hindex : ∀ id, Watched (s.put .index value) (Function.update state c duty) id :=
    fun id => Or.inl ⟨_, s.put_record_self .index value⟩
  refine ⟨?_, ?_, ?_, ?_⟩
  · intro id entry hentry
    rw [product_put_index] at hentry
    exact h.named id entry hentry
  · rw [hindexed]
    exact hempty
  · refine valid_update hvalid fun c' => ?_
    refine (h.valid c').mono ?_ (fun seen hseen => hseen.put value) (fun id _ => hindex id)
      fun id _ => Or.inr (hindex id)
    rintro id ⟨entry, hentry⟩
    exact ⟨entry, (product_put_index id value).trans hentry⟩
  · intro id
    rw [hindexed, hactive id]
    rcases hagrees id with hid | ⟨c', hc, howes⟩
    · exact Or.inl hid
    · exact Or.inr (Owed.of_ne hc (howes.of_record (product_put_index id value)))

/-- A read of the product. -/
lemma Coherent.readProduct (h : Coherent s state) {otherwise : Duty}
    {r : Answer (Entry ProductRecord)} (hr : r = s.get (.product key) ∨ r = .failed)
    (hown : ∀ id, Owes s id (state c) → id = key)
    (habsent : s.record (.product key) = none → (∀ id, ¬Owes s id (state c)) ∧
      ∀ state', otherwise.Valid s state') :
    Coherent s (Function.update state c (Duty.readProduct key otherwise r)) := by
  rcases hr with rfl | rfl
  · unfold Store.get
    cases hrecord : s.record (.product key) with
    | none =>
      obtain ⟨hnone, hvalid⟩ := habsent hrecord
      exact h.same (fun id howes => absurd howes (hnone id)) (hvalid _)
    | some entry =>
      have howes : ∀ productId seen,
          Owes s key (.fixing key productId (ProductRecord.removed entry.value) seen) :=
        fun productId seen => ⟨rfl, entry, hrecord, rfl⟩
      refine h.same ?_ ⟨(h.named key entry hrecord).1, ⟨entry, hrecord⟩, ?_, ?_⟩
      · intro id hid
        rw [hown id hid]
        exact Or.inl (howes _ _)
      · rintro seen ⟨⟩
      · exact Or.inr (Owed.of_self (howes _ _))
  · refine h.same ?_ trivial
    intro id hid
    exact Or.inl (hown id hid).symm

/-- A write of the product. -/
lemma Coherent.wroteProduct (h : Coherent s state) {s' : Store Value} {record : ProductRecord}
    {r : Answer ℕ} (hrecord : record.productId = key) (hkey : key ≠ "")
    (hown : ∀ id, Owes s id (state c) → id = key)
    (hcases : s' = s.put (.product key) record ∨
      s' = s ∧ (Present s key ∧ r = .refused ∨ r = .failed)) :
    Coherent s' (Function.update state c (Duty.wroteProduct key r)) := by
  rcases hcases with rfl | ⟨rfl, ⟨hpresent, rfl⟩ | rfl⟩
  · refine h.write hrecord hkey hown ?_
    cases r with
    | done _ => exact Or.inl rfl
    | refused => exact Or.inl rfl
    | failed => exact Or.inr rfl
  · refine h.same ?_ hpresent
    intro id hid
    exact Or.inl (hown id hid).symm
  · refine h.same ?_ trivial
    intro id hid
    exact Or.inl (hown id hid).symm

/-- A write of the index by a call that has read the product. -/
lemma Coherent.wroteIndex (h : Coherent s state) {s' : Store Value} {productId : String}
    {removed : Bool} {seen : Option (Entry (Finset String))} (value : Finset String) {r : Answer ℕ}
    (hstate : state c = .fixing key productId removed seen)
    (hcases : (s' = s.put .index value ∧ "" ∉ value ∧
        ∀ id, (id ∈ value ↔ Active s id) ∨ ∃ c', c' ≠ c ∧ Owes s id (state c')) ∨
      s' = s ∧ (r = .refused ∨ r = .failed)) :
    Coherent s' (Function.update state c (Duty.wroteIndex key productId removed r)) := by
  have hvalid := h.valid c
  rw [hstate] at hvalid
  obtain ⟨hid, hpresent, -, hwatched⟩ := hvalid
  rcases hcases with ⟨rfl, hempty, hagrees⟩ | ⟨rfl, rfl | rfl⟩
  · refine h.index hempty hagrees ?_
    cases r with
    | done _ => exact trivial
    | failed => exact trivial
    | refused =>
      refine ⟨hid, ?_, ?_, Or.inl ⟨_, s.put_record_self .index value⟩⟩
      · obtain ⟨entry, hentry⟩ := hpresent
        exact ⟨entry, (product_put_index key value).trans hentry⟩
      · rintro entry ⟨⟩
  · have hsame : ∀ id, Owes s' id (state c) → Owes s' id (.fixing key productId removed none) := by
      rw [hstate]
      exact fun id howes => howes
    refine h.same (fun id howes => Or.inl (hsame id howes)) ⟨hid, hpresent, ?_, ?_⟩
    · rintro entry ⟨⟩
    · refine hwatched.imp_right ?_
      rintro ⟨c', hc'⟩
      by_cases hc : c' = c
      · subst hc
        exact Owed.of_self (hsame key hc')
      · exact Owed.of_ne hc hc'
  · refine h.same ?_ trivial
    rw [hstate]
    rintro id ⟨hother, -⟩
    exact Or.inl hother

/-- The products in the index after the change for one. -/
lemma mem_reconciled {productIds : Finset String} {productId id : String} {removed : Bool} :
    id ∈ reconciled productIds productId removed ↔
      if id = productId then removed = false else id ∈ productIds := by
  unfold reconciled
  cases removed <;> by_cases hid : id = productId <;> simp [hid]

/-- A call that has read the present state of a product knows whether it is active. -/
lemma active_iff_of_owes {productId id : String} {removed : Bool}
    {seen : Option (Entry (Finset String))}
    (h : Owes s id (.fixing key productId removed seen)) : key = id ∧ (Active s id ↔ removed = false) := by
  obtain ⟨hid, entry, hentry, hflag⟩ := h
  refine ⟨hid, ?_, ?_⟩
  · rintro ⟨entry', hentry', hactive⟩
    rw [hentry] at hentry'
    cases hentry'
    rw [← hflag]
    exact hactive
  · intro hremoved
    exact ⟨entry, hentry, hflag.trans hremoved⟩

/-- The index that a call creates. -/
lemma Coherent.agrees_create (h : Coherent s state) {removed : Bool}
    {seen : Option (Entry (Finset String))}
    (hstate : state c = .fixing key key removed seen) (habsent : s.record .index = none)
    (id : String) :
    (id ∈ (if removed then ∅ else {key} : Finset String) ↔ Active s id) ∨
      ∃ c', c' ≠ c ∧ Owes s id (state c') := by
  have hempty : indexed s = ∅ := by
    unfold indexed
    rw [habsent]
  have hmem : id ∈ (if removed then ∅ else {key} : Finset String) ↔ id = key ∧ removed = false := by
    cases removed <;> simp
  have hvalid := h.valid c
  rw [hstate] at hvalid
  obtain ⟨-, -, -, hwatched⟩ := hvalid
  rcases h.agrees id with hagrees | ⟨c', howes⟩
  · -- no index yet: the product is not active, and whoever made it so is still at it
    rw [hempty] at hagrees
    have hinactive : ¬Active s id := by simpa using hagrees.not
    by_cases hid : id = key ∧ removed = false
    · obtain ⟨rfl, hremoved⟩ := hid
      rcases hwatched with ⟨entry, hentry⟩ | ⟨c', howes⟩
      · rw [habsent] at hentry
        cases hentry
      · refine Or.inr ⟨c', ?_, howes⟩
        rintro rfl
        rw [hstate] at howes
        exact hinactive ((active_iff_of_owes howes).2.mpr hremoved)
    · left
      rw [hmem]
      exact ⟨fun hmem => absurd hmem hid, fun hactive => absurd hactive hinactive⟩
  · by_cases hc : c' = c
    · subst hc
      rw [hstate] at howes
      obtain ⟨rfl, hactive⟩ := active_iff_of_owes howes
      left
      rw [hmem, hactive]
      simp
    · exact Or.inr ⟨c', hc, howes⟩

/-- The index that a call updates, if the record of its product still has the flag that it read. -/
lemma Coherent.agrees_update (h : Coherent s state) {removed : Bool}
    {seen : Option (Entry (Finset String))} {entry : Entry (Finset String)}
    (hstate : state c = .fixing key key removed seen) (hentry : s.record .index = some entry)
    (howes : Owes s key (.fixing key key removed seen)) (id : String) :
    (id ∈ reconciled entry.value key removed ↔ Active s id) ∨
      ∃ c', c' ≠ c ∧ Owes s id (state c') := by
  have hindexed : indexed s = entry.value := by
    unfold indexed
    rw [hentry]
  rw [mem_reconciled]
  by_cases hid : id = key
  · subst hid
    rw [if_pos rfl]
    exact Or.inl (active_iff_of_owes howes).2.symm
  · rw [if_neg hid, ← hindexed]
    rcases h.agrees id with hagrees | ⟨c', howes'⟩
    · exact Or.inl hagrees
    · refine Or.inr ⟨c', ?_, howes'⟩
      rintro rfl
      rw [hstate] at howes'
      exact hid howes'.1.symm

/-- The index that `ensure_catalog_index` creates. -/
lemma Coherent.agrees_seed (h : Coherent s state) {productIds : Finset String}
    (hstate : state c = .collecting productIds) (habsent : s.record .index = none) (id : String) :
    (id ∈ productIds ↔ Active s id) ∨ ∃ c', c' ≠ c ∧ Owes s id (state c') := by
  have hother : Owed s state id → ∃ c', c' ≠ c ∧ Owes s id (state c') := by
    rintro ⟨c', howes⟩
    refine ⟨c', ?_, howes⟩
    rintro rfl
    rw [hstate] at howes
    exact howes
  have hempty : indexed s = ∅ := by
    unfold indexed
    rw [habsent]
  have hvalid := h.valid c
  rw [hstate] at hvalid
  rcases h.agrees id with hagrees | howed
  · rw [hempty] at hagrees
    have hinactive : ¬Active s id := by simpa using hagrees.not
    by_cases hid : id ∈ productIds
    · rcases (hvalid id hid).2 with hactive | ⟨entry, hentry⟩ | howed
      · exact absurd hactive hinactive
      · rw [habsent] at hentry
        cases hentry
      · exact Or.inr (hother howed)
    · exact Or.inl ⟨fun hmem => absurd hmem hid, fun hactive => absurd hactive hinactive⟩
  · exact Or.inr (hother howed)

/-- A read of the index by a call that has read the product. -/
lemma Coherent.readIndex (h : Coherent s state) {productId : String} {removed : Bool}
    {seen : Option (Entry (Finset String))} {r : Answer (Entry (Finset String))}
    (hstate : state c = .fixing key productId removed seen)
    (hr : r = s.get .index ∨ r = .failed) :
    Coherent s (Function.update state c
      (Duty.after (.fixing key productId removed seen) (.get .index) r)) := by
  have hvalid := h.valid c
  rw [hstate] at hvalid
  obtain ⟨rfl, hpresent, -, hwatched⟩ := hvalid
  -- the call keeps its obligation whatever it has seen of the index
  have hkeep : ∀ seen', Seen s Key.index seen' →
      Coherent s (Function.update state c (.fixing productId productId removed seen')) := by
    intro seen' hseen'
    have hsame : ∀ id, Owes s id (state c) →
        Owes s id (.fixing productId productId removed seen') := by
      rw [hstate]
      exact fun id howes => howes
    refine h.same (fun id howes => Or.inl (hsame id howes)) ⟨rfl, hpresent, hseen', ?_⟩
    refine hwatched.imp_right ?_
    rintro ⟨c', hc'⟩
    by_cases hc : c' = c
    · subst hc
      exact Owed.of_self (hsame productId hc')
    · exact Owed.of_ne hc hc'
  rcases hr with rfl | rfl
  · unfold Store.get
    cases hrecord : s.record .index with
    | none =>
      refine hkeep none ?_
      rintro entry ⟨⟩
    | some entry =>
      have hafter : Duty.after (.fixing productId productId removed seen) (.get .index)
          (.done entry) = if InLine entry.value productId removed then .settled
            else .fixing productId productId removed (some entry) := rfl
      rw [hafter]
      split_ifs with hline
      · refine h.same ?_ trivial
        rw [hstate]
        intro id howes
        obtain ⟨rfl, hactive⟩ := active_iff_of_owes howes
        refine Or.inr ⟨⟨entry, hrecord⟩, ?_⟩
        have hname : productId ≠ "" := by
          obtain ⟨record, hproduct⟩ := hpresent
          exact (h.named productId record hproduct).2
        have hindexed : indexed s = entry.value := by
          unfold indexed
          rw [hrecord]
        have hmem : productId ∈ entry.value ↔ productId ∈ entry.value.filter (· ≠ "") := by
          simp [hname]
        rw [hindexed, hmem, ← hline, mem_reconciled, if_pos rfl, hactive]
      · refine hkeep (some entry) ?_
        rintro current ⟨⟩
        refine ⟨s.bounded .index entry hrecord, ?_⟩
        intro current hcurrent _
        rw [hrecord] at hcurrent
        cases hcurrent
        rfl
  · refine h.same ?_ trivial
    rw [hstate]
    rintro id ⟨hother, -⟩
    exact Or.inl hother

/-- A read of a product by `ensure_catalog_index`. -/
lemma Coherent.collect (h : Coherent s state) {productIds : Finset String} {productId : String}
    {r : Answer (Entry ProductRecord)} (hstate : state c = .collecting productIds)
    (hr : r = s.get (.product productId) ∨ r = .failed) :
    Coherent s (Function.update state c
      (Duty.after (.collecting productIds) (.get (.product productId)) r)) := by
  have hvalid := h.valid c
  rw [hstate] at hvalid
  have hwatched : ∀ duty id, Watched s state id → Watched s (Function.update state c duty) id := by
    intro duty id
    refine Or.imp_right ?_
    rintro ⟨c', hc'⟩
    refine Owed.of_ne ?_ hc'
    rintro rfl
    rw [hstate] at hc'
    exact hc'
  have hkeep : ∀ productIds', (∀ id ∈ productIds', id ∈ productIds ∨ id ≠ "" ∧ Active s id) →
      Coherent s (Function.update state c (.collecting productIds')) := by
    intro productIds' hids
    refine h.same ?_ ?_
    · rw [hstate]
      exact fun _ howes => False.elim howes
    · intro id hid
      rcases hids id hid with hold | ⟨hname, hactive⟩
      · exact ⟨(hvalid id hold).1, (hvalid id hold).2.imp_right (hwatched _ id)⟩
      · exact ⟨hname, Or.inl hactive⟩
  have hsame := hkeep productIds fun id hid => Or.inl hid
  rcases hr with rfl | rfl
  · unfold Store.get
    cases hrecord : s.record (.product productId) with
    | none => exact hsame
    | some entry =>
      have hafter : Duty.after (.collecting productIds) (.get (.product productId)) (.done entry) =
          if ProductRecord.productId entry.value ≠ "" ∧ ProductRecord.removed entry.value = false then
            .collecting (insert (ProductRecord.productId entry.value) productIds)
          else .collecting productIds := rfl
      rw [hafter]
      split_ifs with hactive
      · refine hkeep _ fun id hid => ?_
        rcases Finset.mem_insert.mp hid with rfl | hold
        · have hname := (h.named productId entry hrecord).1
          refine Or.inr ⟨hactive.1, entry, ?_, hactive.2⟩
          rw [hname]
          exact hrecord
        · exact Or.inl hold
      · exact hsame
  · exact hsame

/-- An operation of a call that has not written the product. -/
lemma Coherent.opOfFresh (h : Coherent s state) {s' : Store Value} {op : Op Value Query}
    {event : Event Query.Result} {r : Reply Query.Result op} (hstate : state c = .fresh key)
    (hallowed : Duty.allowed (.fresh key) op) (hserve : s.serve op event = some (r, s')) :
    Coherent s' (Function.update state c (Duty.after (.fresh key) op r)) := by
  have hnone : ∀ id, ¬Owes s id (state c) := by
    rw [hstate]
    exact fun _ howes => howes
  have hown : ∀ id, Owes s id (state c) → id = key := fun id howes => absurd howes (hnone id)
  match op, hallowed, r, hserve with
  | .get (.product _), rfl, r, hserve =>
    obtain ⟨rfl, hr⟩ := serve_get hserve
    exact h.readProduct hr hown fun _ => ⟨hnone, fun _ => trivial⟩
  | .create (.product _) record, ⟨rfl, hrecord, hkey⟩, r, hserve =>
    refine h.wroteProduct hrecord hkey hown ?_
    exact (serve_create hserve).imp (fun hput => hput.2) fun hsame => hsame

/-- An operation of a call that reads the product again. -/
lemma Coherent.opOfApplying (h : Coherent s state) {s' : Store Value} {op : Op Value Query}
    {event : Event Query.Result} {r : Reply Query.Result op} (hstate : state c = .applying key)
    (hallowed : Duty.allowed (.applying key) op) (hserve : s.serve op event = some (r, s')) :
    Coherent s' (Function.update state c (Duty.after (.applying key) op r)) := by
  have hvalid := h.valid c
  rw [hstate] at hvalid
  have hown : ∀ id, Owes s id (state c) → id = key := by
    rw [hstate]
    exact fun id howes => howes.symm
  match op, hallowed, r, hserve with
  | .get (.product _), rfl, r, hserve =>
    obtain ⟨rfl, hr⟩ := serve_get hserve
    refine h.readProduct hr hown fun habsent => ?_
    obtain ⟨entry, hentry⟩ := hvalid
    rw [habsent] at hentry
    cases hentry

/-- An operation of `ensure_catalog_index`, which reads the index first. -/
lemma Coherent.opOfEnsuring (h : Coherent s state) {s' : Store Value} {op : Op Value Query}
    {event : Event Query.Result} {r : Reply Query.Result op} (hstate : state c = .ensuring)
    (hallowed : Duty.allowed .ensuring op) (hserve : s.serve op event = some (r, s')) :
    Coherent s' (Function.update state c (Duty.after .ensuring op r)) := by
  have hnone : ∀ id, ¬Owes s id (state c) := by
    rw [hstate]
    exact fun _ howes => howes
  match op, hallowed, r, hserve with
  | .get .index, _, r, hserve =>
    obtain ⟨rfl, -⟩ := serve_get hserve
    refine h.same (fun id howes => absurd howes (hnone id)) ?_
    cases r with
    | done entry => exact trivial
    | refused => exact fun id hid => absurd hid (Finset.notMem_empty id)
    | failed => exact trivial

/-- An operation of `ensure_catalog_index` after it has found no index. -/
lemma Coherent.opOfCollecting (h : Coherent s state) {s' : Store Value} {op : Op Value Query}
    {productIds : Finset String} {event : Event Query.Result} {r : Reply Query.Result op}
    (hstate : state c = .collecting productIds) (hallowed : Duty.allowed (.collecting productIds) op)
    (hserve : s.serve op event = some (r, s')) :
    Coherent s' (Function.update state c (Duty.after (.collecting productIds) op r)) := by
  have hvalid := h.valid c
  rw [hstate] at hvalid
  have hnone : ∀ id, ¬Owes s id (state c) := by
    rw [hstate]
    exact fun _ howes => howes
  match op, hallowed, r, hserve with
  | .outside query, _, r, hserve =>
    have hsame : s' = s := by
      cases event with
      | outside reply =>
        cases hserve
        rfl
      | _ => cases hserve
    subst hsame
    have hstay : Function.update state c (.collecting productIds) = state := by
      rw [← hstate, Function.update_eq_self]
    exact hstay.symm ▸ h
  | .get (.product _), _, r, hserve =>
    obtain ⟨rfl, hr⟩ := serve_get hserve
    exact h.collect hstate hr
  | .create .index _, rfl, r, hserve =>
    rcases serve_create hserve with ⟨habsent, rfl⟩ | ⟨rfl, -⟩
    · exact h.index (fun hempty => (hvalid "" hempty).1 rfl) (h.agrees_seed hstate habsent) trivial
    · exact h.same (fun id howes => absurd howes (hnone id)) trivial

/-- An operation of a call that has read the product, where its record still has the flag that the call
read when its update of the index takes effect. -/
lemma Coherent.opOfFixing (h : Coherent s state) {s' : Store Value} {op : Op Value Query}
    {productId : String} {removed : Bool} {seen : Option (Entry (Finset String))}
    {event : Event Query.Result} {r : Reply Query.Result op}
    (hstate : state c = .fixing key productId removed seen)
    (hallowed : Duty.allowed (.fixing key productId removed seen) op)
    (hserve : s.serve op event = some (r, s'))
    (hupdate : ∀ value revision entry, op = .update .index value revision →
      s.record .index = some entry → entry.revision = revision → event ≠ .failedBefore →
        ∃ stored, s.record (.product productId) = some stored ∧
          ProductRecord.removed stored.value = removed) :
    Coherent s' (Function.update state c (Duty.after (.fixing key productId removed seen) op r)) := by
  have hvalid := h.valid c
  rw [hstate] at hvalid
  obtain ⟨hid, hpresent, hseen, -⟩ := hvalid
  have hown : ∀ id, Owes s id (state c) → id = key := by
    rw [hstate]
    exact fun id howes => howes.1.symm
  match op, hallowed, r, hserve with
  | .get (.product _), rfl, r, hserve =>
    obtain ⟨rfl, hr⟩ := serve_get hserve
    refine h.readProduct hr hown fun habsent => ?_
    obtain ⟨entry, hentry⟩ := hpresent
    rw [habsent] at hentry
    cases hentry
  | .update (.product _) record _, ⟨rfl, hrecord, hkey⟩, r, hserve =>
    refine h.wroteProduct hrecord hkey hown ?_
    rcases serve_update hserve with ⟨-, hput, -⟩ | ⟨hsame, hr | hr⟩
    · exact Or.inl hput
    · exact Or.inr ⟨hsame, Or.inl ⟨hpresent, hr⟩⟩
    · exact Or.inr ⟨hsame, Or.inr hr⟩
  | .get .index, _, r, hserve =>
    obtain ⟨rfl, hr⟩ := serve_get hserve
    exact h.readIndex hstate hr
  | .create .index _, rfl, r, hserve =>
    subst hid
    have hname : productId ≠ "" := by
      obtain ⟨record, hproduct⟩ := hpresent
      exact (h.named productId record hproduct).2
    refine h.wroteIndex (if removed then ∅ else {productId}) hstate ?_
    rcases serve_create hserve with ⟨habsent, hput⟩ | ⟨hsame, ⟨-, hr⟩ | hr⟩
    · refine Or.inl ⟨hput, ?_, h.agrees_create hstate habsent⟩
      cases removed <;> simp [hname.symm]
    · exact Or.inr ⟨hsame, Or.inl hr⟩
    · exact Or.inr ⟨hsame, Or.inr hr⟩
  | .update .index _ _, ⟨entry, hread, rfl, rfl⟩, r, hserve =>
    subst hid
    refine h.wroteIndex (reconciled (entry.value.filter (· ≠ "")) productId removed) hstate ?_
    rcases serve_update hserve with ⟨⟨found, hfound, hrevision⟩, hput, hevent⟩ | hsame
    · -- the revision has not changed, so the index is the one that was read
      obtain rfl := (hseen entry hread).2 found hfound hrevision
      have hname : productId ≠ "" := by
        obtain ⟨record, hproduct⟩ := hpresent
        exact (h.named productId record hproduct).2
      have hindexed : indexed s = found.value := by
        unfold indexed
        rw [hfound]
      have hempty : "" ∉ found.value := hindexed ▸ h.nonempty
      have hfilter : found.value.filter (· ≠ "") = found.value :=
        Finset.filter_true_of_mem fun id hid => fun heq => hempty (heq ▸ hid)
      rw [hfilter] at hput ⊢
      have hflag := hupdate _ _ found rfl hfound rfl hevent
      refine Or.inl ⟨hput, ?_, h.agrees_update hstate hfound ⟨rfl, hflag⟩⟩
      rw [mem_reconciled, if_neg hname.symm]
      exact hempty
    · exact Or.inr hsame

/-- An operation of a call, where the record of the product still has the flag that the call read when
its update of the index takes effect. -/
lemma Coherent.step_op (h : Coherent s state) {s' : Store Value} {op : Op Value Query}
    {event : Event Query.Result} {r : Reply Query.Result op}
    (hallowed : (state c).allowed op) (hserve : s.serve op event = some (r, s'))
    (hupdate : ∀ value revision entry, op = .update .index value revision →
      s.record .index = some entry → entry.revision = revision → event ≠ .failedBefore →
      ∀ key productId removed seen, state c = .fixing key productId removed seen →
        ∃ stored, s.record (.product productId) = some stored ∧
          ProductRecord.removed stored.value = removed) :
    Coherent s' (Function.update state c ((state c).after op r)) := by
  cases hstate : state c with
  | fresh key => exact h.opOfFresh hstate (hstate ▸ hallowed) hserve
  | applying key => exact h.opOfApplying hstate (hstate ▸ hallowed) hserve
  | ensuring => exact h.opOfEnsuring hstate (hstate ▸ hallowed) hserve
  | collecting productIds => exact h.opOfCollecting hstate (hstate ▸ hallowed) hserve
  | fixing key productId removed seen =>
    refine h.opOfFixing hstate (hstate ▸ hallowed) hserve ?_
    intro value revision entry hop hentry hrevision hevent
    exact hupdate value revision entry hop hentry hrevision hevent _ _ _ _ hstate
  | vanished key =>
    have hvalid := h.valid c
    rw [hstate] at hvalid
    exact hvalid.elim
  | broken key =>
    rw [hstate] at hallowed
    cases op <;> exact hallowed.elim
  | settled =>
    rw [hstate] at hallowed
    cases op <;> exact hallowed.elim

end Step

end Boutique.Recommendation
