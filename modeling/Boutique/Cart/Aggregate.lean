import Boutique.Cart.System
import Mathlib.Algebra.BigOperators.Group.List.Basic
import Mathlib.Data.List.Induction

/-!
# The cart is the fold of its accepted commands

A change is what an accepted command does to the items of a cart.  Every snapshot that a call works
on is the fold of some of the first accepted commands, and a commit is accepted only if these are all
of them, so that the stored cart is again the fold.  The journals decide what the calls return: all
calls for one message ID return what the first commit for it wrote.
-/

namespace Boutique.CartStore

/-! ## Changes -/

/-- What an accepted command does. -/
inductive CartChange where
  | add (productId : String) (quantity : ℤ)
  | clear

/-- The items after a change. -/
def CartChange.apply (items : List CartItem) : CartChange → List CartItem
  | .add productId quantity =>
    if productId ∈ items.map CartItem.productId then
      items.map fun item =>
        if item.productId = productId then { item with quantity := item.quantity + quantity }
        else item
    else items ++ [{ productId := productId, quantity := quantity }]
  | .clear => []

/-- What a change adds to the quantity of a product. -/
def CartChange.delta (productId : String) : CartChange → ℤ
  | .add id quantity => if id = productId then quantity else 0
  | .clear => 0

/-- The changes after the last clear. -/
def sinceClear (changes : List CartChange) : List CartChange :=
  changes.foldl (fun since change =>
    match change with
    | .add productId quantity => since ++ [.add productId quantity]
    | .clear => []) []

/-- The items that changes leave. -/
def itemsAfter (changes : List CartChange) : List CartItem := changes.foldl CartChange.apply []

/-- The quantity of a product. -/
def quantityOf (items : List CartItem) (productId : String) : ℤ :=
  ((items.find? fun item => item.productId = productId).map CartItem.quantity).getD 0

/-- The change of a call. -/
def Call.change (call : Call) : CartChange :=
  match call.command with
  | .addItem command => .add command.productId command.quantity
  | .clear _ => .clear

/-- The command is rejected by a cart: its arguments are invalid, the product is unknown, the quantity
is too large, or the version is not the expected one. -/
def Call.Rejected (call : Call) (items : List CartItem) (version : ℕ) : Prop :=
  match call.command with
  | .addItem command =>
    isBlank command.productId = true ∨ command.quantity ≤ 0 ∨ call.contains = false ∨
      2 ^ 31 ≤ quantityOf items command.productId + command.quantity
  | .clear command => command.expectedCartVersion ≠ version

/-- The subject of the reply to a rejected command. -/
def rejectedSubject : String := "boutique.evt.cart.command-rejected.v1"

/-- The subject of the reply to an accepted command. -/
def Call.acceptedSubject (call : Call) : String :=
  match call.command with
  | .addItem _ => "boutique.evt.cart.item-added.v1"
  | .clear _ => "boutique.evt.cart.cleared.v1"

/-- The product IDs of items are distinct, and the quantities are positive `int` values. -/
structure WellFormed (items : List CartItem) : Prop where
  distinct : (items.map CartItem.productId).Nodup
  range : ∀ item ∈ items, 1 ≤ item.quantity ∧ item.quantity < 2 ^ 31

/-- No items are well formed. -/
lemma WellFormed.nil : WellFormed [] :=
  ⟨List.nodup_nil, fun _ h => (List.not_mem_nil h).elim⟩

/-- The items after one more change. -/
@[simp]
lemma itemsAfter_concat (changes : List CartChange) (change : CartChange) :
    itemsAfter (changes ++ [change]) = change.apply (itemsAfter changes) := by
  simp [itemsAfter]

/-- A change keeps the product IDs, or adds one. -/
lemma CartChange.productIds_add (items : List CartItem) (productId : String) (quantity : ℤ) :
    ((CartChange.add productId quantity).apply items).map CartItem.productId =
      if productId ∈ items.map CartItem.productId then items.map CartItem.productId
      else items.map CartItem.productId ++ [productId] := by
  simp only [CartChange.apply]
  split_ifs with hmem
  · rw [List.map_map]
    refine List.map_congr_left fun item _ => ?_
    simp only [Function.comp_apply]
    split_ifs <;> rfl
  · simp

/-- The quantity of an item of distinct items. -/
lemma WellFormed.quantityOf_eq {items : List CartItem} (h : WellFormed items) {item : CartItem}
    (hitem : item ∈ items) : quantityOf items item.productId = item.quantity := by
  have hfind : (items.find? fun other => other.productId = item.productId) = some item := by
    have hdistinct := h.distinct
    clear h
    induction items with
    | nil => cases hitem
    | cons head rest ih =>
      rw [List.map_cons, List.nodup_cons] at hdistinct
      rcases List.mem_cons.mp hitem with rfl | hrest
      · simp
      · have hne : head.productId ≠ item.productId := by
          intro heq
          exact hdistinct.1 (heq ▸ List.mem_map_of_mem hrest)
        rw [List.find?_cons_of_neg (by simpa using hne)]
        exact ih hrest hdistinct.2
  simp [quantityOf, hfind]

/-- An accepted change keeps the items well formed. -/
lemma WellFormed.apply {items : List CartItem} (h : WellFormed items) {call : Call} {version : ℕ}
    (haccepted : ¬call.Rejected items version) : WellFormed (call.change.apply items) := by
  unfold Call.Rejected at haccepted
  unfold Call.change
  cases hcommand : call.command with
  | clear command => exact .nil
  | addItem command =>
    simp only [hcommand, not_or, not_le] at haccepted
    obtain ⟨-, hpos, -, hlimit⟩ := haccepted
    refine ⟨?_, ?_⟩
    · rw [CartChange.productIds_add]
      split_ifs with hmem
      · exact h.distinct
      · exact List.nodup_append.mpr ⟨h.distinct, List.nodup_singleton _, by
          intro a ha b hb hab
          exact hmem (List.mem_singleton.mp hb ▸ hab ▸ ha)⟩
    · intro item hitem
      simp only [CartChange.apply] at hitem
      split_ifs at hitem with hmem
      · obtain ⟨old, hold, rfl⟩ := List.mem_map.mp hitem
        have hrange := h.range old hold
        split_ifs with hid
        · have hquantity := h.quantityOf_eq hold
          rw [hid] at hquantity
          rw [hquantity] at hlimit
          exact ⟨by simp only; omega, by simpa using hlimit⟩
        · exact hrange
      · rcases List.mem_append.mp hitem with hold | hnew
        · exact h.range item hold
        · obtain rfl := List.mem_singleton.mp hnew
          exact ⟨hpos, command.upper⟩

/-- The quantity of a product is the sum of what was added since the last clear. -/
theorem quantity_eq_sum (changes : List CartChange) :
    (∀ item ∈ itemsAfter changes,
      item.quantity = ((sinceClear changes).map (CartChange.delta item.productId)).sum) ∧
    ∀ productId, productId ∉ (itemsAfter changes).map CartItem.productId →
      ((sinceClear changes).map (CartChange.delta productId)).sum = 0 := by
  induction changes using List.reverseRecOn with
  | nil => exact ⟨fun _ h => (List.not_mem_nil h).elim, fun _ _ => rfl⟩
  | append_singleton changes change ih =>
    obtain ⟨hsum, hzero⟩ := ih
    cases change with
    | clear =>
      have hsince : sinceClear (changes ++ [.clear]) = [] := by simp [sinceClear]
      rw [itemsAfter_concat, hsince]
      exact ⟨fun _ h => (List.not_mem_nil h).elim, fun _ _ => rfl⟩
    | add id quantity =>
      have hsince : sinceClear (changes ++ [.add id quantity]) =
          sinceClear changes ++ [.add id quantity] := by
        simp [sinceClear]
      have hdelta : ∀ productId,
          ((sinceClear (changes ++ [.add id quantity])).map (CartChange.delta productId)).sum =
            ((sinceClear changes).map (CartChange.delta productId)).sum +
              if id = productId then quantity else 0 := by
        intro productId
        simp [hsince, CartChange.delta]
      rw [itemsAfter_concat]
      refine ⟨fun item hitem => ?_, fun productId hnot => ?_⟩
      · rw [hdelta]
        simp only [CartChange.apply] at hitem
        split_ifs at hitem with hmem
        · obtain ⟨old, hold, rfl⟩ := List.mem_map.mp hitem
          have hold' := hsum old hold
          split_ifs with hid hid' hid'
          · simp [hold', hid]
          · exact absurd hid.symm hid'
          · exact absurd hid'.symm hid
          · simp [hold']
        · rcases List.mem_append.mp hitem with hold | hnew
          · have hne : id ≠ item.productId := fun heq => hmem (heq ▸ List.mem_map_of_mem hold)
            rw [hsum item hold, if_neg hne, add_zero]
          · obtain rfl := List.mem_singleton.mp hnew
            rw [hzero id hmem]
            simp
      · rw [hdelta]
        rw [CartChange.productIds_add] at hnot
        split_ifs at hnot with hmem
        · have hne : id ≠ productId := fun heq => hnot (heq ▸ hmem)
          rw [hzero productId hnot, if_neg hne, add_zero]
        · rw [List.mem_append, List.mem_singleton, not_or] at hnot
          rw [hzero productId hnot.1, if_neg (Ne.symm hnot.2), add_zero]

/-! ## What a call does -/

/-- The stored cart after accepted changes. -/
def cartAfter (userId : String) (changes : List CartChange) : Option Cart :=
  if changes = [] then none else some { userId := userId, items := itemsAfter changes }

/-- The items of the stored cart. -/
lemma items_cartAfter (userId : String) (changes : List CartChange) :
    ((cartAfter userId changes).map Cart.items).getD [] = itemsAfter changes := by
  unfold cartAfter
  split_ifs with hnil
  · simp [hnil, itemsAfter]
  · rfl

/-- The stored cart belongs to the user. -/
lemma readCart_cartAfter (userId : String) (changes : List CartChange) :
    readCart userId (cartAfter userId changes) =
      .ok { userId := userId, items := itemsAfter changes } := by
  unfold cartAfter readCart
  split_ifs with hnil
  · simp [hnil, itemsAfter]
  · simp

/-- The first item of a product is its only item. -/
lemma setQuantity_eq_map {items : List CartItem} (h : (items.map CartItem.productId).Nodup)
    (productId : String) (quantity : ℤ) :
    setQuantity productId quantity items = items.map fun item =>
      if item.productId = productId then { item with quantity := quantity } else item := by
  induction items with
  | nil => rfl
  | cons head rest ih =>
    rw [List.map_cons, List.nodup_cons] at h
    simp only [setQuantity, List.map_cons]
    split_ifs with hid
    · have hrest : rest.map (fun item =>
          if item.productId = productId then { item with quantity := quantity } else item) = rest := by
        refine (List.map_congr_left fun item hitem => ?_).trans (List.map_id rest)
        have hne : item.productId ≠ productId := fun heq =>
          h.1 (hid ▸ heq ▸ List.mem_map_of_mem hitem)
        rw [if_neg hne, id_eq]
      rw [hrest]
    · rw [ih h.2]

/-- `HandleAddItemCommandAsync` adds to the cart as the change does, unless the quantity gets too
large. -/
lemma WellFormed.addQuantity_eq {items : List CartItem} (h : WellFormed items) (productId : String)
    {quantity : ℤ} (hpos : 0 < quantity) (hupper : quantity < 2 ^ 31) :
    addQuantity items productId quantity =
      if 2 ^ 31 ≤ quantityOf items productId + quantity then none
      else some ((CartChange.add productId quantity).apply items,
        quantityOf items productId + quantity) := by
  unfold addQuantity
  cases hfind : items.find? fun item => item.productId = productId with
  | none =>
    have hnot : productId ∉ items.map CartItem.productId := by
      intro hmem
      obtain ⟨item, hitem, hid⟩ := List.mem_map.mp hmem
      simpa [hid] using List.find?_eq_none.mp hfind item hitem
    have hzero : quantityOf items productId = 0 := by simp [quantityOf, hfind]
    simp only [hzero, zero_add, CartChange.apply]
    rw [if_neg hnot, if_neg (not_le.mpr hupper)]
  | some existing =>
    have hid : existing.productId = productId := by simpa using List.find?_some hfind
    have hmem : existing ∈ items := List.mem_of_find?_eq_some hfind
    have hquantity : quantityOf items productId = existing.quantity := by
      simp [quantityOf, hfind]
    have hrange := h.range existing hmem
    have hin : productId ∈ items.map CartItem.productId := hid ▸ List.mem_map_of_mem hmem
    simp only [hquantity, checkedQuantity, CartChange.apply]
    rw [if_pos hin]
    by_cases hlimit : 2 ^ 31 ≤ existing.quantity + quantity
    · rw [if_pos hlimit, if_neg (by omega)]
      rfl
    · rw [if_neg hlimit, if_pos (by omega), Option.map_some, setQuantity_eq_map h.distinct]
      -- every item of the product is the one that was found
      refine congrArg (fun result => some (result, existing.quantity + quantity)) ?_
      refine List.map_congr_left fun item hitem => ?_
      split_ifs with hitemId
      · have hsame := h.quantityOf_eq hitem
        rw [hitemId, hquantity] at hsame
        rw [hsame]
      · rfl

/-- A command is rejected and leaves the cart, or its change is made; the subject of the reply says
which. -/
structure Verdict (call : Call) (userId : String) (items : List CartItem) (version : ℕ)
    (advanceVersion : Bool) (next : Cart) (subject : String) : Prop where
  rejected : call.Rejected items version → advanceVersion = false ∧ subject = rejectedSubject
  accepted : ¬call.Rejected items version →
    advanceVersion = true ∧ next = { userId := userId, items := call.change.apply items } ∧
      subject = call.acceptedSubject

/-- The transition of a call follows the verdict on its command. -/
lemma Call.transition_verdict {call : Call} {cart : Cart} {version : ℕ} {selected : CartTransition}
    (hwf : WellFormed cart.items) (huser : call.command.userId = cart.userId)
    (h : call.transition cart version = .ok selected) :
    Verdict call cart.userId cart.items version selected.advanceVersion selected.state
      selected.subject := by
  cases hcommand : call.command with
  | addItem command =>
    have hchange : call.change = .add command.productId command.quantity := by
      simp [Call.change, hcommand]
    have hrejected : call.Rejected cart.items version ↔
        isBlank command.productId = true ∨ command.quantity ≤ 0 ∨ call.contains = false ∨
          2 ^ 31 ≤ quantityOf cart.items command.productId + command.quantity := by
      simp [Call.Rejected, hcommand]
    rw [Call.transition, hcommand] at h
    simp only [addItemTransition] at h
    split at h
    · next hinvalid =>
      obtain rfl := Except.ok.inj h
      refine ⟨fun _ => ⟨rfl, rfl⟩, fun hnot => absurd (hrejected.mpr ?_) hnot⟩
      simp only [CartAddItemCommand.argumentsValid, Bool.not_and, Bool.not_not, Bool.or_eq_true,
        Bool.not_eq_true', decide_eq_false_iff_not, not_lt] at hinvalid
      exact hinvalid.elim .inl fun hle => .inr (.inl hle)
    · next hvalid =>
      have hvalid : command.argumentsValid = true := by simpa using hvalid
      split at h
      · next hunavailable =>
        obtain rfl := Except.ok.inj h
        refine ⟨fun _ => ⟨rfl, rfl⟩, fun hnot => absurd (hrejected.mpr ?_) hnot⟩
        exact .inr (.inr (.inl (by simpa [hvalid] using hunavailable)))
      · next havailable =>
        have havailable : call.contains = true := by simpa [hvalid] using havailable
        simp only [CartAddItemCommand.argumentsValid, Bool.and_eq_true, Bool.not_eq_true',
          decide_eq_true_eq] at hvalid
        rw [hwf.addQuantity_eq command.productId hvalid.2 command.upper] at h
        by_cases hlimit : 2 ^ 31 ≤ quantityOf cart.items command.productId + command.quantity
        · rw [if_pos hlimit] at h
          obtain rfl := Except.ok.inj h
          exact ⟨fun _ => ⟨rfl, rfl⟩, fun hnot => absurd (hrejected.mpr (.inr (.inr (.inr hlimit)))) hnot⟩
        · rw [if_neg hlimit] at h
          obtain ⟨next, -, hselected⟩ := bind_eq_ok.mp h
          obtain rfl := Except.ok.inj hselected
          have hsubject : call.acceptedSubject = "boutique.evt.cart.item-added.v1" := by
            simp only [Call.acceptedSubject, hcommand]
          refine ⟨fun hrej => ?_, fun _ => ⟨rfl, by rw [hchange], hsubject.symm⟩⟩
          rcases hrejected.mp hrej with hblank | hle | hcontains | hover
          · simp [hvalid.1] at hblank
          · exact absurd hvalid.2 (not_lt.mpr hle)
          · simp [havailable] at hcontains
          · exact absurd hover hlimit
  | clear command =>
    have hchange : call.change = .clear := by simp [Call.change, hcommand]
    have hrejected : call.Rejected cart.items version ↔ command.expectedCartVersion ≠ version := by
      simp [Call.Rejected, hcommand]
    rw [Call.transition, hcommand] at h
    simp only [clearTransition] at h
    by_cases hconflict : command.expectedCartVersion = version
    · rw [if_neg (not_not.mpr hconflict)] at h
      obtain ⟨next, -, hselected⟩ := bind_eq_ok.mp h
      obtain rfl := Except.ok.inj hselected
      have hsubject : call.acceptedSubject = "boutique.evt.cart.cleared.v1" := by
        simp only [Call.acceptedSubject, hcommand]
      refine ⟨fun hrej => absurd hconflict (hrejected.mp hrej), fun _ => ⟨rfl, ?_, hsubject.symm⟩⟩
      rw [hcommand] at huser
      rw [hchange, ← huser]
      rfl
    · rw [if_pos hconflict] at h
      obtain rfl := Except.ok.inj h
      exact ⟨fun _ => ⟨rfl, rfl⟩, fun hnot => absurd (hrejected.mpr hconflict) hnot⟩

/-- The attempt was computed from the cart that the first accepted calls `prior` left. -/
structure Attempt.Honest (env : CartEnv) (userId : String) (attempt : Attempt) (prior : List Call) :
    Prop where
  user : attempt.call.command.userId = userId
  inbox : attempt.request.inbox = env.digest attempt.call.envelope.messageId
  expected : attempt.request.expectedVersion = prior.length
  journal : serialize attempt.result = .ok attempt.request.journal
  verdict : Verdict attempt.call userId (itemsAfter (prior.map Call.change)) prior.length
    attempt.request.advanceVersion attempt.request.nextState attempt.result.subject

/-- A result goes out under the subject of its transition. -/
lemma buildResult_subject {env : CartEnv} {input : MessageEnvelope} {userId : String}
    {transition : CartTransition} {result : CartStoredResult}
    (h : buildResult env input userId transition = .ok result) :
    result.subject = transition.subject := by
  simp only [buildResult, bind_eq_ok] at h
  obtain ⟨_, -, _, -, h⟩ := h
  exact (Except.ok.inj h) ▸ rfl

/-- An attempt on the cart that accepted calls left is honest. -/
lemma honest_of_prepare {env : CartEnv} {userId : String} {call : Call} {prior : List Call}
    {attempt : Attempt} (huser : call.command.userId = userId)
    (hwf : WellFormed (itemsAfter (prior.map Call.change)))
    (h : prepare env userId call (prior.length, cartAfter userId (prior.map Call.change)) =
      .ok attempt) : attempt.Honest env userId prior := by
  simp only [prepare, bind_eq_ok, readCart_cartAfter] at h
  obtain ⟨cart, hcart, selected, hselected, result, hresult, journal, hjournal, hattempt⟩ := h
  obtain rfl := Except.ok.inj hcart
  obtain rfl := Except.ok.inj hattempt
  have hverdict := Call.transition_verdict hwf huser hselected
  exact ⟨huser, rfl, rfl, hjournal, (buildResult_subject hresult).symm ▸ hverdict⟩

/-! ## The invariant -/

section Invariant

variable {κ : Type*} {env : CartEnv} {userId : String} {s s' : State κ} {attempt : Attempt}

/-- The attempt was computed from a cart that some of the first accepted calls left. -/
def AttemptOk (env : CartEnv) (userId : String) (s : State κ) (attempt : Attempt) : Prop :=
  ∃ prior, prior <+: s.accepted ∧ attempt.Honest env userId prior

/-- The result is the one that the commit of the message ID wrote. -/
def Recorded (env : CartEnv) (s : State κ) (messageId : String) (result : CartStoredResult) : Prop :=
  ∃ a ∈ s.log, a.request.inbox = env.digest messageId ∧ result.subject = a.result.subject ∧
    result.messageId = a.result.messageId ∧ result.data = a.result.data

/-- What a call knows is true. -/
def PhaseOk (env : CartEnv) (userId : String) (s : State κ) : Phase → Prop
  | .load call _ => call.command.userId = userId
  | .commit attempt _ => AttemptOk env userId s attempt
  | .returned call commit => Recorded env s call.envelope.messageId commit.result
  | _ => True

/-- The invariant of the aggregate. -/
structure Inv (env : CartEnv) (userId : String) (s : State κ) : Prop where
  state : s.keys.state = cartAfter userId (s.accepted.map Call.change)
  version : s.keys.current = s.accepted.length
  wellFormed : WellFormed (itemsAfter (s.accepted.map Call.change))
  flying : ∀ a ∈ s.flying, AttemptOk env userId s a
  phases : ∀ c, PhaseOk env userId s (s.phase c)
  inbox : ∀ key journal, s.keys.inbox key = some journal ↔
    ∃ a ∈ s.log, a.request.inbox = key ∧ a.request.journal = journal
  once : (s.log.map fun a => a.request.inbox).Nodup
  log : ∀ a ∈ s.log, a.request.inbox = env.digest a.call.envelope.messageId ∧
    serialize a.result = .ok a.request.journal

/-- One more commit accepts one more call, or none. -/
lemma accepted_concat (log : List Attempt) (a : Attempt) :
    ((log ++ [a]).filter fun a => a.request.advanceVersion).map Attempt.call =
      (log.filter fun a => a.request.advanceVersion).map Attempt.call ++
        if a.request.advanceVersion then [a.call] else [] := by
  rw [List.filter_append, List.map_append]
  congr 1
  by_cases h : a.request.advanceVersion <;> simp [h]

/-- What has been accepted stays accepted. -/
lemma accepted_mono (h : s.log <+: s'.log) : s.accepted <+: s'.accepted :=
  (h.filter _).map _

/-- An attempt stays right while the log grows. -/
lemma AttemptOk.mono (h : AttemptOk env userId s attempt) (hlog : s.log <+: s'.log) :
    AttemptOk env userId s' attempt := by
  obtain ⟨prior, hprior, hhonest⟩ := h
  exact ⟨prior, hprior.trans (accepted_mono hlog), hhonest⟩

/-- What a call knows stays true while the log grows. -/
lemma PhaseOk.mono {phase : Phase} (h : PhaseOk env userId s phase) (hlog : s.log <+: s'.log) :
    PhaseOk env userId s' phase := by
  cases phase with
  | commit attempt _ => exact AttemptOk.mono h hlog
  | returned call commit =>
    obtain ⟨a, ha, hrest⟩ := h
    exact ⟨a, hlog.subset ha, hrest⟩
  | load => exact h
  | idle => trivial
  | failed => trivial

/-- The initial state. -/
lemma Inv.init : Inv env userId ({} : State κ) where
  state := rfl
  version := rfl
  wellFormed := .nil
  flying := fun _ h => (List.not_mem_nil h).elim
  phases := fun _ => trivial
  inbox := by
    intro key journal
    simp
  once := List.nodup_nil
  log := fun _ h => (List.not_mem_nil h).elim

/-- What `CommitScript` does: nothing, with a reply that says why, or the commit. -/
lemma State.execute_cases (s : State κ) (attempt : Attempt) :
    (s.execute attempt = s ∧
      ((∃ version journal,
          (commitScript s.keys attempt.request).2 = .duplicate version journal ∧
          s.keys.inbox attempt.request.inbox = some journal) ∨
        ∃ version, (commitScript s.keys attempt.request).2 = .conflict version)) ∨
    (s.keys.inbox attempt.request.inbox = none ∧
      s.keys.current = luaNumber attempt.request.expectedVersion ∧
      (∃ version journal,
        (commitScript s.keys attempt.request).2 = .committed version journal) ∧
      s.execute attempt =
        { s with keys := s.keys.write attempt.request, log := s.log ++ [attempt] }) := by
  cases hinbox : s.keys.inbox attempt.request.inbox with
  | some existing =>
    left
    simp [State.execute, commitScript, hinbox]
  | none =>
    by_cases hversion : s.keys.current = luaNumber attempt.request.expectedVersion
    · right
      simp [State.execute, commitScript, hinbox, hversion]
    · left
      simp [State.execute, commitScript, hinbox, hversion]

/-- The items of the stored cart are the fold of the accepted commands. -/
lemma Inv.items (h : Inv env userId s) : s.items = itemsAfter (s.accepted.map Call.change) := by
  rw [State.items, h.state, items_cartAfter]

/-- An attempt that is committed was computed from the stored cart. -/
lemma Inv.honest_current (h : Inv env userId s) (hbound : s.accepted.length < 10 ^ 14)
    (hattempt : AttemptOk env userId s attempt)
    (hversion : s.keys.current = luaNumber attempt.request.expectedVersion) :
    attempt.Honest env userId s.accepted := by
  obtain ⟨prior, hprior, hhonest⟩ := hattempt
  have hlt : prior.length < 2 ^ 53 :=
    lt_of_le_of_lt hprior.length_le (hbound.trans (by decide))
  rw [h.version, hhonest.expected, luaNumber_of_lt hlt] at hversion
  rwa [hprior.eq_of_length hversion.symm] at hhonest

/-- The state after a commit with status 0. -/
def State.committed (s : State κ) (attempt : Attempt) : State κ :=
  { s with keys := s.keys.write attempt.request, log := s.log ++ [attempt] }

/-- A commit with status 0 accepts its call, or no call. -/
lemma State.accepted_committed (s : State κ) (attempt : Attempt) :
    (s.committed attempt).accepted =
      s.accepted ++ if attempt.request.advanceVersion then [attempt.call] else [] :=
  accepted_concat s.log attempt

/-- The commit of a rejected command leaves the cart, and the commit of another makes its change. -/
lemma Inv.committed_cart (h : Inv env userId s) (hhonest : attempt.Honest env userId s.accepted)
    (hbound : (s.committed attempt).accepted.length < 10 ^ 14) :
    (s.committed attempt).keys.state =
        cartAfter userId ((s.committed attempt).accepted.map Call.change) ∧
      (s.committed attempt).keys.current = (s.committed attempt).accepted.length ∧
      WellFormed (itemsAfter ((s.committed attempt).accepted.map Call.change)) := by
  rw [State.accepted_committed] at hbound ⊢
  by_cases hrejected :
      attempt.call.Rejected (itemsAfter (s.accepted.map Call.change)) s.accepted.length
  · have hkeep := (hhonest.verdict.rejected hrejected).1
    simp only [State.committed, CartKeys.write, CartKeys.current, hkeep]
    simpa [CartKeys.current] using ⟨h.state, h.version, h.wellFormed⟩
  · obtain ⟨hadvance, hnext, -⟩ := hhonest.verdict.accepted hrejected
    simp only [hadvance, if_true, List.length_append, List.length_singleton] at hbound
    have hnumber : luaText (luaNumber (s.keys.current + 1)) = s.accepted.length + 1 := by
      rw [h.version, luaNumber_of_lt (hbound.trans (by decide)), luaText_of_lt hbound]
    simp only [State.committed, CartKeys.write, hadvance, if_true, List.map_append, List.map_cons,
      List.map_nil, itemsAfter_concat]
    refine ⟨?_, ?_, h.wellFormed.apply hrejected⟩
    · rw [hnext]
      simp [cartAfter]
    · simp [CartKeys.current, ← hnumber]

/-- A commit with status 0 keeps the journals. -/
lemma Inv.committed_inbox (h : Inv env userId s)
    (hinbox : s.keys.inbox attempt.request.inbox = none) :
    (∀ key journal, (s.committed attempt).keys.inbox key = some journal ↔
      ∃ a ∈ (s.committed attempt).log, a.request.inbox = key ∧ a.request.journal = journal) ∧
    ((s.committed attempt).log.map fun a => a.request.inbox).Nodup := by
  have hnew : ∀ a ∈ s.log, a.request.inbox ≠ attempt.request.inbox := by
    intro a ha hsame
    have hfound := (h.inbox attempt.request.inbox a.request.journal).mpr ⟨a, ha, hsame, rfl⟩
    rw [hinbox] at hfound
    cases hfound
  refine ⟨fun key journal => ?_, ?_⟩
  · simp only [State.committed, CartKeys.write, List.mem_append, List.mem_singleton]
    by_cases hkey : key = attempt.request.inbox
    · subst hkey
      rw [Function.update_self, Option.some.injEq]
      constructor
      · rintro rfl
        exact ⟨attempt, .inr rfl, rfl, rfl⟩
      · rintro ⟨a, ha | rfl, hsame, hjournal⟩
        · exact absurd hsame (hnew a ha)
        · exact hjournal
    · rw [Function.update_of_ne hkey, h.inbox key journal]
      constructor
      · rintro ⟨a, ha, hrest⟩
        exact ⟨a, .inl ha, hrest⟩
      · rintro ⟨a, ha | rfl, hsame, hjournal⟩
        · exact ⟨a, ha, hsame, hjournal⟩
        · exact absurd hsame.symm hkey
  · simp only [State.committed, List.map_append, List.map_cons, List.map_nil]
    refine List.nodup_append.mpr ⟨h.once, List.nodup_singleton _, ?_⟩
    intro key hkey key' hkey' hsame
    obtain ⟨a, ha, rfl⟩ := List.mem_map.mp hkey
    exact hnew a ha (hsame.trans (List.mem_singleton.mp hkey'))

/-- A commit keeps the invariant. -/
lemma Inv.execute (h : Inv env userId s) (hattempt : AttemptOk env userId s attempt)
    (hbound : (s.execute attempt).accepted.length < 10 ^ 14) :
    Inv env userId (s.execute attempt) := by
  rcases s.execute_cases attempt with ⟨heq, -⟩ | ⟨hinbox, hversion, -, heq⟩
  · rwa [heq]
  change _ = s.committed attempt at heq
  rw [heq] at hbound ⊢
  have hlog : s.log <+: (s.committed attempt).log := List.prefix_append _ _
  have hbefore : s.accepted.length < 10 ^ 14 :=
    lt_of_le_of_lt (accepted_mono hlog).length_le hbound
  have hhonest := h.honest_current hbefore hattempt hversion
  obtain ⟨hstate, hcurrent, hwf⟩ := h.committed_cart hhonest hbound
  obtain ⟨hjournals, honce⟩ := h.committed_inbox hinbox
  refine ⟨hstate, hcurrent, hwf, fun a ha => (h.flying a ha).mono hlog,
    fun c => (h.phases c).mono hlog, hjournals, honce, fun a ha => ?_⟩
  rcases List.mem_append.mp ha with hold | hnew
  · exact h.log a hold
  · obtain rfl := List.mem_singleton.mp hnew
    exact ⟨hhonest.inbox, hhonest.journal⟩

/-- A call moves on. -/
lemma Inv.setPhase [DecidableEq κ] (h : Inv env userId s) {c : κ} {phase : Phase}
    (hphase : PhaseOk env userId s phase) : Inv env userId (s.setPhase c phase) := by
  refine { h with phases := fun c' => ?_ }
  by_cases hc : c' = c
  · have hnew : (s.setPhase c phase).phase c' = phase := by simp [State.setPhase, hc]
    rw [hnew]
    exact hphase.mono List.prefix_rfl
  · have hold : (s.setPhase c phase).phase c' = s.phase c' := by simp [State.setPhase, hc]
    rw [hold]
    exact (h.phases c').mono List.prefix_rfl

/-- What a call in a phase knows. -/
lemma Inv.of_phase (h : Inv env userId s) {c : κ} {phase : Phase} (hphase : s.phase c = phase) :
    PhaseOk env userId s phase := hphase ▸ h.phases c

/-- A call that retries loads again, or fails. -/
lemma retryPhase_ok {call : Call} {retries : Retries} (h : call.command.userId = userId) :
    PhaseOk env userId s (retryPhase call retries) := by
  unfold retryPhase
  split_ifs
  · exact h
  · trivial

/-- What a call returns is recorded. -/
lemma Inv.reply (h : Inv env userId s) (hattempt : AttemptOk env userId s attempt)
    {retries : Retries} :
    PhaseOk env userId (s.execute attempt)
      (replyPhase env attempt retries (commitScript s.keys attempt.request).2) := by
  obtain ⟨prior, -, hhonest⟩ := hattempt
  rcases s.execute_cases attempt with ⟨heq, ⟨version, journal, hreply, hfound⟩ | ⟨version, hreply⟩⟩ |
    ⟨-, -, ⟨version, journal, hreply⟩, heq⟩
  · rw [heq, hreply]
    simp only [replyPhase]
    cases hparse : parse env journal with
    | error => trivial
    | ok result =>
      obtain ⟨a, ha, hkey, rfl⟩ := (h.inbox _ _).mp hfound
      exact ⟨a, ha, hkey.trans hhonest.inbox, parse_serialize (h.log a ha).2 hparse⟩
  · rw [heq, hreply]
    exact retryPhase_ok hhonest.user
  · rw [heq, hreply]
    exact ⟨attempt, List.mem_append_right _ (List.mem_singleton_self _), hhonest.inbox, rfl, rfl,
      rfl⟩

/-- Two results of one message ID are the same. -/
lemma Inv.recorded_unique (h : Inv env userId s) {messageId : String}
    {result result' : CartStoredResult} (hr : Recorded env s messageId result)
    (hr' : Recorded env s messageId result') :
    result.subject = result'.subject ∧ result.messageId = result'.messageId ∧
      result.data = result'.data := by
  obtain ⟨a, ha, hkey, hsubject, hid, hdata⟩ := hr
  obtain ⟨a', ha', hkey', hsubject', hid', hdata'⟩ := hr'
  obtain rfl : a = a' := List.inj_on_of_nodup_map h.once ha ha' (hkey.trans hkey'.symm)
  exact ⟨hsubject.trans hsubject'.symm, hid.trans hid'.symm, hdata.trans hdata'.symm⟩

/-- A step leaves the keys and the log, or runs the commit of an honest attempt. -/
lemma State.step_keys [DecidableEq κ] {action : Action κ}
    (hstep : s.step env userId action = some s') :
    (s'.keys = s.keys ∧ s'.log = s.log) ∨
      ∃ attempt, (attempt ∈ s.flying ∨ ∃ c retries, s.phase c = .commit attempt retries) ∧
        s'.keys = (s.execute attempt).keys ∧ s'.log = (s.execute attempt).log := by
  cases action with
  | commit c =>
    simp only [State.step] at hstep
    split at hstep
    · next attempt retries hphase =>
      obtain rfl := Option.some.inj hstep
      exact .inr ⟨attempt, .inr ⟨c, retries, hphase⟩, rfl, rfl⟩
    · cases hstep
  | arrive n =>
    simp only [State.step] at hstep
    split at hstep
    · next attempt hflying =>
      obtain rfl := Option.some.inj hstep
      exact .inr ⟨attempt, .inl (List.mem_of_getElem? hflying), rfl, rfl⟩
    · cases hstep
  | start c call | load c | loadLost c | commitLost c | cancel c =>
    -- no other step runs a commit
    left
    simp only [State.step] at hstep
    repeat' split at hstep
    all_goals first | (cases hstep; exact ⟨rfl, rfl⟩) | cases hstep

variable [DecidableEq κ] {action : Action κ} {acts : List (Action κ)}

/-- The log only grows. -/
lemma State.step_log (hstep : s.step env userId action = some s') : s.log <+: s'.log := by
  rcases State.step_keys hstep with ⟨-, hlog⟩ | ⟨attempt, -, -, hlog⟩
  · exact hlog ▸ List.prefix_rfl
  · rw [hlog]
    rcases s.execute_cases attempt with ⟨heq, -⟩ | ⟨-, -, -, heq⟩
    · exact heq.symm ▸ List.prefix_rfl
    · exact heq.symm ▸ List.prefix_append _ _

/-- A step keeps the invariant. -/
lemma Inv.step (h : Inv env userId s) (hstep : s.step env userId action = some s')
    (hbound : s'.accepted.length < 10 ^ 14) : Inv env userId s' := by
  cases action with
  | start c call =>
    simp only [State.step] at hstep
    split at hstep
    · split_ifs at hstep with huser
      split at hstep
      · cases hstep
        exact h.setPhase (not_not.mp huser)
      · cases hstep
        exact h.setPhase trivial
    · cases hstep
  | load c =>
    simp only [State.step] at hstep
    split at hstep
    · next call retries hphase =>
      have huser : call.command.userId = userId := h.of_phase hphase
      split at hstep
      · next attempt hprepare =>
        cases hstep
        rw [loadScript, h.version, h.state, ← List.length_map Call.change] at hprepare
        refine h.setPhase ⟨s.accepted, List.prefix_rfl, honest_of_prepare huser h.wellFormed ?_⟩
        simpa using hprepare
      · cases hstep
        exact h.setPhase trivial
    · cases hstep
  | loadLost c =>
    simp only [State.step] at hstep
    split at hstep
    · next call retries hphase =>
      cases hstep
      exact h.setPhase (retryPhase_ok (h.of_phase hphase))
    · cases hstep
  | commit c =>
    simp only [State.step] at hstep
    split at hstep
    · next attempt retries hphase =>
      cases hstep
      have hattempt : AttemptOk env userId s attempt := h.of_phase hphase
      exact (h.execute hattempt hbound).setPhase (h.reply hattempt)
    · cases hstep
  | commitLost c =>
    simp only [State.step] at hstep
    split at hstep
    · next attempt retries hphase =>
      cases hstep
      have hattempt : AttemptOk env userId s attempt := h.of_phase hphase
      obtain ⟨prior, -, hhonest⟩ := id hattempt
      have hflying : Inv env userId { s with flying := s.flying ++ [attempt] } := by
        refine { h with flying := fun a ha => ?_ }
        rcases List.mem_append.mp ha with hold | hnew
        · exact h.flying a hold
        · obtain rfl := List.mem_singleton.mp hnew
          exact hattempt
      exact hflying.setPhase (retryPhase_ok hhonest.user)
    · cases hstep
  | arrive n =>
    simp only [State.step] at hstep
    split at hstep
    · next attempt hfound =>
      cases hstep
      have hattempt := h.flying attempt (List.mem_of_getElem? hfound)
      have hexecuted := h.execute hattempt hbound
      exact { hexecuted with
        flying := fun a ha => hexecuted.flying a (List.mem_of_mem_eraseIdx ha) }
    · cases hstep
  | cancel c =>
    simp only [State.step] at hstep
    split at hstep
    · cases hstep
      exact h.setPhase trivial
    · cases hstep
      exact h.setPhase trivial
    · cases hstep

/-- The invariant holds in every state that a run reaches within the bound on versions. -/
lemma inv_of_run (hrun : StepSystem.run (State.step env userId) {} acts = some s) :
    s.accepted.length < 10 ^ 14 → Inv env userId s := by
  refine StepSystem.run_invariant_of_step
    (I := fun s => s.accepted.length < 10 ^ 14 → Inv env userId s) ?_ (fun _ => Inv.init) hrun
  intro t action t' ht hstep hbound
  have hbefore : t.accepted.length < 10 ^ 14 :=
    lt_of_le_of_lt (accepted_mono (State.step_log hstep)).length_le hbound
  exact (ht hbefore).step hstep hbound

/-! ## The law -/

/-- What a commit does with its command: one that is to be rejected leaves the cart and its version and
is answered with a rejection, any other is accepted and answered with its event. -/
structure State.Decides (s s' : State κ) (attempt : Attempt) : Prop where
  rejected : attempt.call.Rejected s.items s.keys.current →
    s'.keys.state = s.keys.state ∧ s'.keys.version = s.keys.version ∧ s'.accepted = s.accepted ∧
      attempt.result.subject = rejectedSubject
  accepted : ¬attempt.call.Rejected s.items s.keys.current →
    s'.accepted = s.accepted ++ [attempt.call] ∧
      attempt.result.subject = attempt.call.acceptedSubject

/-- The stored cart is the fold of the accepted commands in the order of their commits.  A step that
changes the keys commits one attempt, and the verdict on its command decides what it does.  No message
ID is committed twice; a call that returns, returns the result of the commit for its message ID, so that
all calls for a message ID return the same result. -/
structure State.Law (env : CartEnv) (userId : String) (s : State κ) : Prop where
  fold : s.items = itemsAfter (s.accepted.map Call.change)
  distinct : (s.items.map CartItem.productId).Nodup
  range : ∀ item ∈ s.items, 1 ≤ item.quantity ∧ item.quantity < 2 ^ 31
  sum : ∀ item ∈ s.items, item.quantity =
    ((sinceClear (s.accepted.map Call.change)).map (CartChange.delta item.productId)).sum
  version : s.keys.current = s.accepted.length
  decided : ∀ action s', s.step env userId action = some s' →
    (s'.keys = s.keys ∧ s'.log = s.log) ∨
      ∃ attempt, s'.log = s.log ++ [attempt] ∧ s.Decides s' attempt
  once : (s.log.map fun attempt => attempt.call.envelope.messageId).Nodup
  replied : ∀ c call commit, s.phase c = .returned call commit →
    ∃ attempt ∈ s.log,
      env.digest attempt.call.envelope.messageId = env.digest call.envelope.messageId ∧
      commit.result.subject = attempt.result.subject ∧
      commit.result.messageId = attempt.result.messageId ∧ commit.result.data = attempt.result.data
  same : ∀ c c' call call' commit commit', s.phase c = .returned call commit →
    s.phase c' = .returned call' commit' → call.envelope.messageId = call'.envelope.messageId →
    commit.result.subject = commit'.result.subject ∧
      commit.result.messageId = commit'.result.messageId ∧ commit.result.data = commit'.result.data

omit [DecidableEq κ] in
/-- A commit with status 0 does what the verdict on its command says. -/
lemma Inv.decides_committed (h : Inv env userId s)
    (hhonest : attempt.Honest env userId s.accepted) : s.Decides (s.committed attempt) attempt := by
  have hverdict := hhonest.verdict
  rw [← h.items, ← h.version] at hverdict
  refine ⟨fun hrejected => ?_, fun haccepted => ?_⟩
  · obtain ⟨hkeep, hsubject⟩ := hverdict.rejected hrejected
    refine ⟨?_, ?_, ?_, hsubject⟩
    · simp [State.committed, CartKeys.write, hkeep]
    · simp [State.committed, CartKeys.write, hkeep]
    · simp [State.accepted_committed, hkeep]
  · obtain ⟨hadvance, -, hsubject⟩ := hverdict.accepted haccepted
    exact ⟨by simp [State.accepted_committed, hadvance], hsubject⟩

/-- A step leaves the keys and the log, or commits an attempt whose command it decides. -/
lemma Inv.decided (h : Inv env userId s) (hbound : s.accepted.length < 10 ^ 14)
    (hstep : s.step env userId action = some s') :
    (s'.keys = s.keys ∧ s'.log = s.log) ∨
      ∃ attempt, s'.log = s.log ++ [attempt] ∧ s.Decides s' attempt := by
  rcases State.step_keys hstep with hsame | ⟨attempt, hattempt, hkeys, hlog⟩
  · exact .inl hsame
  have hok : AttemptOk env userId s attempt := by
    rcases hattempt with hflying | ⟨c, retries, hphase⟩
    · exact h.flying attempt hflying
    · exact h.of_phase hphase
  rcases s.execute_cases attempt with ⟨heq, -⟩ | ⟨-, hversion, -, heq⟩
  · rw [heq] at hkeys hlog
    exact .inl ⟨hkeys, hlog⟩
  change _ = s.committed attempt at heq
  rw [heq] at hkeys hlog
  have hdecides := h.decides_committed (h.honest_current hbound hok hversion)
  have haccepted : s'.accepted = (s.committed attempt).accepted := by
    simp only [State.accepted, hlog]
  refine .inr ⟨attempt, hlog, ?_, ?_⟩
  · rw [hkeys, haccepted]
    exact hdecides.rejected
  · rw [haccepted]
    exact hdecides.accepted

/-- In every state that any calls reach, by any interleaving of their scripts, with lost replies and
late commits, the cart obeys its law. -/
theorem cart_is_fold_of_accepted_commands
    (hrun : StepSystem.run (State.step env userId) {} acts = some s)
    (hversion : s.accepted.length < 10 ^ 14) : s.Law env userId := by
  have h := inv_of_run hrun hversion
  have hitems := h.items
  refine { fold := hitems, distinct := ?_, range := ?_, sum := ?_, version := h.version
           decided := fun action s' hstep => h.decided hversion hstep
           once := ?_, replied := ?_, same := ?_ }
  · rw [hitems]
    exact h.wellFormed.distinct
  · rw [hitems]
    exact h.wellFormed.range
  · rw [hitems]
    exact (quantity_eq_sum _).1
  · have hinbox : (s.log.map fun a => a.request.inbox) =
        (s.log.map fun a => a.call.envelope.messageId).map env.digest := by
      rw [List.map_map]
      exact List.map_congr_left fun a ha => (h.log a ha).1
    exact (hinbox ▸ h.once).of_map _
  · intro c call commit hc
    obtain ⟨attempt, hattempt, hkey, hresult⟩ : Recorded env s call.envelope.messageId commit.result :=
      h.of_phase hc
    exact ⟨attempt, hattempt, (h.log attempt hattempt).1.symm.trans hkey, hresult⟩
  · intro c c' call call' commit commit' hc hc' hsame
    have hr : Recorded env s call.envelope.messageId commit.result := h.of_phase hc
    have hr' : Recorded env s call'.envelope.messageId commit'.result := h.of_phase hc'
    exact h.recorded_unique hr (hsame ▸ hr')

end Invariant

/-! ## A sample run -/

/-- The text of its message type stands for the bytes of an envelope. -/
def sampleEnv : CartEnv where
  envelopeBytes := fun envelope => Bytes.getBytes envelope.messageType
  parseEnvelope := fun bytes =>
    some { messageId := "br1_add", messageType := Bytes.getString bytes, schemaVersion := 1
           occurredAt := unixEpoch, producer := "cartservice/phase4", aggregateType := "cart"
           aggregateId := "user", aggregateVersion := 1, correlationId := "trace"
           causationId := "add", traceparent := "", tracestate := ""
           data := .itemAdded "add" "user" "mug" 2 2
             { userId := "user", items := [⟨"mug", 2⟩], cartVersion := 1 } }
  resultHash := fun messageId _ => messageId
  digest := id

/-- A call that adds mugs to the cart. -/
def sampleCall (messageId : String) (quantity : ℤ) (hlower : -2 ^ 31 ≤ quantity)
    (hupper : quantity < 2 ^ 31) : Call where
  command := .addItem
    { commandId := messageId, userId := "user", productId := "mug", quantity := quantity
      lower := hlower, upper := hupper }
  envelope :=
    { messageId := messageId, messageType := "boutique.cart.AddItem.v1"
      occurredAt := some unixEpoch, producer := "storefront", aggregateType := "cart"
      aggregateId := "user", correlationId := "trace", data := .empty }

/-- The command to add two mugs. -/
def sampleAdd : Call := sampleCall "add" 2 (by decide) (by decide)

/-- The command to add too many mugs. -/
def sampleLimit : Call := sampleCall "limit" (2 ^ 31 - 1) (by decide) (by decide)

/-- A command is delivered twice; the first call loses the reply of its commit, which arrives before
that of the second call.  Another command is rejected. -/
def sampleActions : List (Action ℕ) :=
  [.start 0 sampleAdd, .load 0, .start 1 sampleAdd, .load 1, .commitLost 0, .arrive 0, .commit 1,
    .load 0, .commit 0, .start 2 sampleLimit, .load 2, .commit 2]

/-- The items, the version, the numbers of accepted commands and of commits, and the subjects and bytes
that the calls return. -/
structure Outcome where
  items : List CartItem
  version : ℕ
  accepted : ℕ
  commits : ℕ
  returned : List (String × List UInt8)
  deriving DecidableEq

/-- What is left of a run of three calls. -/
def State.outcome (s : State ℕ) : Outcome where
  items := s.items
  version := s.keys.current
  accepted := s.accepted.length
  commits := s.log.length
  returned := [0, 1, 2].filterMap fun c =>
    match s.phase c with
    | .returned _ commit => some (commit.result.subject, commit.result.data)
    | _ => none

/-- What is left of the sample run. -/
def sampleOutcome : Outcome where
  items := [{ productId := "mug", quantity := 2 }]
  version := 1
  accepted := 1
  commits := 2
  returned :=
    [("boutique.evt.cart.item-added.v1", Bytes.getBytes "boutique.cart.ItemAdded.v1"),
      ("boutique.evt.cart.item-added.v1", Bytes.getBytes "boutique.cart.ItemAdded.v1"),
      ("boutique.evt.cart.command-rejected.v1", Bytes.getBytes "boutique.cart.CommandRejected.v1")]

/-- The cart holds two mugs, and both calls for the first message return the result of its commit. -/
theorem redelivered_command_applied_once :
    ∃ s : State ℕ, StepSystem.run (State.step sampleEnv "user") {} sampleActions = some s ∧
      s.outcome = sampleOutcome ∧ s.Law sampleEnv "user" := by
  have houtcome : (StepSystem.run (State.step sampleEnv "user") ({} : State ℕ)
      sampleActions).map State.outcome = some sampleOutcome := by
    decide +kernel
  obtain ⟨s, hs, hleft⟩ := Option.map_eq_some_iff.mp houtcome
  have haccepted : s.accepted.length = 1 := congrArg Outcome.accepted hleft
  exact ⟨s, hs, hleft, cart_is_fold_of_accepted_commands hs (by rw [haccepted]; decide)⟩

end Boutique.CartStore
