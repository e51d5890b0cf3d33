import Boutique.Lib.CasLoop
import Boutique.Storefront.Projection

/-!
# The update loops of the projector

The bodies of the compare-and-set loops of `storefrontprojectionservice/projection.go`, one for each
kind of record.  Without other writers a loop stores what the update of the same name stores, so
whatever the replicas do, a record is what the projector alone makes of the events that were written, in
the order of the writes.
-/

namespace Boutique.Storefront

open CasLoop

/-- What is stored after an attempt that no other writer disturbs. -/
def stored {ι V : Type} (decision : Decision ι V Unit) (current : Option V) : Option V :=
  match decision with
  | .finish _ => current
  | .write _ value _ => some value

/-- `attempt < 20`. -/
def projectionAttempts : ℕ := 20

/-! ## Orders -/

/-- The calls that update an order record: `updateOrder` and `updateOrderSettlement`. -/
inductive OrderCall where
  | update (incoming : OrderView)
  | settle (orderId : String) (status : CartClearStatus) (failureCode : String) (updatedAt : Time)
      (source : ProjectionMetadata)
  deriving DecidableEq

/-- The ID of the event of a call. -/
def OrderCall.eventId : OrderCall → String
  | .update incoming => incoming.sourceEventId
  | .settle _ _ _ _ source => source.sourceEventId

/-- The late event of which `updateOrder` takes the user ID only. -/
def lateOrder (current incoming : OrderView) : OrderView :=
  { incoming with
    aggregateVersion := current.aggregateVersion, status := current.status
    stage := current.stage, snapshot := current.snapshot }

/-- An attempt of `updateOrder`.  A late event stays changed in the next attempt. -/
def decideOrder (incoming : OrderView) : Option OrderView → Decision OrderCall OrderView Unit
  | none => .write (.update incoming) incoming ()
  | some current =>
    if projectionApplied current.toProjectionMetadata incoming.sourceEventId then .finish ()
    else if incoming.aggregateVersion < current.aggregateVersion then
      if current.userId ≠ "" || incoming.userId = "" then .finish ()
      else .write (.update (lateOrder current incoming))
        (mergeOrder current (lateOrder current incoming)) ()
    else .write (.update incoming) (mergeOrder current incoming) ()

/-- An attempt of `updateOrderSettlement`. -/
def decideSettlement (orderId : String) (status : CartClearStatus) (failureCode : String)
    (updatedAt : Time) (source : ProjectionMetadata) (current : Option OrderView) :
    Decision OrderCall OrderView Unit :=
  let call := OrderCall.settle orderId status failureCode updatedAt source
  let next := settlementAfter current orderId status failureCode updatedAt source
  match current with
  | none => .write call next ()
  | some current =>
    if projectionApplied current.toProjectionMetadata source.sourceEventId then .finish ()
    else .write call next ()

/-- The loops on an order record. -/
def orderLoop : Loop OrderCall OrderView Unit where
  decide
    | .update incoming => decideOrder incoming
    | .settle orderId status failureCode updatedAt source =>
      decideSettlement orderId status failureCode updatedAt source
  maxAttempts := projectionAttempts

/-- `updateOrder` as the only writer. -/
lemma updateOrder_eq (buckets : Buckets) (incoming : OrderView) (hid : incoming.orderId ≠ "") :
    updateOrder buckets incoming = .ok { buckets with
      orders := Function.update buckets.orders incoming.orderId
        (stored (orderLoop.decide (.update incoming) (buckets.orders incoming.orderId))
          (buckets.orders incoming.orderId)) } := by
  simp only [updateOrder, hid, if_false, orderLoop]
  cases hcurrent : buckets.orders incoming.orderId with
  | none => rfl
  | some current =>
    simp only [decideOrder, orderAfter, lateOrder]
    split_ifs <;> rfl

/-- `updateOrderSettlement` as the only writer. -/
lemma updateOrderSettlement_eq (buckets : Buckets) (orderId : String) (status : CartClearStatus)
    (failureCode : String) (updatedAt : Time) (source : ProjectionMetadata) (hid : orderId ≠ "")
    (hstatus : status ≠ .unset) :
    updateOrderSettlement buckets orderId status failureCode updatedAt source = .ok { buckets with
      orders := Function.update buckets.orders orderId
        (stored (orderLoop.decide (.settle orderId status failureCode updatedAt source)
          (buckets.orders orderId)) (buckets.orders orderId)) } := by
  simp only [updateOrderSettlement, hid, hstatus, decide_false, Bool.or_self, Bool.false_eq_true,
    if_false, orderLoop]
  cases hcurrent : buckets.orders orderId with
  | none => rfl
  | some current =>
    simp only [decideSettlement, settlementAfter]
    split_ifs <;> rfl

/-! ## Operations -/

/-- The loop of `updateOperation`. -/
def operationLoop : Loop OperationView OperationView Unit where
  decide incoming
    | none => .write incoming incoming ()
    | some current =>
      if projectionApplied current.toProjectionMetadata incoming.sourceEventId then .finish ()
      else .write incoming (mergeOperation current incoming) ()
  maxAttempts := projectionAttempts

/-- `updateOperation` as the only writer. -/
lemma updateOperation_eq (buckets : Buckets) (incoming : OperationView)
    (hid : incoming.operationId ≠ "") (hcommand : incoming.commandId ≠ "")
    (huser : incoming.userId ≠ "") :
    updateOperation buckets incoming = .ok { buckets with
      operations := Function.update buckets.operations incoming.operationId
        (stored (operationLoop.decide incoming (buckets.operations incoming.operationId))
          (buckets.operations incoming.operationId)) } := by
  simp only [updateOperation, hid, hcommand, huser, if_false, decide_false, Bool.or_self,
    Bool.false_eq_true, operationLoop]
  cases hcurrent : buckets.operations incoming.operationId with
  | none => rfl
  | some current =>
    simp only
    split_ifs <;> rfl

/-! ## Carts and quotes -/

/-- The loop of `updateCart`. -/
def cartLoop : Loop CartView CartView Unit where
  decide next
    | none => .write next next ()
    | some current =>
      if current.sourceEventId = next.sourceEventId then .finish ()
      else if next.cart.cartVersion ≤ current.cart.cartVersion then .finish ()
      else .write next next ()
  maxAttempts := projectionAttempts

/-- `updateCart` as the only writer. -/
lemma updateCart_eq (buckets : Buckets) (cart : CartSnapshot) (updatedAt : Time)
    (source : ProjectionMetadata) (huser : cart.userId ≠ "") :
    updateCart buckets (some cart) updatedAt source = .ok { buckets with
      carts := Function.update buckets.carts cart.userId
        (stored (cartLoop.decide { source with cart := cart, updatedAt := updatedAt }
          (buckets.carts cart.userId)) (buckets.carts cart.userId)) } := by
  simp only [updateCart, huser, if_false, cartLoop]
  cases hcurrent : buckets.carts cart.userId with
  | none => rfl
  | some current =>
    simp only
    split_ifs <;> rfl

/-- The loop of `updateCartQuote`. -/
def cartQuoteLoop : Loop CartQuoteView CartQuoteView Unit where
  decide incoming
    | none => .write incoming incoming ()
    | some current =>
      if current.sourceEventId = incoming.sourceEventId then .finish ()
      else if incoming.cartVersion < current.cartVersion ∨
          incoming.cartVersion = current.cartVersion ∧ incoming.updatedAt ≤ current.updatedAt then
        .finish ()
      else .write incoming incoming ()
  maxAttempts := projectionAttempts

/-- `updateCartQuote` as the only writer. -/
lemma updateCartQuote_eq (buckets : Buckets) (incoming : CartQuoteView)
    (huser : incoming.userId ≠ "") (hversion : incoming.cartVersion ≠ 0) :
    updateCartQuote buckets incoming = .ok { buckets with
      quotes := Function.update buckets.quotes incoming.userId
        (stored (cartQuoteLoop.decide incoming (buckets.quotes incoming.userId))
          (buckets.quotes incoming.userId)) } := by
  simp only [updateCartQuote, huser, hversion, decide_false, Bool.or_self, Bool.false_eq_true,
    if_false, cartQuoteLoop]
  cases hcurrent : buckets.quotes incoming.userId with
  | none => rfl
  | some current =>
    simp only
    split_ifs <;> rfl

/-! ## Records with a version of their own -/

/-- A call of `updateJSON`. -/
structure JsonCall (T : Type) where
  incomingVersion : ℕ
  incomingSourceEventId : String
  next : T

/-- The calls of `updateJSON` that `applyEnvelope` makes: the version and the event ID that are passed
are those of the record. -/
def JsonCall.WellFormed {T : Type} (currentVersion : T → ℕ) (currentSourceEventId : T → String)
    (call : JsonCall T) : Prop :=
  currentVersion call.next = call.incomingVersion ∧
    currentSourceEventId call.next = call.incomingSourceEventId

/-- The loop of `updateJSON`. -/
def jsonLoop {T : Type} (currentVersion : T → ℕ) (currentSourceEventId : T → String) :
    Loop (JsonCall T) T Unit where
  decide call
    | none => .write call call.next ()
    | some current =>
      if currentSourceEventId current ≠ "" ∧
          currentSourceEventId current = call.incomingSourceEventId then .finish ()
      else if call.incomingVersion ≤ currentVersion current then .finish ()
      else .write call call.next ()
  maxAttempts := projectionAttempts

/-- `updateJSON` as the only writer. -/
lemma updateJSON_eq {T : Type} (currentVersion : T → ℕ) (currentSourceEventId : T → String)
    (current : Option T) (call : JsonCall T) :
    some (updateJSON current call.incomingVersion currentVersion currentSourceEventId
        call.incomingSourceEventId call.next) =
      stored ((jsonLoop currentVersion currentSourceEventId).decide call current) current := by
  cases current with
  | none => rfl
  | some current =>
    simp only [updateJSON, jsonLoop]
    split_ifs <;> rfl

/-! ## One writer -/

section Serial

variable {κ R ι V : Type} [DecidableEq κ] [DecidableEq R] {N : Net κ R} {L : Loop ι V Unit}
  {P : ι → Prop} {update : Buckets → ι → Except ProjectionError Buckets} {get : Buckets → Option V}

/-- On inputs in `P` an update stores in the record what an attempt of the loop decides on it, and no
attempt leads out of `P`. -/
structure Alone (L : Loop ι V Unit) (P : ι → Prop)
    (update : Buckets → ι → Except ProjectionError Buckets) (get : Buckets → Option V) : Prop where
  update : ∀ buckets input, P input → ∃ buckets', update buckets input = .ok buckets' ∧
    get buckets' = stored (L.decide input (get buckets)) (get buckets)
  closed : Closed L P

/-- Every run of the loop leaves in the record what the updates leave that are made one after the other
with the inputs of the writes. -/
def Serial (N : Net κ R) (L : Loop ι V Unit) (P : ι → Prop)
    (update : Buckets → ι → Except ProjectionError Buckets) (get : Buckets → Option V) : Prop :=
  ∀ (acts : List (CasLoop.Action κ R ι)) (s : State κ R ι V Unit) (buckets : Buckets),
    (∀ c input, Action.start c input ∈ acts → P input) →
    StepSystem.run (CasLoop.step L N) {} acts = some s → get buckets = none →
    ∃ buckets', s.log.foldlM (fun buckets w => update buckets w.input) buckets = .ok buckets' ∧
      get buckets' = current s.log

/-- Attempts that keep their input do not lead out of any set of inputs. -/
lemma closed_of_keep (h : ∀ input v next value result,
    L.decide input v = .write next value result → next = input) : Closed L P := by
  intro input v next value result hinput hdecide
  rw [h input v next value result hdecide]
  exact hinput

omit [DecidableEq κ] in
/-- The updates with the inputs of the writes, one after the other. -/
lemma Alone.foldlM (h : Alone L P update get) {log : List (Write κ ι V)} (hlog : Written L log)
    (hinputs : ∀ w ∈ log, P w.input) {buckets : Buckets} (hnone : get buckets = none) :
    ∃ buckets', log.foldlM (fun buckets w => update buckets w.input) buckets = .ok buckets' ∧
      get buckets' = current log := by
  induction log using List.reverseRecOn with
  | nil => exact ⟨buckets, rfl, hnone⟩
  | append_singleton log last ih =>
    obtain ⟨before, hfold, hget⟩ := ih hlog.left fun w hw => hinputs w (List.mem_append_left _ hw)
    obtain ⟨after, hupdate, hstored⟩ := h.update before last.input (hinputs last (by simp))
    obtain ⟨next, result, hdecide⟩ := hlog log last [] rfl
    refine ⟨after, ?_, ?_⟩
    · rw [List.foldlM_append, hfold]
      simp [bind, Except.bind, hupdate, pure, Except.pure]
    · rw [hstored, hget, hdecide, current_concat]
      rfl

/-- A loop whose attempts are an update is serial. -/
theorem Alone.serial (h : Alone L P update get) : Serial N L P update get := by
  intro acts s buckets hstart hrun hnone
  have hinputs : Inputs (fun _ => P) s := inputs_of_run (fun _ => h.closed) hstart hrun
  exact h.foldlM (sound_of_run hrun).written hinputs.log hnone

end Serial

/-- The call is for the order, and its identity is complete. -/
def OrderCall.For (orderId : String) : OrderCall → Prop
  | .update incoming => incoming.orderId = orderId
  | .settle id status _ _ _ => id = orderId ∧ status ≠ .unset

/-- The update of a call. -/
def OrderCall.apply (buckets : Buckets) : OrderCall → Except ProjectionError Buckets
  | .update incoming => updateOrder buckets incoming
  | .settle orderId status failureCode updatedAt source =>
    updateOrderSettlement buckets orderId status failureCode updatedAt source

/-- The update loops on an order record. -/
lemma orderLoop_alone {orderId : String} (hid : orderId ≠ "") :
    Alone orderLoop (OrderCall.For orderId) OrderCall.apply fun buckets => buckets.orders orderId where
  update := by
    intro buckets call hcall
    cases call with
    | update incoming =>
      obtain rfl : incoming.orderId = orderId := hcall
      exact ⟨_, updateOrder_eq buckets incoming hid, Function.update_self ..⟩
    | settle id status failureCode updatedAt source =>
      obtain ⟨rfl, hstatus⟩ := hcall
      exact ⟨_, updateOrderSettlement_eq buckets _ _ _ _ _ hid hstatus, Function.update_self ..⟩
  closed := by
    intro call current next value result hcall hdecide
    cases call with
    | update incoming =>
      cases current with
      | none =>
        cases hdecide
        exact hcall
      | some current =>
        simp only [orderLoop, decideOrder] at hdecide
        split_ifs at hdecide <;> cases hdecide
        · exact hcall
        · exact hcall
    | settle id status failureCode updatedAt source =>
      cases current with
      | none =>
        cases hdecide
        exact hcall
      | some current =>
        simp only [orderLoop, decideSettlement] at hdecide
        split_ifs at hdecide
        cases hdecide
        exact hcall

/-- The update loop on an operation record. -/
lemma operationLoop_alone {operationId : String} (hid : operationId ≠ "") :
    Alone operationLoop
      (fun view => view.operationId = operationId ∧ view.commandId ≠ "" ∧ view.userId ≠ "")
      updateOperation fun buckets => buckets.operations operationId where
  update := by
    rintro buckets view ⟨rfl, hcommand, huser⟩
    exact ⟨_, updateOperation_eq buckets view hid hcommand huser, Function.update_self ..⟩
  closed := by
    refine closed_of_keep fun view current next value result hdecide => ?_
    cases current with
    | none =>
      cases hdecide
      rfl
    | some current =>
      simp only [operationLoop] at hdecide
      split_ifs at hdecide
      cases hdecide
      rfl

/-- The update loop on the record of a cart. -/
lemma cartLoop_alone {userId : String} (hid : userId ≠ "") :
    Alone cartLoop (fun view => view.cart.userId = userId)
      (fun buckets view => updateCart buckets (some view.cart) view.updatedAt view.toProjectionMetadata)
      fun buckets => buckets.carts userId where
  update := by
    rintro buckets view rfl
    exact ⟨_, updateCart_eq buckets view.cart view.updatedAt _ hid, Function.update_self ..⟩
  closed := by
    refine closed_of_keep fun view current next value result hdecide => ?_
    cases current with
    | none =>
      cases hdecide
      rfl
    | some current =>
      simp only [cartLoop] at hdecide
      split_ifs at hdecide
      cases hdecide
      rfl

/-- The update loop on the quote of a cart. -/
lemma cartQuoteLoop_alone {userId : String} (hid : userId ≠ "") :
    Alone cartQuoteLoop (fun view => view.userId = userId ∧ view.cartVersion ≠ 0) updateCartQuote
      fun buckets => buckets.quotes userId where
  update := by
    rintro buckets view ⟨rfl, hversion⟩
    exact ⟨_, updateCartQuote_eq buckets view hid hversion, Function.update_self ..⟩
  closed := by
    refine closed_of_keep fun view current next value result hdecide => ?_
    cases current with
    | none =>
      cases hdecide
      rfl
    | some current =>
      simp only [cartQuoteLoop] at hdecide
      split_ifs at hdecide
      cases hdecide
      rfl

/-- The loop of `updateJSON`, on the record that an update stores. -/
lemma jsonLoop_alone {T : Type} {currentVersion : T → ℕ} {currentSourceEventId : T → String}
    {update : Buckets → JsonCall T → Buckets} {get : Buckets → Option T}
    (hupdate : ∀ buckets call, call.WellFormed currentVersion currentSourceEventId →
      get (update buckets call) = some (updateJSON (get buckets) call.incomingVersion currentVersion
        currentSourceEventId call.incomingSourceEventId call.next)) :
    Alone (jsonLoop currentVersion currentSourceEventId)
      (fun call => call.WellFormed currentVersion currentSourceEventId)
      (fun buckets call => .ok (update buckets call)) get where
  update := by
    intro buckets call hcall
    exact ⟨_, rfl, (hupdate buckets call hcall).trans (updateJSON_eq _ _ _ call)⟩
  closed := by
    refine closed_of_keep fun call current next value result hdecide => ?_
    cases current with
    | none =>
      cases hdecide
      rfl
    | some current =>
      simp only [jsonLoop] at hdecide
      split_ifs at hdecide
      cases hdecide
      rfl

/-- Whatever the replicas do, every record that the update loops write is what the projector alone makes
of the written events, in the order of the writes. -/
theorem update_loops_serial {κ R : Type} [DecidableEq κ] [DecidableEq R] (N : Net κ R) {id : String}
    (hid : id ≠ "") :
    Serial N orderLoop (OrderCall.For id) OrderCall.apply (fun buckets => buckets.orders id) ∧
      Serial N operationLoop
        (fun view => view.operationId = id ∧ view.commandId ≠ "" ∧ view.userId ≠ "") updateOperation
        (fun buckets => buckets.operations id) ∧
      Serial N cartLoop (fun view => view.cart.userId = id)
        (fun buckets view =>
          updateCart buckets (some view.cart) view.updatedAt view.toProjectionMetadata)
        (fun buckets => buckets.carts id) ∧
      Serial N cartQuoteLoop (fun view => view.userId = id ∧ view.cartVersion ≠ 0) updateCartQuote
        (fun buckets => buckets.quotes id) ∧
      Serial N (jsonLoop ProductView.productVersion fun view => view.sourceEventId)
        (fun call => call.WellFormed ProductView.productVersion fun view => view.sourceEventId)
        (fun buckets call => .ok (updateProduct buckets id call.incomingVersion call.next))
        (fun buckets => buckets.products id) ∧
      Serial N (jsonLoop CatalogView.catalogRevision fun view => view.sourceEventId)
        (fun call => call.WellFormed CatalogView.catalogRevision fun view => view.sourceEventId)
        (fun buckets call => .ok (updateCatalog buckets call.next)) Buckets.catalog ∧
      Serial N (jsonLoop CurrencyView.rateRevision fun view => view.sourceEventId)
        (fun call => call.WellFormed CurrencyView.rateRevision fun view => view.sourceEventId)
        (fun buckets call => .ok (updateCurrency buckets call.next)) Buckets.currency := by
  refine ⟨(orderLoop_alone hid).serial, (operationLoop_alone hid).serial, (cartLoop_alone hid).serial,
    (cartQuoteLoop_alone hid).serial, (jsonLoop_alone ?_).serial, (jsonLoop_alone ?_).serial,
    (jsonLoop_alone ?_).serial⟩
  · rintro buckets call ⟨-, hsource⟩
    simp only [updateProduct, Function.update_self, ← hsource]
  · rintro buckets call ⟨hversion, hsource⟩
    simp only [updateCatalog, ← hversion, ← hsource]
  · rintro buckets call ⟨hversion, hsource⟩
    simp only [updateCurrency, ← hversion, ← hsource]

end Boutique.Storefront
