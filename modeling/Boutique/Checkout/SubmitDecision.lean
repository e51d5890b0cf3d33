import Boutique.Checkout.Contract

/-!
# When a submitted order is decided

A submit command that checkout has caught up with is decided by `applyOrderCommand`: the order is
rejected, or accepted with its snapshot.  `validateOrderCommand` tests that the base currency of the
rates can be converted.  `buildOrderSnapshot` converts the prices of the products, and returns an error
where a price is missing or its currency has no rate.  The command is then redelivered.
-/

namespace Boutique

variable {env : CheckoutEnv} {state : PersistedState} {envelope : MessageEnvelope}
  {payload : OrderSubmitCommand}

/-! ## The decision -/

/-- The workspace that `ApplyOrder` loads for a new order. -/
structure NewOrder (state : PersistedState) (envelope : MessageEnvelope) : Prop where
  input : state.input = some envelope
  time : envelope.occurredAt = some state.transitionTime
  inbox : state.inbox envelope.messageId = none
  order : state.orders = none

/-- A submit command of a new order that `decodeOrderCommand` accepts and that the projections have
caught up with. -/
structure CaughtUp (state : PersistedState) (envelope : MessageEnvelope)
    (payload : OrderSubmitCommand) : Prop extends NewOrder state envelope where
  decoded : decodeOrderCommand envelope = .ok payload
  projected : validateOrderProjection state envelope payload = .ok ()

/-- The order is rejected with an order.rejected result, or it waits for the quote and has an
order.submitted result and the quote command. -/
def Decided (env : CheckoutEnv) (state : PersistedState) (envelope : MessageEnvelope)
    (payload : OrderSubmitCommand) : Prop :=
  ∃ state', applyOrderCommand env state envelope payload = .ok state' ∧
    ((∃ failure, state'.orders = some (rejectedSaga payload) ∧
        state'.results = state.results ++
          [queuedResult env envelope state .orderRejected "order" payload.orderId 1
            (.orderRejected payload.operationId payload.orderId (some failure))]) ∨
      ∃ cart snapshot, state'.orders = some (acceptedSaga env state payload snapshot) ∧
        state'.results = state.results ++
          [queuedResult env envelope state .orderSubmitted "order" payload.orderId 1
            (.orderSubmitted payload.operationId (some snapshot) payload.expectedCartVersion
              payload.expectedCatalogRevision payload.expectedRateRevision),
           queuedResult env envelope state .calculateOrderQuote "order" payload.orderId 1
            (.calculateOrderQuote (env.stableID ["quote", payload.orderId]) payload.orderId
              payload.shippingAddress cart)])

/-- The product of a line has a price in a currency with a rate that is not zero. -/
def PricedLine (state : PersistedState) (line : CartLine) : Prop :=
  ∃ product price rates rate, state.products line.productId = some product ∧
    product.priceUsd = some price ∧ state.rates = some rates ∧
    rateOf rates price.currencyCode = some rate ∧ rate ≠ 0

/-! ## Conversions -/

/-- A conversion needs both rates, the first not zero. -/
lemma convertMoney_isSome_iff {round64 : ℚ → ℚ} {rates : Option CurrencyRatesUpdatedEvent}
    {value : Option Money} {toCode : String} :
    (convertMoney round64 rates value toCode).isSome = true ↔
      ∃ table money fromRate toRate, rates = some table ∧ value = some money ∧
        rateOf table money.currencyCode = some fromRate ∧ rateOf table toCode = some toRate ∧
        fromRate ≠ 0 := by
  cases rates with
  | none => simp [convertMoney]
  | some table =>
    cases value with
    | none => simp [convertMoney]
    | some money =>
      simp only [convertMoney, Option.some.injEq, exists_and_left, exists_eq_left']
      cases rateOf table money.currencyCode with
      | none => simp
      | some fromRate =>
        cases rateOf table toCode with
        | none => simp
        | some toRate =>
          by_cases hzero : fromRate = 0
          · simp [hzero]
          · simp only [hzero, if_false, ne_eq, Option.some.injEq, exists_eq_left']
            split_ifs <;> simp

/-- The loop goes on with a line whose price can be converted. -/
lemma addOrderLine_eq_ok_iff (env : CheckoutEnv) (snapshot : SanitizedOrderSnapshot) {line : CartLine}
    (hcode : ∃ table rate, state.rates = some table ∧ rateOf table payload.currencyCode = some rate) :
    (∃ next, addOrderLine env state payload snapshot line = .ok next) ↔ PricedLine state line := by
  obtain ⟨table, toRate, htable, hto⟩ := hcode
  unfold addOrderLine PricedLine
  cases hproduct : state.products line.productId with
  | none => simp
  | some product =>
    simp only
    cases hcost : convertMoney env.round64 state.rates product.priceUsd payload.currencyCode with
    | none =>
      refine iff_of_false (by simp) ?_
      rintro ⟨_, price, rates, rate, ⟨⟩, hprice, hrates, hrate, hne⟩
      have hsome : (convertMoney env.round64 state.rates product.priceUsd
          payload.currencyCode).isSome = true := by
        rw [convertMoney_isSome_iff]
        obtain rfl : table = rates := Option.some.inj (htable.symm.trans hrates)
        exact ⟨table, price, rate, toRate, hrates, hprice, hrate, hto, hne⟩
      rw [hcost] at hsome
      cases hsome
    | some cost =>
      refine iff_of_true ⟨_, rfl⟩ ?_
      have hsome : (convertMoney env.round64 state.rates product.priceUsd
          payload.currencyCode).isSome = true := by
        rw [hcost]
        rfl
      obtain ⟨rates, price, rate, _, hrates, hprice, hrate, -, hne⟩ :=
        convertMoney_isSome_iff.mp hsome
      exact ⟨product, price, rates, rate, rfl, hprice, hrates, hrate, hne⟩

/-- A snapshot is built when every line can be priced. -/
lemma buildOrderSnapshot_eq_ok_iff {cart : CartSnapshot}
    (hcode : ∃ table rate, state.rates = some table ∧ rateOf table payload.currencyCode = some rate) :
    (∃ snapshot, buildOrderSnapshot env state cart payload = .ok snapshot) ↔
      ∀ line ∈ cart.items, PricedLine state line := by
  unfold buildOrderSnapshot
  generalize emptySnapshot payload = snapshot
  induction cart.items generalizing snapshot with
  | nil => exact iff_of_true ⟨snapshot, rfl⟩ (by simp)
  | cons line lines ih =>
    rw [List.forall_mem_cons, ← addOrderLine_eq_ok_iff env snapshot hcode]
    constructor
    · rintro ⟨last, hlast⟩
      rw [List.foldlM_cons] at hlast
      obtain ⟨next, hnext, hrest⟩ := bind_eq_ok.mp hlast
      exact ⟨⟨next, hnext⟩, (ih next).mp ⟨last, hrest⟩⟩
    · rintro ⟨⟨next, hnext⟩, hrest⟩
      obtain ⟨last, hlast⟩ := (ih next).mpr hrest
      exact ⟨last, by rw [List.foldlM_cons, hnext]; exact hlast⟩

/-! ## Results -/

/-- The checks of `NewResultEnvelope` on a result of an order. -/
lemma newResultEnvelope_eq_ok_iff {hash : String → String → String} {spec : ResultSpec} :
    (∃ result, newResultEnvelope hash envelope spec = .ok result) ↔
      (isBlank envelope.messageId = false ∧ isBlank envelope.correlationId = false) ∧ SpecOk spec := by
  constructor
  · rintro ⟨result, hresult⟩
    unfold newResultEnvelope deriveResultMessageID at hresult
    split_ifs at hresult with hmessage hcorrelation hproducer haggregate hversion hzero hslot htime
    rw [Bool.not_eq_true] at hmessage hcorrelation
    rw [Bool.not_eq_true, Bool.or_eq_false_iff] at hproducer haggregate
    rw [Bool.not_eq_true, Bool.not_eq_false'] at hslot
    exact ⟨⟨hmessage, hcorrelation⟩, hslot, hproducer.1, hproducer.2, haggregate.2, haggregate.1,
      hversion, hzero, htime⟩
  · rintro ⟨⟨hmessage, hcorrelation⟩, hspec⟩
    refine ⟨resultEnvelope envelope spec ("br1_" ++ hash envelope.messageId spec.slot), ?_⟩
    simp [newResultEnvelope, deriveResultMessageID, hmessage, hcorrelation, hspec.slot,
      hspec.messageType, hspec.producer, hspec.aggregateType, hspec.aggregateId,
      hspec.aggregateVersion, hspec.occurredAt, hspec.timestamp]

/-- A result of an order is queued exactly if the envelope is complete and the order ID is not blank. -/
lemma queueEnvelope_order_iff (env : CheckoutEnv) (hinput : state.input = some envelope)
    (htime : envelope.occurredAt = some state.transitionTime) (subject : ResultSubject)
    (orderId : String) {version : ℕ} (hversion : version ≠ 0) (data : Payload) :
    (∃ state', queueEnvelope env state subject "order" orderId version data = .ok state') ↔
      EnvelopeOk envelope ∧ isBlank orderId = false := by
  have hspec : SpecOk (resultSpec state subject "order" orderId version data) ↔
      isBlank orderId = false ∧ state.transitionTime ≠ 0 ∧
        validTimestamp state.transitionTime = true := by
    constructor
    · intro h
      exact ⟨h.aggregateId, h.occurredAt, h.timestamp⟩
    · rintro ⟨hid, hzero, hvalid⟩
      refine ⟨?_, ?_, ?_, ?_, hid, hversion, hzero, hvalid⟩
      · show validSlot (resultSlotForSubject subject) = true
        cases subject <;> decide
      · show isBlank subject.messageType = false
        cases subject <;> decide
      · exact (by decide : isBlank "checkoutservice/phase5" = false)
      · exact (by decide : isBlank "order" = false)
  have hqueued : (∃ state', queueEnvelope env state subject "order" orderId version data =
      .ok state') ↔ ∃ result, newResultEnvelope env.resultHash envelope
        (resultSpec state subject "order" orderId version data) = .ok result := by
    simp only [queueEnvelope, hinput]
    cases newResultEnvelope env.resultHash envelope
        (resultSpec state subject "order" orderId version data) with
    | error text => simp
    | ok result => simp
  rw [hqueued, newResultEnvelope_eq_ok_iff, hspec]
  constructor
  · rintro ⟨⟨hmessage, hcorrelation⟩, hid, hzero, hvalid⟩
    exact ⟨⟨hmessage, hcorrelation, _, htime, hzero, hvalid⟩, hid⟩
  · rintro ⟨⟨hmessage, hcorrelation, time, hoccurred, hzero, hvalid⟩, hid⟩
    obtain rfl : time = state.transitionTime := Option.some.inj (hoccurred.symm.trans htime)
    exact ⟨⟨hmessage, hcorrelation⟩, hid, hzero, hvalid⟩

/-! ## New orders -/

/-- The two outcomes of `applyOrderCommand` for a new order. -/
lemma NewOrder.applyOrderCommand_eq (h : NewOrder state envelope) :
    applyOrderCommand env state envelope payload =
      match validateOrderCommand env state (state.carts payload.userId) payload with
      | some failure => rejectOrder env state envelope payload failure
      | none =>
        match state.carts payload.userId with
        | none => .error .nilPointer
        | some cart => acceptOrder env state envelope payload cart := by
  unfold applyOrderCommand
  rw [h.inbox, h.order]
  rfl

/-- An order is rejected exactly if its result can be queued. -/
lemma NewOrder.rejectOrder_iff (env : CheckoutEnv) (h : NewOrder state envelope)
    (payload : OrderSubmitCommand) (failure : Failure) :
    (∃ state', rejectOrder env state envelope payload failure = .ok state') ↔
      EnvelopeOk envelope ∧ isBlank payload.orderId = false := by
  have hqueue := @queueEnvelope_order_iff (state.setOrder (rejectedSaga payload)) envelope env
    h.input h.time .orderRejected payload.orderId 1 one_ne_zero
    (.orderRejected payload.operationId payload.orderId (some failure))
  rw [← hqueue]
  constructor
  · rintro ⟨state', hreject⟩
    obtain ⟨queued, hqueued, -⟩ := bind_eq_ok.mp hreject
    exact ⟨queued, hqueued⟩
  · rintro ⟨queued, hqueued⟩
    exact ⟨_, bind_eq_ok.mpr ⟨queued, hqueued, rfl⟩⟩

/-- A valid order is accepted exactly if its snapshot can be built and its results can be queued. -/
lemma NewOrder.acceptOrder_iff (env : CheckoutEnv) (h : NewOrder state envelope)
    (payload : OrderSubmitCommand) (cart : CartSnapshot) :
    (∃ state', acceptOrder env state envelope payload cart = .ok state') ↔
      (EnvelopeOk envelope ∧ isBlank payload.orderId = false) ∧
        ∃ snapshot, buildOrderSnapshot env state cart payload = .ok snapshot := by
  constructor
  · rintro ⟨state', haccept⟩
    obtain ⟨snapshot, hsnapshot, hrest⟩ := bind_eq_ok.mp haccept
    obtain ⟨submitted, hsubmitted, -⟩ := bind_eq_ok.mp hrest
    refine ⟨?_, snapshot, hsnapshot⟩
    exact (@queueEnvelope_order_iff (state.setOrder (acceptedSaga env state payload snapshot))
      envelope env h.input h.time .orderSubmitted payload.orderId 1 one_ne_zero _).mp
        ⟨submitted, hsubmitted⟩
  · rintro ⟨hok, snapshot, hsnapshot⟩
    obtain ⟨submitted, hsubmitted⟩ :=
      (@queueEnvelope_order_iff (state.setOrder (acceptedSaga env state payload snapshot))
        envelope env h.input h.time .orderSubmitted payload.orderId 1 one_ne_zero
        (.orderSubmitted payload.operationId (some snapshot) payload.expectedCartVersion
          payload.expectedCatalogRevision payload.expectedRateRevision)).mpr hok
    have hstate := queueEnvelope_eq_ok hsubmitted h.input
    have hinput : submitted.input = some envelope := by
      rw [hstate]
      exact h.input
    have htime : envelope.occurredAt = some submitted.transitionTime := by
      rw [hstate]
      exact h.time
    obtain ⟨quoted, hquoted⟩ := (@queueEnvelope_order_iff submitted envelope env hinput htime
      .calculateOrderQuote payload.orderId 1 one_ne_zero
      (.calculateOrderQuote (env.stableID ["quote", payload.orderId]) payload.orderId
        payload.shippingAddress cart)).mpr hok
    exact ⟨_, bind_eq_ok.mpr ⟨snapshot, hsnapshot, bind_eq_ok.mpr ⟨submitted, hsubmitted,
      bind_eq_ok.mpr ⟨quoted, hquoted, rfl⟩⟩⟩⟩

/-- A new order that is applied without an error is decided. -/
lemma NewOrder.decided_iff (env : CheckoutEnv) (h : NewOrder state envelope)
    (payload : OrderSubmitCommand) :
    Decided env state envelope payload ↔
      ∃ state', applyOrderCommand env state envelope payload = .ok state' := by
  refine ⟨fun ⟨state', happlied, _⟩ => ⟨state', happlied⟩, ?_⟩
  rintro ⟨state', happlied⟩
  refine ⟨state', happlied, ?_⟩
  rw [h.applyOrderCommand_eq] at happlied
  split at happlied
  next failure _ =>
    left
    obtain ⟨queued, hqueued, hstate⟩ := bind_eq_ok.mp happlied
    cases hstate
    rw [queueEnvelope_eq_ok hqueued h.input]
    exact ⟨failure, rfl, rfl⟩
  next =>
    split at happlied
    · cases happlied
    next cart _ =>
      right
      obtain ⟨snapshot, hsnapshot, hrest⟩ := bind_eq_ok.mp happlied
      obtain ⟨submitted, hsubmitted, hrest⟩ := bind_eq_ok.mp hrest
      obtain ⟨quoted, hquoted, hstate⟩ := bind_eq_ok.mp hrest
      cases hstate
      have hsubmitted := queueEnvelope_eq_ok hsubmitted h.input
      rw [queueEnvelope_eq_ok hquoted (by rw [hsubmitted]; exact h.input), hsubmitted]
      refine ⟨cart, snapshot, rfl, ?_⟩
      show (state.results ++ [_]) ++ [_] = _
      rw [List.append_assoc]
      rfl

/-- A command that is valid has a cart, and its currency has a rate. -/
lemma validateOrderCommand_eq_none {cart : Option CartSnapshot}
    (h : validateOrderCommand env state cart payload = none) :
    cart.isSome = true ∧
      ∃ table rate, state.rates = some table ∧ rateOf table payload.currencyCode = some rate := by
  cases cart with
  | none => cases h
  | some cart =>
    refine ⟨rfl, ?_⟩
    unfold validateOrderCommand at h
    simp only at h
    split at h
    · cases h
    split at h
    · cases h
    split at h
    · cases h
    split at h
    · cases h
    next rates hrates =>
      split_ifs at h with hrevision hcontact hline hconvert
      have hsome : (convertMoney env.round64 state.rates
          (some { currencyCode := rates.baseCurrencyCode }) payload.currencyCode).isSome = true := by
        rwa [← Option.not_isNone, Bool.not_eq_true', ← Bool.not_eq_true]
      obtain ⟨table, _, _, toRate, htable, -, -, hto, -⟩ := convertMoney_isSome_iff.mp hsome
      exact ⟨table, toRate, htable, hto⟩

/-- What a command needs for its decision: a complete envelope, an order ID that is not blank, and a
price that can be converted for each line of the cart, unless the order is rejected anyway. -/
structure ReadyToDecide (env : CheckoutEnv) (state : PersistedState) (envelope : MessageEnvelope)
    (payload : OrderSubmitCommand) : Prop where
  envelopeOk : EnvelopeOk envelope
  orderId : isBlank payload.orderId = false
  priced : validateOrderCommand env state (state.carts payload.userId) payload = none →
    ∀ cart, state.carts payload.userId = some cart → ∀ line ∈ cart.items, PricedLine state line

/-- A submit command that checkout has caught up with is decided exactly if its envelope and its order
ID are complete and, unless it is rejected, every price can be converted. -/
theorem submit_decided_iff (env : CheckoutEnv) {state : PersistedState} {envelope : MessageEnvelope}
    {payload : OrderSubmitCommand} (h : CaughtUp state envelope payload) :
    Decided env state envelope payload ↔ ReadyToDecide env state envelope payload := by
  rw [h.toNewOrder.decided_iff, h.toNewOrder.applyOrderCommand_eq]
  cases hvalid : validateOrderCommand env state (state.carts payload.userId) payload with
  | some failure =>
    rw [h.toNewOrder.rejectOrder_iff]
    constructor
    · rintro ⟨hok, hid⟩
      exact ⟨hok, hid, fun hnone => by rw [hvalid] at hnone; cases hnone⟩
    · rintro ⟨hok, hid, -⟩
      exact ⟨hok, hid⟩
  | none =>
    obtain ⟨hcart, hcode⟩ := validateOrderCommand_eq_none hvalid
    obtain ⟨cart, hcart⟩ := Option.isSome_iff_exists.mp hcart
    rw [hcart]
    simp only
    rw [h.toNewOrder.acceptOrder_iff, buildOrderSnapshot_eq_ok_iff hcode]
    constructor
    · rintro ⟨⟨hok, hid⟩, hpriced⟩
      refine ⟨hok, hid, fun _ found hfound => ?_⟩
      obtain rfl : cart = found := Option.some.inj (hcart.symm.trans hfound)
      exact hpriced
    · rintro ⟨hok, hid, hpriced⟩
      exact ⟨⟨hok, hid⟩, hpriced hvalid cart hcart⟩

namespace Sample

/-- The projections with rates that lack the currency of the product's price. -/
def unpricedProjections : PersistedState :=
  { projections with
    rates := some { baseCurrencyCode := "EUR", rateRevision := 1
                    rates := [{ currencyCode := "EUR", unitsPerBase := 1 },
                              { currencyCode := "GBP", unitsPerBase := 4 / 5 }] } }

/-- The command of an order in a currency. -/
def orderIn (currencyCode : String) : OrderSubmitCommand := { command with currencyCode }

/-- The envelope of the command. -/
def orderEnvelope (currencyCode : String) : MessageEnvelope :=
  Sample.envelope "submit" "boutique.order.Submit.v1" (.orderSubmit (orderIn currencyCode))

/-- The workspace of the command. -/
def orderWorkspace (currencyCode : String) (base : PersistedState) : PersistedState :=
  { base with input := some (orderEnvelope currencyCode) }

end Sample

open Sample in
/-- With rates for the currency of every price the order is decided. -/
theorem dollar_order_decided :
    CaughtUp (orderWorkspace "USD" projections) (orderEnvelope "USD") (orderIn "USD") ∧
      Decided Sample.env (orderWorkspace "USD" projections) (orderEnvelope "USD") (orderIn "USD") := by
  have hcaught : CaughtUp (orderWorkspace "USD" projections) (orderEnvelope "USD") (orderIn "USD") :=
    ⟨⟨rfl, rfl, rfl, rfl⟩, rfl, rfl⟩
  refine ⟨hcaught, (submit_decided_iff Sample.env hcaught).mpr ⟨⟨by decide, by decide, time, rfl,
    by decide, by decide⟩, by decide, ?_⟩⟩
  rintro - cart ⟨⟩ line hline
  obtain rfl : line = { productId := "product-1", quantity := 2 } := by simpa using hline
  exact ⟨_, _, _, 1, rfl, rfl, rfl, rfl, one_ne_zero⟩

open Sample in
/-- With rates for the euro and the pound only, an order in pounds passes both validators and is not
decided: its product is priced in dollars. -/
theorem pound_order_not_decided :
    CaughtUp (orderWorkspace "GBP" unpricedProjections) (orderEnvelope "GBP") (orderIn "GBP") ∧
      validateOrderCommand Sample.env (orderWorkspace "GBP" unpricedProjections)
        (unpricedProjections.carts "user-1") (orderIn "GBP") = none ∧
      applyOrderCommand Sample.env (orderWorkspace "GBP" unpricedProjections) (orderEnvelope "GBP")
        (orderIn "GBP") = .error (.message "cannot convert product-1 to GBP") ∧
      ¬ Decided Sample.env (orderWorkspace "GBP" unpricedProjections) (orderEnvelope "GBP")
        (orderIn "GBP") := by
  have hcaught : CaughtUp (orderWorkspace "GBP" unpricedProjections) (orderEnvelope "GBP")
      (orderIn "GBP") := ⟨⟨rfl, rfl, rfl, rfl⟩, rfl, rfl⟩
  have hconvert : (convertMoney Sample.env.round64 unpricedProjections.rates
      (some { currencyCode := "EUR" }) "GBP").isSome = true :=
    convertMoney_isSome_iff.mpr ⟨_, _, 1, 4 / 5, rfl, rfl, rfl, rfl, one_ne_zero⟩
  have hvalid : validateOrderCommand Sample.env (orderWorkspace "GBP" unpricedProjections)
      (unpricedProjections.carts "user-1") (orderIn "GBP") = none := by
    show (if (convertMoney Sample.env.round64 unpricedProjections.rates
      (some { currencyCode := "EUR" }) "GBP").isNone then _ else none) = none
    rw [← Option.not_isSome, hconvert]
    rfl
  have herror : applyOrderCommand Sample.env (orderWorkspace "GBP" unpricedProjections)
      (orderEnvelope "GBP") (orderIn "GBP") =
        .error (.message "cannot convert product-1 to GBP") := by
    rw [hcaught.toNewOrder.applyOrderCommand_eq]
    show (match validateOrderCommand Sample.env (orderWorkspace "GBP" unpricedProjections)
      (unpricedProjections.carts "user-1") (orderIn "GBP") with | some _ => _ | none => _) = _
    rw [hvalid]
    rfl
  refine ⟨hcaught, hvalid, herror, ?_⟩
  rintro ⟨state', happlied, -⟩
  rw [herror] at happlied
  cases happlied

end Boutique
