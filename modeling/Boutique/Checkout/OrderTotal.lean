import Mathlib.Algebra.Order.BigOperators.Group.List
import Boutique.Checkout.System
import Boutique.Frontend.Money
import Boutique.Storefront.CartQuery

/-!
# The total of an order

`buildOrderSnapshot` adds the lines of a cart up with `multiplyMoney` and `addMoney`, and the quote step
of the saga adds the shipping cost.  The nanos are `int32` and the products of nanos and quantities
`int64`; the total is exact as long as its units fit in an `int64`.
-/

namespace Boutique

open Frontend (amount InInt64 wrapInt64_of_inInt64 wrapInt32_of_mem)

/-! ## The storefront's line price -/

/-- `multiplyMoney` of `storefrontprojectionservice/queries.go`, with a `uint32` quantity. -/
def Storefront.multiplyMoney (value : Option Money) (quantity : ℤ) : Option Money :=
  match value with
  | none => none
  | some value =>
    let nanos := wrapInt64 (value.nanos * quantity)
    some { currencyCode := value.currencyCode
           units := wrapInt64 (wrapInt64 (value.units * quantity) + nanos.tdiv 1000000000)
           nanos := wrapInt32 (nanos.tmod 1000000000) }

/-- `uint32(line.Quantity)`. -/
def toUInt32 (quantity : ℤ) : ℤ := quantity % 2 ^ 32

/-! ## Canonical amounts -/

/-- The form that `convertMoney` produces: units that are not negative and nanos of less than a unit. -/
structure Canonical (m : Money) : Prop where
  units : 0 ≤ m.units
  nanos : 0 ≤ m.nanos
  nanos_lt : m.nanos < 1000000000

/-- The units of an amount fit in an `int64`. -/
def FitsInt64 (t : ℤ) : Prop := t < 2 ^ 63 * 1000000000

/-- A value fits in an `int32`. -/
def InInt32 (x : ℤ) : Prop := -2 ^ 31 ≤ x ∧ x < 2 ^ 31

/-- The `int32` values of an addition of nanos: what is added, the sum, and what is left of it when a
unit is carried. -/
structure NoWrap (left right : ℤ) : Prop where
  added : InInt32 right
  sum : InInt32 (left + right)
  carried : InInt32 (left + right - 1000000000)

/-- The price of a line in billionths. -/
def OrderLine.amount (line : OrderLine) : ℤ := line.item.quantity * Frontend.amount line.unitCost

/-- The amount of a canonical value is not negative. -/
lemma Canonical.amount_nonneg {m : Money} (h : Canonical m) : 0 ≤ amount m := by
  have hunits := h.units
  have hnanos := h.nanos
  unfold amount
  omega

/-- A product is canonical and exact, if its units fit. -/
lemma multiplyMoney_exact {cost : Money} {quantity : ℤ} (hcost : Canonical cost)
    (hlower : 1 ≤ quantity) (hupper : quantity < 2 ^ 31) (hfits : FitsInt64 (quantity * amount cost)) :
    Canonical (multiplyMoney cost quantity) ∧
      amount (multiplyMoney cost quantity) = quantity * amount cost ∧
      (multiplyMoney cost quantity).nanos = (cost.nanos * quantity).tmod 1000000000 := by
  obtain ⟨hunits, hnanos, hlt⟩ := hcost
  -- the exact parts, as numbers the linear arithmetic can use
  have hproduct : 0 ≤ cost.nanos * quantity := mul_nonneg hnanos (by omega)
  have hwhole : 0 ≤ cost.units * quantity := mul_nonneg hunits (by omega)
  have hbound : cost.nanos * quantity ≤ 1000000000 * 2 ^ 31 :=
    mul_le_mul (by omega) (by omega) (by omega) (by decide)
  have hamount : quantity * amount cost =
      cost.units * quantity * 1000000000 + cost.nanos * quantity := by
    unfold amount
    ring
  obtain ⟨hdivmod, hrest, -⟩ := Frontend.tdiv_tmod_cases (cost.nanos * quantity)
  obtain ⟨hmod, hmodlt⟩ := hrest hproduct
  rw [FitsInt64, hamount] at hfits
  have hnanos64 : wrapInt64 (cost.nanos * quantity) = cost.nanos * quantity :=
    wrapInt64_of_inInt64 ⟨by omega, by omega⟩
  have hunits64 : wrapInt64 (cost.units * quantity) = cost.units * quantity :=
    wrapInt64_of_inInt64 ⟨by omega, by omega⟩
  have hsum64 : wrapInt64 (cost.units * quantity + (cost.nanos * quantity).tdiv 1000000000) =
      cost.units * quantity + (cost.nanos * quantity).tdiv 1000000000 :=
    wrapInt64_of_inInt64 ⟨by omega, by omega⟩
  have hmod32 : wrapInt32 ((cost.nanos * quantity).tmod 1000000000) =
      (cost.nanos * quantity).tmod 1000000000 := wrapInt32_of_mem (by omega) (by omega)
  have heq : multiplyMoney cost quantity =
      { currencyCode := cost.currencyCode
        units := cost.units * quantity + (cost.nanos * quantity).tdiv 1000000000
        nanos := (cost.nanos * quantity).tmod 1000000000 } := by
    simp only [multiplyMoney, hnanos64, hunits64, hsum64, hmod32]
  rw [heq, hamount]
  refine ⟨⟨?_, hmod, hmodlt⟩, ?_, rfl⟩
  · show 0 ≤ cost.units * quantity + (cost.nanos * quantity).tdiv 1000000000
    omega
  · simp only [amount]
    omega

/-- A sum is canonical and exact, if its units fit. -/
lemma addMoney_exact {left right : Money} (hleft : Canonical left) (hright : Canonical right)
    (hfits : FitsInt64 (amount left + amount right)) :
    Canonical (addMoney (some left) right) ∧
      amount (addMoney (some left) right) = amount left + amount right := by
  obtain ⟨hlunits, hlnanos, hllt⟩ := hleft
  obtain ⟨hrunits, hrnanos, hrlt⟩ := hright
  unfold FitsInt64 amount at hfits
  have hunits : wrapInt64 (left.units + right.units) = left.units + right.units :=
    wrapInt64_of_inInt64 ⟨by omega, by omega⟩
  have hnanos : wrapInt32 (left.nanos + right.nanos) = left.nanos + right.nanos :=
    wrapInt32_of_mem (by omega) (by omega)
  simp only [addMoney, hunits, hnanos]
  split_ifs with hcarry
  · have hcarried : wrapInt64 (left.units + right.units + 1) = left.units + right.units + 1 :=
      wrapInt64_of_inInt64 ⟨by omega, by omega⟩
    have hrest : wrapInt32 (left.nanos + right.nanos - 1000000000) =
        left.nanos + right.nanos - 1000000000 := wrapInt32_of_mem (by omega) (by omega)
    rw [hcarried, hrest]
    refine ⟨⟨?_, ?_, ?_⟩, ?_⟩ <;> simp only [amount] <;> omega
  · refine ⟨⟨?_, ?_, ?_⟩, ?_⟩ <;> simp only [amount] <;> omega

/-- The nanos of canonical values are added without a wrap. -/
lemma noWrap_of_lt {left right : ℤ} (hleft : 0 ≤ left ∧ left < 1000000000)
    (hright : 0 ≤ right ∧ right < 1000000000) : NoWrap left right := by
  constructor <;> constructor <;> omega

/-- The storefront's line price is the product that checkout adds to the total. -/
lemma storefront_multiplyMoney {cost : Money} {quantity : ℤ} (hlower : 1 ≤ quantity)
    (hupper : quantity < 2 ^ 31) :
    Storefront.multiplyMoney (some cost) (toUInt32 quantity) = some (multiplyMoney cost quantity) := by
  have hquantity : toUInt32 quantity = quantity := Int.emod_eq_of_lt (by omega) (by omega)
  rw [hquantity]
  rfl

/-! ## The lines of the cart -/

variable {env : CheckoutEnv} {state : PersistedState} {command : OrderSubmitCommand}

/-- What one iteration adds to the snapshot. -/
lemma addOrderLine_eq_ok {snapshot next : SanitizedOrderSnapshot} {line : CartLine}
    (h : addOrderLine env state command snapshot line = .ok next) :
    ∃ cost, next.items = snapshot.items ++ [{ item := line, unitCost := cost }] ∧
      next.total = some (addMoney snapshot.total (multiplyMoney cost line.quantity)) := by
  unfold addOrderLine at h
  split at h
  · cases h
  split at h
  · cases h
  next cost _ =>
    cases h
    exact ⟨cost, rfl, rfl⟩

/-- The amounts of lines with canonical costs add up to no less than zero. -/
lemma sum_amount_nonneg {lines : List OrderLine} (hcost : ∀ line ∈ lines, Canonical line.unitCost)
    (hquantity : ∀ line ∈ lines, 1 ≤ line.item.quantity) :
    0 ≤ (lines.map OrderLine.amount).sum := by
  refine List.sum_nonneg ?_
  simp only [List.mem_map]
  rintro _ ⟨line, hline, rfl⟩
  exact mul_nonneg (le_trans zero_le_one (hquantity line hline)) (hcost line hline).amount_nonneg

/-- The loop adds one order line for each line of the cart. -/
lemma addOrderLines_items {lines : List CartLine} {start last : SanitizedOrderSnapshot}
    (hloop : lines.foldlM (addOrderLine env state command) start = .ok last) :
    ∃ added, last.items = start.items ++ added ∧ added.map OrderLine.item = lines := by
  induction lines generalizing start with
  | nil =>
    cases hloop
    exact ⟨[], (List.append_nil _).symm, rfl⟩
  | cons line lines ih =>
    rw [List.foldlM_cons] at hloop
    obtain ⟨next, hnext, hrest⟩ := bind_eq_ok.mp hloop
    obtain ⟨cost, hitems, -⟩ := addOrderLine_eq_ok hnext
    obtain ⟨added, hadded, hlines⟩ := ih hrest
    refine ⟨{ item := line, unitCost := cost } :: added, ?_, ?_⟩
    · rw [hadded, hitems, List.append_assoc]
      rfl
    · rw [List.map_cons, hlines]

/-- The loop adds the exact amounts of its lines to the total. -/
lemma addOrderLines_total {lines : List CartLine} {start last : SanitizedOrderSnapshot}
    {added : List OrderLine} {total : Money}
    (hloop : lines.foldlM (addOrderLine env state command) start = .ok last)
    (hadded : last.items = start.items ++ added)
    (htotal : start.total = some total) (hcanonical : Canonical total)
    (hquantity : ∀ line ∈ lines, 1 ≤ line.quantity ∧ line.quantity < 2 ^ 31)
    (hcost : ∀ line ∈ added, Canonical line.unitCost)
    (hfits : FitsInt64 (amount total + (added.map OrderLine.amount).sum)) :
    ∃ total', last.total = some total' ∧ Canonical total' ∧
      amount total' = amount total + (added.map OrderLine.amount).sum := by
  induction lines generalizing start total added with
  | nil =>
    cases hloop
    obtain rfl : added = [] := by simpa using hadded
    exact ⟨total, htotal, hcanonical, by simp⟩
  | cons line lines ih =>
    rw [List.foldlM_cons] at hloop
    obtain ⟨next, hnext, hrest⟩ := bind_eq_ok.mp hloop
    obtain ⟨cost, hitems, hsum⟩ := addOrderLine_eq_ok hnext
    obtain ⟨rest, hlast, hlines⟩ := addOrderLines_items hrest
    -- the added lines are the first one and those of the rest of the loop
    obtain rfl : added = { item := line, unitCost := cost } :: rest := by
      rw [hlast, hitems, List.append_assoc] at hadded
      exact (List.append_cancel_left hadded).symm
    rw [List.forall_mem_cons] at hquantity hcost
    rw [List.map_cons, List.sum_cons, ← add_assoc] at hfits ⊢
    have hrestQuantity : ∀ line ∈ rest, 1 ≤ line.item.quantity := by
      intro line hline
      refine (hquantity.2 line.item ?_).1
      rw [← hlines]
      exact List.mem_map_of_mem hline
    have hrestSum := sum_amount_nonneg hcost.2 hrestQuantity
    have hfirst : OrderLine.amount { item := line, unitCost := cost } =
        line.quantity * amount cost := rfl
    rw [hfirst] at hfits ⊢
    have htotalNonneg := hcanonical.amount_nonneg
    have hcostFirst : Canonical cost := hcost.1
    have hfitsFirst : FitsInt64 (line.quantity * amount cost) := by
      unfold FitsInt64 at hfits ⊢
      omega
    obtain ⟨hproduct, hexact, -⟩ :=
      multiplyMoney_exact hcostFirst hquantity.1.1 hquantity.1.2 hfitsFirst
    rw [htotal] at hsum
    obtain ⟨hnextCanonical, hnextExact⟩ := addMoney_exact hcanonical hproduct (by
      rw [hexact]
      unfold FitsInt64 at hfits ⊢
      omega)
    rw [hexact] at hnextExact
    rw [← hnextExact] at hfits ⊢
    exact ih hrest hlast hsum hnextCanonical hquantity.2 hcost.2 hfits

/-! ## The total -/

/-- The total of the quoted order, the lines of which it is made and the arithmetic on the way. -/
structure ExactTotal (env : CheckoutEnv) (state : PersistedState) (command : OrderSubmitCommand)
    (cart : CartSnapshot) (snapshot : SanitizedOrderSnapshot) (shipping total : Money) : Prop where
  /-- There is one order line for each line of the cart. -/
  lines : snapshot.items.map OrderLine.item = cart.items
  /-- The nanos of the total are less than a unit. -/
  canonical : Canonical total
  /-- In billionths, the total is the sum of the lines and of the shipping cost. -/
  amount_eq : amount total = (snapshot.items.map OrderLine.amount).sum + amount shipping
  /-- No iteration of the loop wraps an `int32`. -/
  noWrap : ∀ before line after cost,
    snapshot.items = before ++ { item := line, unitCost := cost } :: after →
    ∃ partialSnapshot partialTotal,
      buildOrderSnapshot env state { cart with items := before.map OrderLine.item } command =
        .ok partialSnapshot ∧ partialSnapshot.total = some partialTotal ∧
      NoWrap partialTotal.nanos ((cost.nanos * line.quantity).tmod 1000000000)
  /-- The addition of the shipping cost does not wrap an `int32`. -/
  shippingNoWrap : ∃ orderTotal, snapshot.total = some orderTotal ∧
    NoWrap orderTotal.nanos shipping.nanos
  /-- The product of a line is the line price of the storefront. -/
  linePrice : ∀ line ∈ snapshot.items,
    Storefront.multiplyMoney (some line.unitCost) (toUInt32 line.item.quantity) =
      some (multiplyMoney line.unitCost line.item.quantity)

/-- The empty total. -/
lemma canonical_zero (code : String) : Canonical { currencyCode := code } :=
  ⟨le_refl 0, le_refl 0, show (0 : ℤ) < 1000000000 by decide⟩

/-- The snapshot of an order has one line for each line of the cart, and their exact total. -/
lemma buildOrderSnapshot_total {cart : CartSnapshot} {snapshot : SanitizedOrderSnapshot}
    (hbuild : buildOrderSnapshot env state cart command = .ok snapshot)
    (hquantity : ∀ line ∈ cart.items, 1 ≤ line.quantity ∧ line.quantity < 2 ^ 31)
    (hcost : ∀ line ∈ snapshot.items, Canonical line.unitCost)
    (hfits : FitsInt64 (snapshot.items.map OrderLine.amount).sum) :
    ∃ total, snapshot.total = some total ∧ Canonical total ∧
      amount total = (snapshot.items.map OrderLine.amount).sum := by
  have htotal := addOrderLines_total hbuild rfl rfl (canonical_zero command.currencyCode) hquantity
    hcost (by simpa [amount] using hfits)
  simpa [amount] using htotal

/-- The lines of a snapshot have the quantities of the cart. -/
lemma buildOrderSnapshot_lines {cart : CartSnapshot} {snapshot : SanitizedOrderSnapshot}
    (hbuild : buildOrderSnapshot env state cart command = .ok snapshot) :
    snapshot.items.map OrderLine.item = cart.items := by
  obtain ⟨added, hadded, hlines⟩ := addOrderLines_items hbuild
  obtain rfl : snapshot.items = added := hadded
  exact hlines

/-- The loop over the whole cart passes through the snapshot of the lines before a line. -/
lemma buildOrderSnapshot_before {cart : CartSnapshot} {snapshot : SanitizedOrderSnapshot}
    {before after : List OrderLine} (hbuild : buildOrderSnapshot env state cart command = .ok snapshot)
    (hitems : snapshot.items = before ++ after) :
    ∃ partialSnapshot,
      buildOrderSnapshot env state { cart with items := before.map OrderLine.item } command =
        .ok partialSnapshot ∧ partialSnapshot.items = before := by
  have hloop : cart.items.foldlM (addOrderLine env state command) (emptySnapshot command) =
      .ok snapshot := hbuild
  rw [← buildOrderSnapshot_lines hbuild, hitems, List.map_append, List.foldlM_append] at hloop
  obtain ⟨partialSnapshot, hpartial, hrest⟩ := bind_eq_ok.mp hloop
  refine ⟨partialSnapshot, hpartial, ?_⟩
  obtain ⟨added, hadded, -⟩ := addOrderLines_items hrest
  obtain ⟨passed, hpassed, hmap⟩ := addOrderLines_items hpartial
  obtain rfl : partialSnapshot.items = passed := hpassed
  have hlength : before.length = partialSnapshot.items.length := by
    simpa using (congrArg List.length hmap).symm
  rw [hitems] at hadded
  exact (List.append_inj_left hadded hlength).symm

/-- The lines before a line of the cart leave a canonical total, to which the line is added without a
wrap. -/
lemma buildOrderSnapshot_noWrap {cart : CartSnapshot} {snapshot : SanitizedOrderSnapshot}
    (hbuild : buildOrderSnapshot env state cart command = .ok snapshot)
    (hquantity : ∀ line ∈ snapshot.items, 1 ≤ line.item.quantity ∧ line.item.quantity < 2 ^ 31)
    (hcost : ∀ line ∈ snapshot.items, Canonical line.unitCost)
    (hfits : FitsInt64 (snapshot.items.map OrderLine.amount).sum)
    {before after : List OrderLine} {line : CartLine} {cost : Money}
    (hitems : snapshot.items = before ++ { item := line, unitCost := cost } :: after) :
    ∃ partialSnapshot partialTotal,
      buildOrderSnapshot env state { cart with items := before.map OrderLine.item } command =
        .ok partialSnapshot ∧ partialSnapshot.total = some partialTotal ∧
      NoWrap partialTotal.nanos ((cost.nanos * line.quantity).tmod 1000000000) := by
  obtain ⟨partialSnapshot, hpartial, hpassed⟩ := buildOrderSnapshot_before hbuild hitems
  rw [hitems, List.forall_mem_append, List.forall_mem_cons] at hquantity hcost
  have hfitsBefore : FitsInt64 (partialSnapshot.items.map OrderLine.amount).sum := by
    have hrest := sum_amount_nonneg (List.forall_mem_cons.mpr hcost.2)
      (List.forall_mem_cons.mpr ⟨hquantity.2.1.1, fun line hline => (hquantity.2.2 line hline).1⟩)
    rw [hitems, List.map_append, List.sum_append] at hfits
    rw [hpassed]
    unfold FitsInt64 at hfits ⊢
    omega
  obtain ⟨partialTotal, htotal, hcanonical, -⟩ := buildOrderSnapshot_total hpartial
    (List.forall_mem_map.mpr hquantity.1) (by rw [hpassed]; exact hcost.1) hfitsBefore
  have hnanos : 0 ≤ cost.nanos * line.quantity :=
    mul_nonneg hcost.2.1.nanos (le_trans zero_le_one hquantity.2.1.1)
  exact ⟨partialSnapshot, partialTotal, hpartial, htotal, noWrap_of_lt
    ⟨hcanonical.nanos, hcanonical.nanos_lt⟩ ((Frontend.tdiv_tmod_cases _).2.1 hnanos)⟩

/-- `queueEnvelope` does not change the order. -/
lemma queueEnvelope_orders {ws next : PersistedState} {subject : ResultSubject}
    {aggregateType aggregateId : String} {version : ℕ} {payload : Payload}
    (h : queueEnvelope env ws subject aggregateType aggregateId version payload = .ok next) :
    next.orders = ws.orders := by
  unfold queueEnvelope at h
  split at h
  · cases h
  split at h
  · cases h
  cases h
  rfl

/-- The quote step stores the converted shipping cost and the sum with the total. -/
lemma applySagaEvent_quoted {ws next : PersistedState} {saga : OrderSaga}
    {envelope : MessageEnvelope} {orderId : String} {costUsd : Option Money} {shipping : Money}
    {snapshot : SanitizedOrderSnapshot} (hinbox : ws.inbox envelope.messageId = none)
    (horder : ws.orders = some saga) (hstage : saga.stage = .waitingQuote)
    (hsaga : saga.snapshot = some snapshot)
    (hdata : envelope.data = .orderQuoteCalculated orderId costUsd)
    (hconvert : convertMoney env.round64 ws.rates costUsd saga.currencyCode = some shipping)
    (h : applySagaEvent env .orderQuoteCalculated envelope ws = .ok next) :
    ∃ quoted, next.orders = some quoted ∧
      quoted.snapshot = some { snapshot with
        shippingCost := some shipping, total := some (addMoney snapshot.total shipping) } := by
  have hquote : applyQuote env (ws.setInbox envelope.messageId ws.transitionTime) saga costUsd =
      .ok next := by
    rw [← h]
    simp only [applySagaEvent, hinbox, Option.isSome_none, Bool.false_eq_true, if_false,
      PersistedState.setInbox, horder, hstage, Stage.terminal, sagaEventSwitch, hdata, ne_eq,
      not_true_eq_false]
  have hrates : (ws.setInbox envelope.messageId ws.transitionTime).rates = ws.rates := rfl
  rw [applyQuote, hrates, hconvert] at hquote
  simp only [hsaga] at hquote
  exact ⟨_, queueEnvelope_orders hquote, rfl⟩

/-- The total of an order with canonical costs is exact after the quote step, if its units fit in an
`int64`. -/
theorem order_total_exact (env : CheckoutEnv) {state ws next : PersistedState}
    {command : OrderSubmitCommand} {cart : CartSnapshot} {snapshot : SanitizedOrderSnapshot}
    {saga : OrderSaga} {envelope : MessageEnvelope} {orderId : String} {costUsd : Option Money}
    {shipping : Money}
    (hbuild : buildOrderSnapshot env state cart command = .ok snapshot)
    (hquantity : ∀ line ∈ cart.items, 1 ≤ line.quantity ∧ line.quantity < 2 ^ 31)
    (hcost : ∀ line ∈ snapshot.items, Canonical line.unitCost)
    (hinbox : ws.inbox envelope.messageId = none) (horder : ws.orders = some saga)
    (hstage : saga.stage = .waitingQuote) (hsaga : saga.snapshot = some snapshot)
    (hdata : envelope.data = .orderQuoteCalculated orderId costUsd)
    (hconvert : convertMoney env.round64 ws.rates costUsd saga.currencyCode = some shipping)
    (hshipping : Canonical shipping)
    (hquoted : applySagaEvent env .orderQuoteCalculated envelope ws = .ok next)
    (hfits : FitsInt64 ((snapshot.items.map OrderLine.amount).sum + amount shipping)) :
    ∃ quoted quotedSnapshot total, next.orders = some quoted ∧
      quoted.snapshot = some quotedSnapshot ∧ quotedSnapshot.items = snapshot.items ∧
      quotedSnapshot.shippingCost = some shipping ∧ quotedSnapshot.total = some total ∧
      ExactTotal env state command cart snapshot shipping total := by
  have hlines := buildOrderSnapshot_lines hbuild
  have hquantities : ∀ line ∈ snapshot.items, 1 ≤ line.item.quantity ∧ line.item.quantity < 2 ^ 31 := by
    intro line hline
    refine hquantity line.item ?_
    rw [← hlines]
    exact List.mem_map_of_mem hline
  have hfitsLines : FitsInt64 (snapshot.items.map OrderLine.amount).sum := by
    have hnonneg := hshipping.amount_nonneg
    unfold FitsInt64 at hfits ⊢
    omega
  obtain ⟨orderTotal, htotal, hcanonical, hexact⟩ :=
    buildOrderSnapshot_total hbuild hquantity hcost hfitsLines
  rw [← hexact] at hfits
  obtain ⟨hsum, hamount⟩ := addMoney_exact hcanonical hshipping hfits
  obtain ⟨quoted, hnext, hsnapshot⟩ :=
    applySagaEvent_quoted hinbox horder hstage hsaga hdata hconvert hquoted
  rw [htotal] at hsnapshot
  refine ⟨quoted, _, _, hnext, hsnapshot, rfl, rfl, rfl, ?_⟩
  have hexactSum : amount (addMoney (some orderTotal) shipping) =
      (snapshot.items.map OrderLine.amount).sum + amount shipping := by
    rw [hamount, hexact]
  refine ⟨hlines, hsum, hexactSum, ?_, ⟨orderTotal, htotal, ?_⟩, ?_⟩
  · intro before line after cost hitems
    exact buildOrderSnapshot_noWrap hbuild hquantities hcost hfitsLines hitems
  · exact noWrap_of_lt ⟨hcanonical.nanos, hcanonical.nanos_lt⟩ ⟨hshipping.nanos, hshipping.nanos_lt⟩
  · intro line hline
    exact storefront_multiplyMoney (hquantities line hline).1 (hquantities line hline).2

namespace Sample

/-- The price of the product: 109.99 dollars. -/
def fractionalPrice : Money := { currencyCode := "USD", units := 109, nanos := 990000000 }

/-- The projections with the product at that price. -/
def fractionalProjections : PersistedState :=
  { projections with
    products := fun id => some { productId := id, priceUsd := some fractionalPrice } }

/-- A cart with three of one product and one of another. -/
def fractionalCart : CartSnapshot where
  userId := "user-1"
  items := [{ productId := "product-1", quantity := 3 }, { productId := "product-2", quantity := 1 }]
  cartVersion := 1

/-- The snapshot of the order. -/
def fractionalSnapshot : SanitizedOrderSnapshot :=
  { emptySnapshot Sample.command with
    items := [{ item := { productId := "product-1", quantity := 3 }, unitCost := fractionalPrice },
              { item := { productId := "product-2", quantity := 1 }, unitCost := fractionalPrice }]
    total := some { currencyCode := "USD", units := 439, nanos := 960000000 } }

/-- The quote of 8.99 dollars. -/
def fractionalQuote : MessageEnvelope :=
  Sample.envelope "quoted" "boutique.shipping.OrderQuoteCalculated.v1"
    (.orderQuoteCalculated orderId
      (some { currencyCode := "USD", units := 8, nanos := 990000000 }))

/-- The workspace of the quote. -/
def fractionalWorkspace : PersistedState :=
  { fractionalProjections with
    orders := some (acceptedSaga Sample.env fractionalProjections Sample.command fractionalSnapshot)
    input := some fractionalQuote }

end Sample

open Sample in
/-- Four times 109.99 dollars and the shipping cost of 8.99 dollars are 448.95 dollars. -/
theorem fractional_order_total :
    ∃ next quoted quotedSnapshot total,
      applySagaEvent Sample.env .orderQuoteCalculated fractionalQuote fractionalWorkspace = .ok next ∧
      next.orders = some quoted ∧ quoted.snapshot = some quotedSnapshot ∧
      quotedSnapshot.total = some total ∧ amount total = 448950000000 := by
  have hbuild : buildOrderSnapshot Sample.env fractionalProjections fractionalCart Sample.command =
      .ok fractionalSnapshot := by
    decide +kernel
  have hconvert : convertMoney Sample.env.round64 fractionalWorkspace.rates
      (some { currencyCode := "USD", units := 8, nanos := 990000000 }) "USD" =
        some { currencyCode := "USD", units := 8, nanos := 990000000 } := by
    decide +kernel
  have hok : (applySagaEvent Sample.env .orderQuoteCalculated fractionalQuote
      fractionalWorkspace).isOk = true := by
    decide +kernel
  obtain ⟨next, hnext⟩ : ∃ next, applySagaEvent Sample.env .orderQuoteCalculated fractionalQuote
      fractionalWorkspace = .ok next := by
    cases hresult : applySagaEvent Sample.env .orderQuoteCalculated fractionalQuote
        fractionalWorkspace with
    | error _ => rw [hresult] at hok; cases hok
    | ok next => exact ⟨next, rfl⟩
  obtain ⟨quoted, quotedSnapshot, total, hquoted, hsnapshot, -, -, htotal, hexact⟩ :=
    order_total_exact Sample.env hbuild (by decide)
      (List.forall_mem_cons.mpr ⟨⟨by decide, by decide, by decide⟩,
        List.forall_mem_singleton.mpr ⟨by decide, by decide, by decide⟩⟩)
      rfl rfl rfl rfl rfl hconvert
      ⟨by decide, by decide, by decide⟩ hnext (show (_ : ℤ) < _ by decide)
  exact ⟨next, quoted, quotedSnapshot, total, hnext, hquoted, hsnapshot, htotal, hexact.amount_eq⟩

end Boutique
