import Boutique.Common.Money
import Boutique.Storefront.Projection

/-!
# The cart page

`cartQueryFrom` of `storefrontprojectionservice/queries.go`: what the storefront answers when a cart is
shown.  The catalog revision of the answer is the largest of those that are stored with the products of
the cart.

The observed revisions of the KV entries and the fields of the response that other queries fill are left
out.
-/

namespace Boutique.Storefront

/-! ## Currencies -/

/-- The integer part, towards zero. -/
def truncate (q : ℚ) : ℤ := if 0 ≤ q then ⌊q⌋ else ⌈q⌉

/-- `math.Mod`, which is exact. -/
def floatMod (x y : ℚ) : ℚ := x - y * truncate (x / y)

/-- `carry`. -/
def carry (round64 : ℚ → ℚ) (units nanos : ℚ) : ℚ × ℚ :=
  let nanos := round64 (nanos + round64 (floatMod units 1 * 1000000000))
  (round64 (⌊units⌋ + ⌊round64 (nanos / 1000000000)⌋), floatMod nanos 1000000000)

/-- The rate for a currency.  A later entry overrides an earlier one, as in the map of `Prepare`. -/
def CurrencyView.rate (view : CurrencyView) (code : String) : Option ℚ :=
  view.rates.foldl (fun found rate =>
    if rate.currencyCode = code then some rate.unitsPerBase else found) none

/-- `Convert`. -/
def CurrencyView.convert (round64 : ℚ → ℚ) (view : CurrencyView) (value : Money) (toCode : String) :
    Option Money :=
  match view.rate value.currencyCode, view.rate toCode with
  | some fromRate, some toRate =>
    if fromRate = 0 then none
    else
      let euro := carry round64 (round64 (round64 value.units / fromRate))
        (round64 (round64 value.nanos / fromRate))
      let result := carry round64 (round64 (euro.1 * toRate))
        (round64 (roundHalfAway euro.2 * toRate))
      some { currencyCode := toCode, units := wrapInt64 ⌊result.1⌋, nanos := wrapInt32 ⌊result.2⌋ }
  | _, _ => none

/-- `SupportedCurrencies`. -/
def CurrencyView.supportedCurrencies (view : CurrencyView) : List String :=
  (view.rates.map CurrencyRate.currencyCode).mergeSort fun a b => a ≤ b

/-! ## Requests and responses -/

/-- The errors of the query. -/
inductive QueryError where
  | notFound
  | invalidCurrency
  | message (text : String)
  deriving DecidableEq

/-- The fields of `queryRequest` that the query reads. -/
structure QueryRequest where
  userId : String
  currencyCode : String

/-- `localizedProduct`. -/
structure LocalizedProduct where
  item : Product
  price : Money
  deriving DecidableEq

/-- `cartItemView`. -/
structure CartItemView where
  item : Product
  quantity : ℤ
  price : Money
  deriving DecidableEq

/-- The fields of `queryResponse` that the query fills. -/
structure QueryResponse where
  items : List CartItemView := []
  currencies : List String := []
  recommendations : List (Option Product) := []
  shippingCost : Option Money := none
  shippingPending : Bool := false
  cartSize : ℤ := 0
  cartVersion : ℕ := 0
  catalogRevision : ℕ := 0
  rateRevision : ℕ := 0
  updatedAt : Time := 0
  stale : List String := []
  deriving DecidableEq

/-- The fields of `RecommendationView` that a query reads. -/
structure RecommendationView where
  productIds : List String
  expiresAt : Time
  failureCode : String := ""

/-- `latest`. -/
def latest (values : List Time) : Time :=
  values.foldl (fun result value => if result < value then value else result) 0

/-- `expired`. -/
def expired (now value : Time) : Bool := value ≠ 0 && value < now

/-- `legacyProduct`. -/
def legacyProduct (product : ProductSnapshot) : Product where
  id := product.productId
  name := product.name
  description := product.description
  picture := product.picture
  priceUsd := product.priceUsd
  categories := product.categories

/-! ## The query -/

section Query

variable (round64 : ℚ → ℚ) (buckets : Buckets) (contexts : String → Option RecommendationView)
  (now : Time)

/-- The code that an empty one stands for. -/
def currencyOrDefault (currencyCode : String) : String :=
  if currencyCode = "" then "USD" else currencyCode

/-- `currencyView`. -/
def currencyView (currencyCode : String) : Except QueryError CurrencyView :=
  match buckets.currency with
  | none => .error .notFound
  | some rates =>
    if currencyOrDefault currencyCode ∈ rates.supportedCurrencies then .ok rates
    else .error .invalidCurrency

/-- `localizeProduct`. -/
def localizeProduct (product : Option ProductSnapshot) (rates : CurrencyView) (currency : String) :
    Except QueryError LocalizedProduct :=
  match product with
  | none => .error (.message "product snapshot is incomplete")
  | some product =>
    match product.priceUsd with
    | none => .error (.message "product snapshot is incomplete")
    | some price =>
      match rates.convert round64 price (currencyOrDefault currency) with
      | none => .error .invalidCurrency
      | some price => .ok { item := legacyProduct product, price := price }

/-- `currentRecommendationsFrom` for the cart page: the products, and whether they are stale. -/
def currentRecommendations (sessionId : String) : List (Option Product) × Bool :=
  match contexts sessionId with
  | none => ([], true)
  | some view =>
    if view.failureCode ≠ "" || expired now view.expiresAt then ([], true)
    else
      -- the cart page excludes the product with the empty ID
      let ids := view.productIds.filter fun id => id ≠ ""
      ((ids.filterMap fun id =>
        match buckets.products id with
        | some product => if product.removed then none else some (product.product.map legacyProduct)
        | none => none).take 4, false)

/-- One iteration of the loop over the lines of the cart. -/
def addCartLine (rates : CurrencyView) (currency : String) (response : QueryResponse)
    (line : CartLine) : Except QueryError QueryResponse := do
  let unavailable := "cart product " ++ line.productId ++ " is unavailable"
  match buckets.products line.productId with
  | none => .error (.message (unavailable ++ ": nats: key not found"))
  | some product =>
    if product.removed then .error (.message unavailable)
    else
      let localized ← localizeProduct round64 product.product rates currency
      let linePrice := multiplyMoney localized.price (line.quantity % 2 ^ 32)
      return { response with
        items := response.items ++
          [{ item := localized.item, quantity := line.quantity, price := linePrice }]
        cartSize := response.cartSize + line.quantity
        catalogRevision := max response.catalogRevision product.catalogRevision
        updatedAt := latest [response.updatedAt, product.updatedAt] }

/-- The response before the loop. -/
def emptyResponse (rates : CurrencyView) (cart : CartView) : QueryResponse where
  currencies := rates.supportedCurrencies
  cartVersion := cart.cart.cartVersion
  rateRevision := rates.rateRevision
  updatedAt := latest [rates.updatedAt, cart.updatedAt]

/-- The shipping cost, after the loop. -/
def addShipping (rates : CurrencyView) (request : QueryRequest) (cart : CartView)
    (response : QueryResponse) : Except QueryError QueryResponse :=
  let pending := { response with
    shippingPending := true, stale := response.stale ++ ["shipping_quote"] }
  if cart.cart.items = [] then
    .ok { response with shippingCost := some { currencyCode := request.currencyCode } }
  else
    match buckets.quotes request.userId with
    | none => .ok pending
    | some quote =>
      match quote.costUsd with
      | none => .ok pending
      | some cost =>
        if quote.cartVersion ≠ response.cartVersion || quote.failureCode ≠ "" ||
            expired now quote.expiresAt then .ok pending
        else
          match rates.convert round64 cost request.currencyCode with
          | none => .error .invalidCurrency
          | some converted =>
            .ok { response with
              shippingCost := some converted
              updatedAt := latest [response.updatedAt, quote.updatedAt] }

/-- `cartQueryFrom`. -/
def cartQueryFrom (request : QueryRequest) (readCart : String → Except QueryError CartView) :
    Except QueryError QueryResponse := do
  let rates ← currencyView buckets request.currencyCode
  let cart ← readCart request.userId
  let response ← cart.cart.items.foldlM (addCartLine round64 buckets rates request.currencyCode)
    (emptyResponse rates cart)
  let (recommendations, stale) := currentRecommendations buckets contexts now request.userId
  addShipping round64 buckets now rates request cart { response with
    recommendations := recommendations
    stale := if stale then ["recommendations"] else [] }

end Query

/-! ## The revision of the response -/

section Revision

variable {round64 : ℚ → ℚ} {buckets : Buckets} {contexts : String → Option RecommendationView}
  {now : Time} {rates : CurrencyView} {currency : String}

/-- The revision that is stored with the product of a line. -/
def lineRevision (buckets : Buckets) (line : CartLine) : ℕ :=
  ((buckets.products line.productId).map ProductView.catalogRevision).getD 0

/-- The product of a line can be shown. -/
def Shown (round64 : ℚ → ℚ) (buckets : Buckets) (rates : CurrencyView) (currency : String)
    (line : CartLine) : Prop :=
  ∃ product localized, buckets.products line.productId = some product ∧ product.removed = false ∧
    localizeProduct round64 product.product rates currency = .ok localized

/-- One line raises the revision to that of its product. -/
lemma addCartLine_eq_ok {line : CartLine} (h : Shown round64 buckets rates currency line)
    (response : QueryResponse) :
    ∃ response', addCartLine round64 buckets rates currency response line = .ok response' ∧
      response'.catalogRevision = max response.catalogRevision (lineRevision buckets line) := by
  obtain ⟨product, localized, hproduct, hremoved, hlocalized⟩ := h
  have hline : lineRevision buckets line = product.catalogRevision := by
    simp [lineRevision, hproduct]
  rw [hline]
  simp only [addCartLine, hproduct, hremoved, Bool.false_eq_true, if_false, hlocalized]
  exact ⟨_, rfl, rfl⟩

/-- The loop takes the largest revision of the products. -/
lemma foldlM_addCartLine {lines : List CartLine}
    (h : ∀ line ∈ lines, Shown round64 buckets rates currency line) (response : QueryResponse) :
    ∃ response', lines.foldlM (addCartLine round64 buckets rates currency) response = .ok response' ∧
      response'.catalogRevision =
        (lines.map (lineRevision buckets)).foldl max response.catalogRevision := by
  induction lines generalizing response with
  | nil => exact ⟨response, rfl, rfl⟩
  | cons line lines ih =>
    obtain ⟨first, hfirst, hrevision⟩ := addCartLine_eq_ok (h line List.mem_cons_self) response
    obtain ⟨last, hlast, hfold⟩ := ih (fun other ho => h other (List.mem_cons_of_mem _ ho)) first
    refine ⟨last, ?_, ?_⟩
    · rw [List.foldlM_cons, hfirst]
      exact hlast
    · rw [hfold, List.map_cons, List.foldl_cons, hrevision]

/-- The shipping cost does not touch the revision. -/
lemma addShipping_catalogRevision {request : QueryRequest} {cart : CartView}
    {response response' : QueryResponse}
    (h : addShipping round64 buckets now rates request cart response = .ok response') :
    response'.catalogRevision = response.catalogRevision := by
  unfold addShipping at h
  split_ifs at h
  · cases h
    rfl
  · split at h
    · cases h
      rfl
    · split at h
      · cases h
        rfl
      · split_ifs at h
        · cases h
          rfl
        · split at h
          · cases h
          · cases h
            rfl

/-- A quote that can be converted is no error. -/
lemma addShipping_eq_ok {request : QueryRequest} (now : Time) (cart : CartView)
    (hquote : ∀ quote cost, buckets.quotes request.userId = some quote → quote.costUsd = some cost →
      (rates.convert round64 cost request.currencyCode).isSome = true) (response : QueryResponse) :
    ∃ response', addShipping round64 buckets now rates request cart response = .ok response' := by
  unfold addShipping
  split_ifs
  · exact ⟨_, rfl⟩
  · split
    · exact ⟨_, rfl⟩
    · next quote hstored =>
      split
      · exact ⟨_, rfl⟩
      · next cost hcost =>
        obtain ⟨converted, hconverted⟩ := Option.isSome_iff_exists.mp (hquote quote cost hstored hcost)
        split_ifs
        · exact ⟨_, rfl⟩
        · rw [hconverted]
          exact ⟨_, rfl⟩

/-- The page of a cart whose products can be shown has the largest revision of its products. -/
theorem cartQueryFrom_revision (contexts : String → Option RecommendationView) (now : Time)
    {request : QueryRequest} {readCart : String → Except QueryError CartView} {cart : CartView}
    (hrates : currencyView buckets request.currencyCode = .ok rates)
    (hcart : readCart request.userId = .ok cart)
    (hshown : ∀ line ∈ cart.cart.items, Shown round64 buckets rates request.currencyCode line)
    (hquote : ∀ quote cost, buckets.quotes request.userId = some quote → quote.costUsd = some cost →
      (rates.convert round64 cost request.currencyCode).isSome = true) :
    ∃ response, cartQueryFrom round64 buckets contexts now request readCart = .ok response ∧
      response.catalogRevision = (cart.cart.items.map (lineRevision buckets)).foldl max 0 := by
  obtain ⟨listed, hlisted, hrevision⟩ := foldlM_addCartLine hshown (emptyResponse rates cart)
  obtain ⟨response, hresponse⟩ := addShipping_eq_ok now cart hquote
    { listed with
      recommendations := (currentRecommendations buckets contexts now request.userId).1
      stale := if (currentRecommendations buckets contexts now request.userId).2 then
        ["recommendations"] else [] }
  refine ⟨response, ?_, (addShipping_catalogRevision hresponse).trans hrevision⟩
  rw [cartQueryFrom, hrates]
  change (readCart request.userId >>= fun _ => _) = _
  rw [hcart]
  change (cart.cart.items.foldlM (addCartLine round64 buckets rates request.currencyCode) _ >>=
    fun _ => _) = _
  rw [hlisted]
  exact hresponse

end Revision

end Boutique.Storefront
