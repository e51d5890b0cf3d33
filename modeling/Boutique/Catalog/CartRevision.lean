import Mathlib.Data.List.Chain
import Boutique.Catalog.LastPublished
import Boutique.Storefront.CartQuery

/-!
# The catalog revision of a cart

An order names the catalog revision of the cart page, and checkout rejects it unless that is the
revision of its own projection.  The cart page takes the largest of the revisions that are stored with
the products of the cart; a product keeps the revision of the publication that changed it last.
Checkout keeps the revision of the last publication, whether it changed these products or not.
-/

namespace Boutique.Catalog

/-! ## Histories -/

/-- What a product shows, whatever its version is. -/
def content (product : ProductSnapshot) : ProductSnapshot := { product with productVersion := 0 }

/-- The version of a product increases exactly when its content changes. -/
def Revised (old new : ProductSnapshot) : Prop :=
  (content old ≠ content new → old.productVersion < new.productVersion) ∧
    (content old = content new → old.productVersion = new.productVersion)

/-- Publications with increasing revisions, one event for each product, and versions that increase
with the content. -/
structure History (publications : List Publication) : Prop where
  revisions : (revisions publications).Pairwise (· < ·)
  products : ∀ publication ∈ publications,
    (publication.identity.products.map ProductSnapshot.productId).Nodup
  versions : ∀ productId, (snapshots publications productId).IsChain Revised

/-- The publication that brought the content which the product has had since then. -/
def LastChanged (publications : List Publication) (productId : String) (publication : Publication) :
    Prop :=
  ∃ before product after,
    upserts publications productId = before ++ (publication, product) :: after ∧
    (∀ upsert ∈ before.getLast?, content upsert.2 ≠ content product) ∧
    ∀ upsert ∈ after, content upsert.2 = content product

/-- The last publication whose revision is above those before it, as a Lua number. -/
def Marked (publications : List Publication) (publication : Publication) : Prop :=
  VersionGate.FirstMax (fun p : Publication => luaNumber p.identity.revision) publications publication

/-- The last publication that changed a product of the cart. -/
structure LastForCart (publications : List Publication) (cart : CartSnapshot)
    (publication : Publication) : Prop where
  changed : ∃ line ∈ cart.items, LastChanged publications line.productId publication
  last : ∀ line ∈ cart.items, ∀ other, LastChanged publications line.productId other →
    other.identity.revision ≤ publication.identity.revision

variable {env : CheckoutEnv} {catalogEnv : CatalogEnv} {publications : List Publication}

/-- Such publications are distinct. -/
lemma History.distinct (h : History publications) : Distinct publications where
  revisions := h.revisions.imp fun hlt => hlt.ne
  products := h.products

/-! ## The last change of a product -/

/-- A later snapshot has a larger version, or nothing has changed. -/
def Later (old new : ProductSnapshot) : Prop :=
  old.productVersion < new.productVersion ∨
    old.productVersion = new.productVersion ∧ content old = content new

/-- One after the other. -/
lemma Later.trans {a b c : ProductSnapshot} (hab : Later a b) (hbc : Later b c) : Later a c := by
  rcases hab with hab | ⟨hab, hsame⟩
  · rcases hbc with hbc | ⟨hbc, -⟩
    · exact Or.inl (hab.trans hbc)
    · exact Or.inl (hbc ▸ hab)
  · rcases hbc with hbc | ⟨hbc, hsame'⟩
    · exact Or.inl (hab ▸ hbc)
    · exact Or.inr ⟨hab.trans hbc, hsame.trans hsame'⟩

/-- The next snapshot is a later one. -/
lemma Revised.later {old new : ProductSnapshot} (h : Revised old new) : Later old new := by
  by_cases hsame : content old = content new
  · exact Or.inr ⟨h.2 hsame, hsame⟩
  · exact Or.inl (h.1 hsame)

/-- A content that stays keeps its version. -/
lemma version_eq_of_content {product : ProductSnapshot} {after : List ProductSnapshot}
    (hchain : (product :: after).IsChain Revised)
    (hsame : ∀ later ∈ after, content later = content product) :
    ∀ later ∈ after, later.productVersion = product.productVersion := by
  induction after generalizing product with
  | nil => simp
  | cons next rest ih =>
    obtain ⟨hrevised, hrest⟩ := List.isChain_cons_cons.mp hchain
    have hnext := hsame next List.mem_cons_self
    have hversion := hrevised.2 hnext.symm
    intro later hlater
    rcases List.mem_cons.mp hlater with rfl | hlater
    · exact hversion.symm
    · refine (ih hrest ?_ later hlater).trans hversion.symm
      intro other hother
      exact (hsame other (List.mem_cons_of_mem _ hother)).trans hnext.symm

/-- The first snapshot with the largest version is the last change. -/
lemma newest_iff {before after : List ProductSnapshot} {product : ProductSnapshot}
    (hchain : (before ++ product :: after).IsChain Revised) :
    ((∀ old ∈ before, old.productVersion < product.productVersion) ∧
        ∀ later ∈ after, later.productVersion ≤ product.productVersion) ↔
      (∀ old ∈ before.getLast?, content old ≠ content product) ∧
        ∀ later ∈ after, content later = content product := by
  obtain ⟨hbefore, hafter, hjoin⟩ := List.isChain_append.mp hchain
  have hpairwise : ∀ {l : List ProductSnapshot}, l.IsChain Revised → l.Pairwise Later := by
    intro l hl
    have : IsTrans ProductSnapshot Later := ⟨fun _ _ _ => Later.trans⟩
    exact List.isChain_iff_pairwise.mp (hl.imp fun _ _ => Revised.later)
  have hlater := (List.pairwise_cons.mp (hpairwise hafter)).1
  constructor
  · rintro ⟨hlt, hle⟩
    constructor
    · intro old hold hsame
      have hversion := (hjoin old hold product (by simp)).2 hsame
      have hless := hlt old (List.mem_of_getLast? hold)
      omega
    · intro later hmem
      rcases hlater later hmem with hless | ⟨-, hsame⟩
      · exact absurd (hle later hmem) (not_le.mpr hless)
      · exact hsame.symm
  · rintro ⟨hchanged, hsame⟩
    constructor
    · intro old hold
      rcases List.eq_nil_or_concat before with rfl | ⟨init, last, rfl⟩
      · cases hold
      · have hlast : last ∈ (init.concat last).getLast? := by simp
        have hless := (hjoin last hlast product (by simp)).1 (hchanged last hlast)
        rw [List.concat_eq_append] at hold hbefore
        rcases List.mem_append.mp hold with hold | hold
        · rcases (List.pairwise_append.mp (hpairwise hbefore)).2.2 old hold last (by simp) with
            hlt | ⟨heq, -⟩
          · exact hlt.trans hless
          · exact heq ▸ hless
        · rw [List.mem_singleton.mp hold]
          exact hless
    · intro later hmem
      exact (version_eq_of_content hafter hsame later hmem).le

/-- The last change of a product is the first publication with its largest version. -/
lemma lastChanged_iff (h : History publications) {productId : String} {publication : Publication} :
    LastChanged publications productId publication ↔ ∃ product,
      VersionGate.FirstMax (fun upsert : Publication × ProductSnapshot => upsert.2.productVersion)
        (upserts publications productId) (publication, product) := by
  have hnewest : ∀ {before after : List (Publication × ProductSnapshot)} {product : ProductSnapshot},
      upserts publications productId = before ++ (publication, product) :: after →
      (((∀ old ∈ before, old.2.productVersion < product.productVersion) ∧
          ∀ later ∈ after, later.2.productVersion ≤ product.productVersion) ↔
        (∀ old ∈ before.getLast?, content old.2 ≠ content product) ∧
          ∀ later ∈ after, content later.2 = content product) := by
    intro before after product hsplit
    have hchain := h.versions productId
    rw [snapshots, hsplit, List.map_append, List.map_cons] at hchain
    simpa only [List.forall_mem_map, List.getLast?_map, Option.forall_mem_map] using newest_iff hchain
  constructor
  · rintro ⟨before, product, after, hsplit, hlast⟩
    exact ⟨product, before, after, hsplit, (hnewest hsplit).mpr hlast⟩
  · rintro ⟨product, before, after, hsplit, hmax⟩
    exact ⟨before, product, after, hsplit, (hnewest hsplit).mp hmax⟩

/-! ## What the two services hold -/

/-- Both services after the publications. -/
lemma consumed (hids : MessageIds catalogEnv) :
    Services.consumeAll env catalogEnv {} publications =
      some ((publications.flatMap Publication.facts).foldl (Services.after env catalogEnv) {}) :=
  Services.consumeAll_eq hids {} publications

/-- The storefront keeps a product with the publication that changed it last. -/
lemma exists_lastChanged (env : CheckoutEnv) (hids : MessageIds catalogEnv) (h : History publications)
    {productId : String} (hpublished : upserts publications productId ≠ []) :
    ∃ publication product, (publication, product) ∈ upserts publications productId ∧
      LastChanged publications productId publication ∧
      ((publications.flatMap Publication.facts).foldl (Services.after env catalogEnv)
        {}).storefront.products productId = some (productView catalogEnv publication product) := by
  obtain ⟨⟨publication, product⟩, hmax⟩ := VersionGate.exists_firstMax
    (fun upsert : Publication × ProductSnapshot => upsert.2.productVersion) hpublished
  refine ⟨publication, product, hmax.mem, (lastChanged_iff h).mpr ⟨product, hmax⟩, ?_⟩
  rw [storefront_product hids h.distinct, VersionGate.winner_withBot_iff.mpr hmax]
  rfl

/-- A product was changed last by one publication. -/
lemma LastChanged.unique (h : History publications) {productId : String} {p q : Publication}
    (hp : LastChanged publications productId p) (hq : LastChanged publications productId q) :
    p = q := by
  obtain ⟨product, hproduct⟩ := (lastChanged_iff h).mp hp
  obtain ⟨other, hother⟩ := (lastChanged_iff h).mp hq
  exact congrArg Prod.fst (hproduct.unique hother)

/-- Checkout keeps the revision of the marked publication. -/
lemma Marked.checkout {publication : Publication} (h : Marked publications publication) :
    ((publications.flatMap Publication.facts).foldl (Services.after env catalogEnv)
      {}).checkout.catalog.value.getD 0 = publication.identity.revision := by
  rw [checkout_catalog, revisions, VersionGate.winner_map]
  rcases VersionGate.winner_spec (luaNumber ∘ fun p : Publication => p.identity.revision) 0
    publications with ⟨hnone, hle⟩ | ⟨v, hv, -, hmax⟩
  · -- only the revision 0 has the number 0
    rw [hnone]
    have hzero := hle publication h.mem
    by_contra hne
    exact absurd (luaNumber_pos (Nat.pos_of_ne_zero (Ne.symm hne))) (not_lt.mpr hzero)
  · rw [hv, h.unique hmax]
    rfl

/-- The revision determines the publication. -/
lemma History.eq_of_revision (h : History publications) {p q : Publication} (hp : p ∈ publications)
    (hq : q ∈ publications) (heq : p.identity.revision = q.identity.revision) : p = q :=
  List.inj_on_of_nodup_map h.distinct.revisions hp hq heq

/-- An upsert is in its publication. -/
lemma mem_of_upserts {productId : String} {publication : Publication} {product : ProductSnapshot}
    (h : (publication, product) ∈ upserts publications productId) : publication ∈ publications := by
  obtain ⟨other, hother, hmem⟩ := List.mem_flatMap.mp h
  obtain ⟨_, -, heq⟩ := List.mem_map.mp hmem
  obtain rfl : other = publication := congrArg Prod.fst heq
  exact hother

/-- The largest of some numbers. -/
lemma foldl_max_eq_iff {l : List ℕ} (hne : l ≠ []) {m : ℕ} :
    l.foldl max 0 = m ↔ m ∈ l ∧ ∀ n ∈ l, n ≤ m := by
  obtain ⟨a, rest, rfl⟩ := List.exists_cons_of_ne_nil hne
  rw [List.foldl_cons, Nat.zero_max, ← List.max?_eq_some_iff, List.max?_cons', Option.some_inj]

/-! ## Agreement -/

section Agreement

variable {round64 : ℚ → ℚ} {buckets : Storefront.Buckets}
  {contexts : String → Option Storefront.RecommendationView} {now : Time}

/-- No order that names the revision fails a catalog test of checkout. -/
def PassesCatalogTests (env : CheckoutEnv) (keys : ProjectionKeys) (revision : ℕ) : Prop :=
  ∀ (command : OrderSubmitCommand) (time : Time), command.expectedCatalogRevision = revision →
    ¬(loadOrderProjections env keys command time).catalogRevision < command.expectedCatalogRevision ∧
    ∀ cart, (validateOrderCommand env (loadOrderProjections env keys command time) cart command).map
      Failure.code ≠ some "CATALOG_VERSION_CONFLICT"

/-- The products of the cart are published, and their prices and the shipping quote are shown in the
currency of the request. -/
structure Available (publications : List Publication) (round64 : ℚ → ℚ) (buckets : Storefront.Buckets)
    (request : Storefront.QueryRequest) (cart : CartSnapshot) (rates : Storefront.CurrencyView) :
    Prop where
  nonempty : cart.items ≠ []
  published : ∀ line ∈ cart.items, upserts publications line.productId ≠ []
  currency : Storefront.currencyView buckets request.currencyCode = .ok rates
  priced : ∀ line ∈ cart.items, ∀ upsert ∈ upserts publications line.productId, ∃ localized,
    Storefront.localizeProduct round64 (some upsert.2) rates request.currencyCode = .ok localized
  quoted : ∀ quote cost, buckets.quotes request.userId = some quote → quote.costUsd = some cost →
    (rates.convert round64 cost request.currencyCode).isSome = true

/-- A read of another record leaves the revision. -/
lemma ProjectionRead.store_catalogRevision {keys : ProjectionKeys} {command : OrderSubmitCommand}
    {read : ProjectionRead} (hread : read ≠ .catalog) (state : PersistedState) :
    (ProjectionRead.store env keys command state read).catalogRevision = state.catalogRevision := by
  cases read with
  | catalog => exact absurd rfl hread
  | rates =>
    simp only [ProjectionRead.store]
    split
    · split_ifs
      · rfl
      · rfl
    · rfl
  | cart =>
    simp only [ProjectionRead.store]
    split
    · split_ifs
      · rfl
      · rfl
    · rfl
  | product productId =>
    simp only [ProjectionRead.store]
    split
    · rfl
    · rfl

/-- Checkout loads the revision of its marker. -/
lemma loadOrderProjections_catalogRevision (env : CheckoutEnv) (keys : ProjectionKeys)
    (command : OrderSubmitCommand) (time : Time) :
    (loadOrderProjections env keys command time).catalogRevision = keys.catalog.value.getD 0 := by
  have hkept : ∀ (reads : List ProjectionRead) (state : PersistedState),
      (∀ read ∈ reads, read ≠ .catalog) →
      (reads.foldl (ProjectionRead.store env keys command) state).catalogRevision =
        state.catalogRevision := by
    intro reads
    induction reads with
    | nil => exact fun _ _ => rfl
    | cons read reads ih =>
      intro state hreads
      rw [List.foldl_cons, ih _ fun other hother => hreads other (List.mem_cons_of_mem _ hother)]
      exact ProjectionRead.store_catalogRevision (hreads read List.mem_cons_self) state
  have hproducts : ∀ state, ∀ read ∈ productReads state command, read ≠ .catalog := by
    intro state read hread
    unfold productReads at hread
    split at hread
    · obtain ⟨productId, -, rfl⟩ := List.mem_map.mp hread
      simp
    · cases hread
  rw [loadOrderProjections, hkept _ _ (hproducts _), markerReads, List.foldl_cons,
    hkept _ _ (by simp)]
  rfl

/-- The revision of the marker passes both tests. -/
lemma passesCatalogTests (keys : ProjectionKeys) :
    PassesCatalogTests env keys (keys.catalog.value.getD 0) := by
  intro command time hexpected
  have hloaded := loadOrderProjections_catalogRevision env keys command time
  refine ⟨by rw [hloaded, hexpected]; exact lt_irrefl _, ?_⟩
  intro cart hconflict
  obtain ⟨failure, hfailure, hcode⟩ := Option.map_eq_some_iff.mp hconflict
  have hother : ∀ {code message : String}, some ({ code, safeMessage := message } : Failure) =
      some failure → code = "CATALOG_VERSION_CONFLICT" := by
    rintro code message ⟨⟩
    exact hcode
  cases cart with
  | none => exact absurd (hother hfailure) (by decide)
  | some cart =>
    simp only [validateOrderCommand, hloaded, hexpected, ne_eq, not_true_eq_false, if_false] at hfailure
    split at hfailure
    · exact absurd (hother hfailure) (by decide)
    split at hfailure
    · exact absurd (hother hfailure) (by decide)
    split at hfailure
    · exact absurd (hother hfailure) (by decide)
    split at hfailure
    · exact absurd (hother hfailure) (by decide)
    split at hfailure
    · exact absurd (hother hfailure) (by decide)
    split at hfailure
    · exact absurd (hother hfailure) (by decide)
    split at hfailure
    · exact absurd (hother hfailure) (by decide)
    · cases hfailure

/-- The page of a cart of published products is returned. -/
lemma cart_page (contexts : String → Option Storefront.RecommendationView) (now : Time)
    (hids : MessageIds catalogEnv) (h : History publications) {request : Storefront.QueryRequest}
    {readCart : String → Except Storefront.QueryError Storefront.CartView}
    {cart : Storefront.CartView} {rates : Storefront.CurrencyView}
    (hproducts : buckets.products = ((publications.flatMap Publication.facts).foldl
      (Services.after env catalogEnv) {}).storefront.products)
    (hcart : readCart request.userId = .ok cart)
    (havailable : Available publications round64 buckets request cart.cart rates) :
    ∃ response, Storefront.cartQueryFrom round64 buckets contexts now request readCart =
        .ok response ∧
      response.catalogRevision =
        (cart.cart.items.map (Storefront.lineRevision buckets)).foldl max 0 := by
  refine Storefront.cartQueryFrom_revision contexts now havailable.currency hcart ?_
    havailable.quoted
  intro line hline
  obtain ⟨publication, product, hmem, -, hview⟩ :=
    exists_lastChanged env hids h (havailable.published line hline)
  obtain ⟨localized, hlocalized⟩ := havailable.priced line hline _ hmem
  exact ⟨_, localized, by rw [hproducts, hview], rfl, hlocalized⟩

/-- For every history, every environment of the checkout and every cart of published products, the page
of the cart is returned, and its revision is the one of checkout's projection, so that an order which
names it passes the catalog tests, if and only if the last publication that changed a product of the
cart is the one that checkout keeps. -/
theorem cart_revision_agrees_iff (env : CheckoutEnv) (catalogEnv : CatalogEnv)
    (hids : MessageIds catalogEnv) (publications : List Publication) (h : History publications)
    (round64 : ℚ → ℚ) (contexts : String → Option Storefront.RecommendationView) (now : Time) :
    ∃ services, Services.consumeAll env catalogEnv {} publications = some services ∧
      ∀ (buckets : Storefront.Buckets) (keys : ProjectionKeys) (request : Storefront.QueryRequest)
        (readCart : String → Except Storefront.QueryError Storefront.CartView)
        (cart : Storefront.CartView) (rates : Storefront.CurrencyView),
        buckets.products = services.storefront.products → keys.catalog = services.checkout.catalog →
        readCart request.userId = .ok cart →
        Available publications round64 buckets request cart.cart rates →
        ∃ response, Storefront.cartQueryFrom round64 buckets contexts now request readCart =
            .ok response ∧
          (response.catalogRevision = keys.catalog.value.getD 0 ∧
              PassesCatalogTests env keys response.catalogRevision ↔
            ∃ publication, Marked publications publication ∧
              LastForCart publications cart.cart publication) := by
  refine ⟨_, consumed hids, ?_⟩
  intro buckets keys request readCart cart rates hproducts hkeys hcart havailable
  have hchanged := fun line hline =>
    exists_lastChanged env hids h (havailable.published line hline)
  obtain ⟨response, hresponse, hrevision⟩ :=
    cart_page contexts now hids h hproducts hcart havailable
  refine ⟨response, hresponse, ?_⟩
  -- the revision of a line is that of the last change of its product
  have hline : ∀ line ∈ cart.cart.items, ∀ publication,
      LastChanged publications line.productId publication →
      Storefront.lineRevision buckets line = publication.identity.revision := by
    intro line hmem publication hlast
    obtain ⟨other, product, -, hother, hview⟩ := hchanged line hmem
    rw [hlast.unique h hother, Storefront.lineRevision, hproducts, hview]
    rfl
  have hne : publications ≠ [] := by
    rintro rfl
    obtain ⟨line, hmem⟩ := List.exists_mem_of_ne_nil _ havailable.nonempty
    exact havailable.published line hmem rfl
  obtain ⟨marked, hmarked⟩ := VersionGate.exists_firstMax
    (fun p : Publication => luaNumber p.identity.revision) hne
  have hmarker : keys.catalog.value.getD 0 = marked.identity.revision := by
    rw [hkeys]
    exact Marked.checkout hmarked
  have hagree : response.catalogRevision = keys.catalog.value.getD 0 ↔
      LastForCart publications cart.cart marked := by
    rw [hrevision, hmarker, foldl_max_eq_iff (by simpa using havailable.nonempty)]
    constructor
    · rintro ⟨hmem, hle⟩
      obtain ⟨line, hin, heq⟩ := List.mem_map.mp hmem
      obtain ⟨publication, product, hupsert, hlast, -⟩ := hchanged line hin
      refine ⟨⟨line, hin, ?_⟩, ?_⟩
      · have hsame : publication = marked := by
          refine h.eq_of_revision (mem_of_upserts hupsert) hmarked.mem ?_
          rw [← hline line hin publication hlast, heq]
        exact hsame ▸ hlast
      · intro other hother publication hlast'
        rw [← hline other hother publication hlast']
        exact hle _ (List.mem_map_of_mem hother)
    · rintro ⟨⟨line, hin, hlast⟩, hle⟩
      refine ⟨List.mem_map.mpr ⟨line, hin, hline line hin marked hlast⟩, ?_⟩
      intro n hn
      obtain ⟨other, hother, rfl⟩ := List.mem_map.mp hn
      obtain ⟨publication, product, -, hlast', -⟩ := hchanged other hother
      rw [hline other hother publication hlast']
      exact hle other hother publication hlast'
  constructor
  · rintro ⟨heq, -⟩
    exact ⟨marked, hmarked, hagree.mp heq⟩
  · rintro ⟨publication, hpublication, hlast⟩
    have hsame : publication = marked := VersionGate.FirstMax.unique hpublication hmarked
    have heq := hagree.mpr (hsame ▸ hlast)
    exact ⟨heq, heq ▸ passesCatalogTests keys⟩

end Agreement

/-! ## Two publications -/

namespace Sample

/-- A product at a price in dollars. -/
def item (productId : String) (price : ℤ) (version : ℕ) : ProductSnapshot where
  productId := productId
  priceUsd := some { currencyCode := "USD", units := price }
  productVersion := version

/-- Two products. -/
def first : Publication where
  identity := { revision := 1, checksum := "1", products := [item "a" 3 1, item "b" 3 1] }
  time := 5

/-- A new price for one of them. -/
def second : Publication where
  identity := { revision := 2, checksum := "2", products := [item "a" 5 2, item "b" 3 1] }
  time := 6

/-- One after the other. -/
def twoPublications : List Publication := [first, second]

/-- A cart with one of the products. -/
def cartOf (productId : String) : Storefront.CartView where
  cart := { userId := "u", items := [{ productId := productId, quantity := 1 }], cartVersion := 1 }
  updatedAt := 5

/-- The cart is read. -/
def readCart (productId : String) (_ : String) : Except Storefront.QueryError Storefront.CartView :=
  .ok (cartOf productId)

/-- The rates: dollars only. -/
def dollars : Storefront.CurrencyView where
  baseCurrencyCode := "USD"
  rates := [{ currencyCode := "USD", unitsPerBase := 1 }]
  rateRevision := 1
  updatedAt := 5

/-- The request for the page of a cart in dollars. -/
def pageRequest : Storefront.QueryRequest where
  userId := "u"
  currencyCode := "USD"

/-- The records of the storefront, with the rates. -/
def pageBuckets (services : Services) : Storefront.Buckets :=
  { services.storefront with currency := some dollars, quotes := fun _ => none }

/-- The publications are a history. -/
lemma twoPublications_history : History twoPublications where
  revisions := by decide
  products := by decide
  versions := by
    intro productId
    by_cases ha : "a" = productId
    · subst ha
      simp [snapshots, upserts, twoPublications, first, second, item, Revised, content]
    · by_cases hb : "b" = productId
      · subst hb
        simp [snapshots, upserts, twoPublications, first, second, item, Revised, content]
      · simp [snapshots, upserts, twoPublications, first, second, item, ha, hb]

/-- A cart of one of the products is available. -/
lemma cartOf_available {productId : String} (h : productId = "a" ∨ productId = "b")
    (services : Services) :
    Available twoPublications id (pageBuckets services) pageRequest (cartOf productId).cart dollars where
  nonempty := by simp [cartOf]
  published := by
    intro line hline
    obtain rfl := List.mem_singleton.mp hline
    rcases h with rfl | rfl
    · decide
    · decide
  currency := by
    simp [Storefront.currencyView, pageBuckets, pageRequest, Storefront.currencyOrDefault, dollars,
      Storefront.CurrencyView.supportedCurrencies]
  priced := by
    intro line hline upsert hupsert
    obtain ⟨publication, hpublication, hmem⟩ := List.mem_flatMap.mp hupsert
    obtain ⟨product, hproduct, rfl⟩ := List.mem_map.mp hmem
    have hprice : ∃ price, product.priceUsd = some price ∧ price.currencyCode = "USD" := by
      have hall : ∀ publication ∈ twoPublications, ∀ product ∈ publication.identity.products,
          product.priceUsd.map Money.currencyCode = some "USD" := by
        decide
      exact Option.map_eq_some_iff.mp
        (hall publication hpublication product (List.mem_of_mem_filter hproduct))
    obtain ⟨price, hsome, hcurrency⟩ := hprice
    simp [Storefront.localizeProduct, hsome, Storefront.CurrencyView.convert,
      Storefront.CurrencyView.rate, dollars, hcurrency, pageRequest, Storefront.currencyOrDefault]
  quoted := by simp [pageBuckets]

/-- Both services after the publications. -/
def services : Services :=
  (twoPublications.flatMap Publication.facts).foldl (Services.after Boutique.Sample.env hashes) {}

/-- The page shows the products of the storefront. -/
lemma services_products : (pageBuckets services).products =
    ((twoPublications.flatMap Publication.facts).foldl (Services.after Boutique.Sample.env hashes)
      {}).storefront.products := by
  unfold pageBuckets services
  rfl

/-- The cart of the page. -/
lemma readCart_eq : readCart "b" pageRequest.userId = .ok (cartOf "b") := rfl

/-- An order for the cart as the page shows it. -/
def unchangedCommand : OrderSubmitCommand where
  commandId := "c"
  operationId := "o"
  orderId := "o"
  userId := "u"
  expectedCartVersion := 1
  expectedCatalogRevision := 1
  expectedRateRevision := 1
  currencyCode := "USD"
  shippingAddress := none
  email := "e"
  paymentToken := "t"

/-- The price of the first product is the last change. -/
lemma lastChanged_second : LastChanged twoPublications "a" second :=
  ⟨[(first, item "a" 3 1)], item "a" 5 2, [], rfl, by decide, by simp⟩

end Sample

/-- The page of a cart with the product whose price is new agrees with checkout. -/
theorem changed_product_agrees : ∃ services,
    Services.consumeAll Boutique.Sample.env Sample.hashes {} Sample.twoPublications = some services ∧
    ∃ response, Storefront.cartQueryFrom id (Sample.pageBuckets services) (fun _ => none) 7
        Sample.pageRequest (Sample.readCart "a") = .ok response ∧
      response.catalogRevision = services.checkout.catalog.value.getD 0 ∧
      PassesCatalogTests Boutique.Sample.env services.checkout response.catalogRevision := by
  obtain ⟨services, hservices, hagrees⟩ := cart_revision_agrees_iff Boutique.Sample.env Sample.hashes
    Sample.messageIds Sample.twoPublications Sample.twoPublications_history id (fun _ => none) 7
  obtain ⟨response, hresponse, hiff⟩ := hagrees (Sample.pageBuckets services) services.checkout
    Sample.pageRequest (Sample.readCart "a") (Sample.cartOf "a") Sample.dollars rfl rfl rfl
    (Sample.cartOf_available (Or.inl rfl) services)
  refine ⟨services, hservices, response, hresponse, hiff.mpr ⟨Sample.second, ?_, ?_, ?_⟩⟩
  · exact ⟨[Sample.first], [], rfl, by decide, by simp⟩
  · exact ⟨_, List.mem_singleton_self _, Sample.lastChanged_second⟩
  · intro line hline other hother
    obtain rfl := List.mem_singleton.mp hline
    rw [hother.unique Sample.twoPublications_history Sample.lastChanged_second]

/-- The page of a cart with the other product does not: checkout rejects every order that is made from
it. -/
theorem unchanged_product_conflicts : History Sample.twoPublications ∧ ∃ services,
    Services.consumeAll Boutique.Sample.env Sample.hashes {} Sample.twoPublications = some services ∧
    Available Sample.twoPublications id (Sample.pageBuckets services) Sample.pageRequest
      (Sample.cartOf "b").cart Sample.dollars ∧
    ∃ response, Storefront.cartQueryFrom id (Sample.pageBuckets services) (fun _ => none) 7
        Sample.pageRequest (Sample.readCart "b") = .ok response ∧
      response.catalogRevision = 1 ∧ services.checkout.catalog.value = some 2 ∧
      ¬PassesCatalogTests Boutique.Sample.env services.checkout response.catalogRevision := by
  have hone : Storefront.lineRevision (Sample.pageBuckets Sample.services)
      { productId := "b", quantity := 1 } = 1 := by
    rw [Storefront.lineRevision, Sample.services_products,
      storefront_product Sample.messageIds Sample.twoPublications_history.distinct]
    decide +kernel
  have htwo : Sample.services.checkout.catalog.value = some 2 := by decide +kernel
  have havailable := Sample.cartOf_available (Or.inr rfl) Sample.services
  obtain ⟨response, hresponse, hrevision⟩ := cart_page (fun _ => none) 7 Sample.messageIds
    Sample.twoPublications_history Sample.services_products Sample.readCart_eq havailable
  have hresponseOne : response.catalogRevision = 1 := by
    rw [hrevision]
    simp [Sample.cartOf, hone]
  refine ⟨Sample.twoPublications_history, Sample.services, consumed Sample.messageIds, havailable,
    response, hresponse, hresponseOne, htwo, ?_⟩
  intro hpasses
  obtain ⟨-, hvalid⟩ := hpasses Sample.unchangedCommand 7 hresponseOne.symm
  refine hvalid (some (Sample.cartOf "b").cart) ?_
  have hloaded := loadOrderProjections_catalogRevision Boutique.Sample.env Sample.services.checkout
    Sample.unchangedCommand 7
  rw [htwo, Option.getD_some] at hloaded
  simp only [validateOrderCommand, hloaded]
  rfl

end Boutique.Catalog
