import Boutique.Checkout.System
import Boutique.Catalog.Consumption

/-!
# The last deployed catalog

Catalogs are deployed one after the other, and all events of one are consumed before the next is
published.  The consumers accept only larger numbers, and the publisher takes the numbers from the
content, so the last catalog is what they hold exactly when its numbers win the gates.
-/

namespace Boutique.Catalog

/-- A deployed catalog: its products have different IDs. -/
structure Deployment where
  products : List Product
  nodup : (products.map Product.id).Nodup
  time : Time

/-- The completed bootstrap claims and the consumers. -/
structure Shop where
  claims : String → Bool := fun _ => false
  services : Services := {}

section Deploy

variable (env : CheckoutEnv) (catalogEnv : CatalogEnv)

/-- A catalog is passed to `publishBootstrap`, which returns nil, and its events are consumed. -/
def Shop.deploy (shop : Shop) (deployment : Deployment) : Option Shop := do
  let (claims, events) ← (publishBootstrap catalogEnv shop.claims deployment.products
    deployment.time).toOption
  let services ← events.foldlM (Services.consume env) shop.services
  return { claims := claims, services := services }

/-- The shop after a sequence of deployments. -/
def deployAll (deployments : List Deployment) : Option Shop :=
  deployments.foldlM (Shop.deploy env catalogEnv) {}

/-- A deployment adds a publication, unless its revision was published before. -/
def addPublication (publications : List Publication) (deployment : Deployment) :
    List Publication :=
  match identifyCatalog catalogEnv deployment.products with
  | .ok identity =>
    if identity.revision ∈ revisions publications then publications
    else publications ++ [{ identity := identity, time := deployment.time }]
  | .error _ => publications

/-- The catalogs that a sequence of deployments publishes. -/
def publications (deployments : List Deployment) : List Publication :=
  deployments.foldl (addPublication catalogEnv) []

end Deploy

/-- `v` is the first of the list with the largest number, for the exact numbers and for the Lua
numbers. -/
def Wins {α : Type} (number : α → ℕ) (l : List α) (v : α) : Prop :=
  VersionGate.FirstMax (luaNumber ∘ number) l v ∧ VersionGate.FirstMax number l v

/-- The numbers of a catalog win among the published ones. -/
def Newest (publications : List Publication) (identity : CatalogIdentity) : Prop :=
  Wins id (revisions publications) identity.revision ∧
    ∀ product ∈ identity.products,
      Wins ProductSnapshot.productVersion (snapshots publications product.productId) product

/-- Both consumers hold the snapshot of every product of the catalog, and its revision. -/
def Services.Hold (env : CheckoutEnv) (services : Services) (identity : CatalogIdentity) : Prop :=
  (∀ product ∈ identity.products,
    (services.checkout.products (env.digest product.productId)).value =
      some { product := some product } ∧
    ∃ view, services.storefront.products product.productId = some view ∧
      view.product = some product ∧ view.removed = false) ∧
  services.checkout.catalog.value = some identity.revision ∧
  ∃ view, services.storefront.catalog = some view ∧ view.catalogRevision = identity.revision

variable {env : CheckoutEnv} {catalogEnv : CatalogEnv}

/-! ## What the gates hold -/

section Gates

variable {publications : List Publication}

/-- The storefront holds a product snapshot when it is the first with the largest version. -/
lemma storefront_product_iff (hids : MessageIds catalogEnv) (hdistinct : Distinct publications)
    {product : ProductSnapshot} :
    (∃ view, ((publications.flatMap Publication.facts).foldl (Services.after env catalogEnv)
        {}).storefront.products product.productId = some view ∧
      view.product = some product ∧ view.removed = false) ↔
    VersionGate.FirstMax ProductSnapshot.productVersion
      (snapshots publications product.productId) product := by
  rw [storefront_product hids hdistinct, ← VersionGate.winner_withBot_iff, snapshots,
    VersionGate.winner_map, Option.map_eq_some_iff]
  constructor
  · rintro ⟨view, hview, hproduct, -⟩
    obtain ⟨upsert, hupsert, rfl⟩ := Option.map_eq_some_iff.mp hview
    exact ⟨upsert, hupsert, Option.some.inj hproduct⟩
  · rintro ⟨upsert, hupsert, rfl⟩
    exact ⟨_, Option.map_eq_some_iff.mpr ⟨upsert, hupsert, rfl⟩, rfl, rfl⟩

/-- The storefront holds a revision when it is the first with the largest number. -/
lemma storefront_catalog_iff (hids : MessageIds catalogEnv) (hdistinct : Distinct publications)
    {revision : ℕ} :
    (∃ view, ((publications.flatMap Publication.facts).foldl (Services.after env catalogEnv)
        {}).storefront.catalog = some view ∧ view.catalogRevision = revision) ↔
    VersionGate.FirstMax id (revisions publications) revision := by
  rw [storefront_catalog hids hdistinct, ← VersionGate.winner_withBot_iff, revisions,
    VersionGate.winner_map, Option.map_eq_some_iff]
  constructor
  · rintro ⟨view, hview, hrevision⟩
    obtain ⟨publication, hpublication, rfl⟩ := Option.map_eq_some_iff.mp hview
    exact ⟨publication, hpublication, hrevision⟩
  · rintro ⟨publication, hpublication, rfl⟩
    exact ⟨_, Option.map_eq_some_iff.mpr ⟨publication, hpublication, rfl⟩, rfl⟩

/-- Checkout holds a product snapshot when it is the first with the largest Lua version. -/
lemma checkout_product_iff (hdigest : Function.Injective env.digest) {product : ProductSnapshot}
    (hversion : 0 < product.productVersion) :
    (((publications.flatMap Publication.facts).foldl (Services.after env catalogEnv)
        {}).checkout.products (env.digest product.productId)).value =
      some { product := some product } ↔
    VersionGate.FirstMax (luaNumber ∘ ProductSnapshot.productVersion)
      (snapshots publications product.productId) product := by
  rw [checkout_product hdigest, Option.map_eq_some_iff]
  constructor
  · rintro ⟨winner, hwinner, heq⟩
    simp only [ProductProjection.mk.injEq, Option.some.injEq, and_true] at heq
    subst heq
    exact (VersionGate.winner_eq_some_iff.mp hwinner).2
  · intro h
    exact ⟨product, VersionGate.winner_eq_some_iff.mpr ⟨luaNumber_pos hversion, h⟩, rfl⟩

/-- Checkout holds a revision when it is the first with the largest Lua number. -/
lemma checkout_catalog_iff {revision : ℕ} (hrevision : 0 < revision) :
    ((publications.flatMap Publication.facts).foldl (Services.after env catalogEnv)
        {}).checkout.catalog.value = some revision ↔
    VersionGate.FirstMax luaNumber (revisions publications) revision := by
  rw [checkout_catalog, VersionGate.winner_eq_some_iff]
  exact and_iff_right (luaNumber_pos hrevision)

end Gates

/-! ## Runs of deployments -/

/-- The claims are those of the published revisions, and the consumers have seen all publications. -/
structure Shop.Published (env : CheckoutEnv) (catalogEnv : CatalogEnv) (shop : Shop)
    (publications : List Publication) : Prop where
  claims : ∀ revision, shop.claims (bootstrapWorkId revision) = true ↔
    revision ∈ revisions publications
  services : shop.services =
    (publications.flatMap Publication.facts).foldl (Services.after env catalogEnv) {}
  distinct : Distinct publications

/-- A deployment publishes its catalog, unless it was published before. -/
lemma Shop.Published.deploy {shop shop' : Shop} {publications : List Publication}
    {deployment : Deployment} (hids : MessageIds catalogEnv)
    (h : shop.Published env catalogEnv publications)
    (hdeploy : shop.deploy env catalogEnv deployment = some shop') :
    shop'.Published env catalogEnv (addPublication catalogEnv publications deployment) := by
  unfold Shop.deploy at hdeploy
  unfold addPublication
  cases hidentity : identifyCatalog catalogEnv deployment.products with
  | error err =>
    rw [publishBootstrap, hidentity] at hdeploy
    cases hdeploy
  | ok identity =>
    obtain ⟨-, -, hnodup⟩ := identifyCatalog_eq_ok hidentity
    rw [publishBootstrap_eq hidentity] at hdeploy
    by_cases hclaim : shop.claims (bootstrapWorkId identity.revision) = true
    · -- the claim is complete: nothing is published
      rw [if_pos hclaim] at hdeploy
      cases hdeploy
      simp only [(h.claims _).mp hclaim, if_true]
      exact h
    · have hnew : identity.revision ∉ revisions publications := fun hmem =>
        hclaim ((h.claims _).mpr hmem)
      rw [if_neg hclaim] at hdeploy
      obtain ⟨_, ⟨⟩, hdeploy⟩ := Option.bind_eq_some_iff.mp hdeploy
      obtain ⟨services, hservices, ⟨⟩⟩ := Option.bind_eq_some_iff.mp hdeploy
      rw [Publication.events_eq ⟨identity, deployment.time⟩,
        Services.foldlM_consume hids] at hservices
      cases hservices
      simp only [hnew, if_false]
      refine ⟨fun revision => ?_, ?_, ?_, ?_⟩
      · rw [revisions, List.map_append, List.mem_append, List.map_singleton, List.mem_singleton]
        by_cases heq : revision = identity.revision
        · subst heq
          simp
        · have hwork : bootstrapWorkId revision ≠ bootstrapWorkId identity.revision := fun hwork =>
            heq (bootstrapWorkId_injective hwork)
          simp only [ne_eq, hwork, not_false_eq_true, Function.update_of_ne, h.claims, heq, or_false]
          rfl
      · rw [h.services, List.flatMap_append, List.foldl_append, List.flatMap_singleton]
      · rw [revisions, List.map_append, List.nodup_append]
        refine ⟨h.distinct.revisions, by simp, ?_⟩
        rintro a ha b hb rfl
        rw [List.map_singleton, List.mem_singleton] at hb
        exact hnew (hb ▸ ha)
      · intro publication hmem
        rcases List.mem_append.mp hmem with hmem | hmem
        · exact h.distinct.products publication hmem
        · cases List.mem_singleton.mp hmem
          exact hnodup deployment.nodup

/-- The shop after a sequence of deployments. -/
theorem deployAll_published {deployments : List Deployment} {shop : Shop}
    (hids : MessageIds catalogEnv) (hrun : deployAll env catalogEnv deployments = some shop) :
    shop.Published env catalogEnv (publications catalogEnv deployments) := by
  induction deployments using List.reverseRecOn generalizing shop with
  | nil =>
    cases hrun
    exact ⟨by simp [publications, revisions], rfl, ⟨.nil, by simp [publications]⟩⟩
  | append_singleton deployments deployment ih =>
    rw [deployAll, List.foldlM_append] at hrun
    obtain ⟨shop', hshop', hdeploy⟩ := Option.bind_eq_some_iff.mp hrun
    obtain ⟨_, hdeploy, hpure⟩ := Option.bind_eq_some_iff.mp hdeploy
    cases hpure
    rw [publications, List.foldl_append]
    exact (ih hshop').deploy hids hdeploy

/-- A catalog that is identified can be deployed. -/
lemma Shop.exists_deploy (env : CheckoutEnv) (hids : MessageIds catalogEnv) (shop : Shop)
    {deployment : Deployment} {identity : CatalogIdentity}
    (hidentity : identifyCatalog catalogEnv deployment.products = .ok identity) :
    ∃ shop', shop.deploy env catalogEnv deployment = some shop' := by
  unfold Shop.deploy
  rw [publishBootstrap_eq hidentity]
  split_ifs
  · exact ⟨_, rfl⟩
  · rw [Publication.events_eq ⟨identity, deployment.time⟩]
    simp only [Except.toOption, Option.bind_eq_bind, Option.bind_some,
      Services.foldlM_consume hids]
    exact ⟨_, rfl⟩

/-- So can any number of them. -/
lemma exists_deployAll (env : CheckoutEnv) (hids : MessageIds catalogEnv)
    {deployments : List Deployment} (hidentities : ∀ deployment ∈ deployments,
      ∃ identity, identifyCatalog catalogEnv deployment.products = .ok identity) :
    ∃ shop, deployAll env catalogEnv deployments = some shop := by
  unfold deployAll
  generalize ({} : Shop) = shop
  induction deployments generalizing shop with
  | nil => exact ⟨shop, rfl⟩
  | cons deployment deployments ih =>
    rw [List.forall_mem_cons] at hidentities
    obtain ⟨⟨identity, hidentity⟩, hrest⟩ := hidentities
    obtain ⟨next, hnext⟩ := shop.exists_deploy env hids hidentity
    obtain ⟨last, hlast⟩ := ih hrest next
    exact ⟨last, Option.bind_eq_some_iff.mpr ⟨next, hnext, hlast⟩⟩

/-- After any sequence of deployments the consumers hold the last catalog, all its products and its
revision, exactly when its numbers win among the published ones. -/
theorem last_catalog_held_iff (env : CheckoutEnv) (catalogEnv : CatalogEnv)
    (hdigest : Function.Injective env.digest) (hids : MessageIds catalogEnv)
    (deployments : List Deployment) (last : Deployment) (identity : CatalogIdentity)
    (hidentity : identifyCatalog catalogEnv last.products = .ok identity) (shop : Shop)
    (hrun : deployAll env catalogEnv (deployments ++ [last]) = some shop) :
    shop.services.Hold env identity ↔
      Newest (publications catalogEnv (deployments ++ [last])) identity := by
  obtain ⟨hrevision, hversions, -⟩ := identifyCatalog_eq_ok hidentity
  have hpublished := deployAll_published hids hrun
  rw [Services.Hold, Newest, hpublished.services, checkout_catalog_iff hrevision,
    storefront_catalog_iff hids hpublished.distinct, and_comm]
  refine and_congr Iff.rfl (forall₂_congr fun product hproduct => ?_)
  rw [checkout_product_iff hdigest (hversions product hproduct),
    storefront_product_iff hids hpublished.distinct]
  rfl

/-! ## A catalog of one product -/

namespace Sample

/-- A text whose end can be found. -/
def encodeText : List Char → List Char
  | [] => ['.']
  | c :: cs => 'c' :: c :: encodeText cs

/-- An encoded text is read back from the front of a longer one. -/
lemma encodeText_append_inj {a b x y : List Char} (h : encodeText a ++ x = encodeText b ++ y) :
    a = b ∧ x = y := by
  induction a generalizing b with
  | nil =>
    cases b with
    | nil => simpa [encodeText] using h
    | cons c cs => simp [encodeText] at h
  | cons c cs ih =>
    cases b with
    | nil => simp [encodeText] at h
    | cons d ds =>
      simp only [encodeText, List.cons_append, List.cons.injEq, true_and] at h
      obtain ⟨rfl, hx⟩ := ih h.2
      exact ⟨by rw [h.1], hx⟩

/-- The parts of a message ID are read back from it. -/
lemma flatMap_encodeText_inj {parts parts' : List String}
    (h : (parts.flatMap fun part => encodeText part.toList) =
      parts'.flatMap fun part => encodeText part.toList) : parts = parts' := by
  induction parts generalizing parts' with
  | nil =>
    cases parts' with
    | nil => rfl
    | cons part parts' => cases hpart : part.toList <;> simp [encodeText, hpart] at h
  | cons part parts ih =>
    cases parts' with
    | nil => cases hpart : part.toList <;> simp [encodeText, hpart] at h
    | cons part' parts' =>
      rw [List.flatMap_cons, List.flatMap_cons] at h
      obtain ⟨hpart, hrest⟩ := encodeText_append_inj h
      rw [String.toList_inj.mp hpart, ih hrest]

/-- Readable stand-ins for the hashes: a hash adds the bytes, the encoding of a snapshot is its
price, and a message ID lists its parts. -/
def hashes : CatalogEnv where
  sha256 := fun data => List.replicate 7 0 ++ [data.foldl (· + ·) 0]
  marshal := fun snapshot => List.replicate 7 0 ++
    [UInt8.ofNat ((snapshot.priceUsd.map Money.units).getD 0).toNat]
  deterministicMessageID := fun parts =>
    String.ofList ('m' :: parts.flatMap fun part => encodeText part.toList)

/-- The message IDs of the sample identify their parts. -/
lemma messageIds : MessageIds hashes where
  injective := by
    intro parts parts' h
    have hlist := congrArg String.toList h
    simp only [hashes, String.toList_ofList, List.cons.injEq, true_and] at hlist
    exact flatMap_encodeText_inj hlist
  nonblank := by
    intro parts
    have hspace : isSpace 'm' = false := by decide
    simp [hashes, isBlank, hspace]

/-- The deployment of a catalog with one product at a price in dollars. -/
def deployment (price : ℤ) : Deployment where
  products := [{ id := "product-1", priceUsd := some { currencyCode := "USD", units := price } }]
  nodup := by simp
  time := Boutique.Sample.time

/-- The snapshot of the product at a price, with its version. -/
def snapshot (price : ℤ) (version : ℕ) : ProductSnapshot where
  productId := "product-1"
  priceUsd := some { currencyCode := "USD", units := price }
  productVersion := version

/-- The identity of the catalog with the price of three dollars. -/
def cheap : CatalogIdentity where
  revision := 11
  checksum := "000000000000000b"
  products := [snapshot 3 3]

/-- The identity of the catalog with the price of five dollars. -/
def dear : CatalogIdentity where
  revision := 13
  checksum := "000000000000000d"
  products := [snapshot 5 5]

/-- The cheap catalog is identified so. -/
lemma identify_cheap : identifyCatalog hashes (deployment 3).products = .ok cheap := by
  rfl

/-- The dear catalog is identified so. -/
lemma identify_dear : identifyCatalog hashes (deployment 5).products = .ok dear := by
  rfl

end Sample

/-- A price that is raised from three to five dollars is published, since its hash happens to be
larger. -/
theorem raised_price_held : ∃ shop,
    deployAll Boutique.Sample.env Sample.hashes [Sample.deployment 3, Sample.deployment 5] =
      some shop ∧
    shop.services.Hold Boutique.Sample.env Sample.dear := by
  obtain ⟨shop, hshop⟩ := exists_deployAll Boutique.Sample.env Sample.messageIds
    (List.forall_mem_cons.mpr ⟨⟨_, Sample.identify_cheap⟩,
      List.forall_mem_singleton.mpr ⟨_, Sample.identify_dear⟩⟩)
  refine ⟨shop, hshop, ?_⟩
  refine (last_catalog_held_iff Boutique.Sample.env Sample.hashes Function.injective_id
    Sample.messageIds [Sample.deployment 3] (Sample.deployment 5) Sample.dear Sample.identify_dear
    shop hshop).mpr ?_
  have hpublications : publications Sample.hashes [Sample.deployment 3, Sample.deployment 5] =
      [⟨Sample.cheap, Boutique.Sample.time⟩, ⟨Sample.dear, Boutique.Sample.time⟩] := by
    rfl
  have hrevisions : Wins id [11, 13] 13 :=
    ⟨⟨[11], [], rfl, by decide, by simp⟩, ⟨[11], [], rfl, by decide, by simp⟩⟩
  have hsnapshots : Wins ProductSnapshot.productVersion
      [Sample.snapshot 3 3, Sample.snapshot 5 5] (Sample.snapshot 5 5) :=
    ⟨⟨[Sample.snapshot 3 3], [], rfl, by decide, by simp⟩,
      ⟨[Sample.snapshot 3 3], [], rfl, by decide, by simp⟩⟩
  rw [List.singleton_append, hpublications]
  refine ⟨hrevisions, fun product hproduct => ?_⟩
  rw [Sample.dear, List.mem_singleton] at hproduct
  subst hproduct
  exact hsnapshots

/-- A price that is lowered from five to three dollars is not: checkout keeps the old snapshot. -/
theorem lowered_price_not_held : ∃ shop,
    deployAll Boutique.Sample.env Sample.hashes [Sample.deployment 5, Sample.deployment 3] =
      some shop ∧
    (shop.services.checkout.products "product-1").value =
      some { product := some (Sample.snapshot 5 5) } ∧
    ¬ shop.services.Hold Boutique.Sample.env Sample.cheap := by
  obtain ⟨shop, hshop⟩ := exists_deployAll Boutique.Sample.env Sample.messageIds
    (List.forall_mem_cons.mpr ⟨⟨_, Sample.identify_dear⟩,
      List.forall_mem_singleton.mpr ⟨_, Sample.identify_cheap⟩⟩)
  have hpublications : publications Sample.hashes [Sample.deployment 5, Sample.deployment 3] =
      [⟨Sample.dear, Boutique.Sample.time⟩, ⟨Sample.cheap, Boutique.Sample.time⟩] := by
    rfl
  have hvalue : (shop.services.checkout.products "product-1").value =
      some { product := some (Sample.snapshot 5 5) } := by
    rw [(deployAll_published Sample.messageIds hshop).services, hpublications]
    decide +kernel
  refine ⟨shop, hshop, hvalue, fun hold => ?_⟩
  have hcheap := (hold.1 (Sample.snapshot 3 3) (by simp [Sample.cheap])).1
  have heq : some ({ product := some (Sample.snapshot 5 5) } : ProductProjection) =
      some { product := some (Sample.snapshot 3 3) } := hvalue.symm.trans hcheap
  exact absurd heq (by decide)

end Boutique.Catalog
