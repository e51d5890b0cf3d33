import Boutique.Checkout.Projection
import Boutique.Storefront.Projection
import Boutique.Catalog.Publisher

/-!
# Catalog publications and their consumers

Checkout and the storefront consume the events of catalog publications in publish order.  Each
record that they keep of the catalog is a version gate, so what it holds afterwards is the first of
the offered values with the largest number.  Checkout compares Lua numbers, the storefront exact
ones.
-/

namespace Boutique.Catalog

/-- A published catalog and the time of its events. -/
structure Publication where
  identity : CatalogIdentity
  time : Time

/-- What the two consumers keep. -/
structure Services where
  checkout : ProjectionKeys := {}
  storefront : Storefront.Buckets := {}

/-- One event of a publication. -/
inductive Fact where
  | upserted (publication : Publication) (product : ProductSnapshot)
  | completed (publication : Publication)

/-- The facts of a publication, in publish order. -/
def Publication.facts (publication : Publication) : List Fact :=
  publication.identity.products.map (.upserted publication) ++ [.completed publication]

section Consumption

variable (env : CheckoutEnv) (catalogEnv : CatalogEnv)

/-- Both consumers handle an event without an error. -/
def Services.consume (services : Services) (event : PublishedEvent) : Option Services := do
  let checkout ← (applyProjection env services.checkout event.subject event.envelope).toOption
  let storefront ← (Storefront.applyEnvelope event.publishedAt services.storefront event.subject
    event.envelope event.publishedAt).toOption
  return { checkout := checkout, storefront := storefront }

/-- The event of a fact. -/
def Fact.event : Fact → PublishedEvent
  | .upserted publication product =>
    upsertedEvent catalogEnv publication.time publication.identity product
  | .completed publication => completedEvent catalogEnv publication.time publication.identity

/-- The events of publications are consumed one after the other. -/
def Services.consumeAll (services : Services) (publications : List Publication) :
    Option Services :=
  (publications.flatMap fun publication =>
    bootstrapEvents catalogEnv publication.time publication.identity).foldlM
      (Services.consume env) services

/-! ## The consumed facts -/

/-- The view of a product that the storefront makes of its event. -/
def productView (publication : Publication) (product : ProductSnapshot) : Storefront.ProductView :=
  { Storefront.projectionMetadata
      (upsertedEvent catalogEnv publication.time publication.identity product).envelope
      product.productVersion with
    product := some product, catalogRevision := publication.identity.revision
    updatedAt := publication.time }

/-- The view of the catalog that the storefront makes of a completed snapshot. -/
def catalogView (publication : Publication) : Storefront.CatalogView :=
  { Storefront.projectionMetadata
      (completedEvent catalogEnv publication.time publication.identity).envelope
      publication.identity.revision with
    catalogRevision := publication.identity.revision
    productCount := publication.identity.products.length
    checksum := publication.identity.checksum
    updatedAt := publication.time }

/-- The writes of checkout for a fact. -/
def Fact.writes : Fact → List ProjectionWrite
  | .upserted publication product =>
    [.product product.productId product.productVersion { product := some product },
      .catalog publication.identity.revision]
  | .completed publication => [.catalog publication.identity.revision]

/-- The storefront after a fact. -/
def Fact.project (buckets : Storefront.Buckets) : Fact → Storefront.Buckets
  | .upserted publication product =>
    Storefront.updateProduct buckets product.productId product.productVersion
      (productView catalogEnv publication product)
  | .completed publication => Storefront.updateCatalog buckets (catalogView catalogEnv publication)

/-- Both consumers after a fact. -/
def Services.after (services : Services) (fact : Fact) : Services where
  checkout := fact.writes.foldl (ProjectionKeys.apply env) services.checkout
  storefront := fact.project catalogEnv services.storefront

end Consumption

variable {env : CheckoutEnv} {catalogEnv : CatalogEnv}

/-- Message IDs are not blank and identify what they are made from. -/
structure MessageIds (catalogEnv : CatalogEnv) : Prop where
  injective : Function.Injective catalogEnv.deterministicMessageID
  nonblank : ∀ parts, isBlank (catalogEnv.deterministicMessageID parts) = false

/-- Messages of different revisions have different IDs. -/
lemma MessageIds.nodup {α : Type} {revision : α → ℕ} {subject : String} {last : α → String}
    {l : List α} (hids : MessageIds catalogEnv) (h : (l.map revision).Nodup) :
    (l.map fun x => catalogEnv.deterministicMessageID
      [subject, toString (revision x), last x]).Nodup := by
  rw [List.Nodup, List.pairwise_map] at h ⊢
  refine h.imp fun hne heq => hne ?_
  have hparts := hids.injective heq
  simp only [List.cons.injEq, true_and] at hparts
  exact toString_nat_injective hparts.1

/-- Every fact is consumed. -/
lemma Services.consume_eq (hids : MessageIds catalogEnv) (services : Services) (fact : Fact) :
    services.consume env (fact.event catalogEnv) = some (services.after env catalogEnv fact) := by
  cases fact with
  | upserted publication product =>
    simp [Services.consume, Services.after, Fact.event, Fact.writes, Fact.project, upsertedEvent,
      bootstrapEnvelope, applyProjection, projectionWrites, Storefront.applyEnvelope,
      Storefront.applyCatalogEvent, hids.nonblank, productView, Except.toOption]
  | completed publication =>
    simp [Services.consume, Services.after, Fact.event, Fact.writes, Fact.project, completedEvent,
      bootstrapEnvelope, applyProjection, projectionWrites, Storefront.applyEnvelope,
      Storefront.applyCatalogEvent, hids.nonblank, catalogView, Except.toOption]

/-- So is a list of facts. -/
lemma Services.foldlM_consume (hids : MessageIds catalogEnv) (services : Services)
    (facts : List Fact) :
    (facts.map (Fact.event catalogEnv)).foldlM (Services.consume env) services =
      some (facts.foldl (Services.after env catalogEnv) services) := by
  induction facts generalizing services with
  | nil => rfl
  | cons fact facts ih =>
    rw [List.map_cons, List.foldlM_cons, Services.consume_eq hids]
    exact ih _

/-- The events of a publication are those of its facts. -/
lemma Publication.events_eq (publication : Publication) :
    bootstrapEvents catalogEnv publication.time publication.identity =
      publication.facts.map (Fact.event catalogEnv) := by
  rw [bootstrapEvents, Publication.facts, List.map_append, List.map_map]
  rfl

/-- The consumers after whole publications. -/
lemma Services.consumeAll_eq (hids : MessageIds catalogEnv) (services : Services)
    (publications : List Publication) :
    services.consumeAll env catalogEnv publications =
      some ((publications.flatMap Publication.facts).foldl (Services.after env catalogEnv)
        services) := by
  have hevents : (publications.flatMap fun publication =>
      bootstrapEvents catalogEnv publication.time publication.identity) =
      (publications.flatMap Publication.facts).map (Fact.event catalogEnv) := by
    simp only [Publication.events_eq, List.map_flatMap]
  rw [Services.consumeAll, hevents]
  exact Services.foldlM_consume hids services _

/-! ## What the records hold -/

/-- The published snapshots of a product with their publications, in publish order. -/
def upserts (publications : List Publication) (productId : String) :
    List (Publication × ProductSnapshot) :=
  publications.flatMap fun publication =>
    (publication.identity.products.filter fun product => product.productId = productId).map
      fun product => (publication, product)

/-- The published snapshots of a product, in publish order. -/
def snapshots (publications : List Publication) (productId : String) : List ProductSnapshot :=
  (upserts publications productId).map Prod.snd

/-- The published revisions, in publish order. -/
def revisions (publications : List Publication) : List ℕ :=
  publications.map fun publication => publication.identity.revision

/-- Checkout sees the writes of the facts. -/
lemma foldl_after_checkout (facts : List Fact) (services : Services) :
    (facts.foldl (Services.after env catalogEnv) services).checkout =
      (facts.flatMap Fact.writes).foldl (ProjectionKeys.apply env) services.checkout := by
  induction facts generalizing services with
  | nil => rfl
  | cons fact facts ih =>
    rw [List.foldl_cons, ih, List.flatMap_cons, List.foldl_append]
    rfl

/-- The writes of a publication to a product record. -/
lemma Publication.productOffers (hdigest : Function.Injective env.digest)
    (publication : Publication) (productId : String) :
    (publication.facts.flatMap Fact.writes).filterMap
        (ProjectionWrite.productOffer env (env.digest productId)) =
      (publication.identity.products.filter fun product => product.productId = productId).map
        fun product => (product.productVersion, { product := some product }) := by
  rw [Publication.facts, List.flatMap_append, List.filterMap_append]
  simp only [List.flatMap_singleton, Fact.writes, List.filterMap_cons, List.filterMap_nil,
    ProjectionWrite.productOffer, List.append_nil]
  induction publication.identity.products with
  | nil => rfl
  | cons product products ih =>
    rw [List.map_cons, List.flatMap_cons, List.filterMap_append, ih]
    by_cases hid : product.productId = productId
    · simp [Fact.writes, ProjectionWrite.productOffer, hid]
    · simp [Fact.writes, ProjectionWrite.productOffer, hid, hdigest.eq_iff]

/-- The writes of a publication to the catalog marker. -/
lemma Publication.catalogOffers (publication : Publication) :
    (publication.facts.flatMap Fact.writes).filterMap ProjectionWrite.catalogOffer =
      List.replicate (publication.identity.products.length + 1)
        (publication.identity.revision, publication.identity.revision) := by
  rw [Publication.facts, List.flatMap_append, List.filterMap_append, List.replicate_succ']
  congr 1
  induction publication.identity.products with
  | nil => rfl
  | cons product products ih =>
    rw [List.map_cons, List.flatMap_cons, List.filterMap_append, ih, List.length_cons,
      List.replicate_succ]
    rfl

/-- The product record of checkout. -/
lemma checkout_product (hdigest : Function.Injective env.digest)
    (publications : List Publication) (productId : String) :
    (((publications.flatMap Publication.facts).foldl (Services.after env catalogEnv)
      {}).checkout.products (env.digest productId)).value =
      (VersionGate.winner (luaNumber ∘ ProductSnapshot.productVersion) 0
        (snapshots publications productId)).map fun product => { product := some product } := by
  have hoffers : ((publications.flatMap Publication.facts).flatMap Fact.writes).filterMap
      (ProjectionWrite.productOffer env (env.digest productId)) =
      (snapshots publications productId).map fun product =>
        (product.productVersion, { product := some product }) := by
    rw [List.flatMap_assoc, List.filterMap_flatMap, snapshots, upserts, List.map_map,
      List.map_flatMap]
    simp only [Publication.productOffers hdigest, List.map_map]
    rfl
  rw [foldl_after_checkout, ProjectionKeys.foldl_products, hoffers, ProjectionCell.offered_eq,
    VersionGate.winner_map, Option.map_map]
  rfl

/-- The catalog marker of checkout. -/
lemma checkout_catalog (publications : List Publication) :
    ((publications.flatMap Publication.facts).foldl (Services.after env catalogEnv)
      {}).checkout.catalog.value = VersionGate.winner luaNumber 0 (revisions publications) := by
  have hoffers : ((publications.flatMap Publication.facts).flatMap Fact.writes).filterMap
      ProjectionWrite.catalogOffer =
      (publications.flatMap fun publication =>
        List.replicate (publication.identity.products.length + 1) publication).map
          fun publication => (publication.identity.revision, publication.identity.revision) := by
    rw [List.flatMap_assoc, List.filterMap_flatMap, List.map_flatMap]
    simp only [Publication.catalogOffers, List.map_replicate]
  rw [foldl_after_checkout, ProjectionKeys.foldl_catalog, hoffers, ProjectionCell.offered_eq,
    VersionGate.winner_map, Option.map_map,
    VersionGate.winner_flatMap_replicate fun publication : Publication =>
      publication.identity.products.length, revisions, VersionGate.winner_map]
  rfl

/-! ## What the storefront holds -/

/-- The upsert of a product as the view the storefront makes of it. -/
def Fact.productView? (catalogEnv : CatalogEnv) (productId : String) :
    Fact → Option Storefront.ProductView
  | .upserted publication product =>
    if product.productId = productId then some (productView catalogEnv publication product)
    else none
  | .completed _ => none

/-- The completion of a snapshot as the view the storefront makes of it. -/
def Fact.catalogView? (catalogEnv : CatalogEnv) : Fact → Option Storefront.CatalogView
  | .upserted _ _ => none
  | .completed publication => some (catalogView catalogEnv publication)

/-- The storefront's record of a product sees the upserts of the product. -/
lemma foldl_after_products (facts : List Fact) (services : Services) (productId : String) :
    (facts.foldl (Services.after env catalogEnv) services).storefront.products productId =
      (facts.filterMap (Fact.productView? catalogEnv productId)).foldl
        (fun current next => some (Storefront.updateJSON current next.productVersion
          Storefront.ProductView.productVersion (fun view => view.sourceEventId)
          next.sourceEventId next))
        (services.storefront.products productId) := by
  induction facts generalizing services with
  | nil => rfl
  | cons fact facts ih =>
    rw [List.foldl_cons, ih]
    cases fact with
    | upserted publication product =>
      by_cases hid : product.productId = productId
      · subst hid
        simp only [Fact.productView?, if_true, List.filterMap_cons, List.foldl_cons,
          Services.after, Fact.project, Storefront.updateProduct, Function.update_self]
        rfl
      · simp [Fact.productView?, hid, Services.after, Fact.project, Storefront.updateProduct,
          Function.update_of_ne (Ne.symm hid)]
    | completed publication => rfl

/-- The storefront's record of the catalog sees the completions. -/
lemma foldl_after_catalog (facts : List Fact) (services : Services) :
    (facts.foldl (Services.after env catalogEnv) services).storefront.catalog =
      (facts.filterMap (Fact.catalogView? catalogEnv)).foldl
        (fun current next => some (Storefront.updateJSON current next.catalogRevision
          Storefront.CatalogView.catalogRevision (fun view => view.sourceEventId)
          next.sourceEventId next))
        services.storefront.catalog := by
  induction facts generalizing services with
  | nil => rfl
  | cons fact facts ih =>
    rw [List.foldl_cons, ih]
    cases fact with
    | upserted publication product => rfl
    | completed publication => rfl

/-- Publications with one event for each product and one publication for each revision. -/
structure Distinct (publications : List Publication) : Prop where
  revisions : (revisions publications).Nodup
  products : ∀ publication ∈ publications,
    (publication.identity.products.map ProductSnapshot.productId).Nodup

/-- A publication has at most one snapshot of a product. -/
lemma length_filter_productId_le {products : List ProductSnapshot} (productId : String)
    (h : (products.map ProductSnapshot.productId).Nodup) :
    (products.filter fun product => product.productId = productId).length ≤ 1 := by
  have hnodup : ((products.filter fun product => product.productId = productId).map
      ProductSnapshot.productId).Nodup := h.sublist (List.filter_sublist.map _)
  have hreplicate := List.eq_replicate_of_mem
    (l := (products.filter fun product => product.productId = productId).map
      ProductSnapshot.productId) (a := productId) (by simp +contextual [eq_comm])
  rw [hreplicate, List.nodup_replicate, List.length_map] at hnodup
  exact hnodup

/-- The upserts of a product are in different publications. -/
lemma Distinct.upserts_revisions {publications : List Publication} (h : Distinct publications)
    (productId : String) :
    ((upserts publications productId).map fun upsert => upsert.1.identity.revision).Nodup := by
  refine h.revisions.sublist ?_
  have hproducts := h.products
  clear h
  induction publications with
  | nil => exact List.Sublist.slnil
  | cons publication publications ih =>
    have hrest := ih fun q hq => hproducts q (List.mem_cons_of_mem _ hq)
    have hlength := length_filter_productId_le productId (hproducts publication List.mem_cons_self)
    rw [upserts, List.flatMap_cons, List.map_append, Catalog.revisions, List.map_cons]
    generalize (publication.identity.products.filter fun product =>
      product.productId = productId) = here at hlength
    match here, hlength with
    | [], _ => exact hrest.cons _
    | [product], _ => exact hrest.cons_cons _

/-- The views that the storefront makes of the products of a publication. -/
lemma Publication.productViews (publication : Publication) (productId : String) :
    publication.facts.filterMap (Fact.productView? catalogEnv productId) =
      (publication.identity.products.filter fun product => product.productId = productId).map
        (productView catalogEnv publication) := by
  rw [Publication.facts, List.filterMap_append]
  simp only [List.filterMap_cons, List.filterMap_nil, Fact.productView?, List.append_nil]
  induction publication.identity.products with
  | nil => rfl
  | cons product products ih =>
    rw [List.map_cons, List.filterMap_cons, ih]
    by_cases hid : product.productId = productId
    · simp [Fact.productView?, hid]
    · simp [Fact.productView?, hid]

/-- The view that the storefront makes of the catalog of a publication. -/
lemma Publication.catalogViews (publication : Publication) :
    publication.facts.filterMap (Fact.catalogView? catalogEnv) =
      [catalogView catalogEnv publication] := by
  rw [Publication.facts, List.filterMap_append]
  have hnone : (publication.identity.products.map (Fact.upserted publication)).filterMap
      (Fact.catalogView? catalogEnv) = [] := by
    simp [Fact.catalogView?]
  rw [hnone]
  rfl

/-- The storefront's record of a product. -/
lemma storefront_product (hids : MessageIds catalogEnv) {publications : List Publication}
    (hdistinct : Distinct publications) (productId : String) :
    ((publications.flatMap Publication.facts).foldl (Services.after env catalogEnv)
      {}).storefront.products productId =
      (VersionGate.winner (fun upsert : Publication × ProductSnapshot =>
          WithBot.some upsert.2.productVersion) ⊥ (upserts publications productId)).map
        fun upsert => productView catalogEnv upsert.1 upsert.2 := by
  have hviews : (publications.flatMap Publication.facts).filterMap
      (Fact.productView? catalogEnv productId) =
      (upserts publications productId).map
        fun upsert => productView catalogEnv upsert.1 upsert.2 := by
    rw [List.filterMap_flatMap, upserts, List.map_flatMap]
    simp only [Publication.productViews, List.map_map]
    rfl
  have hsource : (((upserts publications productId).map
      fun upsert => productView catalogEnv upsert.1 upsert.2).map
        fun view => view.sourceEventId).Nodup := by
    rw [List.map_map]
    exact hids.nodup (hdistinct.upserts_revisions productId)
  rw [foldl_after_products, hviews]
  refine (Storefront.foldl_updateJSON hsource).trans ?_
  rw [VersionGate.winner_map]
  rfl

/-- The storefront's record of the catalog. -/
lemma storefront_catalog (hids : MessageIds catalogEnv) {publications : List Publication}
    (hdistinct : Distinct publications) :
    ((publications.flatMap Publication.facts).foldl (Services.after env catalogEnv)
      {}).storefront.catalog =
      (VersionGate.winner (fun publication : Publication =>
          WithBot.some publication.identity.revision) ⊥ publications).map
        (catalogView catalogEnv) := by
  have hviews : (publications.flatMap Publication.facts).filterMap
      (Fact.catalogView? catalogEnv) = publications.map (catalogView catalogEnv) := by
    rw [List.filterMap_flatMap]
    simp only [Publication.catalogViews]
    exact List.flatMap_pure_eq_map ..
  have hsource : ((publications.map (catalogView catalogEnv)).map
      fun view => view.sourceEventId).Nodup := by
    rw [List.map_map]
    exact hids.nodup hdistinct.revisions
  rw [foldl_after_catalog, hviews]
  refine (Storefront.foldl_updateJSON hsource).trans ?_
  rw [VersionGate.winner_map]
  rfl

end Boutique.Catalog
