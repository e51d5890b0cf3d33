import Mathlib.Data.List.Sort
import Boutique.Common.Subject
import Boutique.Common.Message

/-!
# The catalog publisher

`identifyCatalog`, `stableVersion` and `publishBootstrap` of
`productcatalogservice/nats_events.go`.  A catalog is identified by its content: the version of a
product and the revision of a catalog are hashes, and a bootstrap claim that is kept for each
revision makes sure that a revision is published once.
-/

namespace Boutique.Catalog

/-- The hash and encoding functions of the publisher. -/
structure CatalogEnv where
  /-- SHA-256 of a byte string. -/
  sha256 : List UInt8 → List UInt8
  /-- The deterministic protobuf encoding of a product snapshot. -/
  marshal : ProductSnapshot → List UInt8
  /-- `deterministicMessageID`: a UUID made from the SHA-256 of NUL-terminated parts. -/
  deterministicMessageID : List String → String

/-- The errors of the publisher; `nilPointer` is a panic. -/
inductive CatalogError where
  | nilPointer
  deriving DecidableEq

/-- `catalogIdentity`. -/
structure CatalogIdentity where
  revision : ℕ
  checksum : String
  products : List ProductSnapshot
  deriving DecidableEq

/-- An event with its subject and the time at which the stream stored it. -/
structure PublishedEvent where
  subject : EventSubject
  envelope : MessageEnvelope
  publishedAt : Time

variable (env : CatalogEnv)

/-! ## Identity -/

/-- The number that bytes denote, most significant byte first. -/
def bigEndian (bytes : List UInt8) : ℕ := bytes.foldl (fun n byte => n * 256 + byte.toNat) 0

/-- `stableVersion`: the first 63 bits that follow the top bit of the hash, but not 0. -/
def stableVersion (data : List UInt8) : ℕ :=
  let version := bigEndian ((env.sha256 data).take 8) % 2 ^ 63
  if version = 0 then 1 else version

/-- The snapshot of a product before it has a version. -/
def productSnapshot (product : Product) : Except CatalogError ProductSnapshot :=
  match product.priceUsd with
  | none => .error .nilPointer
  | some price =>
    .ok { productId := product.id, name := product.name, description := product.description
          picture := product.picture, priceUsd := some price, categories := product.categories }

/-- The snapshot of a product, with the version of its content. -/
def versionedSnapshot (product : Product) : Except CatalogError ProductSnapshot := do
  let snapshot ← productSnapshot product
  return { snapshot with productVersion := stableVersion env (env.marshal snapshot) }

/-- The eight bytes of a length, most significant first. -/
def lengthPrefix (n : ℕ) : List UInt8 :=
  (List.range 8).reverse.map fun i => UInt8.ofNat (n / 256 ^ i)

/-- The digit of a hexadecimal text. -/
def hexDigit (n : ℕ) : Char := if n < 10 then Char.ofNat (48 + n) else Char.ofNat (87 + n)

/-- `hex.EncodeToString`. -/
def hexEncode (bytes : List UInt8) : String :=
  String.ofList (bytes.flatMap fun byte => [hexDigit (byte.toNat / 16), hexDigit (byte.toNat % 16)])

/-- The digest of the encoded snapshots, each after its length. -/
def catalogDigest (snapshots : List ProductSnapshot) : List UInt8 :=
  env.sha256 (snapshots.flatMap fun snapshot =>
    let encoded := env.marshal snapshot
    lengthPrefix encoded.length ++ encoded)

/-- `identifyCatalog`. -/
def identifyCatalog (products : List Product) : Except CatalogError CatalogIdentity := do
  let sorted := products.insertionSort fun a b => a.id ≤ b.id
  let snapshots ← sorted.mapM (versionedSnapshot env)
  let digest := catalogDigest env snapshots
  return { revision := stableVersion env digest, checksum := hexEncode digest
           products := snapshots }

/-! ## Events -/

section Events

variable (occurredAt : Time) (identity : CatalogIdentity)

/-- An envelope of the bootstrap. -/
def bootstrapEnvelope (messageId messageType aggregateType aggregateId : String)
    (aggregateVersion : ℕ) (data : Payload) : MessageEnvelope where
  messageId := messageId
  messageType := messageType
  occurredAt := some occurredAt
  producer := "productcatalogservice/phase2"
  aggregateType := aggregateType
  aggregateId := aggregateId
  aggregateVersion := aggregateVersion
  correlationId := env.deterministicMessageID ["catalog-bootstrap", toString identity.revision]
  data := data

/-- The event of one product. -/
def upsertedEvent (product : ProductSnapshot) : PublishedEvent where
  subject := .catalogProductUpserted
  envelope := bootstrapEnvelope env occurredAt identity
    (env.deterministicMessageID [EventSubject.catalogProductUpserted.text,
      toString identity.revision, product.productId])
    "boutique.catalog.ProductUpserted.v1" "product" product.productId product.productVersion
    (.catalogProductUpserted (some product) identity.revision)
  publishedAt := occurredAt

/-- The event that ends the bootstrap. -/
def completedEvent : PublishedEvent where
  subject := .catalogSnapshotCompleted
  envelope := bootstrapEnvelope env occurredAt identity
    (env.deterministicMessageID [EventSubject.catalogSnapshotCompleted.text,
      toString identity.revision, identity.checksum])
    "boutique.catalog.SnapshotCompleted.v1" "catalog" "catalog" identity.revision
    (.catalogSnapshotCompleted identity.revision identity.products.length identity.checksum)
  publishedAt := occurredAt

/-- The events of a bootstrap, in publish order. -/
def bootstrapEvents : List PublishedEvent :=
  identity.products.map (upsertedEvent env occurredAt identity) ++
    [completedEvent env occurredAt identity]

end Events

/-- The work ID of the bootstrap claim. -/
def bootstrapWorkId (revision : ℕ) : String := "catalog:" ++ toString revision

/-- `publishBootstrap` when it returns without error: the completed claims afterwards and the
published events.  A claim that is complete ends it at once, and otherwise it holds the claim until
it has published everything. -/
def publishBootstrap (claims : String → Bool) (products : List Product) (occurredAt : Time) :
    Except CatalogError ((String → Bool) × List PublishedEvent) := do
  let identity ← identifyCatalog env products
  let workId := bootstrapWorkId identity.revision
  if claims workId then return (claims, [])
  else return (Function.update claims workId true, bootstrapEvents env occurredAt identity)

/-! ## Laws -/

variable {env}

/-- Versions are positive. -/
lemma stableVersion_pos (data : List UInt8) : 0 < stableVersion env data := by
  unfold stableVersion
  simp only
  split_ifs <;> omega

/-- A snapshot has the ID of its product and a version. -/
lemma versionedSnapshot_eq_ok {product : Product} {snapshot : ProductSnapshot}
    (h : versionedSnapshot env product = .ok snapshot) :
    snapshot.productId = product.id ∧ 0 < snapshot.productVersion := by
  unfold versionedSnapshot productSnapshot at h
  cases hprice : product.priceUsd with
  | none =>
    rw [hprice] at h
    cases h
  | some price =>
    rw [hprice] at h
    cases h
    exact ⟨rfl, stableVersion_pos _⟩

/-- The snapshots keep the IDs of the products, and all have a version. -/
lemma mapM_versionedSnapshot {products : List Product} {snapshots : List ProductSnapshot}
    (h : products.mapM (versionedSnapshot env) = .ok snapshots) :
    snapshots.map ProductSnapshot.productId = products.map Product.id ∧
      ∀ snapshot ∈ snapshots, 0 < snapshot.productVersion := by
  induction products generalizing snapshots with
  | nil =>
    cases h
    exact ⟨rfl, by simp⟩
  | cons product products ih =>
    rw [List.mapM_cons] at h
    obtain ⟨snapshot, hsnapshot, h⟩ := bind_eq_ok.mp h
    obtain ⟨rest, hrest, h⟩ := bind_eq_ok.mp h
    cases h
    obtain ⟨hids, hversions⟩ := ih hrest
    obtain ⟨hid, hversion⟩ := versionedSnapshot_eq_ok hsnapshot
    exact ⟨by rw [List.map_cons, List.map_cons, hids, hid],
      List.forall_mem_cons.mpr ⟨hversion, hversions⟩⟩

/-- The identity of a catalog with distinct product IDs. -/
lemma identifyCatalog_eq_ok {products : List Product} {identity : CatalogIdentity}
    (h : identifyCatalog env products = .ok identity) :
    0 < identity.revision ∧ (∀ snapshot ∈ identity.products, 0 < snapshot.productVersion) ∧
      ((products.map Product.id).Nodup →
        (identity.products.map ProductSnapshot.productId).Nodup) := by
  unfold identifyCatalog at h
  obtain ⟨snapshots, hsnapshots, h⟩ := bind_eq_ok.mp h
  cases h
  obtain ⟨hids, hversions⟩ := mapM_versionedSnapshot hsnapshots
  refine ⟨stableVersion_pos _, hversions, fun hnodup => ?_⟩
  simp only [hids]
  exact ((List.perm_insertionSort _ products).map Product.id).nodup_iff.mpr hnodup

/-- What `publishBootstrap` does with an identified catalog. -/
lemma publishBootstrap_eq {products : List Product} {identity : CatalogIdentity}
    (h : identifyCatalog env products = .ok identity) (claims : String → Bool) (time : Time) :
    publishBootstrap env claims products time =
      .ok (if claims (bootstrapWorkId identity.revision) then (claims, [])
        else (Function.update claims (bootstrapWorkId identity.revision) true,
          bootstrapEvents env time identity)) := by
  unfold publishBootstrap
  rw [h]
  change (if _ then pure _ else pure _) = _
  split <;> rfl

/-- Different revisions have different claims. -/
lemma bootstrapWorkId_injective : Function.Injective bootstrapWorkId := by
  intro m n h
  refine toString_nat_injective (String.toList_inj.mp ?_)
  have hlists : (bootstrapWorkId m).toList = (bootstrapWorkId n).toList := congrArg String.toList h
  simpa [bootstrapWorkId, String.toList_append] using hlists

end Boutique.Catalog
