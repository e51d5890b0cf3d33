import Boutique.Storefront.ReadCacheFresh
import Boutique.Storefront.Views
import Mathlib.Data.List.Sort

/-!
# The memo of the catalog

`allProducts(nil)` and `readProducts(nil)` of `storefrontprojectionservice/queries.go` over the catalog cache,
a `projectionReadCache` without limits.  A call reads the generation of the cache, takes the lock of the memo
and returns the memo if it is of that generation.  Else it reads the product keys one by one, through the
cache, and keeps what it has read under the generation it has read first.

The steps are the critical sections of the code.  The entries that the watch and other reads apply are of any
key and revision; the value of a revision of a key never changes.
-/

namespace Boutique.Storefront

open StepSystem

/-- The configuration of the catalog cache. -/
def catalogConfig : ReadCacheConfig where
  maxEntries := 0
  maxBytes := 0
  idleTTL := { nanos := 0, lower := Duration.zero_lower, upper := Duration.zero_upper }
  expiresAt := none

/-- `strings.HasPrefix(key, "product.")`. -/
def isProductKey (key : String) : Bool := "product.".toList.isPrefixOf key.toList

/-- `Product.ProductId`. -/
def ProductView.productId (view : ProductView) : String := (view.product.map ProductSnapshot.productId).getD ""

/-- The entry of a key in a cache. -/
def entryOf (entries : List KvEntry) (key : String) : Option KvEntry := entries.find? fun e => e.key = key

/-- `Keys`: the keys of the cache in order. -/
def keysOf (entries : List KvEntry) : List String := (entries.map KvEntry.key).insertionSort (· ≤ ·)

/-- The products of a list, and a view of another one. -/
def collect (products : List ProductView) (view : ProductView) : List ProductView :=
  if view.removed then products else products ++ [view]

/-! ## Calls -/

/-- What a call returns: the products, of which `none` is the `nil` slice, or an error. -/
inductive CatalogResult where
  | products (views : Option (List ProductView))
  | failed
  deriving DecidableEq

/-- How far a call has read: the generation it read first, the keys that are left, and the products. -/
structure Progress where
  generation : ℕ
  keys : List String
  products : List ProductView

/-- Where a call is. -/
inductive CatalogCall where
  | idle
  | waiting (generation : ℕ)
  | keys (generation : ℕ)
  | lookup (progress : Progress)
  | decode (progress : Progress) (entry : KvEntry)
  | source (progress : Progress) (key : String)
  | apply (progress : Progress) (entry : KvEntry)
  | memoize (progress : Progress) (entry : KvEntry)
  | returned (generation : ℕ) (result : CatalogResult)

/-- The cache with its generation, the memo with its lock, and the calls. -/
structure CatalogState (κ : Type) where
  cache : ReadCache ProductView := {}
  generation : ℕ := 0
  snapshot : Option (List ProductView) := none
  snapshotGeneration : ℕ := 0
  holder : Option κ := none
  call : κ → CatalogCall := fun _ => .idle

/-- The answer of the bucket to a read. -/
inductive SourceAnswer where
  | found (revision : ℕ)
  | notFound
  | failed

/-- The steps: the watch or another read applies an entry, another read keeps a decoded view, and the steps
of the calls. -/
inductive CatalogAction (κ : Type) where
  | apply (key : String) (revision : ℕ)
  | memoize (key : String) (revision : ℕ)
  | generation (c : κ)
  | lock (c : κ)
  | keys (c : κ)
  | lookup (c : κ)
  | decode (c : κ)
  | source (c : κ) (answer : SourceAnswer)
  | applyRead (c : κ)
  | memoizeRead (c : κ)

/-- The steps that apply an entry to the cache. -/
def CatalogAction.applies {κ : Type} : CatalogAction κ → Bool
  | .apply _ _ | .applyRead _ => true
  | _ => false

section Steps

variable {κ : Type} [DecidableEq κ] (history : String → ℕ → List UInt8)
  (decode : List UInt8 → Option ProductView) (sortSlice : List ProductView → List ProductView)

/-- The entry of a revision of a key. -/
def entryAt (key : String) (revision : ℕ) : KvEntry where
  key := key
  value := history key revision
  revision := revision
  operation := .put

namespace CatalogState

/-- The state with another phase of a call. -/
def setCall (s : CatalogState κ) (c : κ) (call : CatalogCall) : CatalogState κ :=
  { s with call := Function.update s.call c call }

/-- `apply`; the generation counts the entries that are not refused.  The time is not read without an idle
time. -/
def applyEntry (s : CatalogState κ) (entry : KvEntry) : Option (CatalogState κ) :=
  (s.cache.apply catalogConfig entry .zero []).map fun cache =>
    { s with
      cache := cache
      generation :=
        if (s.cache.revisions entry.key).any fun revision => entry.revision ≤ revision then s.generation
        else s.generation + 1 }

/-- A call returns, and releases the lock. -/
def finish (s : CatalogState κ) (c : κ) (generation : ℕ) (result : CatalogResult) : CatalogState κ :=
  { s.setCall c (.returned generation result) with holder := none }

/-- A call keeps what it has read, and returns it. -/
def store (s : CatalogState κ) (c : κ) (generation : ℕ) (views : Option (List ProductView)) :
    CatalogState κ :=
  { s.finish c generation (.products views) with snapshot := views, snapshotGeneration := generation }

/-- A decoded entry is kept, and its view collected. -/
def decoded (s : CatalogState κ) (c : κ) (progress : Progress) (entry : KvEntry) : CatalogState κ :=
  match decode entry.value with
  | none => s.finish c progress.generation .failed
  | some view =>
    { s.setCall c (.lookup { progress with products := collect progress.products view }) with
      cache := s.cache.memoize entry view }

/-- The next key of a call. -/
def lookup (s : CatalogState κ) (c : κ) (progress : Progress) : CatalogState κ :=
  match progress.keys with
  | [] => s.store c progress.generation (some (sortSlice progress.products))
  | key :: keys =>
    let rest := { progress with keys := keys }
    if !isProductKey key then s.setCall c (.lookup rest)
    else
      match s.cache.entry key with
      | none => s.setCall c (.source rest key)
      | some entry =>
        match s.cache.decoded key with
        | some (revision, view) =>
          if revision = entry.revision then
            s.setCall c (.lookup { rest with products := collect rest.products view })
          else s.setCall c (.decode rest entry)
        | none => s.setCall c (.decode rest entry)

/-- One step. -/
def step (s : CatalogState κ) : CatalogAction κ → Option (CatalogState κ)
  | .apply key revision => s.applyEntry (entryAt history key revision)
  | .memoize key revision =>
    match decode (history key revision) with
    | none => some s
    | some view => some { s with cache := s.cache.memoize (entryAt history key revision) view }
  | .generation c =>
    match s.call c with
    | .idle => some (s.setCall c (.waiting s.generation))
    | _ => none
  | .lock c =>
    match s.call c, s.holder with
    | .waiting generation, none =>
      match s.snapshot with
      | some views =>
        if s.snapshotGeneration = generation then
          some (s.finish c generation (.products (some views)))
        else some { s.setCall c (.keys generation) with holder := some c }
      | none => some { s.setCall c (.keys generation) with holder := some c }
    | _, _ => none
  | .keys c =>
    match s.call c with
    | .keys generation =>
      match keysOf s.cache.entries with
      | [] => some (s.store c generation none)
      | key :: keys => some (s.setCall c (.lookup { generation, keys := key :: keys, products := [] }))
    | _ => none
  | .lookup c =>
    match s.call c with
    | .lookup progress => some (s.lookup sortSlice c progress)
    | _ => none
  | .decode c =>
    match s.call c with
    | .decode progress entry => some (s.decoded decode c progress entry)
    | _ => none
  | .source c answer =>
    match s.call c with
    | .source progress key =>
      match answer with
      | .found revision => some (s.setCall c (.apply progress (entryAt history key revision)))
      | .notFound => some (s.setCall c (.lookup progress))
      | .failed => some (s.finish c progress.generation .failed)
    | _ => none
  | .applyRead c =>
    match s.call c with
    | .apply progress entry => (s.applyEntry entry).map fun s => s.setCall c (.memoize progress entry)
    | _ => none
  | .memoizeRead c =>
    match s.call c with
    | .memoize progress entry => some (s.decoded decode c progress entry)
    | _ => none

end CatalogState

/-! ## Reading a cache that stays as it is -/

/-- The products of keys of a cache, after some products; `none` is an entry that cannot be decoded. -/
def readKeys (entries : List KvEntry) : List String → List ProductView → Option (List ProductView)
  | [], products => some products
  | key :: keys, products =>
    if !isProductKey key then readKeys entries keys products
    else
      match entryOf entries key with
      | none => readKeys entries keys products
      | some entry =>
        match decode entry.value with
        | none => none
        | some view => readKeys entries keys (collect products view)

/-- The result of products that were read. -/
def resultOf : Option (List ProductView) → CatalogResult
  | none => .failed
  | some products => .products (some (sortSlice products))

/-- `readProducts(nil)`. -/
def readProducts (entries : List KvEntry) : CatalogResult :=
  match keysOf entries with
  | [] => .products none
  | key :: keys => resultOf sortSlice (readKeys decode entries (key :: keys) [])

end Steps

/-! ## Generations -/

/-- The generation that a call has read. -/
def CatalogCall.generation? : CatalogCall → Option ℕ
  | .idle => none
  | .waiting g | .keys g | .returned g _ => some g
  | .lookup progress | .decode progress _ | .source progress _ | .apply progress _ | .memoize progress _ =>
    some progress.generation

variable {κ : Type} [DecidableEq κ] {history : String → ℕ → List UInt8}
  {decode : List UInt8 → Option ProductView} {sortSlice : List ProductView → List ProductView}
  {a : CatalogAction κ} {s s' : CatalogState κ}

/-- What a step can do to the generations: that of the cache does not decrease, and stays unless an entry is
applied, and a call keeps the one it has read. -/
structure Generations (a : CatalogAction κ) (s s' : CatalogState κ) : Prop where
  le : s.generation ≤ s'.generation
  eq : a.applies = false → s'.generation = s.generation
  call : ∀ c g, (s.call c).generation? = some g → (s'.call c).generation? = some g

/-- A step that changes at most one call, which keeps the generation it has read. -/
lemma Generations.of_call {d : κ} {call : CatalogCall} (hgeneration : s'.generation = s.generation)
    (hcall : s'.call = Function.update s.call d call)
    (hkeeps : ∀ g, (s.call d).generation? = some g → call.generation? = some g) : Generations a s s' where
  le := hgeneration.ge
  eq _ := hgeneration
  call c g hc := by
    rw [hcall]
    by_cases hd : c = d
    · subst hd
      rw [Function.update_self]
      exact hkeeps g hc
    · rw [Function.update_of_ne hd]
      exact hc

omit [DecidableEq κ] in
/-- An entry is applied. -/
lemma applyEntry_generation {entry : KvEntry} (h : s.applyEntry entry = some s') :
    s.generation ≤ s'.generation ∧ s'.call = s.call := by
  obtain ⟨cache, -, rfl⟩ := Option.map_eq_some_iff.mp h
  refine ⟨?_, rfl⟩
  dsimp only
  split_ifs <;> omega

/-- A decoded entry keeps the generation of its call. -/
lemma decoded_generations {d : κ} {progress : Progress} {entry : KvEntry}
    (hcall : (s.call d).generation? = some progress.generation) :
    Generations a s (s.decoded decode d progress entry) := by
  have hkeeps : ∀ g, (s.call d).generation? = some g → some progress.generation = some g :=
    fun g hg => hcall.symm.trans hg
  unfold CatalogState.decoded
  cases decode entry.value with
  | none => exact Generations.of_call rfl rfl hkeeps
  | some view => exact Generations.of_call rfl rfl hkeeps

/-- The next key keeps the generation of its call. -/
lemma lookup_generations {d : κ} {progress : Progress}
    (hcall : (s.call d).generation? = some progress.generation) :
    Generations a s (s.lookup sortSlice d progress) := by
  have hkeeps : ∀ g, (s.call d).generation? = some g → some progress.generation = some g :=
    fun g hg => hcall.symm.trans hg
  unfold CatalogState.lookup
  cases progress.keys with
  | nil => exact Generations.of_call rfl rfl hkeeps
  | cons key keys =>
    dsimp only
    split_ifs
    · exact Generations.of_call rfl rfl hkeeps
    · cases s.cache.entry key with
      | none => exact Generations.of_call rfl rfl hkeeps
      | some entry =>
        cases s.cache.decoded key with
        | none => exact Generations.of_call rfl rfl hkeeps
        | some decoded =>
          dsimp only
          split_ifs
          · exact Generations.of_call rfl rfl hkeeps
          · exact Generations.of_call rfl rfl hkeeps

/-- What a step does to the generations. -/
lemma step_generations (hstep : s.step history decode sortSlice a = some s') : Generations a s s' := by
  cases a with
  | apply key revision =>
    obtain ⟨hle, hcall⟩ := applyEntry_generation hstep
    refine ⟨hle, fun h => (by cases h), fun c g hg => ?_⟩
    rw [hcall]
    exact hg
  | memoize key revision =>
    simp only [CatalogState.step] at hstep
    split at hstep <;> cases hstep <;> exact ⟨Nat.le_refl _, fun _ => rfl, fun _ _ hg => hg⟩
  | generation d =>
    simp only [CatalogState.step] at hstep
    split at hstep
    · next hcall =>
      cases hstep
      refine Generations.of_call rfl rfl fun g hg => ?_
      rw [hcall] at hg
      cases hg
    · cases hstep
  | lock d =>
    simp only [CatalogState.step] at hstep
    split at hstep
    · next generation hcall _ =>
      have hkeeps : ∀ g, (s.call d).generation? = some g → some generation = some g := by
        intro g hg
        rwa [hcall] at hg
      split at hstep
      · split_ifs at hstep <;> cases hstep <;> exact Generations.of_call rfl rfl hkeeps
      · cases hstep
        exact Generations.of_call rfl rfl hkeeps
    · cases hstep
  | keys d =>
    simp only [CatalogState.step] at hstep
    split at hstep
    · next generation hcall =>
      have hkeeps : ∀ g, (s.call d).generation? = some g → some generation = some g := by
        intro g hg
        rwa [hcall] at hg
      split at hstep <;> cases hstep <;> exact Generations.of_call rfl rfl hkeeps
    · cases hstep
  | lookup d =>
    simp only [CatalogState.step] at hstep
    split at hstep
    · next progress hcall =>
      cases hstep
      exact lookup_generations (by rw [hcall]; rfl)
    · cases hstep
  | decode d =>
    simp only [CatalogState.step] at hstep
    split at hstep
    · next progress entry hcall =>
      cases hstep
      exact decoded_generations (by rw [hcall]; rfl)
    · cases hstep
  | source d answer =>
    simp only [CatalogState.step] at hstep
    split at hstep
    · next progress key hcall =>
      have hkeeps : ∀ g, (s.call d).generation? = some g → some progress.generation = some g := by
        intro g hg
        rwa [hcall] at hg
      split at hstep <;> cases hstep <;> exact Generations.of_call rfl rfl hkeeps
    · cases hstep
  | applyRead d =>
    simp only [CatalogState.step] at hstep
    split at hstep
    · next progress entry hcall =>
      obtain ⟨t, ht, rfl⟩ := Option.map_eq_some_iff.mp hstep
      obtain ⟨hle, hcalls⟩ := applyEntry_generation ht
      refine ⟨hle, fun h => (by cases h), fun c g hg => ?_⟩
      by_cases hc : c = d
      · subst hc
        rw [hcall] at hg
        simpa [CatalogState.setCall, CatalogCall.generation?] using hg
      · simpa [CatalogState.setCall, Function.update_of_ne hc, hcalls] using hg
    · cases hstep
  | memoizeRead d =>
    simp only [CatalogState.step] at hstep
    split at hstep
    · next progress entry hcall =>
      cases hstep
      exact decoded_generations (by rw [hcall]; rfl)
    · cases hstep

/-- What a run does to the generations. -/
lemma run_generations {actions : List (CatalogAction κ)}
    (hrun : run (CatalogState.step history decode sortSlice) s actions = some s') :
    ((∀ a ∈ actions, a.applies = false) → s'.generation = s.generation) ∧
      ∀ c g, (s.call c).generation? = some g → (s'.call c).generation? = some g := by
  induction actions generalizing s with
  | nil =>
    cases hrun
    exact ⟨fun _ => rfl, fun _ _ hg => hg⟩
  | cons a actions ih =>
    obtain ⟨t, hstep, hrest⟩ := run_cons.mp hrun
    have hgenerations := step_generations hstep
    obtain ⟨heq, hcall⟩ := ih hrest
    refine ⟨fun h => ?_, fun c g hg => hcall c g (hgenerations.call c g hg)⟩
    rw [heq fun b hb => h b (List.mem_cons_of_mem _ hb), hgenerations.eq (h a List.mem_cons_self)]

end Boutique.Storefront
