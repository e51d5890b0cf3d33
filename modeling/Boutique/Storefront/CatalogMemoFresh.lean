import Boutique.Storefront.CatalogMemo

/-!
# The memo of the catalog is never stale

Keys never leave the cache, and their revisions grow.  A memo of a generation was read from entries that are
at least those of the generation, and if the generation is still that of the cache it was read from the
entries of the cache.
-/

namespace Boutique.Storefront

open StepSystem

variable {κ : Type} {history : String → ℕ → List UInt8}
  {decode : List UInt8 → Option ProductView} {sortSlice : List ProductView → List ProductView}

/-! ## The cache -/

/-- The keys of a cache are different, its entries are of the history, with the revisions that guard them,
and its decoded views are those of their revisions. -/
structure CacheOk (history : String → ℕ → List UInt8) (decode : List UInt8 → Option ProductView)
    (cache : ReadCache ProductView) : Prop where
  nodup : (cache.entries.map KvEntry.key).Nodup
  entry : ∀ e ∈ cache.entries, e = entryAt history e.key e.revision ∧
    cache.revisions e.key = some e.revision
  decoded : ∀ key revision view, cache.decoded key = some (revision, view) →
    decode (history key revision) = some view

/-- Every key of a cache stays, with a revision that is not older. -/
def Grows (entries entries' : List KvEntry) : Prop :=
  ∀ key e, entryOf entries key = some e →
    ∃ e', entryOf entries' key = some e' ∧ e.revision ≤ e'.revision

/-- What is found is an entry of the key. -/
lemma entryOf_some {entries : List KvEntry} {key : String} {e : KvEntry}
    (h : entryOf entries key = some e) : e ∈ entries ∧ e.key = key :=
  ⟨List.mem_of_find?_eq_some h, by simpa using List.find?_some h⟩

/-- The key of an entry is found. -/
lemma entryOf_isSome {entries : List KvEntry} {e : KvEntry} (he : e ∈ entries) :
    (entryOf entries e.key).isSome := by
  rw [entryOf, List.find?_isSome]
  exact ⟨e, he, by simp⟩

/-- An entry of different keys is found under its key. -/
lemma entryOf_of_mem {entries : List KvEntry} (hnodup : (entries.map KvEntry.key).Nodup) {e : KvEntry}
    (he : e ∈ entries) : entryOf entries e.key = some e := by
  obtain ⟨found, hfound⟩ := Option.isSome_iff_exists.mp (entryOf_isSome he)
  obtain ⟨hmem, hkey⟩ := entryOf_some hfound
  rw [hfound, List.inj_on_of_nodup_map hnodup hmem he hkey]

/-- Nothing older takes the place of an entry. -/
lemma Grows.refl (entries : List KvEntry) : Grows entries entries :=
  fun _ e he => ⟨e, he, Nat.le_refl _⟩

/-- Caches grow step by step. -/
lemma Grows.trans {a b c : List KvEntry} (hab : Grows a b) (hbc : Grows b c) : Grows a c := by
  intro key e he
  obtain ⟨e', he', hle⟩ := hab key e he
  obtain ⟨e'', he'', hle'⟩ := hbc key e' he'
  exact ⟨e'', he'', hle.trans hle'⟩

variable (history) in
/-- `apply` without limits: an entry that is refused changes nothing, and another one takes the place of
the entry of its key. -/
lemma apply_catalogConfig (cache : ReadCache ProductView) (key : String) (revision : ℕ) :
    ∃ cache', cache.apply catalogConfig (entryAt history key revision) .zero [] = some cache' ∧
      if (cache.revisions key).any fun r => revision ≤ r then cache' = cache
      else cache'.entries = cache.entries.filter (fun e => e.key ≠ key) ++ [entryAt history key revision] ∧
        cache'.revisions = Function.update cache.revisions key (some revision) ∧
        cache'.decoded = Function.update cache.decoded key none := by
  have hloop : ∀ (n : ℕ) (c : ReadCache ProductView), ReadCache.evictLoop catalogConfig n c [] = some c := by
    intro n c
    simp [ReadCache.evictLoop, ReadCache.full, catalogConfig]
  by_cases hrefused : ((cache.revisions key).any fun r => revision ≤ r) = true
  · refine ⟨cache, ?_, by rw [if_pos hrefused]⟩
    exact (if_pos hrefused).trans (if_pos rfl)
  · have happly : cache.apply catalogConfig (entryAt history key revision) .zero [] = _ :=
      (if_neg hrefused).trans (if_neg (by simp [entryAt]))
    rw [hloop, Option.map_some] at happly
    refine ⟨_, happly, ?_⟩
    rw [if_neg hrefused]
    exact ⟨rfl, rfl, rfl⟩

/-- A cache stays well-formed and grows when an entry is applied, and is not changed by one that is
refused. -/
lemma CacheOk.apply {cache cache' : ReadCache ProductView} (h : CacheOk history decode cache)
    {key : String} {revision : ℕ}
    (happly : cache.apply catalogConfig (entryAt history key revision) .zero [] = some cache') :
    CacheOk history decode cache' ∧ Grows cache.entries cache'.entries ∧
      ((cache.revisions key).any (fun r => revision ≤ r) = true → cache'.entries = cache.entries) := by
  obtain ⟨applied, happlied, hcases⟩ := apply_catalogConfig history cache key revision
  rw [happlied, Option.some_inj] at happly
  subst happly
  by_cases hrefused : ((cache.revisions key).any fun r => revision ≤ r) = true
  · rw [if_pos hrefused] at hcases
    subst hcases
    exact ⟨h, Grows.refl _, fun _ => rfl⟩
  · rw [if_neg hrefused] at hcases
    obtain ⟨hentries, hrevisions, hdecoded⟩ := hcases
    have hother : ∀ e ∈ cache.entries, e.key ≠ key → e ∈ applied.entries := by
      intro e he hkey
      rw [hentries]
      exact List.mem_append_left _ (List.mem_filter.mpr ⟨he, by simpa using hkey⟩)
    have hself : entryAt history key revision ∈ applied.entries := by
      rw [hentries]
      exact List.mem_append_right _ List.mem_cons_self
    have hnodup : (applied.entries.map KvEntry.key).Nodup := by
      rw [hentries, List.map_append, List.nodup_append]
      refine ⟨h.nodup.sublist (List.filter_sublist.map _), List.nodup_singleton _, ?_⟩
      intro a ha b hb heq
      obtain ⟨e, he, rfl⟩ := List.mem_map.mp ha
      rw [List.map_singleton, List.mem_singleton] at hb
      have hkey := (List.mem_filter.mp he).2
      simp [heq, hb, entryAt] at hkey
    refine ⟨⟨hnodup, ?_, ?_⟩, ?_, fun hfalse => absurd hfalse hrefused⟩
    · intro e he
      rw [hentries, List.mem_append] at he
      rcases he with he | he
      · obtain ⟨hmem, hkey⟩ := List.mem_filter.mp he
        obtain ⟨heq, hrevision⟩ := h.entry e hmem
        refine ⟨heq, ?_⟩
        rw [hrevisions, Function.update_of_ne (by simpa using hkey)]
        exact hrevision
      · rw [List.mem_singleton.mp he]
        exact ⟨rfl, by rw [hrevisions]; exact Function.update_self ..⟩
    · intro k r view hview
      rw [hdecoded] at hview
      by_cases hk : k = key
      · rw [hk, Function.update_self] at hview
        cases hview
      · rw [Function.update_of_ne hk] at hview
        exact h.decoded k r view hview
    · -- The revision of the key was older, or the entry would have been refused.
      intro k e he
      obtain ⟨hmem, hkey⟩ := entryOf_some he
      by_cases hk : k = key
      · refine ⟨entryAt history key revision, hk ▸ entryOf_of_mem hnodup hself, ?_⟩
        have hrevision := (h.entry e hmem).2
        rw [hkey, hk] at hrevision
        rw [hrevision, Option.any_some, decide_eq_true_eq, not_le] at hrefused
        exact hrefused.le
      · refine ⟨e, ?_, Nat.le_refl _⟩
        rw [← hkey]
        exact entryOf_of_mem hnodup (hother e hmem (hkey ▸ hk))

/-- A decoded view is kept. -/
lemma CacheOk.memoize {cache : ReadCache ProductView} (h : CacheOk history decode cache) {key : String}
    {revision : ℕ} {view : ProductView} (hview : decode (history key revision) = some view) :
    CacheOk history decode (cache.memoize (entryAt history key revision) view) := by
  unfold ReadCache.memoize
  split_ifs
  · refine ⟨h.nodup, h.entry, ?_⟩
    intro k r v hv
    by_cases hk : k = key
    · subst hk
      have hpair : (revision, view) = (r, v) := by
        simpa [entryAt] using hv
      cases hpair
      exact hview
    · have hold : cache.decoded k = some (r, v) := by
        simpa [entryAt, Function.update_of_ne hk] using hv
      exact h.decoded k r v hold
  · exact h

/-- The entries stay when a decoded view is kept. -/
@[simp]
lemma memoize_entries (cache : ReadCache ProductView) (entry : KvEntry) (view : ProductView) :
    (cache.memoize entry view).entries = cache.entries := by
  unfold ReadCache.memoize
  split_ifs <;> rfl

/-! ## Fresh lists -/

variable (history decode) in
/-- The view of a revision of a key, if it is not removed. -/
def shownView (read : String × ℕ) : Option ProductView :=
  (decode (history read.1 read.2)).filter fun view => !view.removed

variable (history decode) in
/-- Reads of different product keys, that can be decoded. -/
def ReadsOk (reads : List (String × ℕ)) : Prop :=
  (reads.map Prod.fst).Nodup ∧
    ∀ read ∈ reads, isProductKey read.1 = true ∧ (decode (history read.1 read.2)).isSome

/-- Every product of a cache was read, at a revision that is not older. -/
def Covers (entries : List KvEntry) (reads : List (String × ℕ)) : Prop :=
  ∀ key e, entryOf entries key = some e → isProductKey key = true →
    ∃ revision, e.revision ≤ revision ∧ (key, revision) ∈ reads

variable (history decode) in
/-- A list of products that is not older than a cache: it has, ordered by product, the views that are not
removed of different product keys, and every product of the cache at a revision that is not older. -/
def Fresh (entries : List KvEntry) (views : List ProductView) : Prop :=
  views.Pairwise (fun a b => a.productId ≤ b.productId) ∧
    ∃ reads, ReadsOk history decode reads ∧ views.Perm (reads.filterMap (shownView history decode)) ∧
      Covers entries reads

/-- A view that is read is collected. -/
lemma collect_shownView {reads : List (String × ℕ)} {key : String} {revision : ℕ} {view : ProductView}
    (hview : decode (history key revision) = some view) :
    collect (reads.filterMap (shownView history decode)) view =
      (reads ++ [(key, revision)]).filterMap (shownView history decode) := by
  rw [List.filterMap_append, collect]
  cases hremoved : view.removed with
  | true =>
    have hshown : shownView history decode (key, revision) = none := by simp [shownView, hview, hremoved]
    simp [hshown]
  | false =>
    have hshown : shownView history decode (key, revision) = some view := by simp [shownView, hview, hremoved]
    simp [hshown]

/-! ## Calls -/

variable (history decode) in
/-- How far a call has read, with the keys that are left: what was read covers the cache of its generation
but for these keys, which are in the cache; and if nothing was applied since, going on gives what reading the
cache gives. -/
structure ProgressOk (sortSlice : List ProductView → List ProductView) (seen : ℕ → List KvEntry)
    (generation : ℕ) (entries : List KvEntry) (progress : Progress) (keys : List String) : Prop where
  le : progress.generation ≤ generation
  present : ∀ key ∈ keys, (entryOf entries key).isSome
  reads : ∃ reads, progress.products = reads.filterMap (shownView history decode) ∧
    ReadsOk history decode reads ∧ (reads.map Prod.fst ++ keys).Nodup ∧
    ∀ key e, entryOf (seen progress.generation) key = some e → isProductKey key = true →
      key ∈ keys ∨ ∃ revision, e.revision ≤ revision ∧ (key, revision) ∈ reads
  exact : progress.generation = generation →
    readProducts decode sortSlice entries = resultOf sortSlice (readKeys decode entries keys progress.products)

variable (history decode) in
/-- What is known of a call in a state with a generation and the entries of the cache. -/
def CallOk (sortSlice : List ProductView → List ProductView) (seen : ℕ → List KvEntry) (generation : ℕ)
    (entries : List KvEntry) : CatalogCall → Prop
  | .idle => True
  | .waiting g | .keys g => g ≤ generation
  | .lookup progress =>
    ProgressOk history decode sortSlice seen generation entries progress progress.keys
  | .decode progress entry =>
    ProgressOk history decode sortSlice seen generation entries progress (entry.key :: progress.keys) ∧
      isProductKey entry.key = true ∧ entry = entryAt history entry.key entry.revision ∧
      (∀ e, entryOf (seen progress.generation) entry.key = some e → e.revision ≤ entry.revision) ∧
      (progress.generation = generation → entryOf entries entry.key = some entry)
  | .source _ _ | .apply _ _ | .memoize _ _ => False
  | .returned g result =>
    g ≤ generation ∧ (∀ views, result = .products views → Fresh history decode (seen g) (views.getD [])) ∧
      (g = generation → result = readProducts decode sortSlice entries)

variable (history decode) in
/-- The invariant, with the entries of the cache in each generation. -/
structure MemoInv (sortSlice : List ProductView → List ProductView) (seen : ℕ → List KvEntry)
    (s : CatalogState κ) : Prop where
  cache : CacheOk history decode s.cache
  current : seen s.generation = s.cache.entries
  grows : ∀ g ≤ s.generation, Grows (seen g) s.cache.entries
  snapshot : ∀ views, s.snapshot = some views → s.snapshotGeneration ≤ s.generation ∧
    Fresh history decode (seen s.snapshotGeneration) views ∧
    (s.snapshotGeneration = s.generation →
      readProducts decode sortSlice s.cache.entries = .products (some views))
  calls : ∀ c, CallOk history decode sortSlice seen s.generation s.cache.entries (s.call c)

/-- What a call knows when an entry is applied. -/
lemma ProgressOk.applied {seen seen' : ℕ → List KvEntry} {generation : ℕ} {entries entries' : List KvEntry}
    {progress : Progress} {keys : List String}
    (h : ProgressOk history decode sortSlice seen generation entries progress keys)
    (hseen : ∀ g ≤ generation, seen' g = seen g) (hgrows : Grows entries entries') :
    ProgressOk history decode sortSlice seen' (generation + 1) entries' progress keys where
  le := h.le.trans (Nat.le_succ _)
  present key hkey := by
    obtain ⟨e, he⟩ := Option.isSome_iff_exists.mp (h.present key hkey)
    obtain ⟨e', he', -⟩ := hgrows key e he
    rw [he']
    rfl
  reads := by
    rw [hseen _ h.le]
    exact h.reads
  exact heq := absurd heq (by have := h.le; omega)

/-- What a call knows when an entry is applied. -/
lemma CallOk.applied {seen seen' : ℕ → List KvEntry} {generation : ℕ} {entries entries' : List KvEntry}
    {call : CatalogCall} (h : CallOk history decode sortSlice seen generation entries call)
    (hseen : ∀ g ≤ generation, seen' g = seen g) (hgrows : Grows entries entries') :
    CallOk history decode sortSlice seen' (generation + 1) entries' call := by
  cases call with
  | idle => trivial
  | waiting g => exact Nat.le_succ_of_le h
  | keys g => exact Nat.le_succ_of_le h
  | lookup progress => exact ProgressOk.applied h hseen hgrows
  | decode progress entry =>
    obtain ⟨hprogress, hproduct, hentry, hnewer, -⟩ := h
    refine ⟨hprogress.applied hseen hgrows, hproduct, hentry, ?_, fun heq => ?_⟩
    · rw [hseen _ hprogress.le]
      exact hnewer
    · have := hprogress.le
      omega
  | source progress key => exact h
  | apply progress entry => exact h
  | memoize progress entry => exact h
  | returned g result =>
    obtain ⟨hle, hfresh, -⟩ := h
    refine ⟨Nat.le_succ_of_le hle, ?_, fun heq => by omega⟩
    rw [hseen _ hle]
    exact hfresh

/-- An entry is applied, by the watch or by a read. -/
lemma MemoInv.applyEntry {seen : ℕ → List KvEntry} {s s' : CatalogState κ}
    (h : MemoInv history decode sortSlice seen s) {key : String} {revision : ℕ}
    (happly : s.applyEntry (entryAt history key revision) = some s') :
    ∃ seen', MemoInv history decode sortSlice seen' s' ∧ ∀ g ≤ s.generation, seen' g = seen g := by
  obtain ⟨cache, hcache, rfl⟩ := Option.map_eq_some_iff.mp happly
  obtain ⟨hok, hgrows, hrefuses⟩ := h.cache.apply hcache
  by_cases hrefused : ((s.cache.revisions key).any fun r => revision ≤ r) = true
  · refine ⟨seen, ?_, fun _ _ => rfl⟩
    have hentries := hrefuses hrefused
    have hgeneration : (if ((s.cache.revisions (entryAt history key revision).key).any fun r =>
        (entryAt history key revision).revision ≤ r) = true then s.generation else s.generation + 1) =
        s.generation := if_pos hrefused
    refine ⟨hok, ?_, ?_, ?_, ?_⟩ <;> simp only [hgeneration, hentries]
    · exact h.current
    · exact h.grows
    · exact h.snapshot
    · exact h.calls
  · have hgeneration : (if ((s.cache.revisions (entryAt history key revision).key).any fun r =>
        (entryAt history key revision).revision ≤ r) = true then s.generation else s.generation + 1) =
        s.generation + 1 := if_neg hrefused
    have hseen : ∀ g ≤ s.generation, Function.update seen (s.generation + 1) cache.entries g = seen g :=
      fun g hg => Function.update_of_ne (by omega) _ _
    refine ⟨Function.update seen (s.generation + 1) cache.entries, ⟨hok, ?_, ?_, ?_, ?_⟩, hseen⟩ <;>
      simp only [hgeneration]
    · exact Function.update_self ..
    · intro g hg
      rcases Nat.le_succ_iff.mp hg with hle | heq
      · rw [hseen g hle]
        exact (h.grows g hle).trans hgrows
      · rw [heq, Function.update_self]
        exact Grows.refl _
    · intro views hviews
      obtain ⟨hle, hfresh, -⟩ := h.snapshot views hviews
      refine ⟨Nat.le_succ_of_le hle, ?_, fun heq => by omega⟩
      rw [hseen _ hle]
      exact hfresh
    · exact fun c => (h.calls c).applied hseen hgrows

/-! ## Steps of calls -/

variable [DecidableEq κ] {seen : ℕ → List KvEntry} {s : CatalogState κ} {c : κ}

/-- A call goes on. -/
lemma MemoInv.setCall (h : MemoInv history decode sortSlice seen s) (c : κ) (call : CatalogCall)
    (hcall : CallOk history decode sortSlice seen s.generation s.cache.entries call) :
    MemoInv history decode sortSlice seen (s.setCall c call) where
  cache := h.cache
  current := h.current
  grows := h.grows
  snapshot := h.snapshot
  calls d := by
    by_cases hd : d = c
    · subst hd
      simpa [CatalogState.setCall] using hcall
    · simpa [CatalogState.setCall, Function.update_of_ne hd] using h.calls d

omit [DecidableEq κ] in
/-- A decoded view is kept in the cache. -/
lemma MemoInv.memoized (h : MemoInv history decode sortSlice seen s) {key : String} {revision : ℕ}
    {view : ProductView} (hview : decode (history key revision) = some view) :
    MemoInv history decode sortSlice seen
      { s with cache := s.cache.memoize (entryAt history key revision) view } := by
  refine ⟨h.cache.memoize hview, ?_, ?_, ?_, ?_⟩ <;> simp only [memoize_entries]
  · exact h.current
  · exact h.grows
  · exact h.snapshot
  · exact h.calls

omit [DecidableEq κ] in
/-- The lock is taken or released. -/
lemma MemoInv.withHolder (h : MemoInv history decode sortSlice seen s) (holder : Option κ) :
    MemoInv history decode sortSlice seen { s with holder := holder } :=
  ⟨h.cache, h.current, h.grows, h.snapshot, h.calls⟩

/-- A call keeps what it has read. -/
lemma MemoInv.store (h : MemoInv history decode sortSlice seen s) {g : ℕ} {views : Option (List ProductView)}
    (hle : g ≤ s.generation) (hfresh : Fresh history decode (seen g) (views.getD []))
    (hexact : g = s.generation → .products views = readProducts decode sortSlice s.cache.entries) :
    MemoInv history decode sortSlice seen (s.store c g views) := by
  have hreturned : CallOk history decode sortSlice seen s.generation s.cache.entries
      (.returned g (.products views)) := by
    refine ⟨hle, ?_, hexact⟩
    intro views' heq
    cases heq
    exact hfresh
  have hset := h.setCall c _ hreturned
  refine ⟨hset.cache, hset.current, hset.grows, ?_, hset.calls⟩
  intro list hlist
  have hviews : views = some list := hlist
  subst hviews
  exact ⟨hle, hfresh, fun heq => (hexact heq).symm⟩

/-- A view was read. -/
lemma ProgressOk.read {generation : ℕ} {entries : List KvEntry} {progress : Progress} {keys : List String}
    {entry : KvEntry} {view : ProductView}
    (h : ProgressOk history decode sortSlice seen generation entries progress (entry.key :: keys))
    (hproduct : isProductKey entry.key = true) (hentry : entry = entryAt history entry.key entry.revision)
    (hnewer : ∀ e, entryOf (seen progress.generation) entry.key = some e → e.revision ≤ entry.revision)
    (hexact : progress.generation = generation → entryOf entries entry.key = some entry)
    (hview : decode entry.value = some view) (left : List String) :
    ProgressOk history decode sortSlice seen generation entries
      { progress with keys := left, products := collect progress.products view } keys where
  le := h.le
  present key hkey := h.present key (List.mem_cons_of_mem _ hkey)
  reads := by
    have hdecode : decode (history entry.key entry.revision) = some view := by
      rw [← hview, hentry]
      rfl
    obtain ⟨reads, hproducts, ⟨hnodup, hreads⟩, hkeys, hcovers⟩ := h.reads
    have hmap : (reads ++ [(entry.key, entry.revision)]).map Prod.fst = reads.map Prod.fst ++ [entry.key] := by
      simp
    refine ⟨reads ++ [(entry.key, entry.revision)], ?_, ⟨?_, ?_⟩, ?_, ?_⟩
    · dsimp only
      rw [hproducts]
      exact collect_shownView hdecode
    · rw [hmap]
      refine hkeys.sublist ?_
      exact List.Sublist.append_left (List.singleton_sublist.mpr List.mem_cons_self) _
    · intro read hread
      rcases List.mem_append.mp hread with hread | hread
      · exact hreads read hread
      · rw [List.mem_singleton.mp hread]
        exact ⟨hproduct, by rw [hdecode]; rfl⟩
    · rw [hmap, List.append_assoc]
      exact hkeys
    · intro key e he hkey
      rcases hcovers key e he hkey with hmem | ⟨revision, hle, hmem⟩
      · rcases List.mem_cons.mp hmem with rfl | hmem
        · refine .inr ⟨entry.revision, hnewer e he, ?_⟩
          exact List.mem_append_right _ List.mem_cons_self
        · exact .inl hmem
      · exact .inr ⟨revision, hle, List.mem_append_left _ hmem⟩
  exact heq := by
    rw [h.exact heq, readKeys, hproduct, hexact heq]
    simp only [Bool.not_true, Bool.false_eq_true, if_false, hview]

/-- A key of something else is left out. -/
lemma ProgressOk.skip {generation : ℕ} {entries : List KvEntry} {progress : Progress} {key : String}
    {keys : List String}
    (h : ProgressOk history decode sortSlice seen generation entries progress (key :: keys))
    (hproduct : isProductKey key = false) (left : List String) :
    ProgressOk history decode sortSlice seen generation entries { progress with keys := left } keys where
  le := h.le
  present k hk := h.present k (List.mem_cons_of_mem _ hk)
  reads := by
    obtain ⟨reads, hproducts, hreads, hkeys, hcovers⟩ := h.reads
    refine ⟨reads, hproducts, hreads, ?_, ?_⟩
    · exact hkeys.sublist (List.Sublist.append_left (List.sublist_cons_self _ _) _)
    · intro k e he hk
      rcases hcovers k e he hk with hmem | hread
      · rcases List.mem_cons.mp hmem with rfl | hmem
        · rw [hproduct] at hk
          cases hk
        · exact .inl hmem
      · exact .inr hread
  exact heq := by
    rw [h.exact heq, readKeys, hproduct]
    simp

/-- What was read when no key is left is fresh. -/
lemma ProgressOk.fresh {generation : ℕ} {entries : List KvEntry} {progress : Progress}
    (hsort : ∀ views, (sortSlice views).Perm views ∧
      (sortSlice views).Pairwise fun a b => a.productId ≤ b.productId)
    (h : ProgressOk history decode sortSlice seen generation entries progress []) :
    Fresh history decode (seen progress.generation) (sortSlice progress.products) := by
  obtain ⟨reads, hproducts, hreads, -, hcovers⟩ := h.reads
  refine ⟨(hsort _).2, reads, hreads, ?_, ?_⟩
  · rw [← hproducts]
    exact (hsort _).1
  · intro key e he hkey
    rcases hcovers key e he hkey with hmem | hread
    · cases hmem
    · exact hread

/-- The keys of a cache. -/
lemma mem_keysOf {entries : List KvEntry} {key : String} :
    key ∈ keysOf entries ↔ (entryOf entries key).isSome := by
  rw [keysOf, (List.perm_insertionSort _ _).mem_iff, entryOf, List.find?_isSome, List.mem_map]
  simp

omit [DecidableEq κ] in
/-- The keys of a cache are read. -/
lemma MemoInv.progress (h : MemoInv history decode sortSlice seen s) {g : ℕ} (hle : g ≤ s.generation)
    (hkeys : keysOf s.cache.entries ≠ []) :
    ProgressOk history decode sortSlice seen s.generation s.cache.entries
      { generation := g, keys := keysOf s.cache.entries, products := [] } (keysOf s.cache.entries) where
  le := hle
  present _ hkey := mem_keysOf.mp hkey
  reads := by
    refine ⟨[], rfl, ⟨List.nodup_nil, by simp⟩, ?_, ?_⟩
    · rw [List.map_nil, List.nil_append, keysOf, (List.perm_insertionSort _ _).nodup_iff]
      exact h.cache.nodup
    · intro key e he _
      obtain ⟨e', he', -⟩ := h.grows g hle key e he
      exact .inl (mem_keysOf.mpr (by rw [he']; rfl))
  exact _ := by
    rw [readProducts]
    split
    · contradiction
    · next key keys heq => rw [heq]

omit [DecidableEq κ] in
/-- A cache without keys has no products. -/
lemma MemoInv.fresh_nil (h : MemoInv history decode sortSlice seen s) {g : ℕ} (hle : g ≤ s.generation)
    (hkeys : keysOf s.cache.entries = []) : Fresh history decode (seen g) [] := by
  refine ⟨List.Pairwise.nil, [], ⟨List.nodup_nil, by simp⟩, List.Perm.refl _, ?_⟩
  intro key e he _
  obtain ⟨e', he', -⟩ := h.grows g hle key e he
  have hmem := mem_keysOf.mpr (by rw [he']; rfl : (entryOf s.cache.entries key).isSome)
  rw [hkeys] at hmem
  cases hmem

/-! ## Steps and runs -/

variable (hsort : ∀ views, (sortSlice views).Perm views ∧
  (sortSlice views).Pairwise fun a b => a.productId ≤ b.productId)

include hsort in
/-- The next key of a call. -/
lemma MemoInv.lookup (h : MemoInv history decode sortSlice seen s) {progress : Progress}
    (hcall : s.call c = .lookup progress) :
    MemoInv history decode sortSlice seen (s.lookup sortSlice c progress) := by
  have hprogress := h.calls c
  rw [hcall] at hprogress
  change ProgressOk history decode sortSlice seen _ _ progress progress.keys at hprogress
  unfold CatalogState.lookup
  cases hkeys : progress.keys with
  | nil =>
    rw [hkeys] at hprogress
    refine h.store hprogress.le (hprogress.fresh hsort) fun heq => ?_
    rw [hprogress.exact heq]
    rfl
  | cons key keys =>
    rw [hkeys] at hprogress
    cases hproduct : isProductKey key with
    | false =>
      simp only [hproduct, Bool.not_false, if_true]
      exact h.setCall c (.lookup _) (hprogress.skip hproduct keys)
    | true =>
      -- The keys that are left are in the cache: the call never reads the bucket.
      obtain ⟨entry, hentry⟩ := Option.isSome_iff_exists.mp (hprogress.present key List.mem_cons_self)
      have hfound : s.cache.entry key = some entry := hentry
      obtain ⟨hmem, rfl⟩ := entryOf_some hentry
      have hstored := (h.cache.entry entry hmem).1
      have hnewer : ∀ e, entryOf (seen progress.generation) entry.key = some e →
          e.revision ≤ entry.revision := by
        intro e he
        obtain ⟨e', he', hrevision⟩ := h.grows _ hprogress.le _ e he
        rw [hentry, Option.some_inj] at he'
        exact he' ▸ hrevision
      have hdecoding : CallOk history decode sortSlice seen s.generation s.cache.entries
          (.decode { progress with keys := keys } entry) :=
        ⟨⟨hprogress.le, hprogress.present, hprogress.reads, hprogress.exact⟩, hproduct, hstored, hnewer,
          fun _ => hentry⟩
      simp only [hfound, hproduct, Bool.not_true, Bool.false_eq_true, if_false]
      split
      · next revision view hdecoded =>
        split_ifs with hrevision
        · refine h.setCall c (.lookup _) ?_
          have hview := h.cache.decoded _ _ _ hdecoded
          refine hprogress.read hproduct hstored hnewer (fun _ => hentry) ?_ keys
          rw [hstored, ← hview, hrevision]
          rfl
        · exact h.setCall c _ hdecoding
      · exact h.setCall c _ hdecoding

/-- An entry is decoded. -/
lemma MemoInv.decoded (h : MemoInv history decode sortSlice seen s) {progress : Progress} {entry : KvEntry}
    (hcall : s.call c = .decode progress entry) :
    MemoInv history decode sortSlice seen (s.decoded decode c progress entry) := by
  have hok := h.calls c
  rw [hcall] at hok
  obtain ⟨hprogress, hproduct, hentry, hnewer, hexact⟩ := hok
  unfold CatalogState.decoded
  cases hview : decode entry.value with
  | none =>
    refine MemoInv.withHolder (h.setCall c (.returned _ _) ⟨hprogress.le, ?_, fun heq => ?_⟩) none
    · intro views heq
      cases heq
    · rw [hprogress.exact heq, readKeys, hproduct, hexact heq]
      simp only [Bool.not_true, Bool.false_eq_true, if_false, hview]
      rfl
  | some view =>
    have hread := hprogress.read hproduct hentry hnewer hexact hview progress.keys
    have hdecode : decode (history entry.key entry.revision) = some view := by
      rw [← hview, hentry]
      rfl
    have hkept := (h.setCall c (.lookup _) hread).memoized hdecode
    rw [← hentry] at hkept
    exact hkept

include hsort in
/-- Every step keeps the invariant, and what was seen. -/
lemma MemoInv.step (h : MemoInv history decode sortSlice seen s) {a : CatalogAction κ}
    {s' : CatalogState κ} (hstep : s.step history decode sortSlice a = some s') :
    ∃ seen', MemoInv history decode sortSlice seen' s' ∧ ∀ g ≤ s.generation, seen' g = seen g := by
  cases a with
  | apply key revision => exact h.applyEntry hstep
  | memoize key revision =>
    refine ⟨seen, ?_, fun _ _ => rfl⟩
    simp only [CatalogState.step] at hstep
    cases hview : decode (history key revision) with
    | none =>
      rw [hview] at hstep
      cases hstep
      exact h
    | some view =>
      rw [hview] at hstep
      cases hstep
      exact h.memoized hview
  | generation d =>
    refine ⟨seen, ?_, fun _ _ => rfl⟩
    simp only [CatalogState.step] at hstep
    split at hstep
    · cases hstep
      exact h.setCall d (.waiting _) (Nat.le_refl s.generation)
    · cases hstep
  | lock d =>
    refine ⟨seen, ?_, fun _ _ => rfl⟩
    simp only [CatalogState.step] at hstep
    split at hstep
    · next g hcall hholder =>
      have hle := h.calls d
      rw [hcall] at hle
      have hlocked := MemoInv.withHolder (h.setCall d (.keys g) hle) (some d)
      split at hstep
      · next views hviews =>
        obtain ⟨-, hfresh, hexact⟩ := h.snapshot views hviews
        split_ifs at hstep with hgeneration
        · cases hstep
          refine MemoInv.withHolder (h.setCall d (.returned _ _) ⟨hle, ?_, fun heq => ?_⟩) none
          · intro views' heq
            cases heq
            exact hgeneration ▸ hfresh
          · exact (hexact (hgeneration.trans heq)).symm
        · cases hstep
          exact hlocked
      · cases hstep
        exact hlocked
    · cases hstep
  | keys d =>
    refine ⟨seen, ?_, fun _ _ => rfl⟩
    simp only [CatalogState.step] at hstep
    split at hstep
    · next g hcall =>
      have hle := h.calls d
      rw [hcall] at hle
      split at hstep
      · next hkeys =>
        cases hstep
        refine h.store hle (h.fresh_nil hle hkeys) fun _ => ?_
        rw [readProducts, hkeys]
      · next key keys hkeys =>
        cases hstep
        have hprogress := h.progress hle (by rw [hkeys]; exact List.cons_ne_nil _ _)
        rw [hkeys] at hprogress
        exact h.setCall d (.lookup _) hprogress
    · cases hstep
  | lookup d =>
    refine ⟨seen, ?_, fun _ _ => rfl⟩
    simp only [CatalogState.step] at hstep
    split at hstep
    · next progress hcall =>
      cases hstep
      exact h.lookup hsort hcall
    · cases hstep
  | decode d =>
    refine ⟨seen, ?_, fun _ _ => rfl⟩
    simp only [CatalogState.step] at hstep
    split at hstep
    · next progress entry hcall =>
      cases hstep
      exact h.decoded hcall
    · cases hstep
  | source d answer =>
    simp only [CatalogState.step] at hstep
    split at hstep
    · next progress key hcall =>
      have hnever := h.calls d
      rw [hcall] at hnever
      exact hnever.elim
    · cases hstep
  | applyRead d =>
    simp only [CatalogState.step] at hstep
    split at hstep
    · next progress entry hcall =>
      have hnever := h.calls d
      rw [hcall] at hnever
      exact hnever.elim
    · cases hstep
  | memoizeRead d =>
    simp only [CatalogState.step] at hstep
    split at hstep
    · next progress entry hcall =>
      have hnever := h.calls d
      rw [hcall] at hnever
      exact hnever.elim
    · cases hstep

include hsort in
/-- A run keeps the invariant, and what was seen before it. -/
lemma MemoInv.run {actions : List (CatalogAction κ)} {s' : CatalogState κ}
    (h : MemoInv history decode sortSlice seen s)
    (hrun : run (CatalogState.step history decode sortSlice) s actions = some s') :
    ∃ seen', MemoInv history decode sortSlice seen' s' ∧ ∀ g ≤ s.generation, seen' g = seen g := by
  induction actions generalizing s seen with
  | nil =>
    cases hrun
    exact ⟨seen, h, fun _ _ => rfl⟩
  | cons a actions ih =>
    obtain ⟨t, hstep, hrest⟩ := run_cons.mp hrun
    obtain ⟨seen', ht, hseen⟩ := h.step hsort hstep
    obtain ⟨seen'', hs', hseen'⟩ := ih ht hrest
    refine ⟨seen'', hs', fun g hg => ?_⟩
    rw [hseen' g (hg.trans (step_generations hstep).le), hseen g hg]

omit [DecidableEq κ] in
/-- The invariant holds at the start. -/
lemma MemoInv.init : MemoInv history decode sortSlice (fun _ => []) ({} : CatalogState κ) where
  cache := ⟨List.nodup_nil, by simp, by simp⟩
  current := rfl
  grows _ _ := Grows.refl _
  snapshot _ hviews := by cases hviews
  calls _ := trivial

include hsort in
/-- The memo of the catalog is never stale.  In every run, the list that a call returns is ordered by product,
has the views that are not removed of different product keys, and has every product that was in the cache
when the call read the generation, at a revision that is not older.  If no entry is applied after a call has
read the generation, it returns what reading the cache then gives. -/
theorem catalog_memo_fresh {before after : List (CatalogAction κ)} {s t t' : CatalogState κ} {c : κ}
    {g : ℕ} {result : CatalogResult}
    (hbefore : run (CatalogState.step history decode sortSlice) {} before = some s)
    (hcall : s.step history decode sortSlice (.generation c) = some t)
    (hafter : run (CatalogState.step history decode sortSlice) t after = some t')
    (hreturned : t'.call c = .returned g result) :
    (∀ views, result = .products views → Fresh history decode s.cache.entries (views.getD [])) ∧
      ((∀ a ∈ after, a.applies = false) → result = readProducts decode sortSlice s.cache.entries) := by
  obtain ⟨seen, hs, -⟩ := MemoInv.init.run hsort hbefore
  obtain ⟨seen', ht, hseen'⟩ := hs.step hsort hcall
  obtain ⟨seen'', ht', hseen''⟩ := ht.run hsort hafter
  -- The call has read the generation of the cache, which was not changed by that.
  obtain ⟨hgeneration, hentries, hwaiting⟩ : t.generation = s.generation ∧ t.cache = s.cache ∧
      (t.call c).generation? = some s.generation := by
    simp only [CatalogState.step] at hcall
    split at hcall
    · cases hcall
      exact ⟨rfl, rfl, by simp [CatalogState.setCall, CatalogCall.generation?]⟩
    · cases hcall
  obtain ⟨hquiet, hkeeps⟩ := run_generations hafter
  have hg := hkeeps c _ hwaiting
  rw [hreturned] at hg
  have hgs : g = s.generation := Option.some_inj.mp hg
  subst hgs
  have hentries' : seen'' s.generation = s.cache.entries := by
    rw [hseen'' _ hgeneration.ge, hseen' _ (Nat.le_refl _), hs.current]
  have hok := ht'.calls c
  rw [hreturned] at hok
  obtain ⟨-, hfresh, hexact⟩ := hok
  rw [hentries'] at hfresh
  refine ⟨hfresh, fun hnone => ?_⟩
  have hsame : t'.generation = s.generation := (hquiet hnone).trans hgeneration
  rw [hexact hsame.symm, ← ht'.current, hsame, hentries']

/-! ## Calls that read two products -/

namespace Sample

/-- The view of a product. -/
def view (productId : String) (revision : ℕ) : ProductView where
  product := some { productId := productId, priceUsd := none, productVersion := revision }
  catalogRevision := revision
  updatedAt := .zero

/-- The values of a bucket. -/
def stored (key : String) (revision : ℕ) : List UInt8 :=
  [if key = "product.a" then 1 else 2, UInt8.ofNat revision]

/-- The view of a value. -/
def viewOf : List UInt8 → Option ProductView
  | [1, revision] => some (view "a" revision.toNat)
  | [2, revision] => some (view "b" revision.toNat)
  | _ => none

/-- Views ordered by product. -/
def sortViews (views : List ProductView) : List ProductView :=
  views.insertionSort fun a b => a.productId ≤ b.productId

/-- The order of views. -/
lemma sortViews_spec (views : List ProductView) : (sortViews views).Perm views ∧
    (sortViews views).Pairwise fun a b => a.productId ≤ b.productId := by
  have htotal : Std.Total fun a b : ProductView => a.productId ≤ b.productId :=
    ⟨fun a b => String.le_total a.productId b.productId⟩
  have htrans : IsTrans ProductView fun a b => a.productId ≤ b.productId :=
    ⟨fun a b c hab hbc => String.le_trans hab hbc⟩
  exact ⟨List.perm_insertionSort _ _, List.pairwise_insertionSort _ _⟩

/-- The watch applies two products. -/
def twoProducts : List (CatalogAction ℕ) := [.apply "product.b" 1, .apply "product.a" 1]

/-- A call that finds no memo.  The watch applies a product that the call has already read. -/
def overtaken : List (CatalogAction ℕ) :=
  [.lock 0, .keys 0, .lookup 0, .decode 0, .apply "product.a" 2, .lookup 0, .decode 0, .lookup 0]

/-- A call that finds the memo of an older generation, and the view of one product decoded. -/
def readAgain : List (CatalogAction ℕ) :=
  [.generation 1, .lock 1, .keys 1, .lookup 1, .decode 1, .lookup 1, .lookup 1]

/-- What a call has returned. -/
def returned (s : CatalogState ℕ) (c : ℕ) : Option (ℕ × CatalogResult) :=
  match s.call c with
  | .returned generation result => some (generation, result)
  | _ => none

/-- A call that has returned. -/
lemma call_of_returned {s : CatalogState ℕ} {c g : ℕ} {result : CatalogResult}
    (h : returned s c = some (g, result)) : s.call c = .returned g result := by
  unfold returned at h
  split at h
  · next hcall =>
    cases h
    exact hcall
  · cases h

end Sample

/-- The first call returns the products of the cache as it was when the call read the generation; the last one
returns the memo, which is what the cache then gives. -/
theorem two_products_read : ∃ s t v u,
    run (CatalogState.step Sample.stored Sample.viewOf Sample.sortViews) {} Sample.twoProducts = some s ∧
    run (CatalogState.step Sample.stored Sample.viewOf Sample.sortViews) s
      (.generation 0 :: Sample.overtaken) = some t ∧
    t.call 0 = .returned 2 (.products (some [Sample.view "a" 1, Sample.view "b" 1])) ∧
    Fresh Sample.stored Sample.viewOf s.cache.entries [Sample.view "a" 1, Sample.view "b" 1] ∧
    run (CatalogState.step Sample.stored Sample.viewOf Sample.sortViews) t Sample.readAgain = some v ∧
    run (CatalogState.step Sample.stored Sample.viewOf Sample.sortViews) v [.generation 2, .lock 2] = some u ∧
    u.call 2 = .returned 3 (.products (some [Sample.view "a" 2, Sample.view "b" 1])) ∧
    readProducts Sample.viewOf Sample.sortViews v.cache.entries =
      .products (some [Sample.view "a" 2, Sample.view "b" 1]) := by
  have hfirst : (run (CatalogState.step Sample.stored Sample.viewOf Sample.sortViews) {}
      (Sample.twoProducts ++ (.generation 0 :: Sample.overtaken))).map (fun t => Sample.returned t 0) =
      some (some (2, .products (some [Sample.view "a" 1, Sample.view "b" 1]))) := by
    decide +kernel
  have hlast : (run (CatalogState.step Sample.stored Sample.viewOf Sample.sortViews) {}
      ((Sample.twoProducts ++ (.generation 0 :: Sample.overtaken)) ++
        (Sample.readAgain ++ [.generation 2, .lock 2]))).map (fun u => Sample.returned u 2) =
      some (some (3, .products (some [Sample.view "a" 2, Sample.view "b" 1]))) := by
    decide +kernel
  obtain ⟨t, ht, hreturned⟩ := Option.map_eq_some_iff.mp hfirst
  obtain ⟨u, hu, hreturned'⟩ := Option.map_eq_some_iff.mp hlast
  obtain ⟨s, hs, hst⟩ := run_append.mp ht
  obtain ⟨t', ht', htu⟩ := run_append.mp hu
  obtain rfl := Option.some.inj (ht.symm.trans ht')
  have hcall := Sample.call_of_returned hreturned
  have hcall' := Sample.call_of_returned hreturned'
  obtain ⟨_, hgeneration, hafter⟩ := run_cons.mp hst
  have hfresh := (catalog_memo_fresh Sample.sortViews_spec hs hgeneration hafter hcall).1 _ rfl
  -- the last call finds the memo, and no entry is applied
  obtain ⟨v, hv, hvu⟩ := run_append.mp htu
  obtain ⟨_, hgeneration', hafter'⟩ := run_cons.mp hvu
  have hexact := (catalog_memo_fresh Sample.sortViews_spec (run_append.mpr ⟨t, ht, hv⟩) hgeneration' hafter'
    hcall').2 (by simp [CatalogAction.applies])
  exact ⟨s, t, v, u, hs, hst, hcall, hfresh, hv, hvu, hcall', hexact.symm⟩

end Boutique.Storefront
