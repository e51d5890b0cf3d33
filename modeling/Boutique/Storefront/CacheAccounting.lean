import Boutique.Lib.Budget
import Boutique.Storefront.ReadCacheFresh

/-!
# What the caches of the projection count

`projectionReadCache` keeps five maps and a count of bytes by hand, in `apply`, `sweepExpired` and the
functions that keep decoded values; `cachedProjectionKV` of `storefrontprojectionservice/write_cache.go` keeps
one map and its count, in `store` and `invalidate`.  Both are stores with a budget.

The steps of the read cache are its critical sections: a call that decodes an entry has given up the lock in
between.  The bytes of a revision of a key never change; which entries are applied, in which order, is open.
-/

namespace Boutique.Storefront

open StepSystem Budget

/-! ## The write cache -/

/-- `cachedProjectionKV`: `entries` and `bytes`. -/
abbrev WriteCache := Ledger KvEntry

/-- `store`, with the keys that its loop evicts. -/
def WriteCache.store (limits : Limits) (cache : WriteCache) (entry : KvEntry) (evicted : List String) :
    Option WriteCache :=
  let cache := cache.drop KvEntry.key KvEntry.bytes entry.key
  (cache.makeRoom KvEntry.key KvEntry.bytes limits entry.bytes evicted).map fun cache =>
    cache.add KvEntry.bytes entry

/-- `invalidate`. -/
def WriteCache.invalidate (cache : WriteCache) (key : String) : WriteCache :=
  cache.drop KvEntry.key KvEntry.bytes key

/-- The steps of the write cache. -/
inductive WriteCacheStep where
  | store (entry : KvEntry) (evicted : List String)
  | invalidate (key : String)

/-- One step. -/
def WriteCache.step (limits : Limits) (cache : WriteCache) : WriteCacheStep → Option WriteCache
  | .store entry evicted => cache.store limits entry evicted
  | .invalidate key => some (cache.invalidate key)

/-! ## Calls that decode -/

/-- The error of a read: `nats.ErrKeyNotFound`, or another one. -/
inductive ReadError where
  | keyNotFound | other

/-- The function that a call decodes with. -/
abbrev Decoder (δ : Type*) := List UInt8 → Except ReadError δ

/-- The two functions. -/
inductive DecodeKind where
  | decodedValue | decodedCachedValue

/-- Where a call is, after one of its critical sections. -/
inductive DecodeCall (δ : Type*) where
  | idle
  | decode (kind : DecodeKind) (entry : KvEntry) (decode : Decoder δ)
  | source (key : String) (decode : Decoder δ)
  | apply (authoritative : KvEntry) (decode : Decoder δ)
  | store (authoritative : KvEntry) (decode : Decoder δ)
  | returned (result : Except ReadError (δ × ℕ))

/-- A call whose `decodedCachedValue` has failed: `decodedValue` goes on if the key was not found. -/
def DecodeCall.failed {δ : Type*} (key : String) (decode : Decoder δ) : DecodeKind → ReadError → DecodeCall δ
  | .decodedValue, .keyNotFound => .source key decode
  | _, err => .returned (.error err)

/-- The cache and the calls. -/
structure DecodeState (κ δ : Type*) where
  cache : ReadCache δ := {}
  call : κ → DecodeCall δ := fun _ => .idle

/-- The steps: an entry is applied that the watch or another read has brought, expired entries are removed, a
hit moves an expiration, and the sections of the calls. -/
inductive DecodeAction (κ δ : Type*) where
  | apply (key : String) (revision : ℕ) (operation : KvOp) (now : Time) (evicted : List String)
  | sweepExpired (now : Time)
  | refresh (key : String) (now : Time)
  | lookup (c : κ) (kind : DecodeKind) (key : String) (decode : Decoder δ)
  | decode (c : κ)
  | source (c : κ) (answer : Except ReadError ℕ)
  | applySource (c : κ) (now : Time) (evicted : List String)
  | store (c : κ)

section Steps

variable {κ δ : Type*} [DecidableEq κ] (config : ReadCacheConfig) (history : String → ℕ → List UInt8)

/-- The entry of a revision of a key. -/
def writtenEntry (key : String) (revision : ℕ) (operation : KvOp) : KvEntry where
  key := key
  value := history key revision
  revision := revision
  operation := operation

namespace DecodeState

/-- The state with another phase of a call. -/
def setCall (s : DecodeState κ δ) (c : κ) (call : DecodeCall δ) : DecodeState κ δ :=
  { s with call := Function.update s.call c call }

/-- The first section of `decodedCachedValue`. -/
def lookup (cache : ReadCache δ) (kind : DecodeKind) (key : String) (decode : Decoder δ) : DecodeCall δ :=
  match cache.entry key with
  | none => .failed key decode kind .keyNotFound
  | some entry =>
    match cache.decoded key with
    | some (revision, value) =>
      if revision = entry.revision then .returned (.ok (value, entry.revision))
      else .decode kind entry decode
    | none => .decode kind entry decode

/-- One step. -/
def step (s : DecodeState κ δ) : DecodeAction κ δ → Option (DecodeState κ δ)
  | .apply key revision operation now evicted =>
    (s.cache.apply config (writtenEntry history key revision operation) now evicted).map fun cache =>
      { s with cache := cache }
  | .sweepExpired now => some { s with cache := s.cache.sweepExpired now }
  | .refresh key now =>
    -- the expiration that a hit moves is still in the map, or nothing sees it any more
    if 0 < config.idleTTL.nanos ∧ (s.cache.expirations key).isSome then
      some { s with cache := { s.cache with
        expirations := Function.update s.cache.expirations key
          (some (now + config.idleTTL.nanos - unixEpoch)) } }
    else none
  | .lookup c kind key decode =>
    match s.call c with
    | .idle => some (s.setCall c (lookup s.cache kind key decode))
    | _ => none
  | .decode c =>
    match s.call c with
    | .decode kind entry decode =>
      match decode entry.value with
      | .error err => some (s.setCall c (.failed entry.key decode kind err))
      | .ok value =>
        some { s.setCall c (.returned (.ok (value, entry.revision))) with
               cache := s.cache.memoize entry value }
    | _ => none
  | .source c answer =>
    match s.call c with
    | .source key decode =>
      match answer with
      | .error err => some (s.setCall c (.returned (.error err)))
      | .ok revision => some (s.setCall c (.apply (writtenEntry history key revision .put) decode))
    | _ => none
  | .applySource c now evicted =>
    match s.call c with
    | .apply authoritative decode =>
      (s.cache.apply config authoritative now evicted).map fun cache =>
        { s.setCall c (.store authoritative decode) with cache := cache }
    | _ => none
  | .store c =>
    match s.call c with
    | .store authoritative decode =>
      match decode authoritative.value with
      | .error err => some (s.setCall c (.returned (.error err)))
      | .ok value =>
        some { s.setCall c (.returned (.ok (value, authoritative.revision))) with
               cache := s.cache.memoize authoritative value }
    | _ => none

end DecodeState

end Steps

/-! ## What is counted -/

/-- The limits of a read cache. -/
def budget (config : ReadCacheConfig) : Limits where
  items := config.maxEntries
  weight := config.maxBytes

section Maps

variable {δ : Type*}

/-- `entries` and `bytes` of a read cache. -/
def ledger (cache : ReadCache δ) : Ledger KvEntry where
  items := cache.entries
  total := cache.bytes

/-- One round of the loop of `apply`: the cache is full, and some entry is evicted. -/
def EvictsEntry (config : ReadCacheConfig) (entryBytes : ℕ) (cache cache' : ReadCache δ) : Prop :=
  cache.full config entryBytes = true ∧ ∃ key, (cache.entry key).isSome ∧ cache' = cache.evict key

/-- Decoded values and expirations belong to entries, apart from those of a key that is being applied; the
revisions are those of the entries; and a decoded value comes from the bytes of its revision. -/
structure Follows (history : String → ℕ → List UInt8) (decoders : String → Decoder δ → Prop)
    (cache : ReadCache δ) (applying : String → Prop) : Prop where
  decoded : ∀ k, (cache.decoded k).isSome → ¬applying k → (cache.entry k).isSome
  expirations : ∀ k, (cache.expirations k).isSome → ¬applying k → (cache.entry k).isSome
  revisions : ∀ k e, cache.entry k = some e → cache.revisions k = some e.revision
  value : ∀ k e, cache.entry k = some e → e.value = history k e.revision
  origin : ∀ k r v, cache.decoded k = some (r, v) →
    ∃ decode, decoders k decode ∧ decode (history k r) = .ok v

/-- The accounts of a read cache: `bytes` is the sum over the entries of the lengths of key and value, the
limits are kept, every key of the other maps is one of an entry, whose revision is the recorded one, and a
decoded value that can be served was decoded from the bytes of its entry. -/
structure Accounted (config : ReadCacheConfig) (decoders : String → Decoder δ → Prop)
    (cache : ReadCache δ) : Prop where
  bytes : (ledger cache).Balanced KvEntry.key KvEntry.bytes
  limits : (ledger cache).Within (budget config)
  decoded : ∀ key, (cache.decoded key).isSome → (cache.entry key).isSome
  expirations : ∀ key, (cache.expirations key).isSome → (cache.entry key).isSome
  revisions : ∀ key entry, cache.entry key = some entry → cache.revisions key = some entry.revision
  served : ∀ key entry value, cache.entry key = some entry →
    cache.decoded key = some (entry.revision, value) →
      ∃ decode, decoders key decode ∧ decode entry.value = .ok value

/-! ## The loop of `apply` -/

variable {config : ReadCacheConfig} {history : String → ℕ → List UInt8}
  {decoders : String → Decoder δ → Prop} {cache cache' : ReadCache δ} {applying : String → Prop}
  {entryBytes : ℕ} {evicted : List String} {k key : String} {e : KvEntry}

/-- The loop of `apply` makes room. -/
lemma evictLoop_ledger (h : ReadCache.evictLoop config entryBytes cache evicted = some cache') :
    (ledger cache).makeRoom KvEntry.key KvEntry.bytes (budget config) entryBytes evicted =
      some (ledger cache') := by
  induction evicted generalizing cache with
  | nil =>
    rw [ReadCache.evictLoop] at h
    split_ifs at h with hfull
    cases h
    exact if_neg hfull
  | cons key evicted ih =>
    rw [ReadCache.evictLoop] at h
    split_ifs at h with hcond
    rw [← ih h]
    exact if_pos hcond

/-- The loop of `apply` comes to an end, whatever the cache and whatever is evicted. -/
lemma evictsEntry_wellFounded (config : ReadCacheConfig) (entryBytes : ℕ) :
    WellFounded fun cache' cache : ReadCache δ => EvictsEntry config entryBytes cache cache' := by
  refine Subrelation.wf ?_ (InvImage.wf ledger
    (Ledger.evicts_wellFounded KvEntry.key KvEntry.bytes (budget config) entryBytes))
  rintro cache' cache ⟨hfull, key, hkey, rfl⟩
  exact ⟨hfull, key, hkey, rfl⟩

/-- The loop of `apply` goes on as long as the cache is full. -/
lemma exists_evictsEntry (h : cache.full config entryBytes = true) :
    ∃ cache', EvictsEntry config entryBytes cache cache' := by
  have hfull : (ledger cache).full (budget config) entryBytes = true := h
  obtain ⟨-, -, key, hkey, -⟩ : ∃ l', (ledger cache).Evicts KvEntry.key KvEntry.bytes (budget config)
      entryBytes l' := Ledger.exists_evicts hfull
  exact ⟨_, h, key, hkey, rfl⟩

/-- An entry is evicted with all that belongs to it. -/
lemma Follows.evict (h : Follows history decoders cache applying) (key : String) :
    Follows history decoders (cache.evict key) applying := by
  have hentry : ∀ k, k ≠ key → (cache.evict key).entry k = cache.entry k :=
    fun k hk => ReadCache.drop_entry_ne cache hk
  have hfound : ∀ k e, (cache.evict key).entry k = some e → k ≠ key ∧ cache.entry k = some e :=
    fun k e he => ReadCache.drop_entry cache he
  refine ⟨fun k hk hnot => ?_, fun k hk hnot => ?_, fun k e he => ?_, fun k e he => ?_,
    fun k r v hk => ?_⟩
  · by_cases hkey : k = key
    · simp [ReadCache.evict, hkey] at hk
    · rw [hentry k hkey]
      exact h.decoded k (by simpa [ReadCache.evict, hkey] using hk) hnot
  · by_cases hkey : k = key
    · simp [ReadCache.evict, hkey] at hk
    · rw [hentry k hkey]
      exact h.expirations k (by simpa [ReadCache.evict, hkey] using hk) hnot
  · obtain ⟨hkey, he⟩ := hfound k e he
    simpa [ReadCache.evict, hkey] using h.revisions k e he
  · exact h.value k e (hfound k e he).2
  · by_cases hkey : k = key
    · simp [ReadCache.evict, hkey] at hk
    · exact h.origin k r v (by simpa [ReadCache.evict, hkey] using hk)

/-- The loop of `apply` evicts entries with all that belongs to them. -/
lemma Follows.evictLoop (h : Follows history decoders cache applying)
    (hloop : ReadCache.evictLoop config entryBytes cache evicted = some cache') :
    Follows history decoders cache' applying := by
  induction evicted generalizing cache with
  | nil =>
    rw [ReadCache.evictLoop] at hloop
    split_ifs at hloop
    cases hloop
    exact h
  | cons key evicted ih =>
    rw [ReadCache.evictLoop] at hloop
    split_ifs at hloop
    exact ih (h.evict key) hloop

/-! ## `apply` and `sweepExpired` -/

/-- The accounts of a cache between the steps. -/
structure Kept (config : ReadCacheConfig) (history : String → ℕ → List UInt8)
    (decoders : String → Decoder δ → Prop) (cache : ReadCache δ) : Prop where
  bytes : (ledger cache).Balanced KvEntry.key KvEntry.bytes
  limits : (ledger cache).Within (budget config)
  follows : Follows history decoders cache fun _ => False

/-- The old entry of a key is removed, and its revision is recorded. -/
lemma Follows.start (h : Follows history decoders cache fun _ => False) (key : String) (revision : ℕ) :
    Follows history decoders (({ cache with
      revisions := Function.update cache.revisions key (some revision) } : ReadCache δ).drop key)
      (· = key) := by
  have hfound : ∀ k e, (cache.drop key).entry k = some e → k ≠ key ∧ cache.entry k = some e :=
    fun k e he => ReadCache.drop_entry cache he
  refine ⟨fun k hk hnot => ?_, fun k hk hnot => ?_, fun k e he => ?_, fun k e he => ?_, h.origin⟩
  · exact (ReadCache.drop_entry_ne cache hnot).symm ▸ h.decoded k hk id
  · exact (ReadCache.drop_entry_ne cache hnot).symm ▸ h.expirations k hk id
  · obtain ⟨hkey, he⟩ := hfound k e he
    simpa [ReadCache.drop, hkey] using h.revisions k e he
  · exact h.value k e (hfound k e he).2

/-- A deleted key has neither a decoded value nor an expiration. -/
lemma Follows.close (h : Follows history decoders cache (· = key)) :
    Follows history decoders
      { cache with decoded := Function.update cache.decoded key none
                   expirations := Function.update cache.expirations key none }
      fun _ => False := by
  refine ⟨fun k hk _ => ?_, fun k hk _ => ?_, h.revisions, h.value, fun k r v hk => ?_⟩
  · have hkey : k ≠ key := by
      rintro rfl
      simp at hk
    exact h.decoded k (by simpa [hkey] using hk) hkey
  · have hkey : k ≠ key := by
      rintro rfl
      simp at hk
    exact h.expirations k (by simpa [hkey] using hk) hkey
  · have hkey : k ≠ key := by
      rintro rfl
      simp at hk
    exact h.origin k r v (by simpa [hkey] using hk)

/-- An entry is found after it was added under a new key, and so are all others. -/
lemma entry_append {entries : List KvEntry} (hnew : entries.find? (fun x => x.key = e.key) = none)
    (k : String) : (entries ++ [e]).find? (fun x => x.key = k) =
      if k = e.key then some e else entries.find? fun x => x.key = k := by
  rw [List.find?_append]
  by_cases hk : k = e.key
  · subst hk
    simp [hnew]
  · have hk' : ¬e.key = k := fun heq => hk heq.symm
    simp [hk, hk']

/-- The new entry is added, without a decoded value. -/
lemma Follows.place (h : Follows history decoders cache (· = e.key)) (hnew : cache.entry e.key = none)
    (hrevision : cache.revisions e.key = some e.revision) (hvalue : e.value = history e.key e.revision)
    (bytes : ℤ) (deadline : Option ℤ) :
    Follows history decoders
      { cache with entries := cache.entries ++ [e]
                   bytes := bytes
                   decoded := Function.update cache.decoded e.key none
                   expirations := Function.update cache.expirations e.key deadline }
      fun _ => False := by
  have hentry : ∀ k, (cache.entries ++ [e]).find? (fun x => decide (x.key = k)) =
      if k = e.key then some e else cache.entry k := entry_append hnew
  refine ⟨fun k hk _ => ?_, fun k hk _ => ?_, fun k found he => ?_, fun k found he => ?_,
    fun k r v hk => ?_⟩
  · change ((cache.entries ++ [e]).find? _).isSome
    rw [hentry]
    split_ifs with hkey
    · rfl
    · exact h.decoded k (by simpa [hkey] using hk) hkey
  · change ((cache.entries ++ [e]).find? _).isSome
    rw [hentry]
    split_ifs with hkey
    · rfl
    · exact h.expirations k (by simpa [hkey] using hk) hkey
  · change (cache.entries ++ [e]).find? _ = some found at he
    rw [hentry] at he
    split_ifs at he with hkey
    · cases he
      exact hkey ▸ hrevision
    · exact h.revisions k found he
  · change (cache.entries ++ [e]).find? _ = some found at he
    rw [hentry] at he
    split_ifs at he with hkey
    · cases he
      exact hkey ▸ hvalue
    · exact h.value k found he
  · have hkey : k ≠ e.key := by
      rintro rfl
      simp at hk
    exact h.origin k r v (by simpa [hkey] using hk)

/-- `apply` keeps the accounts. -/
lemma Kept.apply (h : Kept config history decoders cache) {now : Time}
    (hvalue : e.value = history e.key e.revision)
    (happly : cache.apply config e now evicted = some cache') :
    Kept config history decoders cache' := by
  rcases ReadCache.apply_cases happly with ⟨rfl, -⟩ | happlied
  · exact h
  have hself := happlied.self
  have hstart := h.follows.start e.key e.revision
  have hdropped := h.bytes.drop e.key
  unfold ReadCache.apply at happly
  split_ifs at happly with hguard hempty hdelete hnone
  · cases happly
    exact h
  · cases happly
    exact ⟨hdropped, h.limits.drop h.bytes e.key, hstart.close⟩
  · obtain ⟨looped, hloop, rfl⟩ := Option.map_eq_some_iff.mp happly
    obtain ⟨hbytes, hlimits⟩ := Ledger.makeRoom_add hdropped (Ledger.drop_not_mem (ledger cache) e.key)
      (evictLoop_ledger hloop)
    have hnew : looped.entry e.key = none := by
      cases hfound : looped.entry e.key with
      | none => rfl
      | some found =>
        have hold := ((ReadCache.evictLoop_spec hloop).2.1 e.key found hfound).2
        exact absurd rfl (ReadCache.drop_entry _ hold).1
    exact ⟨hbytes, hlimits, (hstart.evictLoop hloop).place hnew hself hvalue _ _⟩

/-- What is left after a sweep was there before, and has not expired. -/
lemma left_isSome {α : Type*} {expired : Bool} {x : Option α}
    (h : (if expired = true then none else x).isSome) : expired = false ∧ x.isSome := by
  cases expired with
  | false => exact ⟨rfl, h⟩
  | true => cases h

/-- `sweepExpired` keeps the accounts. -/
lemma Kept.sweepExpired (h : Kept config history decoders cache) (now : Time) :
    Kept config history decoders (cache.sweepExpired now) := by
  have hentry : ∀ k, cache.expired now k = false →
      (cache.sweepExpired now).entry k = cache.entry k := by
    intro k hk
    simp only [ReadCache.entry, ReadCache.sweepExpired, List.find?_filter]
    congr 1
    funext x
    by_cases hx : x.key = k
    · simp [hx, hk]
    · simp [hx]
  refine ⟨h.bytes.remove fun x => cache.expired now x.key,
    h.limits.remove h.bytes fun x => cache.expired now x.key, ?_⟩
  refine ⟨fun k hk _ => ?_, fun k hk _ => ?_, fun k found he => ?_, fun k found he => ?_,
    fun k r v hk => ?_⟩
  · obtain ⟨hlive, hk⟩ := left_isSome hk
    exact hentry k hlive ▸ h.follows.decoded k hk id
  · obtain ⟨hlive, hk⟩ := left_isSome hk
    exact hentry k hlive ▸ h.follows.expirations k hk id
  · obtain ⟨hlive, he⟩ := ReadCache.sweepExpired_entry he
    simpa [ReadCache.sweepExpired, hlive] using h.follows.revisions k found he
  · exact h.follows.value k found (ReadCache.sweepExpired_entry he).2
  · obtain ⟨hlive, -⟩ := left_isSome (Option.isSome_iff_exists.mpr ⟨_, hk⟩)
    exact h.follows.origin k r v (by simpa [ReadCache.sweepExpired, hlive] using hk)

/-- Moving an expiration keeps the accounts. -/
lemma Kept.refresh (h : Kept config history decoders cache) (hthere : (cache.expirations key).isSome)
    (deadline : ℤ) :
    Kept config history decoders
      { cache with expirations := Function.update cache.expirations key (some deadline) } := by
  refine ⟨h.bytes, h.limits, h.follows.decoded, fun k hk hnot => ?_, h.follows.revisions,
    h.follows.value, h.follows.origin⟩
  by_cases hkey : k = key
  · exact hkey ▸ h.follows.expirations key hthere id
  · exact h.follows.expirations k (by simpa [hkey] using hk) hnot

/-- A value that was decoded from the bytes of a revision is kept if its entry is still there. -/
lemma Kept.memoize (h : Kept config history decoders cache) {value : δ} {decode : Decoder δ}
    (hvalue : e.value = history e.key e.revision) (hdecoder : decoders e.key decode)
    (hdecode : decode e.value = .ok value) :
    Kept config history decoders (cache.memoize e value) := by
  unfold ReadCache.memoize
  split_ifs with hcurrent
  · have hthere : (cache.entry e.key).isSome := by
      cases hentry : cache.entry e.key with
      | none => simp [hentry] at hcurrent
      | some current => rfl
    refine ⟨h.bytes, h.limits, fun k hk hnot => ?_, h.follows.expirations, h.follows.revisions,
      h.follows.value, fun k r v hk => ?_⟩
    · by_cases hkey : k = e.key
      · exact hkey ▸ hthere
      · exact h.follows.decoded k (by simpa [hkey] using hk) hnot
    · by_cases hkey : k = e.key
      · subst hkey
        obtain ⟨rfl, rfl⟩ : e.revision = r ∧ value = v := by simpa using hk
        exact ⟨decode, hdecoder, hvalue ▸ hdecode⟩
      · exact h.follows.origin k r v (by simpa [hkey] using hk)
  · exact h

/-- The accounts between the steps are those that are promised. -/
lemma Kept.accounted (h : Kept config history decoders cache) : Accounted config decoders cache where
  bytes := h.bytes
  limits := h.limits
  decoded key hk := h.follows.decoded key hk id
  expirations key hk := h.follows.expirations key hk id
  revisions := h.follows.revisions
  served key entry value hentry hdecoded := by
    obtain ⟨decode, hdecoder, hdecode⟩ := h.follows.origin key _ _ hdecoded
    exact ⟨decode, hdecoder, (h.follows.value key entry hentry).symm ▸ hdecode⟩

end Maps

/-! ## Runs -/

/-- The decoders with which the calls of a run read a key. -/
def decodersOf {κ δ : Type*} (acts : List (DecodeAction κ δ)) (key : String) (decode : Decoder δ) : Prop :=
  ∃ c kind, DecodeAction.lookup c kind key decode ∈ acts

/-- The accounts of a write cache. -/
structure WriteCache.Accounted (limits : Limits) (cache : WriteCache) : Prop where
  bytes : cache.Balanced KvEntry.key KvEntry.bytes
  limits : cache.Within limits

section Runs

variable {κ δ : Type*} {config : ReadCacheConfig} {history : String → ℕ → List UInt8}
  {decoders : String → Decoder δ → Prop} {s s' : DecodeState κ δ} {c : κ}

/-- What a call holds: an entry with the bytes of its revision, and a decoder of the run. -/
def CallHolds (history : String → ℕ → List UInt8) (decoders : String → Decoder δ → Prop) :
    DecodeCall δ → Prop
  | .decode _ entry decode | .apply entry decode | .store entry decode =>
    decoders entry.key decode ∧ entry.value = history entry.key entry.revision
  | .source key decode => decoders key decode
  | .idle | .returned _ => True

/-- The invariant of the runs. -/
structure DecodeState.Kept (config : ReadCacheConfig) (history : String → ℕ → List UInt8)
    (decoders : String → Decoder δ → Prop) (s : DecodeState κ δ) : Prop where
  cache : Storefront.Kept config history decoders s.cache
  calls : ∀ c, CallHolds history decoders (s.call c)

/-- The empty cache. -/
lemma DecodeState.Kept.init : ({} : DecodeState κ δ).Kept config history decoders where
  cache := ⟨Ledger.Balanced.empty, Ledger.Within.empty, by simp, by simp, by simp [ReadCache.entry],
    by simp [ReadCache.entry], by simp⟩
  calls _ := trivial

/-- What is known of a call whose phase is known. -/
lemma DecodeState.Kept.of_call (h : s.Kept config history decoders) {call : DecodeCall δ}
    (hc : s.call c = call) : CallHolds history decoders call :=
  hc ▸ h.calls c

/-- A call that has failed holds its decoder if it goes on. -/
lemma callHolds_failed {key : String} {decode : Decoder δ} (h : decoders key decode) (kind : DecodeKind)
    (err : ReadError) : CallHolds history decoders (.failed key decode kind err) := by
  cases kind with
  | decodedValue =>
    cases err with
    | keyNotFound => exact h
    | other => exact trivial
  | decodedCachedValue => exact trivial

/-- A call that has found an entry holds it. -/
lemma callHolds_lookup {cache : ReadCache δ} (hcache : Storefront.Kept config history decoders cache)
    {key : String} {decode : Decoder δ} (h : decoders key decode) (kind : DecodeKind) :
    CallHolds history decoders (DecodeState.lookup cache kind key decode) := by
  unfold DecodeState.lookup
  cases hentry : cache.entry key with
  | none => exact callHolds_failed h kind .keyNotFound
  | some entry =>
    have hkey := ReadCache.entry_key hentry
    have hdecode : CallHolds history decoders (.decode kind entry decode) :=
      ⟨hkey.symm ▸ h, hkey.symm ▸ hcache.follows.value key entry hentry⟩
    cases hdecoded : cache.decoded key with
    | none => exact hdecode
    | some memo =>
      obtain ⟨revision, value⟩ := memo
      dsimp only
      split_ifs
      · exact trivial
      · exact hdecode

variable [DecidableEq κ]

/-- A call moves on, and the cache with it. -/
lemma DecodeState.Kept.move (h : s.Kept config history decoders) {call : DecodeCall δ}
    (hcall : CallHolds history decoders call) {cache : ReadCache δ}
    (hcache : Storefront.Kept config history decoders cache) :
    ({ s.setCall c call with cache := cache } : DecodeState κ δ).Kept config history decoders where
  cache := hcache
  calls d := by
    by_cases hd : d = c
    · subst hd
      simpa [setCall] using hcall
    · simpa [setCall, hd] using h.calls d

/-- Every step keeps the accounts. -/
lemma DecodeState.Kept.step {a : DecodeAction κ δ} (h : s.Kept config history decoders)
    (hdecoders : ∀ c kind key decode, a = .lookup c kind key decode → decoders key decode)
    (hstep : s.step config history a = some s') : s'.Kept config history decoders := by
  have hreturned : ∀ result, CallHolds history decoders (.returned result : DecodeCall δ) :=
    fun _ => trivial
  cases a with
  | apply key revision operation now evicted =>
    obtain ⟨cache, happly, rfl⟩ := Option.map_eq_some_iff.mp hstep
    exact ⟨h.cache.apply rfl happly, h.calls⟩
  | sweepExpired now =>
    cases hstep
    exact ⟨h.cache.sweepExpired now, h.calls⟩
  | refresh key now =>
    simp only [DecodeState.step] at hstep
    split_ifs at hstep with hcond
    cases hstep
    exact ⟨h.cache.refresh hcond.2 _, h.calls⟩
  | lookup c kind key decode =>
    simp only [DecodeState.step] at hstep
    split at hstep
    · cases hstep
      exact h.move (callHolds_lookup h.cache (hdecoders c kind key decode rfl) kind) h.cache
    · cases hstep
  | decode c =>
    simp only [DecodeState.step] at hstep
    split at hstep
    case h_1 kind entry decode hc =>
      obtain ⟨hdecoder, hvalue⟩ := h.of_call hc
      split at hstep
      · cases hstep
        exact h.move (callHolds_failed hdecoder kind _) h.cache
      · next value hdecode =>
        cases hstep
        exact h.move (hreturned _) (h.cache.memoize hvalue hdecoder hdecode)
    case h_2 => cases hstep
  | source c answer =>
    simp only [DecodeState.step] at hstep
    split at hstep
    case h_1 key decode hc =>
      split at hstep
      · cases hstep
        exact h.move (hreturned _) h.cache
      · next revision =>
        cases hstep
        have hholds : CallHolds history decoders (.apply (writtenEntry history key revision .put) decode) :=
          ⟨h.of_call hc, rfl⟩
        exact h.move hholds h.cache
    case h_2 => cases hstep
  | applySource c now evicted =>
    simp only [DecodeState.step] at hstep
    split at hstep
    case h_1 authoritative decode hc =>
      obtain ⟨cache, happly, rfl⟩ := Option.map_eq_some_iff.mp hstep
      have happlying := h.of_call hc
      have hholds : CallHolds history decoders (.store authoritative decode) := happlying
      exact h.move hholds (h.cache.apply hholds.2 happly)
    case h_2 => cases hstep
  | store c =>
    simp only [DecodeState.step] at hstep
    split at hstep
    case h_1 authoritative decode hc =>
      obtain ⟨hdecoder, hvalue⟩ := h.of_call hc
      split at hstep
      · cases hstep
        exact h.move (hreturned _) h.cache
      · next value hdecode =>
        cases hstep
        exact h.move (hreturned _) (h.cache.memoize hvalue hdecoder hdecode)
    case h_2 => cases hstep

/-- The accounts are right after every run. -/
lemma accounted_of_run {acts : List (DecodeAction κ δ)}
    (hrun : run (DecodeState.step config history) {} acts = some s) :
    Accounted config (decodersOf acts) s.cache := by
  have hkept : s.Kept config history (decodersOf acts) :=
    run_invariant
      (P := fun _ a => ∀ c kind key decode, a = .lookup c kind key decode → decodersOf acts key decode)
      (fun s a s' hs ha hstep => hs.step ha hstep) DecodeState.Kept.init
      (Along.of_forall (fun a ha _ c kind key decode heq => ⟨c, kind, heq ▸ ha⟩) _) hrun
  exact hkept.cache.accounted

end Runs

/-- Every step of the write cache keeps its accounts. -/
lemma WriteCache.Accounted.step {limits : Limits} {cache cache' : WriteCache} {a : WriteCacheStep}
    (h : cache.Accounted limits) (hstep : cache.step limits a = some cache') :
    cache'.Accounted limits := by
  cases a with
  | store entry evicted =>
    obtain ⟨room, hroom, rfl⟩ := Option.map_eq_some_iff.mp hstep
    obtain ⟨hbytes, hlimits⟩ := Ledger.makeRoom_add (h.bytes.drop entry.key)
      (Ledger.drop_not_mem cache entry.key) hroom
    exact ⟨hbytes, hlimits⟩
  | invalidate key =>
    cases hstep
    exact ⟨h.bytes.drop key, h.limits.drop h.bytes key⟩

/-- After every run the accounts of both caches are right; and their loops come to an end in every state,
whatever they evict, and do not get stuck. -/
theorem cache_accounts {κ δ : Type*} [DecidableEq κ] (config : ReadCacheConfig) (limits : Limits)
    (history : String → ℕ → List UInt8) :
    (∀ (acts : List (DecodeAction κ δ)) (s : DecodeState κ δ),
      run (DecodeState.step config history) {} acts = some s →
        Accounted config (decodersOf acts) s.cache) ∧
    (∀ (steps : List WriteCacheStep) (cache : WriteCache),
      run (WriteCache.step limits) {} steps = some cache → cache.Accounted limits) ∧
    ∀ entryBytes : ℕ,
      (WellFounded fun cache' cache : ReadCache δ => EvictsEntry config entryBytes cache cache') ∧
      (∀ cache : ReadCache δ, cache.full config entryBytes = true →
        ∃ cache', EvictsEntry config entryBytes cache cache') ∧
      (WellFounded fun cache' cache : WriteCache =>
        cache.Evicts KvEntry.key KvEntry.bytes limits entryBytes cache') ∧
      ∀ cache : WriteCache, cache.full limits entryBytes = true →
        ∃ cache' : WriteCache, cache.Evicts KvEntry.key KvEntry.bytes limits entryBytes cache' := by
  refine ⟨fun acts s hrun => accounted_of_run hrun, fun steps cache hrun => ?_, fun entryBytes =>
    ⟨evictsEntry_wellFounded config entryBytes, fun cache hfull => exists_evictsEntry hfull,
      Ledger.evicts_wellFounded _ _ limits entryBytes, fun cache hfull => Ledger.exists_evicts hfull⟩⟩
  exact run_invariant_of_step (fun cache a cache' h hstep => h.step hstep)
    ⟨Ledger.Balanced.empty, Ledger.Within.empty⟩ hrun

/-! ## A cache of one entry -/

/-- The values of a bucket: the revision as a byte. -/
def sampleHistory (_ : String) (revision : ℕ) : List UInt8 := [UInt8.ofNat revision]

/-- The number of bytes. -/
def sampleDecoder : Decoder ℕ := fun bytes => .ok bytes.length

/-- An entry is decoded, evicted while it is decoded once more, and read again from the bucket. -/
def sampleDecodes : List (DecodeAction ℕ ℕ) :=
  [.apply "k" 1 .put 0 [], .lookup 0 .decodedValue "k" sampleDecoder, .decode 0,
    .apply "k" 2 .put 0 [], .lookup 1 .decodedCachedValue "k" sampleDecoder,
    .apply "j" 3 .put 0 ["k"], .decode 1, .lookup 2 .decodedValue "k" sampleDecoder, .source 2 (.ok 2),
    .applySource 2 0 ["j"], .store 2, .apply "j" 4 .delete 0 [], .sweepExpired 0]

/-- An entry evicts another one. -/
def sampleStores : List WriteCacheStep :=
  [.store ⟨"k", [1, 2], 1, .put⟩ [], .store ⟨"j", [3], 2, .put⟩ ["k"], .invalidate "k"]

/-- One entry is left, with its decoded value; and a write cache has replaced one entry by another. -/
theorem cache_accounts_one_entry :
    (∃ s : DecodeState ℕ ℕ,
      run (DecodeState.step sampleReadConfig sampleHistory) {} sampleDecodes = some s ∧
      s.cache.bytes = 2 ∧ s.cache.decoded "k" = some (2, 1) ∧
      Accounted sampleReadConfig (decodersOf sampleDecodes) s.cache) ∧
    ∃ cache : WriteCache,
      run (WriteCache.step ⟨1, 0⟩) {} sampleStores = some cache ∧ cache.total = 2 ∧
        cache.Accounted ⟨1, 0⟩ := by
  have haccounts := cache_accounts (κ := ℕ) (δ := ℕ) sampleReadConfig ⟨1, 0⟩ sampleHistory
  exact ⟨⟨_, rfl, rfl, rfl, haccounts.1 sampleDecodes _ rfl⟩, ⟨_, rfl, rfl, haccounts.2.1 sampleStores _ rfl⟩⟩

end Boutique.Storefront
