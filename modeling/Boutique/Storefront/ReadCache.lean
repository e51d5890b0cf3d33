import Boutique.Common.Message
import Boutique.Lib.Run

/-!
# The read cache of the storefront projection

`projectionReadCache` of `storefrontprojectionservice/query_cache.go` mirrors a key-value bucket.  A
watch delivers the writes to the bucket in order, and a read that misses goes to the bucket and then
applies what it read.  The cache forgets keys when it is full and when they expire.

The steps of the system are the critical sections of the code: a delivery, and for a read its lookup,
its read of the bucket, `apply` and the second lookup.  Which entries the loop of `apply` evicts is a
choice of the step, as is every time.
-/

namespace Boutique

/-- `nats.KeyValueOp`. -/
inductive KvOp where
  | put | delete | purge
  deriving DecidableEq

/-- `nats.KeyValueEntry`, as far as the cache reads it. -/
structure KvEntry where
  key : String
  value : List UInt8
  revision : ℕ
  operation : KvOp
  deriving DecidableEq

/-- `projectionCacheEntryBytes`. -/
def KvEntry.bytes (entry : KvEntry) : ℕ := entry.key.utf8ByteSize + entry.value.length

/-- The limits of a cache; a limit of `0` is none, and `expiresAt` is used without an idle time. -/
structure ReadCacheConfig where
  maxEntries : ℕ
  maxBytes : ℕ
  idleTTL : Duration
  expiresAt : Option (List UInt8 → Time)

/-- `projectionReadCache`, with the decoded value of an entry in a type of the caller. -/
structure ReadCache (δ : Type*) where
  entries : List KvEntry := []
  revisions : String → Option ℕ := fun _ => none
  decoded : String → Option (ℕ × δ) := fun _ => none
  expirations : String → Option ℤ := fun _ => none
  bytes : ℤ := 0

namespace ReadCache

variable {δ : Type*}

/-- `entries[key]`. -/
def entry (cache : ReadCache δ) (key : String) : Option KvEntry :=
  cache.entries.find? fun e => e.key = key

/-- The bytes of `entries[key]`. -/
def entryBytes (cache : ReadCache δ) (key : String) : ℕ := ((cache.entry key).map KvEntry.bytes).getD 0

/-- `delete(entries, key)` with its bytes. -/
def drop (cache : ReadCache δ) (key : String) : ReadCache δ :=
  { cache with entries := cache.entries.filter fun e => e.key ≠ key
               bytes := cache.bytes - cache.entryBytes key }

/-- An entry is evicted by the loop of `apply`. -/
def evict (cache : ReadCache δ) (key : String) : ReadCache δ :=
  { cache.drop key with revisions := Function.update cache.revisions key none
                        decoded := Function.update cache.decoded key none
                        expirations := Function.update cache.expirations key none }

/-- The condition of the loop of `apply`. -/
def full (config : ReadCacheConfig) (cache : ReadCache δ) (entryBytes : ℕ) : Bool :=
  0 < cache.entries.length &&
    ((0 < config.maxEntries && config.maxEntries ≤ cache.entries.length) ||
      (0 < config.maxBytes && (config.maxBytes : ℤ) < cache.bytes + entryBytes))

/-- The loop of `apply` with the keys it picks, or `none` when it cannot pick them. -/
def evictLoop (config : ReadCacheConfig) (entryBytes : ℕ) :
    ReadCache δ → List String → Option (ReadCache δ)
  | cache, [] => if cache.full config entryBytes then none else some cache
  | cache, key :: keys =>
    if cache.full config entryBytes ∧ (cache.entry key).isSome then
      evictLoop config entryBytes (cache.evict key) keys
    else none

/-- The expiration of an entry that is applied at a time, in nanoseconds after the Unix epoch. -/
def deadline (config : ReadCacheConfig) (entry : KvEntry) (now : Time) : Option ℤ :=
  let deadline : Time :=
    if 0 < config.idleTTL.nanos then now + config.idleTTL.nanos
    else
      match config.expiresAt with
      | some expiresAt => expiresAt entry.value
      | none => .zero
  if deadline = .zero then none else some (deadline - unixEpoch)

/-- `apply` at a time, with the keys that its loop evicts. -/
def apply (config : ReadCacheConfig) (cache : ReadCache δ) (entry : KvEntry) (now : Time)
    (evicted : List String) : Option (ReadCache δ) :=
  if (cache.revisions entry.key).any fun revision => entry.revision ≤ revision then
    if evicted = [] then some cache else none
  else
    let cache := { cache with
      revisions := Function.update cache.revisions entry.key (some entry.revision) }
    if entry.operation = .delete ∨ entry.operation = .purge then
      if evicted = [] then
        some { cache.drop entry.key with
               decoded := Function.update cache.decoded entry.key none
               expirations := Function.update cache.expirations entry.key none }
      else none
    else
      (evictLoop config entry.bytes (cache.drop entry.key) evicted).map fun cache =>
        { cache with
          entries := cache.entries ++ [entry]
          bytes := cache.bytes + entry.bytes
          decoded := Function.update cache.decoded entry.key none
          expirations := Function.update cache.expirations entry.key (deadline config entry now) }

/-- The key expires in a sweep at a time. -/
def expired (cache : ReadCache δ) (now : Time) (key : String) : Bool :=
  (cache.expirations key).any fun deadline => deadline ≠ 0 ∧ deadline ≤ now - unixEpoch

/-- `sweepExpired`. -/
def sweepExpired (cache : ReadCache δ) (now : Time) : ReadCache δ where
  entries := cache.entries.filter fun e => !cache.expired now e.key
  revisions := fun key => if cache.expired now key then none else cache.revisions key
  decoded := fun key => if cache.expired now key then none else cache.decoded key
  expirations := fun key => if cache.expired now key then none else cache.expirations key
  bytes := cache.bytes -
    ((cache.entries.filter fun e => cache.expired now e.key).map fun e => (e.bytes : ℤ)).sum

/-- The decoded value of an entry is kept if the entry is still there. -/
def memoize (cache : ReadCache δ) (entry : KvEntry) (value : δ) : ReadCache δ :=
  if (cache.entry entry.key).any fun current => current.revision = entry.revision then
    { cache with decoded := Function.update cache.decoded entry.key (some (entry.revision, value)) }
  else cache

end ReadCache

/-! ## Reads -/

/-- The two ways to read. -/
inductive ReadKind where
  | get | decodedValue
  deriving DecidableEq

/-- What a read returns. -/
inductive ReadResult (δ : Type*) where
  | entry (entry : KvEntry)
  | decoded (value : δ) (revision : ℕ)
  | error

/-- The revision that a read returns. -/
def ReadResult.revision {δ : Type*} : ReadResult δ → Option ℕ
  | .entry e => some e.revision
  | .decoded _ revision => some revision
  | .error => none

/-- Where a read is.  In `apply` it carries the entry that it read from the bucket. -/
inductive ReadPhase (δ : Type*) where
  | idle
  | lookup (kind : ReadKind) (key : String)
  | decode (entry : KvEntry)
  | source (kind : ReadKind) (key : String)
  | apply (kind : ReadKind) (entry : KvEntry)
  | reread (key : String)
  | memoize (entry : KvEntry)
  | returned (key : String) (result : ReadResult δ)

/-- The bucket, the writes that the watch has yet to deliver, the cache and the reads. -/
structure ReadState (κ δ : Type*) where
  sequence : ℕ := 0
  bucket : String → Option KvEntry := fun _ => none
  pending : List KvEntry := []
  cache : ReadCache δ := {}
  phase : κ → ReadPhase δ := fun _ => .idle

/-- The steps.  The watch may leave out a write that another has replaced. -/
inductive ReadAction (κ : Type*) where
  | write (key : String) (operation : KvOp) (value : List UInt8)
  | deliver (now : Time) (evicted : List String)
  | skip
  | sweep (now : Time)
  | refresh (key : String) (now : Time)
  | start (c : κ) (kind : ReadKind) (key : String)
  | lookup (c : κ) | decode (c : κ) | source (c : κ)
  | apply (c : κ) (now : Time) (evicted : List String)
  | reread (c : κ) | memoize (c : κ)

section Steps

variable {κ δ : Type*} [DecidableEq κ] (config : ReadCacheConfig)
  (decode : List UInt8 → Option δ)

/-- The state with another phase of a read. -/
def ReadState.setPhase (s : ReadState κ δ) (c : κ) (phase : ReadPhase δ) : ReadState κ δ :=
  { s with phase := Function.update s.phase c phase }

/-- The first part of `Get` and `decodedCachedValue`. -/
def ReadState.lookup (s : ReadState κ δ) (kind : ReadKind) (key : String) : ReadPhase δ :=
  match s.cache.entry key, kind with
  | none, _ => .source kind key
  | some entry, .get => .returned key (.entry entry)
  | some entry, .decodedValue =>
    match s.cache.decoded key with
    | some (revision, value) =>
      if revision = entry.revision then .returned key (.decoded value entry.revision)
      else .decode entry
    | none => .decode entry

/-- One step. -/
def ReadState.step (s : ReadState κ δ) : ReadAction κ → Option (ReadState κ δ)
  | .write key operation value =>
    let entry : KvEntry :=
      { key := key, value := value, revision := s.sequence + 1, operation := operation }
    some { s with sequence := s.sequence + 1
                  bucket := Function.update s.bucket key (some entry)
                  pending := s.pending ++ [entry] }
  | .deliver now evicted =>
    match s.pending with
    | [] => none
    | entry :: rest =>
      (s.cache.apply config entry now evicted).map fun cache =>
        { s with pending := rest, cache := cache }
  | .skip =>
    match s.pending with
    | [] => none
    | entry :: rest =>
      if s.bucket entry.key = some entry then none else some { s with pending := rest }
  | .sweep now => some { s with cache := s.cache.sweepExpired now }
  | .refresh key now =>
    -- a hit moves the expiration, which is still in the map or without effect
    if 0 < config.idleTTL.nanos ∧ (s.cache.expirations key).isSome then
      some { s with cache := { s.cache with
        expirations := Function.update s.cache.expirations key
          (some (now + config.idleTTL.nanos - unixEpoch)) } }
    else none
  | .start c kind key =>
    match s.phase c with
    | .idle => some (s.setPhase c (.lookup kind key))
    | _ => none
  | .lookup c =>
    match s.phase c with
    | .lookup kind key => some (s.setPhase c (s.lookup kind key))
    | _ => none
  | .decode c =>
    match s.phase c with
    | .decode entry =>
      match decode entry.value with
      | none => some (s.setPhase c (.returned entry.key .error))
      | some value =>
        some { s.setPhase c (.returned entry.key (.decoded value entry.revision)) with
               cache := s.cache.memoize entry value }
    | _ => none
  | .source c =>
    match s.phase c with
    | .source kind key =>
      match s.bucket key with
      | some entry =>
        if entry.operation = .put then some (s.setPhase c (.apply kind entry))
        else some (s.setPhase c (.returned key .error))
      | none => some (s.setPhase c (.returned key .error))
    | _ => none
  | .apply c now evicted =>
    match s.phase c with
    | .apply kind entry =>
      (s.cache.apply config entry now evicted).map fun cache =>
        { s.setPhase c (match kind with
                        | .get => .reread entry.key
                        | .decodedValue => .memoize entry) with cache := cache }
    | _ => none
  | .reread c =>
    match s.phase c with
    | .reread key =>
      match s.cache.entry key with
      | some entry => some (s.setPhase c (.returned key (.entry entry)))
      | none => some (s.setPhase c (.returned key .error))
    | _ => none
  | .memoize c =>
    match s.phase c with
    | .memoize entry =>
      match decode entry.value with
      | none => some (s.setPhase c (.returned entry.key .error))
      | some value =>
        some { s.setPhase c (.returned entry.key (.decoded value entry.revision)) with
               cache := s.cache.memoize entry value }
    | _ => none

end Steps

end Boutique
