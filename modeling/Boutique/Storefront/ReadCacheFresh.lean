import Boutique.Storefront.ReadCache

/-!
# When the read cache goes back to an older revision

The cache refuses an entry whose revision is not larger than the last it applied for the key.  This
guard is deleted with the entry when the key is evicted or expires.  A read that took an older entry
from the bucket before, or an older write that the watch has yet to deliver, is then applied.  As
long as no key is forgotten while something older is under way, the revisions of a key never decrease.
-/

namespace Boutique

namespace ReadCache

variable {δ : Type*} {cache cache' : ReadCache δ} {config : ReadCacheConfig} {e : KvEntry}
  {k key : String}

/-! ## The operations on one key -/

/-- An entry has the key under which it is found. -/
lemma entry_key (h : cache.entry key = some e) : e.key = key := by
  simpa using List.find?_some h

/-- The entry that `drop` removes is gone. -/
lemma drop_entry_self (cache : ReadCache δ) (key : String) : (cache.drop key).entry key = none := by
  simp [entry, drop]

/-- The other entries stay. -/
lemma drop_entry_ne (cache : ReadCache δ) (hk : k ≠ key) :
    (cache.drop key).entry k = cache.entry k := by
  simp only [entry, drop, List.find?_filter]
  congr 1
  funext e
  by_cases he : e.key = k
  · simp [he, hk]
  · simp [he]

/-- What is found after `drop` was found before, under another key. -/
lemma drop_entry (cache : ReadCache δ) (h : (cache.drop key).entry k = some e) :
    k ≠ key ∧ cache.entry k = some e := by
  by_cases hk : k = key
  · subst hk
    rw [drop_entry_self] at h
    cases h
  · rw [drop_entry_ne cache hk] at h
    exact ⟨hk, h⟩

/-- The loop of `apply` forgets the keys it picks, and nothing else. -/
lemma evictLoop_spec {entryBytes : ℕ} {evicted : List String}
    (h : evictLoop config entryBytes cache evicted = some cache') :
    (∀ k, cache'.revisions k = if k ∈ evicted then none else cache.revisions k) ∧
      (∀ k e, cache'.entry k = some e → k ∉ evicted ∧ cache.entry k = some e) ∧
      ∀ k ∈ evicted, (cache.entry k).isSome := by
  induction evicted generalizing cache with
  | nil =>
    simp only [evictLoop] at h
    split_ifs at h
    cases h
    simp
  | cons key evicted ih =>
    simp only [evictLoop] at h
    split_ifs at h with hcond
    obtain ⟨hrevisions, hentries, hpicked⟩ := ih h
    have hdropped : ∀ k e, (cache.evict key).entry k = some e → k ≠ key ∧ cache.entry k = some e :=
      fun k e he => drop_entry cache he
    refine ⟨fun k => ?_, fun k e he => ?_, fun k hk => ?_⟩
    · rw [hrevisions k]
      by_cases hk : k = key
      · simp [evict, hk]
      · simp [evict, hk]
    · obtain ⟨hnot, he⟩ := hentries k e he
      obtain ⟨hne, he⟩ := hdropped k e he
      exact ⟨by simp [hne, hnot], he⟩
    · rcases List.mem_cons.mp hk with rfl | hk
      · exact hcond.2
      · obtain ⟨e, he⟩ := Option.isSome_iff_exists.mp (hpicked k hk)
        rw [(hdropped k e he).2]
        rfl

/-- What `apply` does with an entry that it does not refuse. -/
structure Applied (cache cache' : ReadCache δ) (entry : KvEntry) (evicted : List String) :
    Prop where
  newer : ∀ r, cache.revisions entry.key = some r → r < entry.revision
  self : cache'.revisions entry.key = some entry.revision
  others : ∀ k, k ≠ entry.key →
    cache'.revisions k = if k ∈ evicted then none else cache.revisions k
  entry_self : ∀ e, cache'.entry entry.key = some e → e = entry
  entry_other : ∀ k e, k ≠ entry.key → cache'.entry k = some e →
    k ∉ evicted ∧ cache.entry k = some e

/-- `apply` refuses an entry that is not newer, and applies every other. -/
lemma apply_cases {entry : KvEntry} {now : Time} {evicted : List String}
    (h : cache.apply config entry now evicted = some cache') :
    (cache' = cache ∧ ∃ r, cache.revisions entry.key = some r ∧ entry.revision ≤ r) ∨
      Applied cache cache' entry evicted := by
  unfold apply at h
  split_ifs at h with hguard hempty hdelete hnone
  · cases h
    cases hr : cache.revisions entry.key with
    | none =>
      rw [hr] at hguard
      cases hguard
    | some r =>
      rw [hr, Option.any_some, decide_eq_true_eq] at hguard
      exact .inl ⟨rfl, r, rfl, hguard⟩
  all_goals
    have hnewer : ∀ r, cache.revisions entry.key = some r → r < entry.revision := by
      intro r hr
      rw [hr, Option.any_some, decide_eq_true_eq, not_le] at hguard
      exact hguard
  · cases h
    subst hnone
    refine .inr ⟨hnewer, by simp [drop], fun k hk => by simp [drop, hk], fun e he => ?_,
      fun k e hk he => ⟨by simp, ?_⟩⟩
    · exact absurd rfl (drop_entry cache he).1
    · exact (drop_entry cache he).2
  · obtain ⟨looped, hloop, rfl⟩ := Option.map_eq_some_iff.mp h
    obtain ⟨hrevisions, hentries, hpicked⟩ := evictLoop_spec hloop
    have hself : entry.key ∉ evicted := by
      intro hmem
      have hsome := hpicked _ hmem
      rw [drop_entry_self] at hsome
      cases hsome
    have hfound : ∀ k e, looped.entry k = some e → k ≠ entry.key ∧ cache.entry k = some e :=
      fun k e he => drop_entry _ (hentries k e he).2
    have happend : ∀ k, (looped.entries ++ [entry]).find? (fun x => decide (x.key = k)) =
        (looped.entry k).or (if entry.key = k then some entry else none) := by
      intro k
      rw [List.find?_append]
      by_cases hk : entry.key = k
      · simp [ReadCache.entry, hk]
      · simp [ReadCache.entry, hk]
    refine .inr ⟨hnewer, ?_, fun k hk => ?_, fun e he => ?_, fun k e hk he => ?_⟩
    · change looped.revisions entry.key = _
      rw [hrevisions, if_neg hself]
      simp [drop]
    · change looped.revisions k = _
      rw [hrevisions]
      simp [drop, hk]
    · change (looped.entries ++ [entry]).find? _ = some e at he
      rw [happend, if_pos rfl] at he
      cases hl : looped.entry entry.key with
      | none =>
        rw [hl] at he
        exact (Option.some.inj he).symm
      | some found => exact absurd rfl (hfound _ found hl).1
    · change (looped.entries ++ [entry]).find? _ = some e at he
      rw [happend, if_neg (fun heq => hk heq.symm), Option.or_none] at he
      exact ⟨(hentries k e he).1, (hfound k e he).2⟩

/-- A sweep forgets the expired keys. -/
lemma sweepExpired_entry {now : Time} (h : (cache.sweepExpired now).entry k = some e) :
    cache.expired now k = false ∧ cache.entry k = some e := by
  have hkey := entry_key h
  simp only [entry, sweepExpired, List.find?_filter] at h
  have hexpired : cache.expired now k = false := by
    have hsome := List.find?_some h
    simp only [Bool.not_eq_true', decide_eq_true_eq] at hsome
    rw [← hkey]
    exact hsome.1
  refine ⟨hexpired, ?_⟩
  rw [entry, ← h]
  congr 1
  funext x
  by_cases hx : x.key = k
  · simp [hx, hexpired]
  · simp [hx]

end ReadCache

/-! ## Conditions -/

section Conditions

variable {κ δ : Type*}

/-- Nothing that is under way for the key is older than what the cache has applied: neither a write
that the watch has yet to deliver, nor an entry that a read took from the bucket. -/
def ReadState.Unread (s : ReadState κ δ) (key : String) : Prop :=
  ∀ r, s.cache.revisions key = some r →
    (∀ e ∈ s.pending, e.key = key → r ≤ e.revision) ∧
      ∀ c kind e, s.phase c = .apply kind e → e.key = key → r ≤ e.revision

/-- The step makes the cache forget the key. -/
def ReadAction.Forgets (s : ReadState κ δ) (key : String) : ReadAction κ → Prop
  | .deliver _ evicted | .apply _ _ evicted => key ∈ evicted
  | .sweep now => s.cache.expired now key = true
  | _ => False

/-- The step forgets only keys for which nothing older is under way. -/
def ReadState.ForgetsSafely (s : ReadState κ δ) (a : ReadAction κ) : Prop :=
  ∀ key, a.Forgets s key → s.Unread key

end Conditions

/-! ## The invariant -/

section Invariant

variable {κ δ : Type*}

/-- The entry is no newer than the bucket, and no older than what the cache has applied for its key,
unless the cache would refuse it. -/
structure ReadState.Carried (s : ReadState κ δ) (h : String → ℕ) (e : KvEntry) : Prop where
  bucket : ∃ b, s.bucket e.key = some b ∧ e.revision ≤ b.revision
  unguarded : s.cache.revisions e.key = none → h e.key ≤ e.revision

/-- What the phase of a read says, if `h` bounds the revisions applied so far. -/
def ReadState.PhaseOk (s : ReadState κ δ) (h : String → ℕ) : ReadPhase δ → Prop
  | .decode e | .memoize e => e.revision ≤ h e.key
  | .apply _ e => s.Carried h e
  | .returned key result => ∀ r, result.revision = some r → r ≤ h key
  | _ => True

/-- The largest revision that was applied for each key is `h`. -/
structure ReadState.Inv (s : ReadState κ δ) (h : String → ℕ) : Prop where
  guard : ∀ key r, s.cache.revisions key = some r → r = h key
  entry : ∀ key e, s.cache.entry key = some e → s.cache.revisions key = some e.revision
  absent : ∀ key, s.bucket key = none → h key = 0 ∧ s.cache.revisions key = none
  bucket : ∀ key b, s.bucket key = some b → b.key = key ∧ b.revision ≤ s.sequence ∧
    h key ≤ b.revision ∧ (b ∈ s.pending ∨ b.revision ≤ h key)
  pending : ∀ e ∈ s.pending, s.Carried h e
  phases : ∀ c, s.PhaseOk h (s.phase c)

variable {s s' : ReadState κ δ} {h h' : String → ℕ} {c : κ} {e : KvEntry}

/-- The empty cache. -/
lemma ReadState.Inv.init : ({} : ReadState κ δ).Inv (fun _ => 0) where
  guard := by simp
  entry := by simp [ReadCache.entry]
  absent := by simp
  bucket := by simp
  pending := by simp
  phases := fun _ => trivial

/-- What is known of a read whose phase is known. -/
lemma ReadState.Inv.of_phase (hinv : s.Inv h) {p : ReadPhase δ} (hc : s.phase c = p) :
    s.PhaseOk h p :=
  hc ▸ hinv.phases c

/-- A larger bound and another guard for the same bucket. -/
lemma ReadState.PhaseOk.mono {p : ReadPhase δ} (hp : s.PhaseOk h p) (hle : ∀ k, h k ≤ h' k)
    (hcarried : ∀ kind e, p = .apply kind e → s.Carried h e → s'.Carried h' e) :
    s'.PhaseOk h' p := by
  cases p with
  | decode e => exact le_trans hp (hle _)
  | memoize e => exact le_trans hp (hle _)
  | apply kind e => exact hcarried kind e rfl hp
  | returned key result => exact fun r hr => le_trans (hp r hr) (hle key)
  | idle | lookup | source | reread => trivial

/-- A read moves on. -/
lemma ReadState.Inv.setPhase [DecidableEq κ] (hinv : s.Inv h) {p : ReadPhase δ}
    (hp : s.PhaseOk h p) : (s.setPhase c p).Inv h where
  guard := hinv.guard
  entry := hinv.entry
  absent := hinv.absent
  bucket := hinv.bucket
  pending := fun e he => ⟨(hinv.pending e he).bucket, (hinv.pending e he).unguarded⟩
  phases := by
    intro d
    have hd : s.PhaseOk h ((s.setPhase c p).phase d) := by
      by_cases hdc : d = c
      · subst hdc
        change s.PhaseOk h (Function.update s.phase d p d)
        rw [Function.update_self]
        exact hp
      · change s.PhaseOk h (Function.update s.phase c p d)
        rw [Function.update_of_ne hdc]
        exact hinv.phases d
    exact hd.mono (fun _ => le_rfl) fun kind e _ he => ⟨he.bucket, he.unguarded⟩

/-- A change of the cache that keeps entries and guards. -/
lemma ReadState.Inv.withCache (hinv : s.Inv h) {cache : ReadCache δ}
    (hrevisions : cache.revisions = s.cache.revisions) (hentries : cache.entries = s.cache.entries) :
    ({ s with cache := cache } : ReadState κ δ).Inv h := by
  have hcarried : ∀ e, s.Carried h e → ({ s with cache := cache } : ReadState κ δ).Carried h e :=
    fun e he => ⟨he.bucket, fun hnone => he.unguarded (hrevisions ▸ hnone)⟩
  have hentry : ∀ key, cache.entry key = s.cache.entry key := by
    intro key
    rw [ReadCache.entry, ReadCache.entry, hentries]
  refine ⟨?_, ?_, ?_, hinv.bucket, fun e he => hcarried e (hinv.pending e he),
    fun c => (hinv.phases c).mono (fun _ => le_rfl) fun kind e _ he => hcarried e he⟩
  · intro key r hr
    exact hinv.guard key r (hrevisions ▸ hr)
  · intro key e he
    change cache.revisions key = _
    rw [hrevisions]
    exact hinv.entry key e ((hentry key).symm.trans he)
  · intro key hkey
    change h key = 0 ∧ cache.revisions key = none
    rw [hrevisions]
    exact hinv.absent key hkey

/-- The first write of the watch is gone, by delivery or because another has replaced it. -/
lemma ReadState.Inv.tail (hinv : s.Inv h) {rest : List KvEntry} (hpending : s.pending = e :: rest)
    (he : s.bucket e.key = some e → e.revision ≤ h e.key) :
    ({ s with pending := rest } : ReadState κ δ).Inv h := by
  refine ⟨hinv.guard, hinv.entry, hinv.absent, fun key b hb => ?_, fun x hx => ?_,
    fun c => (hinv.phases c).mono (fun _ => le_rfl) fun kind e _ he => ⟨he.bucket, he.unguarded⟩⟩
  · obtain ⟨hkey, hsequence, hle, hpend⟩ := hinv.bucket key b hb
    refine ⟨hkey, hsequence, hle, ?_⟩
    rw [hpending, List.mem_cons] at hpend
    rcases hpend with (rfl | hmem) | hdone
    · subst hkey
      exact .inr (he hb)
    · exact .inl hmem
    · exact .inr hdone
  · have hx := hinv.pending x (hpending ▸ List.mem_cons_of_mem e hx)
    exact ⟨hx.bucket, hx.unguarded⟩

/-- What is under way stays acceptable when keys are forgotten safely. -/
lemma ReadState.Inv.forget (hinv : s.Inv h) (cache : ReadCache δ) (h' : String → ℕ)
    {forgotten : String → Prop} (hsafe : ∀ key, forgotten key → s.Unread key)
    (hforget : ∀ key, cache.revisions key = none → s.cache.revisions key = none ∨ forgotten key)
    (hle : ∀ key, cache.revisions key = none → h' key = h key) :
    (∀ e ∈ s.pending, ({ s with cache := cache } : ReadState κ δ).Carried h' e) ∧
      ∀ c kind e, s.phase c = .apply kind e →
        ({ s with cache := cache } : ReadState κ δ).Carried h' e := by
  refine ⟨fun e he => ⟨(hinv.pending e he).bucket, fun hnone => ?_⟩, fun c kind e hc => ?_⟩
  · change cache.revisions e.key = none at hnone
    rw [hle _ hnone]
    cases hr : s.cache.revisions e.key with
    | none => exact (hinv.pending e he).unguarded hr
    | some r =>
      rcases hforget _ hnone with hold | hforgotten
      · rw [hr] at hold
        cases hold
      · rw [← hinv.guard _ r hr]
        exact (hsafe _ hforgotten r hr).1 e he rfl
  · have hphase : s.Carried h e := hinv.of_phase hc
    refine ⟨hphase.bucket, fun hnone => ?_⟩
    change cache.revisions e.key = none at hnone
    rw [hle _ hnone]
    cases hr : s.cache.revisions e.key with
    | none => exact hphase.unguarded hr
    | some r =>
      rcases hforget _ hnone with hold | hforgotten
      · rw [hr] at hold
        cases hold
      · rw [← hinv.guard _ r hr]
        exact (hsafe _ hforgotten r hr).2 c kind e hc rfl

/-- An entry is applied. -/
lemma ReadState.Inv.applied (hinv : s.Inv h) {config : ReadCacheConfig} {cache : ReadCache δ}
    {now : Time} {evicted : List String} (he : s.Carried h e)
    (happly : s.cache.apply config e now evicted = some cache)
    (hsafe : ∀ key ∈ evicted, s.Unread key) :
    ∃ h' : String → ℕ, (∀ k, h k ≤ h' k) ∧ e.revision ≤ h' e.key ∧
      ({ s with cache := cache } : ReadState κ δ).Inv h' := by
  rcases ReadCache.apply_cases happly with ⟨rfl, r, hr, hle⟩ | happlied
  · exact ⟨h, fun _ => le_rfl, hinv.guard _ r hr ▸ hle, hinv⟩
  have hgrow : h e.key ≤ e.revision := by
    cases hr : s.cache.revisions e.key with
    | none => exact he.unguarded hr
    | some r => exact hinv.guard _ r hr ▸ (happlied.newer r hr).le
  have hself : Function.update h e.key e.revision e.key = e.revision := Function.update_self ..
  have hother : ∀ k, k ≠ e.key → Function.update h e.key e.revision k = h k :=
    fun k hk => Function.update_of_ne hk ..
  have hmono : ∀ k, h k ≤ Function.update h e.key e.revision k := by
    intro k
    by_cases hk : k = e.key
    · rw [hk, hself]
      exact hgrow
    · exact (hother k hk).ge
  have hne : ∀ k, cache.revisions k = none → k ≠ e.key := by
    rintro k hnone rfl
    rw [happlied.self] at hnone
    cases hnone
  obtain ⟨hpending, hphases⟩ := hinv.forget cache (Function.update h e.key e.revision) hsafe
    (fun k hnone => by
      have hk := happlied.others k (hne k hnone)
      rw [hnone] at hk
      by_cases hmem : k ∈ evicted
      · exact .inr hmem
      · rw [if_neg hmem] at hk
        exact .inl hk.symm)
    (fun k hnone => hother k (hne k hnone))
  refine ⟨_, hmono, hself.ge, ⟨fun key r hr => ?_, fun key x hx => ?_, fun key hkey => ?_,
    fun key b hb => ?_, hpending, fun c => (hinv.phases c).mono hmono fun kind x hx _ =>
      hphases c kind x hx⟩⟩
  · change cache.revisions key = some r at hr
    by_cases hk : key = e.key
    · subst hk
      rw [happlied.self] at hr
      rw [hself]
      exact (Option.some.inj hr).symm
    · rw [happlied.others key hk] at hr
      split_ifs at hr
      rw [hother key hk]
      exact hinv.guard key r hr
  · change cache.entry key = some x at hx
    change cache.revisions key = some x.revision
    by_cases hk : key = e.key
    · subst hk
      rw [happlied.entry_self x hx]
      exact happlied.self
    · obtain ⟨hnot, hx⟩ := happlied.entry_other key x hk hx
      rw [happlied.others key hk, if_neg hnot]
      exact hinv.entry key x hx
  · obtain ⟨b, hb, -⟩ := he.bucket
    have hk : key ≠ e.key := by
      rintro rfl
      rw [hb] at hkey
      cases hkey
    obtain ⟨hzero, hnone⟩ := hinv.absent key hkey
    refine ⟨(hother key hk).trans hzero, ?_⟩
    change cache.revisions key = none
    rw [happlied.others key hk, hnone, ite_self]
  · obtain ⟨hkey, hsequence, hle, hpend⟩ := hinv.bucket key b hb
    refine ⟨hkey, hsequence, ?_, hpend.imp_right fun hdone => hdone.trans (hmono key)⟩
    by_cases hk : key = e.key
    · obtain ⟨b', hb', hle'⟩ := he.bucket
      rw [← hk, show s.bucket key = some b from hb] at hb'
      cases hb'
      rw [hk, hself]
      exact hle'
    · rw [hother key hk]
      exact hle

/-- A sweep. -/
lemma ReadState.Inv.swept (hinv : s.Inv h) {now : Time}
    (hsafe : ∀ key, s.cache.expired now key = true → s.Unread key) :
    ({ s with cache := s.cache.sweepExpired now } : ReadState κ δ).Inv h := by
  have hkept : ∀ key r, (s.cache.sweepExpired now).revisions key = some r →
      s.cache.revisions key = some r := by
    intro key r hr
    simp only [ReadCache.sweepExpired] at hr
    split_ifs at hr
    exact hr
  obtain ⟨hpending, hphases⟩ := hinv.forget (s.cache.sweepExpired now) h hsafe
    (fun key hnone => by
      simp only [ReadCache.sweepExpired] at hnone
      split_ifs at hnone with hexpired
      · exact .inr hexpired
      · exact .inl hnone)
    (fun _ _ => rfl)
  refine ⟨fun key r hr => hinv.guard key r (hkept key r hr), fun key e he => ?_, fun key hkey => ?_,
    hinv.bucket, hpending, fun c => (hinv.phases c).mono (fun _ => le_rfl) fun kind x hx _ =>
      hphases c kind x hx⟩
  · obtain ⟨hexpired, he⟩ := ReadCache.sweepExpired_entry he
    change (if s.cache.expired now key then none else s.cache.revisions key) = _
    rw [hexpired]
    exact hinv.entry key e he
  · obtain ⟨hzero, hnone⟩ := hinv.absent key hkey
    refine ⟨hzero, ?_⟩
    change (if s.cache.expired now key then none else s.cache.revisions key) = none
    rw [hnone, ite_self]

/-- A write to the bucket. -/
lemma ReadState.Inv.written (hinv : s.Inv h) (entry : KvEntry)
    (hrevision : entry.revision = s.sequence + 1) :
    ({ s with sequence := s.sequence + 1
              bucket := Function.update s.bucket entry.key (some entry)
              pending := s.pending ++ [entry] } : ReadState κ δ).Inv h := by
  have hsequence : ∀ key, h key ≤ s.sequence := by
    intro key
    cases hb : s.bucket key with
    | none => simp [(hinv.absent key hb).1]
    | some b =>
      obtain ⟨-, hsequence, hle, -⟩ := hinv.bucket key b hb
      exact hle.trans hsequence
  have hcarried : ∀ e, s.Carried h e →
      ({ s with sequence := s.sequence + 1
                bucket := Function.update s.bucket entry.key (some entry)
                pending := s.pending ++ [entry] } : ReadState κ δ).Carried h e := by
    intro e he
    refine ⟨?_, he.unguarded⟩
    obtain ⟨b, hb, hle⟩ := he.bucket
    by_cases hk : e.key = entry.key
    · refine ⟨entry, by simp [hk], ?_⟩
      obtain ⟨-, hsequence, -⟩ := hinv.bucket _ b hb
      omega
    · exact ⟨b, by simp [hk, hb], hle⟩
  refine ⟨hinv.guard, hinv.entry, fun key hkey => ?_, fun key b hb => ?_, fun e he => ?_,
    fun c => (hinv.phases c).mono (fun _ => le_rfl) fun kind e _ he => hcarried e he⟩
  · change Function.update s.bucket entry.key (some entry) key = none at hkey
    by_cases hk : key = entry.key
    · simp [hk] at hkey
    · rw [Function.update_of_ne hk] at hkey
      exact hinv.absent key hkey
  · change Function.update s.bucket entry.key (some entry) key = some b at hb
    by_cases hk : key = entry.key
    · subst hk
      rw [Function.update_self] at hb
      obtain rfl := Option.some.inj hb
      exact ⟨rfl, hrevision.le, by have := hsequence entry.key; omega,
        .inl (List.mem_append_right _ (List.mem_singleton_self _))⟩
    · rw [Function.update_of_ne hk] at hb
      obtain ⟨hkey, hseq, hle, hpend⟩ := hinv.bucket key b hb
      exact ⟨hkey, Nat.le_succ_of_le hseq, hle, hpend.imp_left (List.mem_append_left _)⟩
  · rcases List.mem_append.mp he with he | he
    · exact hcarried e (hinv.pending e he)
    · obtain rfl := List.mem_singleton.mp he
      refine ⟨⟨e, by simp, le_rfl⟩, fun _ => ?_⟩
      have := hsequence e.key
      omega

/-- The decoded value of an entry does not matter. -/
lemma ReadState.Inv.memoized (hinv : s.Inv h) {value : δ} :
    ({ s with cache := s.cache.memoize e value } : ReadState κ δ).Inv h := by
  unfold ReadCache.memoize
  split_ifs
  · exact hinv.withCache rfl rfl
  · exact hinv

/-- A call returns a decoded value that is not above the bound, and the cache keeps it. -/
lemma ReadState.Inv.returnDecoded [DecidableEq κ] (hinv : s.Inv h) {value : δ}
    (hle : e.revision ≤ h e.key) :
    ({ s.setPhase c (.returned e.key (.decoded value e.revision)) with
        cache := s.cache.memoize e value } : ReadState κ δ).Inv h := by
  have hset : (s.setPhase c (.returned e.key (.decoded value e.revision))).Inv h :=
    hinv.setPhase (by
      rintro r ⟨⟩
      exact hle)
  exact hset.memoized

end Invariant

/-! ## Steps and runs -/

section Runs

variable {κ δ : Type*} [DecidableEq κ] {config : ReadCacheConfig} {decode : List UInt8 → Option δ}
  {s s' : ReadState κ δ} {a : ReadAction κ} {h : String → ℕ} {c d : κ}

omit [DecidableEq κ] in
/-- What a lookup finds. -/
lemma ReadState.Inv.lookup (hinv : s.Inv h) (kind : ReadKind) (key : String) :
    s.PhaseOk h (s.lookup kind key) ∧
      (∀ e, s.lookup kind key = .decode e → e.key = key ∧ e.revision = h key) ∧
      ∀ result r, s.lookup kind key = .returned key result → result.revision = some r →
        r = h key := by
  unfold ReadState.lookup
  cases he : s.cache.entry key with
  | none => exact ⟨trivial, by simp, by simp⟩
  | some e =>
    have hrevision : e.revision = h key := hinv.guard key _ (hinv.entry key e he)
    have hkey := ReadCache.entry_key he
    have hdecode : e.revision ≤ h e.key := by rw [hkey, hrevision]
    cases kind with
    | get =>
      refine ⟨?_, by simp, ?_⟩
      · rintro r ⟨⟩
        exact hrevision.le
      · rintro result r ⟨⟩ ⟨⟩
        exact hrevision
    | decodedValue =>
      dsimp only
      split
      · split_ifs
        · refine ⟨?_, by simp, ?_⟩
          · rintro r ⟨⟩
            exact hrevision.le
          · rintro result r ⟨⟩ ⟨⟩
            exact hrevision
        · refine ⟨hdecode, ?_, by simp⟩
          rintro _ ⟨⟩
          exact ⟨hkey, hrevision⟩
      · refine ⟨hdecode, ?_, by simp⟩
        rintro _ ⟨⟩
        exact ⟨hkey, hrevision⟩

/-- Every step that forgets safely keeps the invariant, with a bound that has not become smaller. -/
theorem ReadState.Inv.step (hinv : s.Inv h) (hsafe : s.ForgetsSafely a)
    (hstep : s.step config decode a = some s') :
    ∃ h' : String → ℕ, (∀ k, h k ≤ h' k) ∧ s'.Inv h' := by
  have hsame : s'.Inv h → ∃ h' : String → ℕ, (∀ k, h k ≤ h' k) ∧ s'.Inv h' :=
    fun hs => ⟨h, fun _ => le_rfl, hs⟩
  cases a with
  | write key operation value =>
    cases hstep
    exact hsame (hinv.written { key := key, value := value, revision := s.sequence + 1,
                                operation := operation } rfl)
  | deliver now evicted =>
    simp only [ReadState.step] at hstep
    split at hstep
    · cases hstep
    · next e rest hpending =>
      obtain ⟨cache, hcache, rfl⟩ := Option.map_eq_some_iff.mp hstep
      have he : s.Carried h e := hinv.pending e (hpending ▸ List.mem_cons_self)
      obtain ⟨h', hmono, hle, hinv'⟩ := hinv.applied he hcache hsafe
      exact ⟨h', hmono, hinv'.tail hpending fun _ => hle⟩
  | skip =>
    simp only [ReadState.step] at hstep
    split at hstep
    · cases hstep
    · next e rest hpending =>
      split_ifs at hstep with hlatest
      cases hstep
      exact hsame (hinv.tail hpending fun hbucket => absurd hbucket hlatest)
  | sweep now =>
    cases hstep
    exact hsame (hinv.swept hsafe)
  | refresh key now =>
    simp only [ReadState.step] at hstep
    split_ifs at hstep
    cases hstep
    exact hsame (hinv.withCache rfl rfl)
  | start c kind key =>
    simp only [ReadState.step] at hstep
    split at hstep <;> cases hstep
    exact hsame (hinv.setPhase trivial)
  | lookup c =>
    simp only [ReadState.step] at hstep
    split at hstep <;> cases hstep
    exact hsame (hinv.setPhase (hinv.lookup _ _).1)
  | decode c =>
    simp only [ReadState.step] at hstep
    split at hstep
    · next e hphase =>
      have hle : e.revision ≤ h e.key := hinv.of_phase hphase
      split at hstep <;> cases hstep
      · exact hsame (hinv.setPhase (by rintro r ⟨⟩))
      · exact hsame (hinv.returnDecoded hle)
    · cases hstep
  | source c =>
    simp only [ReadState.step] at hstep
    split at hstep
    · next kind key hphase =>
      split at hstep
      · next e hbucket =>
        obtain ⟨hkey, -, hle, -⟩ := hinv.bucket key e hbucket
        split_ifs at hstep <;> cases hstep
        · refine hsame (hinv.setPhase ⟨⟨e, by rw [hkey, hbucket], le_rfl⟩, fun _ => ?_⟩)
          rw [hkey]
          exact hle
        · exact hsame (hinv.setPhase (by rintro r ⟨⟩))
      · cases hstep
        exact hsame (hinv.setPhase (by rintro r ⟨⟩))
    · cases hstep
  | apply c now evicted =>
    simp only [ReadState.step] at hstep
    split at hstep
    · next kind e hphase =>
      obtain ⟨cache, hcache, rfl⟩ := Option.map_eq_some_iff.mp hstep
      have he : s.Carried h e := hinv.of_phase hphase
      obtain ⟨h', hmono, hle, hinv'⟩ := hinv.applied he hcache hsafe
      refine ⟨h', hmono, ?_⟩
      cases kind with
      | get => exact hinv'.setPhase (c := c) (p := .reread e.key) trivial
      | decodedValue => exact hinv'.setPhase (c := c) (p := .memoize e) hle
    · cases hstep
  | reread c =>
    simp only [ReadState.step] at hstep
    split at hstep
    · next key hphase =>
      split at hstep <;> cases hstep
      · next e he =>
        have hrevision : e.revision = h key := hinv.guard key _ (hinv.entry key e he)
        refine hsame (hinv.setPhase ?_)
        rintro r ⟨⟩
        exact hrevision.le
      · exact hsame (hinv.setPhase (by rintro r ⟨⟩))
    · cases hstep
  | memoize c =>
    simp only [ReadState.step] at hstep
    split at hstep
    · next e hphase =>
      have hle : e.revision ≤ h e.key := hinv.of_phase hphase
      split at hstep <;> cases hstep
      · exact hsame (hinv.setPhase (by rintro r ⟨⟩))
      · exact hsame (hinv.returnDecoded hle)
    · cases hstep

/-- Some bound fits every state of a run that forgets safely. -/
lemma readState_inv {acts : List (ReadAction κ)}
    (hsafe : StepSystem.Along (ReadState.step config decode) ReadState.ForgetsSafely {} acts)
    (hrun : StepSystem.run (ReadState.step config decode) {} acts = some s) : ∃ h, s.Inv h :=
  StepSystem.run_invariant (I := fun s => ∃ h, s.Inv h)
    (fun _ _ _ ⟨_, hinv⟩ hsafe hstep => (hinv.step hsafe hstep).imp fun _ h' => h'.2)
    ⟨_, .init⟩ hsafe hrun

/-- The read carries or returns no revision below the bound. -/
def ReadPhase.AtLeast (f : String → ℕ) : ReadPhase δ → Prop
  | .decode e | .memoize e | .apply _ e => f e.key ≤ e.revision
  | .returned key result => ∀ r, result.revision = some r → f key ≤ r
  | _ => True

omit [DecidableEq κ] in
/-- What a lookup finds is new enough. -/
lemma ReadState.Inv.lookup_atLeast (hinv : s.Inv h) {f : String → ℕ} (hf : ∀ k, f k ≤ h k)
    (kind : ReadKind) (key : String) : (s.lookup kind key).AtLeast f := by
  obtain ⟨-, hdecode, hreturned⟩ := hinv.lookup kind key
  cases hlookup : s.lookup kind key with
  | decode e =>
    obtain ⟨hkey, hrevision⟩ := hdecode e hlookup
    change f e.key ≤ e.revision
    rw [hkey, hrevision]
    exact hf key
  | returned key' result =>
    obtain rfl : key' = key := by
      unfold ReadState.lookup at hlookup
      split at hlookup
      · cases hlookup
      · cases hlookup
        rfl
      · split at hlookup
        · split_ifs at hlookup
          cases hlookup
          rfl
        · cases hlookup
    intro r hr
    rw [hreturned result r hlookup hr]
    exact hf _
  | source | idle | lookup | reread => trivial
  | apply kind' e | memoize e =>
    unfold ReadState.lookup at hlookup
    split at hlookup
    · cases hlookup
    · cases hlookup
    · split at hlookup
      · split_ifs at hlookup
      · cases hlookup

/-- A read that is not below a bound on what was applied before it started stays so. -/
lemma ReadState.Inv.atLeast (hinv : s.Inv h) {f : String → ℕ} (hf : ∀ k, f k ≤ h k)
    (hd : (s.phase d).AtLeast f) (hstep : s.step config decode a = some s') :
    (s'.phase d).AtLeast f := by
  have hset : ∀ (t : ReadState κ δ) c p, t.phase = Function.update s.phase c p →
      ((s.phase c).AtLeast f → p.AtLeast f) → (t.phase d).AtLeast f := by
    intro t c p ht hp
    rw [ht]
    by_cases hdc : d = c
    · subst hdc
      rw [Function.update_self]
      exact hp hd
    · rw [Function.update_of_ne hdc]
      exact hd
  have herror : ∀ key, (ReadPhase.returned key ReadResult.error : ReadPhase δ).AtLeast f := by
    rintro key r ⟨⟩
  cases a with
  | write | sweep =>
    cases hstep
    exact hd
  | deliver now evicted =>
    simp only [ReadState.step] at hstep
    split at hstep
    · cases hstep
    · obtain ⟨cache, -, rfl⟩ := Option.map_eq_some_iff.mp hstep
      exact hd
  | skip =>
    simp only [ReadState.step] at hstep
    split at hstep
    · cases hstep
    · split_ifs at hstep
      cases hstep
      exact hd
  | refresh key now =>
    simp only [ReadState.step] at hstep
    split_ifs at hstep
    cases hstep
    exact hd
  | start c kind key =>
    simp only [ReadState.step] at hstep
    split at hstep <;> cases hstep
    exact hset _ c _ rfl fun _ => trivial
  | lookup c =>
    simp only [ReadState.step] at hstep
    split at hstep <;> cases hstep
    · next kind key hphase =>
      exact hset _ c _ rfl fun _ => hinv.lookup_atLeast hf kind key
  | decode c =>
    simp only [ReadState.step] at hstep
    split at hstep
    · next e hphase =>
      split at hstep <;> cases hstep
      · exact hset _ c _ rfl fun _ => herror _
      · refine hset _ c _ rfl fun hle => ?_
        rw [hphase] at hle
        rintro r ⟨⟩
        exact hle
    · cases hstep
  | source c =>
    simp only [ReadState.step] at hstep
    split at hstep
    · next kind key hphase =>
      split at hstep
      · next e hbucket =>
        obtain ⟨hkey, -, hle, -⟩ := hinv.bucket key e hbucket
        split_ifs at hstep <;> cases hstep
        · refine hset _ c _ rfl fun _ => ?_
          change f e.key ≤ e.revision
          rw [hkey]
          exact (hf key).trans hle
        · exact hset _ c _ rfl fun _ => herror _
      · cases hstep
        exact hset _ c _ rfl fun _ => herror _
    · cases hstep
  | apply c now evicted =>
    simp only [ReadState.step] at hstep
    split at hstep
    · next kind e hphase =>
      obtain ⟨cache, -, rfl⟩ := Option.map_eq_some_iff.mp hstep
      refine hset _ c _ rfl fun hle => ?_
      rw [hphase] at hle
      cases kind with
      | get => trivial
      | decodedValue => exact hle
    · cases hstep
  | reread c =>
    simp only [ReadState.step] at hstep
    split at hstep
    · next key hphase =>
      split at hstep <;> cases hstep
      · next e he =>
        have hrevision : e.revision = h key := hinv.guard key _ (hinv.entry key e he)
        refine hset _ c _ rfl fun _ => ?_
        rintro r ⟨⟩
        rw [hrevision]
        exact hf key
      · exact hset _ c _ rfl fun _ => herror _
    · cases hstep
  | memoize c =>
    simp only [ReadState.step] at hstep
    split at hstep
    · next e hphase =>
      split at hstep <;> cases hstep
      · exact hset _ c _ rfl fun _ => herror _
      · refine hset _ c _ rfl fun hle => ?_
        rw [hphase] at hle
        rintro r ⟨⟩
        exact hle
    · cases hstep

/-- The read has taken an entry from the bucket and not yet applied it, or is about to. -/
def ReadPhase.InFlight : ReadPhase δ → Prop
  | .source _ _ | .apply _ _ => True
  | _ => False

/-- What the cache promises after a run: a read that starts after another has returned does not
return an older revision of the same key, and once everything is delivered and no read is under way
to the bucket, every entry is the latest of its key. -/
structure ReadState.Fresh (config : ReadCacheConfig) (decode : List UInt8 → Option δ)
    (acts : List (ReadAction κ)) (s : ReadState κ δ) : Prop where
  monotone : ∀ as bs t c d key result result' r r', acts = as ++ bs →
    StepSystem.run (ReadState.step config decode) {} as = some t →
    t.phase c = .returned key result → result.revision = some r → t.phase d = .idle →
    s.phase d = .returned key result' → result'.revision = some r' → r ≤ r'
  latest : s.pending = [] → (∀ c, ¬ (s.phase c).InFlight) → ∀ key e, s.cache.entry key = some e →
    ∃ b, s.bucket key = some b ∧ e.revision = b.revision

/-- In every run in which the cache forgets a key only while nothing older is under way for it, the
cache never goes back to an older revision. -/
theorem read_cache_never_goes_back {acts : List (ReadAction κ)}
    (hsafe : StepSystem.Along (ReadState.step config decode) ReadState.ForgetsSafely {} acts)
    (hrun : StepSystem.run (ReadState.step config decode) {} acts = some s) :
    ReadState.Fresh config decode acts s where
  monotone := by
    rintro as bs t c d key result result' r r' rfl hpre hc hr hd hd' hr'
    obtain ⟨t', ht', hpost⟩ := StepSystem.run_append.mp hrun
    rw [hpre] at ht'
    obtain rfl := Option.some.inj ht'
    obtain ⟨hsafepre, hsafepost⟩ := hsafe.split hpre
    obtain ⟨f, hinv⟩ := readState_inv hsafepre hpre
    -- from here on no applied revision and nothing that `d` carries is below the bound
    have hlater := StepSystem.run_invariant
      (I := fun s => (∃ h, (∀ k, f k ≤ h k) ∧ s.Inv h) ∧ (s.phase d).AtLeast f)
      (fun s a s' hs hsafe hstep => by
        obtain ⟨⟨h, hle, hinv⟩, hfloor⟩ := hs
        obtain ⟨h', hmono, hinv'⟩ := hinv.step hsafe hstep
        exact ⟨⟨h', fun k => (hle k).trans (hmono k), hinv'⟩, hinv.atLeast hle hfloor hstep⟩)
      ⟨⟨f, fun _ => le_rfl, hinv⟩, by rw [hd]; trivial⟩ hsafepost hpost
    have hupper : r ≤ f key := hinv.of_phase hc r hr
    have hlower := hlater.2
    rw [hd'] at hlower
    exact hupper.trans (hlower r' hr')
  latest := by
    intro hpending _ key e he
    obtain ⟨h, hinv⟩ := readState_inv hsafe hrun
    have hguard := hinv.entry key e he
    have hrevision : e.revision = h key := hinv.guard key _ hguard
    cases hb : s.bucket key with
    | none =>
      rw [(hinv.absent key hb).2] at hguard
      cases hguard
    | some b =>
      obtain ⟨-, -, hle, hpend⟩ := hinv.bucket key b hb
      rw [hpending] at hpend
      refine ⟨b, rfl, ?_⟩
      rcases hpend with hmem | hdone
      · cases hmem
      · omega

/-! ## A cache of one entry -/

/-- A cache that holds one entry. -/
def sampleReadConfig : ReadCacheConfig where
  maxEntries := 1
  maxBytes := 0
  idleTTL := { nanos := 0, lower := Duration.zero_lower, upper := Duration.zero_upper }
  expiresAt := none

/-- A slow read takes the first revision of a key from the bucket.  The watch delivers the third, and
another key evicts it, before the slow read applies what it took. -/
def sampleReadRun : List (ReadAction ℕ) :=
  [.write "k" .put [], .deliver 0 [], .write "j" .put [], .deliver 0 ["k"],
    .start 0 .get "k", .lookup 0, .source 0, .write "k" .put [], .deliver 0 ["j"],
    .start 1 .get "k", .lookup 1, .write "j" .put [], .deliver 0 ["k"],
    .apply 0 0 ["j"], .reread 0, .start 2 .get "k", .lookup 2]

/-- A later read returns revision 1 after an earlier one returned revision 3, and the cache is left
with revision 1. -/
theorem read_cache_goes_back :
    ¬ ∀ (acts : List (ReadAction ℕ)) (s : ReadState ℕ Unit),
      StepSystem.run (ReadState.step sampleReadConfig fun _ => none) {} acts = some s →
      ReadState.Fresh sampleReadConfig (fun _ => none) acts s := by
  intro hfresh
  have hle : 3 ≤ 1 := (hfresh sampleReadRun _ rfl).monotone (sampleReadRun.take 11)
    (sampleReadRun.drop 11) _ 1 2 "k" (.entry ⟨"k", [], 3, .put⟩) (.entry ⟨"k", [], 1, .put⟩) 3 1
    rfl rfl rfl rfl rfl rfl rfl
  exact absurd hle (by decide)

/-- Two keys take turns in the cache, and a read brings the first one back. -/
def sampleTurns : List (ReadAction ℕ) :=
  [.write "k" .put [], .deliver 0 [], .write "j" .put [], .deliver 0 ["k"],
    .start 0 .get "k", .lookup 0, .source 0, .apply 0 0 ["j"], .reread 0]

/-- Nothing is under way for the keys that are evicted, so the cache stays fresh. -/
theorem read_cache_turns_fresh :
    ∃ s : ReadState ℕ Unit,
      StepSystem.run (ReadState.step sampleReadConfig fun _ => none) {} sampleTurns = some s ∧
      s.phase 0 = .returned "k" (.entry ⟨"k", [], 1, .put⟩) ∧
      ReadState.Fresh sampleReadConfig (fun _ => none) sampleTurns s := by
  have hsafe : StepSystem.Along (ReadState.step (δ := Unit) sampleReadConfig fun _ => none)
      ReadState.ForgetsSafely ({} : ReadState ℕ Unit) sampleTurns := by
    refine And.intro (fun key hkey => hkey.elim) (And.intro (fun key hkey => ?_)
      (And.intro (fun key hkey => hkey.elim) (And.intro (fun key hkey => ?_)
      (And.intro (fun key hkey => hkey.elim) (And.intro (fun key hkey => hkey.elim)
      (And.intro (fun key hkey => hkey.elim) (And.intro (fun key hkey => ?_)
      (And.intro (fun key hkey => hkey.elim) trivial))))))))
    · cases hkey
    · obtain rfl : key = "k" := List.mem_singleton.mp hkey
      refine fun r _ => ⟨?_, fun c kind e hc => by cases hc⟩
      rintro e he hek
      obtain rfl : e = ⟨"j", [], 2, .put⟩ := List.mem_singleton.mp he
      exact absurd hek (by decide)
    · obtain rfl : key = "j" := List.mem_singleton.mp hkey
      refine fun r _ => ⟨fun e he => (List.not_mem_nil he).elim, fun c kind e hc hek => ?_⟩
      -- the only read under way carries the other key
      by_cases hzero : c = 0
      · subst hzero
        obtain ⟨-, rfl⟩ : .get = kind ∧ ⟨"k", [], 1, .put⟩ = e := ReadPhase.apply.inj hc
        exact absurd hek (by decide)
      · simp [ReadState.setPhase, hzero] at hc
  exact ⟨_, rfl, rfl, read_cache_never_goes_back hsafe rfl⟩

end Runs

end Boutique
