import Boutique.Lib.CasLoop

/-!
# Update loops without their caches

The writes of a run in which the calls read through caches are the writes of a run in which they read
the store.  A cached value was current once, so an attempt on it can be made when it was.  The one
thing that a cache adds is that a later attempt may be made on an older value; a loop is stable if
such an attempt does not change its input.
-/

namespace CasLoop

variable {κ R ι V ρ : Type*}

/-! ## Attempts in the order of the values -/

/-- `input` is what `k` refused attempts make of `start`, on revisions below `n` in increasing
order. -/
inductive Derived (L : Loop ι V ρ) (log : List (Write κ ι V)) (start : ι) : ι → ℕ → ℕ → Prop where
  | refl : Derived L log start start 0 0
  | read {input next : ι} {n k revision : ℕ} {value : V} {result : ρ}
      (h : Derived L log start input n k) (hn : n ≤ revision) (hrevision : revision < log.length)
      (hdecide : L.decide input (valueAt log revision) = .write next value result) :
      Derived L log start next (revision + 1) (k + 1)

/-- An attempt on a value that is not newer than those seen before does not change the input. -/
def Stable (L : Loop ι V ρ) (log : List (Write κ ι V)) : Prop :=
  ∀ start input n k revision next value result, Derived L log start input n k → revision < n →
    L.decide input (valueAt log revision) = .write next value result → next = input

/-- The input of every write comes from such attempts. -/
def Traceable (L : Loop ι V ρ) (log : List (Write κ ι V)) : Prop :=
  ∀ pre w post, log = pre ++ w :: post →
    (∃ start n k, Derived L pre start w.input n k ∧ k < L.maxAttempts) ∧
      ∃ next result, L.decide w.input (current pre) = .write next w.value result

variable {L : Loop ι V ρ} {log rest : List (Write κ ι V)} {start input : ι} {n k : ℕ}

/-- The attempts were made on existing revisions. -/
lemma Derived.le (h : Derived L log start input n k) : n ≤ log.length := by
  cases h with
  | refl => exact Nat.zero_le _
  | read _ _ hrevision => exact hrevision

/-- There is nothing to attempt a write on before the first write. -/
lemma Derived.of_nil (h : Derived L ([] : List (Write κ ι V)) start input n k) :
    start = input ∧ k = 0 := by
  cases h with
  | refl => exact ⟨rfl, rfl⟩
  | read _ _ hrevision => simp at hrevision

/-- Later writes do not change the attempts. -/
lemma Derived.append (h : Derived L log start input n k) (rest : List (Write κ ι V)) :
    Derived L (log ++ rest) start input n k := by
  induction h with
  | refl => exact .refl
  | read _ hn hrevision hdecide ih =>
    rw [← valueAt_append hrevision.le rest] at hdecide
    exact .read ih hn (hrevision.trans_le (by simp)) hdecide

/-- Attempts on old revisions do not see later writes. -/
lemma Derived.restrict (h : Derived L (log ++ rest) start input n k) (hn : n ≤ log.length) :
    Derived L log start input n k := by
  induction h with
  | refl => exact .refl
  | read _ hle hrevision hdecide ih =>
    rw [valueAt_append (Nat.le_of_succ_le hn)] at hdecide
    exact .read (ih (hle.trans (Nat.le_of_succ_le hn))) hle hn hdecide

/-- The last attempt was made before the last write or on the value that it replaced. -/
lemma Derived.concat_cases {w : Write κ ι V} (h : Derived L (log ++ [w]) start input n k) :
    Derived L log start input n k ∨ ∃ last m j value result, Derived L log start last m j ∧
      k = j + 1 ∧ L.decide last (current log) = .write input value result := by
  cases h with
  | refl => exact .inl .refl
  | @read last _ m j revision value result h hle hrevision hdecide =>
    by_cases hold : revision < log.length
    · rw [valueAt_append hold.le] at hdecide
      exact .inl (.read (h.restrict (hle.trans hold.le)) hle hold hdecide)
    · have hlast : revision = log.length := by
        rw [List.length_append, List.length_singleton] at hrevision
        omega
      subst hlast
      rw [valueAt_append le_rfl, valueAt_length] at hdecide
      exact .inr ⟨last, m, j, value, result, h.restrict hle, rfl, hdecide⟩

/-- The earlier writes are traceable. -/
lemma Traceable.left {pre post : List (Write κ ι V)} (h : Traceable L (pre ++ post)) :
    Traceable L pre := by
  intro pre' w post' heq
  exact h pre' w (post' ++ post) (by rw [heq, List.append_assoc, List.cons_append])

/-! ## The attempts of a run -/

section Trace

/-- The input comes from attempts in order, no more than were made. -/
def Traced (L : Loop ι V ρ) (log : List (Write κ ι V)) (input : ι) (attempts : ℕ) : Prop :=
  ∃ start n k, Derived L log start input n k ∧ k ≤ attempts

/-- What the phase of a call says about its attempts. -/
def Phase.Traced (L : Loop ι V ρ) (log : List (Write κ ι V)) : Phase ι V ρ → Prop
  | .lookup input n | .fetch input n | .keep input n _ _ | .write input n _ _ _ _ =>
    CasLoop.Traced L log input n ∧ n < L.maxAttempts
  | .refused next n true => CasLoop.Traced L log next (n + 1)
  | _ => True

/-- All attempts of a state can be put in order. -/
structure Trace (L : Loop ι V ρ) (s : State κ R ι V ρ) : Prop where
  phases : ∀ c, (s.phase c).Traced L s.log
  log : Traceable L s.log

/-- Later writes do not change the attempts of a call. -/
lemma Phase.Traced.append {p : Phase ι V ρ} (h : p.Traced L log) (rest : List (Write κ ι V)) :
    p.Traced L (log ++ rest) := by
  have hgrow : ∀ {input : ι} {n : ℕ}, CasLoop.Traced L log input n →
      CasLoop.Traced L (log ++ rest) input n := by
    rintro input n ⟨start, m, k, hderived, hle⟩
    exact ⟨start, m, k, hderived.append rest, hle⟩
  cases p with
  | lookup | fetch | keep | write => exact ⟨hgrow h.1, h.2⟩
  | refused next n conflict =>
    cases conflict with
    | true => exact hgrow h
    | false => trivial
  | idle | wrote | returned => trivial

variable [DecidableEq κ] [DecidableEq R] {N : Net κ R} {s s' : State κ R ι V ρ} {a : Action κ R ι}
  {c : κ}

omit [DecidableEq κ] [DecidableEq R] in
/-- The attempts of a call whose phase is known. -/
lemma Trace.of_phase (h : Trace L s) {p : Phase ι V ρ} (hc : s.phase c = p) : p.Traced L s.log :=
  hc ▸ h.phases c

omit [DecidableEq R] in
/-- A call moves on. -/
lemma Trace.setPhase (h : Trace L s) {p : Phase ι V ρ} (hp : p.Traced L s.log) :
    Trace L (s.setPhase c p) :=
  ⟨forall_setPhase (Q := fun _ p => p.Traced L s.log) h.phases hp, h.log⟩

omit [DecidableEq R] in
/-- A call decides. -/
lemma Trace.settle (h : Trace L s) {n revision : ℕ} {value : Option V}
    (hinput : CasLoop.Traced L s.log input n ∧ n < L.maxAttempts) :
    Trace L (s.settle L c input n revision value) := by
  unfold State.settle
  split
  · next result _ =>
    exact ⟨(h.setPhase (c := c) (p := .returned input (some result)) trivial).phases, h.log⟩
  · exact h.setPhase hinput

omit [DecidableEq R] in
/-- A call writes. -/
lemma Trace.commit (h : Trace L s) (hsound : Sound L s) {n : ℕ} {next : ι} {value : V} {result : ρ}
    {p : Phase ι V ρ} (hc : s.phase c = .write input n s.log.length next value result)
    (hp : ∀ log : List (Write κ ι V), p.Traced L log) : Trace L (s.commit c input value result p) := by
  obtain ⟨⟨start, m, k, hderived, hle⟩, hlt⟩ := h.of_phase hc
  have hdecide := (hsound.of_phase hc).2
  rw [valueAt_length] at hdecide
  refine ⟨forall_setPhase (Q := fun _ p => p.Traced L _) (fun d => (h.phases d).append _) (hp _), ?_⟩
  intro pre w post heq
  rcases List.append_eq_append_iff.mp heq with ⟨mid, rfl, hmid⟩ | ⟨mid, hpre, hmid⟩
  · cases mid with
    | nil =>
      obtain ⟨rfl, -⟩ := List.cons.inj hmid
      rw [List.append_nil]
      exact ⟨⟨start, m, k, hderived, hle.trans_lt hlt⟩, next, result, hdecide⟩
    | cons _ mid => simp at hmid
  · cases mid with
    | nil =>
      obtain ⟨rfl, -⟩ := List.cons.inj hmid
      rw [List.append_nil] at hpre
      subst hpre
      exact ⟨⟨start, m, k, hderived, hle.trans_lt hlt⟩, next, result, hdecide⟩
    | cons x mid =>
      obtain ⟨rfl, -⟩ := List.cons.inj hmid
      exact h.log pre _ mid hpre

omit [DecidableEq κ] in
/-- Caches make no attempts. -/
lemma Trace.setCache (h : Trace L s) {entry : Option (ℕ × V)} : Trace L (s.setCache N c entry) :=
  ⟨by simpa using h.phases, by simpa using h.log⟩

/-- Every step of a stable loop keeps the attempts in order. -/
lemma Trace.step (h : Trace L s) (hsound : Sound L s) (hstable : Stable L s.log)
    (hmax : 0 < L.maxAttempts) (hmove : Move L N s a s') : Trace L s' := by
  cases hmove with
  | start hc => exact h.setPhase ⟨⟨_, 0, 0, .refl, le_rfl⟩, hmax⟩
  | hit hc hcache =>
    have hinput := h.of_phase hc
    exact h.settle hinput
  | miss hc hcache =>
    have hinput := h.of_phase hc
    exact h.setPhase hinput
  | found hc hvalue =>
    have hinput := h.of_phase hc
    exact h.setPhase hinput
  | read hc hvalue =>
    have hinput := h.of_phase hc
    exact h.settle hinput
  | absent hc hvalue =>
    have hinput := h.of_phase hc
    exact h.settle hinput
  | kept hc =>
    have hinput := h.of_phase hc
    refine h.setCache.settle ?_
    rw [setCache_log]
    exact hinput
  | committed hc => exact h.commit hsound hc fun _ => trivial
  | @conflict c input n revision next value result hc hrevision =>
    obtain ⟨⟨start, m, k, hderived, hle⟩, hlt⟩ := h.of_phase hc
    obtain ⟨hbound, hdecide⟩ := hsound.of_phase hc
    refine h.setPhase ?_
    by_cases hnew : m ≤ revision
    · -- the attempt was made on a newer value: it comes next
      exact ⟨start, revision + 1, k + 1,
        hderived.read hnew (lt_of_le_of_ne hbound hrevision) hdecide, Nat.succ_le_succ hle⟩
    · rw [hstable start input m k revision next value result hderived (not_le.mp hnew) hdecide]
      exact ⟨start, m, k, hderived, hle.trans (Nat.le_succ n)⟩
  | lost hc => exact h.commit hsound hc fun _ => trivial
  | stored hc => exact h.setCache.setPhase trivial
  | again hc hn =>
    have hinput := h.of_phase hc
    refine h.setCache.setPhase ⟨?_, hn⟩
    rw [setCache_log]
    exact hinput
  | gaveUp hc => exact h.setCache.setPhase trivial
  | failed hc => exact h.setPhase trivial
  | evicted => exact ⟨h.phases, h.log⟩

/-- The attempts of every run of a stable loop can be put in order. -/
theorem trace_of_run {acts : List (Action κ R ι)} (hmax : 0 < L.maxAttempts)
    (hstable : ∀ log : List (Write κ ι V), Written L log → Stable L log)
    (hrun : StepSystem.run (CasLoop.step L N) {} acts = some s) : Trace L s := by
  have hboth := StepSystem.run_invariant_of_step (I := fun s => Sound L s ∧ Trace L s)
    (fun s a s' h hstep => ⟨h.1.step (step_move hstep),
      h.2.step h.1 (hstable _ h.1.written) hmax (step_move hstep)⟩)
    ⟨.init, fun _ => trivial, ?_⟩ hrun
  · exact hboth.2
  · intro pre w post heq
    simp at heq

end Trace

/-! ## The same writes without caches -/

section Uncached

variable [DecidableEq κ] [DecidableEq R]

/-- `s'` can be reached from `s`. -/
def Reaches (L : Loop ι V ρ) (N : Net κ R) (s s' : State κ R ι V ρ) : Prop :=
  ∃ acts, StepSystem.run (step L N) s acts = some s'

variable {N : Net κ R} {s s' t : State κ R ι V ρ} {c : κ}

/-- One step. -/
lemma Reaches.step {a : Action κ R ι} (h : CasLoop.step L N s a = some s') : Reaches L N s s' :=
  ⟨[a], by rw [StepSystem.run, h]; rfl⟩

/-- One run after another. -/
lemma Reaches.trans (h : Reaches L N s t) (h' : Reaches L N t s') : Reaches L N s s' := by
  obtain ⟨as, has⟩ := h
  obtain ⟨bs, hbs⟩ := h'
  exact ⟨as ++ bs, StepSystem.run_append.mpr ⟨t, has, hbs⟩⟩

/-- `s'` can be reached from `s`, where only the call `c` moves, to the phase `p`. -/
def Moves (L : Loop ι V ρ) (N : Net κ R) (s : State κ R ι V ρ) (c : κ) (p : Phase ι V ρ) : Prop :=
  Reaches L N s (s.setPhase c p)

omit [DecidableEq R] in
/-- The last phase counts. -/
lemma setPhase_setPhase (p q : Phase ι V ρ) :
    (s.setPhase c p).setPhase c q = s.setPhase c q := by
  simp [State.setPhase, Function.update_idem]

/-- An attempt that reads the store. -/
lemma moves_attempt {next : ι} {value : V} {result : ρ} (hN : N.cached = false)
    (hcache : s.cache (N.replica c) = none) (hc : s.phase c = .lookup input k)
    (hdecide : L.decide input (current s.log) = .write next value result) :
    Moves L N s c (.write input k s.log.length next value result) := by
  have hlookup : Reaches L N s (s.setPhase c (.fetch input k)) := by
    refine Reaches.step (a := .lookup c) ?_
    simp only [CasLoop.step, hc, hcache]
  refine hlookup.trans (Reaches.step (a := .fetch c) ?_)
  cases hcurrent : current s.log with
  | none =>
    rw [hcurrent] at hdecide
    have hlength : s.log.length = 0 := by rw [current_eq_none.mp hcurrent, List.length_nil]
    simp only [CasLoop.step, setPhase_phase, Function.update_self, setPhase_log, hcurrent,
      State.settle, hdecide, setPhase_setPhase, hlength]
  | some v =>
    rw [hcurrent] at hdecide
    simp only [CasLoop.step, setPhase_phase, Function.update_self, setPhase_log, hcurrent, hN,
      Bool.false_eq_true, if_false, State.settle, hdecide, setPhase_setPhase]

/-- A refused write. -/
lemma moves_conflict {next : ι} {revision : ℕ} {value : V} {result : ρ} (hN : N.cached = false)
    (hc : s.phase c = .write input k revision next value result)
    (hrevision : revision ≠ s.log.length) (hk : k + 1 < L.maxAttempts) :
    Moves L N s c (.lookup next (k + 1)) := by
  have hwrite : Reaches L N s (s.setPhase c (.refused next k true)) := by
    refine Reaches.step (a := .write c) ?_
    simp only [CasLoop.step, hc, hrevision, if_false]
  refine hwrite.trans (Reaches.step (a := .invalidate c) ?_)
  simp only [CasLoop.step, setPhase_phase, Function.update_self, State.setCache, hN,
    Bool.false_eq_true, if_false, hk, and_self, if_true, setPhase_setPhase]

/-- Calls of a list move one after the other. -/
lemma exists_moves {calls : List κ} {p q : κ → Phase ι V ρ} (hnodup : calls.Nodup)
    (hmove : ∀ c ∈ calls, ∀ t : State κ R ι V ρ, t.log = s.log → t.cache = s.cache →
      t.phase c = p c → Moves L N t c (q c)) (hp : ∀ c ∈ calls, s.phase c = p c) :
    ∃ t, Reaches L N s t ∧ t.log = s.log ∧ t.cache = s.cache ∧ (∀ c ∈ calls, t.phase c = q c) ∧
      ∀ c ∉ calls, t.phase c = s.phase c := by
  induction calls generalizing s with
  | nil => exact ⟨s, ⟨[], rfl⟩, rfl, rfl, by simp, fun _ _ => rfl⟩
  | cons d calls ih =>
    obtain ⟨hd, hnodup⟩ := List.nodup_cons.mp hnodup
    have hfirst := hmove d (by simp) s rfl rfl (hp d (by simp))
    obtain ⟨t, hreach, hlog, hcache, hq, hothers⟩ := ih (s := s.setPhase d (q d)) hnodup
      (fun c hc => hmove c (List.mem_cons_of_mem d hc)) (fun c hc => by
        have hne : c ≠ d := fun heq => hd (heq ▸ hc)
        rw [setPhase_phase, Function.update_of_ne hne]
        exact hp c (List.mem_cons_of_mem d hc))
    refine ⟨t, hfirst.trans hreach, hlog, hcache, fun c hc => ?_, fun c hc => ?_⟩
    · rcases List.mem_cons.mp hc with rfl | hc
      · rw [hothers _ hd, setPhase_phase, Function.update_self]
      · exact hq c hc
    · obtain ⟨hne, hc⟩ := not_or.mp (mt List.mem_cons.mpr hc)
      rw [hothers c hc, setPhase_phase, Function.update_of_ne hne]

/-- Traceable writes can be made without caches, so that some more calls have made their attempts as
well. -/
lemma exists_uncached {log : List (Write κ ι V)} (hN : N.cached = false) (hlog : Traceable L log)
    (hnodup : (log.map Write.caller).Nodup) (calls : List κ) (start input : κ → ι) (n k : κ → ℕ)
    (hcalls : calls.Nodup) (hdisjoint : ∀ c ∈ calls, c ∉ log.map Write.caller)
    (hderived : ∀ c ∈ calls, Derived L log (start c) (input c) (n c) (k c) ∧
      k c < L.maxAttempts) :
    ∃ s : State κ R ι V ρ, Reaches L N {} s ∧ s.log = log ∧ (s.cache = fun _ => none) ∧
      (∀ c ∈ calls, s.phase c = .lookup (input c) (k c)) ∧
      ∀ c ∉ calls, c ∉ log.map Write.caller → s.phase c = .idle := by
  induction log using List.reverseRecOn generalizing calls start input n k with
  | nil =>
    have hfirst : ∀ c ∈ calls, start c = input c ∧ k c = 0 := fun c hc =>
      (hderived c hc).1.of_nil
    obtain ⟨t, hreach, ht, hcache, hq, hothers⟩ := exists_moves (L := L) (N := N) (s := {})
      (p := fun _ => .idle) (q := fun c => .lookup (input c) (k c)) hcalls (fun c hc t _ _ htc => by
        refine Reaches.step (a := .start c (input c)) ?_
        simp only [CasLoop.step, htc, (hfirst c hc).2]) (fun _ _ => rfl)
    exact ⟨t, hreach, ht, hcache, hq, fun c hc _ => hothers c hc⟩
  | append_singleton log w ih =>
    rw [List.map_append, List.nodup_append] at hnodup
    obtain ⟨⟨startw, nw, kw, hderivedw, hkw⟩, nextw, resultw, hdecidew⟩ := hlog log w [] rfl
    have hw : w.caller ∉ log.map Write.caller := fun hmem =>
      hnodup.2.2 _ hmem w.caller (by simp) rfl
    have hwcalls : w.caller ∉ calls := fun hmem => hdisjoint _ hmem (by simp)
    -- where the other calls are when `w` is written: before an attempt, or before a refused write
    have hbefore : ∀ c, ∃ (last : ι) (m j : ℕ) (p : Phase ι V ρ), c ∈ calls →
        (Derived L log (start c) last m j ∧ j < L.maxAttempts) ∧
        (∀ t : State κ R ι V ρ, t.log = log → (t.cache = fun _ => none) →
          t.phase c = .lookup last j → Moves L N t c p) ∧
        ∀ t : State κ R ι V ρ, t.log = log ++ [w] → t.phase c = p →
          Moves L N t c (.lookup (input c) (k c)) := by
      intro c
      by_cases hc : c ∈ calls
      · obtain ⟨hc', hkc⟩ := hderived c hc
        rcases hc'.concat_cases with hold | ⟨last, m, j, value, result, hold, hk, hdecide⟩
        · refine ⟨input c, n c, k c, .lookup (input c) (k c), fun _ => ⟨⟨hold, hkc⟩, ?_, ?_⟩⟩
          · intro t _ _ htc
            refine ⟨[], ?_⟩
            rw [State.setPhase, ← htc, Function.update_eq_self]
            rfl
          · intro t _ htc
            refine ⟨[], ?_⟩
            rw [State.setPhase, ← htc, Function.update_eq_self]
            rfl
        · refine ⟨last, m, j, .write last j log.length (input c) value result, fun _ =>
            ⟨⟨hold, by omega⟩, ?_, ?_⟩⟩
          · intro t ht htcache htc
            rw [← ht]
            exact moves_attempt hN (by rw [htcache]) htc (ht ▸ hdecide)
          · intro t ht htc
            rw [hk]
            exact moves_conflict hN htc (by rw [ht]; simp) (hk ▸ hkc)
      · exact ⟨start c, 0, 0, .idle, fun h => absurd h hc⟩
    choose last m j p hbefore using hbefore
    -- all of them and the writer of `w` have made their attempts on the values before
    obtain ⟨s, hreach, hs, hcache, hphase, hidle⟩ := ih hlog.left hnodup.1
      (w.caller :: calls) (Function.update start w.caller startw)
      (Function.update last w.caller w.input) (Function.update m w.caller nw)
      (Function.update j w.caller kw) (List.nodup_cons.mpr ⟨hwcalls, hcalls⟩)
      (fun c hc => by
        rcases List.mem_cons.mp hc with rfl | hc
        · exact hw
        · exact fun hmem => hdisjoint c hc (by rw [List.map_append]; exact List.mem_append_left _ hmem))
      (fun c hc => by
        rcases List.mem_cons.mp hc with rfl | hc
        · simp only [Function.update_self]
          exact ⟨hderivedw, hkw⟩
        · have hne : c ≠ w.caller := fun heq => hwcalls (heq ▸ hc)
          simp only [ne_eq, hne, not_false_eq_true, Function.update_of_ne]
          exact (hbefore c hc).1)
    have hother : ∀ c ∈ calls, c ≠ w.caller := fun c hc heq => hwcalls (heq ▸ hc)
    obtain ⟨t, hst, ht, htcache, htphase, htothers⟩ := exists_moves (L := L) (N := N) (s := s)
      (p := fun c => .lookup (last c) (j c)) (q := p) hcalls
      (fun c hc t htlog htcache htc => (hbefore c hc).2.1 t (htlog.trans hs) (htcache.trans hcache)
        htc)
      (fun c hc => by
        have hc' := hphase c (List.mem_cons_of_mem _ hc)
        simpa only [ne_eq, hother c hc, not_false_eq_true, Function.update_of_ne] using hc')
    have hwphase : t.phase w.caller = .lookup w.input kw := by
      rw [htothers _ hwcalls]
      have hc' := hphase w.caller List.mem_cons_self
      simpa only [Function.update_self] using hc'
    -- now `w` is written
    have hattempt := moves_attempt (s := t) hN (by rw [htcache, hcache]) hwphase
      (by rw [ht, hs]; exact hdecidew)
    obtain ⟨u, hu⟩ : ∃ u, u = (t.setPhase w.caller
        (.write w.input kw t.log.length nextw w.value resultw)).commit w.caller w.input w.value
          resultw (.wrote w.input (t.log.length + 1) w.value resultw) := ⟨_, rfl⟩
    have hcommit : Reaches L N t u := by
      refine hattempt.trans (Reaches.step (a := .write w.caller) ?_)
      simp only [CasLoop.step, setPhase_phase, Function.update_self, setPhase_log, if_true, hu]
    have hulog : u.log = log ++ [w] := by
      rw [hu]
      change t.log ++ [_] = _
      rw [ht, hs]
    have huphase : ∀ c, c ≠ w.caller → u.phase c = t.phase c := by
      intro c hc
      rw [hu]
      simp [State.commit, hc]
    -- and the other writes are refused
    obtain ⟨v, huv, hvlog, hvcache, hvphase, hvothers⟩ := exists_moves (L := L) (N := N) (s := u)
      (p := p) (q := fun c => .lookup (input c) (k c)) hcalls
      (fun c hc t htlog _ htc => (hbefore c hc).2.2 t (htlog.trans hulog) htc)
      (fun c hc => by
        rw [huphase c (hother c hc)]
        exact htphase c hc)
    refine ⟨v, ((hreach.trans hst).trans hcommit).trans huv, hvlog.trans hulog, ?_, hvphase, ?_⟩
    · rw [hvcache, hu]
      exact htcache.trans hcache
    · intro c hc hclog
      rw [List.map_append, List.mem_append, not_or] at hclog
      have hne : c ≠ w.caller := fun heq => hclog.2 (by simp [heq])
      rw [hvothers c hc, huphase c hne, htothers c hc]
      refine hidle c ?_ hclog.1
      rw [List.mem_cons, not_or]
      exact ⟨hne, hc⟩

/-- Whatever the caches do, the writes of a stable loop are writes of a run without caches. -/
theorem exists_uncached_run {acts : List (Action κ R ι)} (hmax : 0 < L.maxAttempts)
    (hstable : ∀ log : List (Write κ ι V), Written L log → Stable L log)
    (hrun : StepSystem.run (CasLoop.step L N) {} acts = some s) :
    ∃ acts' s', StepSystem.run (CasLoop.step L { N with cached := false }) {} acts' = some s' ∧
      s'.log = s.log := by
  have htrace := trace_of_run hmax hstable hrun
  cases hlog : s.log with
  | nil => exact ⟨[], {}, rfl, rfl⟩
  | cons w rest =>
    obtain ⟨s', ⟨acts', hrun'⟩, hlog', -⟩ := exists_uncached (N := { N with cached := false }) rfl
      htrace.log (callers_of_run hrun).nodup [] (fun _ => w.input) (fun _ => w.input) (fun _ => 0)
      (fun _ => 0) .nil (by simp) (by simp)
    exact ⟨acts', s', hrun', hlog'.trans hlog⟩

/-- The caches do not change what is written: every write is what its attempt decides on the current
value, a call that returned without writing would do so on the current value too, and the same writes
can be made without caches. -/
structure Transparent (L : Loop ι V ρ) (N : Net κ R) (s : State κ R ι V ρ) : Prop where
  writes : Written L s.log
  skips : ∀ c input result, s.phase c = .returned input (some result) →
    (∀ w ∈ s.log, w.caller ≠ c) → ∃ r, L.decide input (current s.log) = .finish r
  uncached : ∃ acts s', StepSystem.run (CasLoop.step L { N with cached := false }) {} acts =
    some s' ∧ s'.log = s.log

/-- Caches are transparent if the loop is stable and what is skipped on some value is skipped on
later ones. -/
theorem transparent_of_run {acts : List (Action κ R ι)} (hmax : 0 < L.maxAttempts)
    (hstable : ∀ log : List (Write κ ι V), Written L log → Stable L log)
    (hskip : ∀ c input result revision, s.phase c = .returned input (some result) →
      L.decide input (valueAt s.log revision) = .finish result →
      ∃ r, L.decide input (current s.log) = .finish r)
    (hrun : StepSystem.run (CasLoop.step L N) {} acts = some s) : Transparent L N s where
  writes := (sound_of_run hrun).written
  skips := by
    intro c input result hc hwrites
    rcases (sound_of_run hrun).of_phase hc with
      ⟨pre, value, post, next, hlog, -⟩ | ⟨revision, -, hdecide⟩
    · exact absurd rfl (hwrites { caller := c, input := input, value := value } (by simp [hlog]))
    · exact hskip c input result revision hc hdecide
  uncached := exists_uncached_run hmax hstable hrun

omit [DecidableEq κ] in
/-- A loop whose attempts keep their input is stable. -/
lemma stable_of_keep {log : List (Write κ ι V)}
    (h : ∀ input v next value result, L.decide input v = .write next value result → next = input) :
    Stable L log :=
  fun _ input _ _ _ next value result _ _ hdecide => h input _ next value result hdecide

end Uncached

end CasLoop
