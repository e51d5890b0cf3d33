import Boutique.Lib.CasLoop

/-!
# Update loops are atomic

Without caches, the calls of update loops behave as if each of them had read, decided and written in
one step, at the moment of its last read or of its successful write.  So the calls can be put in one
order, which agrees with the order in which they started and returned.
-/

namespace CasLoop

variable {κ ι V ρ : Type*}

/-- A call in one step. -/
def Loop.apply (L : Loop ι V ρ) (value : Option V) (input : ι) : Option V × ρ :=
  match L.decide input value with
  | .finish result => (value, result)
  | .write _ value result => (some value, result)

/-- Calls one after the other, with their results. -/
inductive Sequence (L : Loop ι V ρ) : List (κ × ι × ρ) → Option V → Prop where
  | nil : Sequence L [] none
  | snoc {calls : List (κ × ι × ρ)} {value value' : Option V} {c : κ} {input : ι} {result : ρ}
      (h : Sequence L calls value) (hc : L.apply value input = (value', result)) :
      Sequence L (calls ++ [(c, input, result)]) value'

/-- The call has been settled with this result, or not yet. -/
def Phase.Done (done : List (κ × ι × ρ)) (c : κ) : Phase ι V ρ → Prop
  | .wrote input _ _ result | .returned input (some result) => (c, input, result) ∈ done
  | .refused _ _ false | .returned _ none => True
  | .keep _ _ _ _ => False
  | _ => c ∉ done.map Prod.fst

/-- The settled calls are a sequence of calls in one step, each call once. -/
structure Linear (L : Loop ι V ρ) (s : State κ Unit ι V ρ) : Prop where
  sequence : Sequence L s.done (current s.log)
  phases : ∀ c, (s.phase c).Done s.done c
  nodup : (s.done.map Prod.fst).Nodup
  cache : ∀ r, s.cache r = none

variable {L : Loop ι V ρ} {s s' : State κ Unit ι V ρ} {a : Action κ Unit ι} {c : κ}

/-- What is known of a call does not depend on the calls that are settled later. -/
lemma Phase.Done.concat {done : List (κ × ι × ρ)} {p : Phase ι V ρ} {d : κ} {input : ι} {result : ρ}
    (h : p.Done done d) (hne : d ≠ c) : p.Done (done ++ [(c, input, result)]) d := by
  have hnot : d ∉ done.map Prod.fst → d ∉ (done ++ [(c, input, result)]).map Prod.fst := by
    intro hd
    simpa [hne] using hd
  cases p with
  | wrote => exact List.mem_append_left _ h
  | returned input result =>
    cases result with
    | none => trivial
    | some result => exact List.mem_append_left _ h
  | refused next n conflict =>
    cases conflict with
    | true => exact hnot h
    | false => trivial
  | keep => exact h
  | idle | lookup | fetch | write => exact hnot h

/-- What is known of a call whose phase is known. -/
lemma Linear.of_phase (h : Linear L s) {p : Phase ι V ρ} (hc : s.phase c = p) : p.Done s.done c :=
  hc ▸ h.phases c

variable [DecidableEq κ]

/-- A call moves on. -/
lemma Linear.setPhase (h : Linear L s) {p : Phase ι V ρ} (hp : p.Done s.done c) :
    Linear L (s.setPhase c p) :=
  ⟨h.sequence, forall_setPhase (Q := fun c p => p.Done s.done c) h.phases hp, h.nodup, h.cache⟩

/-- A call is settled. -/
lemma Linear.finish (h : Linear L s) {p : Phase ι V ρ} {input : ι} {result : ρ}
    (log : List (Write κ ι V)) (hc : c ∉ s.done.map Prod.fst)
    (hp : p.Done (s.done ++ [(c, input, result)]) c)
    (happly : L.apply (current s.log) input = (current log, result)) :
    Linear L { s.setPhase c p with log := log, done := s.done ++ [(c, input, result)] } := by
  refine ⟨.snoc h.sequence happly, fun d => ?_, ?_, h.cache⟩
  · by_cases hd : d = c
    · subst hd
      change (Function.update s.phase d p d).Done _ d
      rw [Function.update_self]
      exact hp
    · change (Function.update s.phase c p d).Done _ d
      rw [Function.update_of_ne hd]
      exact (h.phases d).concat hd
  · change ((s.done ++ [(c, input, result)]).map Prod.fst).Nodup
    rw [List.map_append, List.nodup_append]
    refine ⟨h.nodup, by simp, ?_⟩
    rintro d hd e he rfl
    rw [List.map_singleton, List.mem_singleton] at he
    change d = c at he
    exact hc (he ▸ hd)

/-- A call decides on the current value. -/
lemma Linear.settle (h : Linear L s) {input : ι} {n revision : ℕ}
    (hc : c ∉ s.done.map Prod.fst) :
    Linear L (s.settle L c input n revision (current s.log)) := by
  unfold State.settle
  split
  · next result hdecide =>
    refine h.finish s.log hc (List.mem_append_right _ (by simp)) ?_
    rw [Loop.apply, hdecide]
  · exact h.setPhase hc

/-- A call writes. -/
lemma Linear.commit (h : Linear L s) (hsound : Sound L s) {input next : ι} {n : ℕ} {value : V}
    {result : ρ} {p : Phase ι V ρ} (hc : s.phase c = .write input n s.log.length next value result)
    (hp : p.Done (s.done ++ [(c, input, result)]) c) :
    Linear L (s.commit c input value result p) := by
  refine h.finish _ (h.of_phase hc) hp ?_
  have hdecide := (hsound.of_phase hc).2
  rw [valueAt_length] at hdecide
  rw [Loop.apply, hdecide, current_concat]

/-- Every step keeps the settled calls in a sequence. -/
lemma Linear.step (h : Linear L s) (hsound : Sound L s) (hmove : Move L (.plain κ) s a s') :
    Linear L s' := by
  have hplain : ∀ (t : State κ Unit ι V ρ) c entry, t.setCache (.plain κ) c entry = t :=
    fun _ _ _ => rfl
  cases hmove with
  | start hc =>
    have hdone := h.of_phase hc
    exact h.setPhase hdone
  | hit hc hcache =>
    rw [h.cache] at hcache
    cases hcache
  | miss hc hcache =>
    have hdone := h.of_phase hc
    exact h.setPhase hdone
  | found hc hvalue hN => cases hN
  | read hc hvalue hN =>
    rw [← hvalue]
    exact h.settle (h.of_phase hc)
  | absent hc hvalue =>
    rw [← hvalue]
    exact h.settle (h.of_phase hc)
  | kept hc => exact (h.of_phase hc).elim
  | committed hc => exact h.commit hsound hc (List.mem_append_right _ (by simp))
  | conflict hc hrevision =>
    have hdone := h.of_phase hc
    exact h.setPhase hdone
  | lost hc => exact h.commit hsound hc trivial
  | stored hc =>
    have hdone := h.of_phase hc
    rw [hplain]
    exact h.setPhase hdone
  | again hc hn =>
    have hdone := h.of_phase hc
    rw [hplain]
    exact h.setPhase hdone
  | gaveUp hc =>
    rw [hplain]
    exact h.setPhase trivial
  | failed hc => exact h.setPhase trivial
  | @evicted r =>
    refine ⟨h.sequence, h.phases, h.nodup, fun r' => ?_⟩
    change Function.update s.cache r none r' = none
    rw [Function.update_apply, h.cache, ite_self]

/-- The settled calls of a run are a sequence of calls in one step. -/
theorem linear_of_run {acts : List (Action κ Unit ι)}
    (hrun : StepSystem.run (CasLoop.step L (.plain κ)) {} acts = some s) : Linear L s := by
  have hboth := StepSystem.run_invariant_of_step (I := fun s => Sound L s ∧ Linear L s)
    (fun s a s' h hstep => ⟨h.1.step (step_move hstep), h.2.step h.1 (step_move hstep)⟩)
    ⟨.init, .nil, fun _ => by simp [Phase.Done], .nil, fun _ => rfl⟩ hrun
  exact hboth.2

/-! ## Conditions on the calls -/

/-- Every call that is running or settled meets a condition on the calls settled before it. -/
structure Supplied (G : List (κ × ι × ρ) → κ → ι → Prop) (s : State κ Unit ι V ρ) : Prop where
  phases : ∀ c, (s.phase c).Inputs (G s.done c)
  done : ∀ pre c input result post, s.done = pre ++ (c, input, result) :: post → G pre c input

section Supplied

variable {G : List (κ × ι × ρ) → κ → ι → Prop}

omit [DecidableEq κ] in
/-- The condition on a call whose phase is known. -/
lemma Supplied.of_phase (h : Supplied G s) {p : Phase ι V ρ} (hc : s.phase c = p) :
    p.Inputs (G s.done c) :=
  hc ▸ h.phases c

/-- A call moves on. -/
lemma Supplied.setPhase (h : Supplied G s) {p : Phase ι V ρ} (hp : p.Inputs (G s.done c)) :
    Supplied G (s.setPhase c p) :=
  ⟨forall_setPhase (Q := fun c p => p.Inputs (G s.done c)) h.phases hp, h.done⟩

omit [DecidableEq κ] in
/-- A condition on inputs can be weakened. -/
lemma Phase.Inputs.mono {P Q : ι → Prop} {p : Phase ι V ρ} (h : p.Inputs P)
    (hPQ : ∀ input, P input → Q input) : p.Inputs Q := by
  cases p with
  | idle => trivial
  | write => exact ⟨hPQ _ h.1, hPQ _ h.2⟩
  | lookup | fetch | keep | wrote | refused | returned => exact hPQ _ h

variable (hmono : ∀ done x c input, G done c input → G (done ++ [x]) c input)

include hmono

/-- A call is settled. -/
lemma Supplied.finish (h : Supplied G s) {p : Phase ι V ρ} {input : ι} {result : ρ}
    (log : List (Write κ ι V)) (hinput : G s.done c input) (hp : p.Inputs (G s.done c)) :
    Supplied G { s.setPhase c p with log := log, done := s.done ++ [(c, input, result)] } := by
  refine ⟨fun d => ((h.setPhase hp).phases d).mono fun i hi => hmono _ _ _ _ hi, ?_⟩
  intro pre d i r post heq
  rcases List.append_eq_append_iff.mp heq with ⟨mid, rfl, hmid⟩ | ⟨mid, hdone, hmid⟩
  · cases mid with
    | nil =>
      obtain ⟨⟨⟩, -⟩ := List.cons.inj hmid
      rw [List.append_nil]
      exact hinput
    | cons _ mid => simp at hmid
  · cases mid with
    | nil =>
      obtain ⟨⟨⟩, -⟩ := List.cons.inj hmid
      rw [List.append_nil] at hdone
      exact hdone ▸ hinput
    | cons x mid =>
      obtain ⟨rfl, -⟩ := List.cons.inj hmid
      exact h.done pre d i r mid hdone

/-- A call decides. -/
lemma Supplied.settle (h : Supplied G s) {input : ι} {n revision : ℕ} {value : Option V}
    (hclosed : Closed L (G s.done c)) (hinput : G s.done c input) :
    Supplied G (s.settle L c input n revision value) := by
  unfold State.settle
  split
  · exact h.finish hmono s.log hinput hinput
  · next next value result hdecide =>
    exact h.setPhase ⟨hinput, hclosed input _ next value result hinput hdecide⟩

/-- Every step keeps the condition. -/
lemma Supplied.step (h : Supplied G s) (hclosed : ∀ done c, Closed L (G done c))
    (hstart : ∀ c input, a = .start c input → G s.done c input)
    (hmove : Move L (.plain κ) s a s') : Supplied G s' := by
  have hplain : ∀ (t : State κ Unit ι V ρ) c entry, t.setCache (.plain κ) c entry = t :=
    fun _ _ _ => rfl
  cases hmove with
  | start hc => exact h.setPhase (hstart _ _ rfl)
  | hit hc hcache =>
    have hinput := h.of_phase hc
    exact h.settle hmono (hclosed _ _) hinput
  | miss hc hcache =>
    have hinput := h.of_phase hc
    exact h.setPhase hinput
  | found hc hvalue hN => cases hN
  | read hc hvalue hN =>
    have hinput := h.of_phase hc
    exact h.settle hmono (hclosed _ _) hinput
  | absent hc hvalue =>
    have hinput := h.of_phase hc
    exact h.settle hmono (hclosed _ _) hinput
  | kept hc =>
    have hinput := h.of_phase hc
    rw [hplain]
    exact h.settle hmono (hclosed _ _) hinput
  | committed hc =>
    have hinput := h.of_phase hc
    exact h.finish hmono _ hinput.1 hinput.1
  | conflict hc hrevision =>
    have hinput := h.of_phase hc
    exact h.setPhase hinput.2
  | lost hc =>
    have hinput := h.of_phase hc
    exact h.finish hmono _ hinput.1 hinput.2
  | stored hc =>
    have hinput := h.of_phase hc
    rw [hplain]
    exact h.setPhase hinput
  | again hc hn =>
    have hinput := h.of_phase hc
    rw [hplain]
    exact h.setPhase hinput
  | gaveUp hc =>
    have hinput := h.of_phase hc
    rw [hplain]
    exact h.setPhase hinput
  | failed hc =>
    refine h.setPhase ?_
    rcases hc with ⟨_, hc⟩ | ⟨_, hc⟩ | ⟨_, _, _, hc⟩ | ⟨_, _, _, _, _, hc⟩ <;>
      have hinput := h.of_phase hc
    · exact hinput
    · exact hinput
    · exact hinput
    · exact hinput.1
  | evicted => exact ⟨h.phases, h.done⟩

/-- If every call meets the condition when it is started, it does so when it is settled. -/
theorem supplied_of_run {acts : List (Action κ Unit ι)} (hclosed : ∀ done c, Closed L (G done c))
    (hstart : StepSystem.Along (CasLoop.step L (.plain κ))
      (fun s a => ∀ c input, a = .start c input → Linear L s → G s.done c input) {} acts)
    (hrun : StepSystem.run (CasLoop.step L (.plain κ)) {} acts = some s) : Supplied G s := by
  have hinv := StepSystem.run_invariant
    (I := fun s => (Sound L s ∧ Linear L s) ∧ Supplied G s)
    (fun s a s' h hok hstep => ⟨⟨h.1.1.step (step_move hstep), h.1.2.step h.1.1 (step_move hstep)⟩,
      h.2.step hmono hclosed (fun c input ha => hok c input ha h.1.2) (step_move hstep)⟩)
    ⟨⟨.init, .nil, fun _ => by simp [Phase.Done], .nil, fun _ => rfl⟩, fun _ => trivial,
      fun pre c input result post heq => by simp at heq⟩ hstart hrun
  exact hinv.2

end Supplied

/-! ## Settled calls -/

/-- A call that has returned stays as it is. -/
lemma Move.returned (hmove : Move L (.plain κ) s a s') {input : ι} {result : Option ρ}
    (hc : s.phase c = .returned input result) : s'.phase c = .returned input result := by
  have hset : ∀ (t : State κ Unit ι V ρ) d p, t.phase = s.phase → s.phase d ≠ s.phase c →
      (t.setPhase d p).phase c = .returned input result := by
    intro t d p ht hd
    rw [setPhase_phase, Function.update_of_ne (fun h => hd (by rw [h])), ht, hc]
  have hsettle : ∀ d input' n revision value, s.phase d ≠ s.phase c →
      (s.settle L d input' n revision value).phase c = .returned input result := by
    intro d input' n revision value hd
    unfold State.settle
    split
    · exact hset s d _ rfl hd
    · exact hset s d _ rfl hd
  cases hmove with
  | start h | miss h | found h | conflict h => exact hset _ _ _ rfl (by rw [h, hc]; simp)
  | hit h | read h | absent h => exact hsettle _ _ _ _ _ (by rw [h, hc]; simp)
  | kept h => exact hsettle _ _ _ _ _ (by rw [h, hc]; simp)
  | committed h | lost h => exact hset _ _ _ rfl (by rw [h, hc]; simp)
  | stored h | again h | gaveUp h => exact hset _ _ _ rfl (by rw [h, hc]; simp)
  | failed h =>
    refine hset _ _ _ rfl ?_
    rcases h with ⟨_, h⟩ | ⟨_, h⟩ | ⟨_, _, _, h⟩ | ⟨_, _, _, _, _, h⟩ <;> rw [h, hc] <;> simp
  | evicted => exact hc

/-- A settled call has returned its result, or it has written. -/
def Settled (s : State κ Unit ι V ρ) : Prop :=
  ∀ c input result, (c, input, result) ∈ s.done →
    s.phase c = .returned input (some result) ∨ ∃ w ∈ s.log, w.caller = c ∧ w.input = input

/-- Every step keeps the settled calls settled. -/
lemma Settled.step (h : Settled s) (hmove : Move L (.plain κ) s a s') : Settled s' := by
  -- what was settled before stays so, as the writes only get more
  have hold : ∀ more, s'.log = s.log ++ more → ∀ c input result, (c, input, result) ∈ s.done →
      s'.phase c = .returned input (some result) ∨
        ∃ w ∈ s'.log, w.caller = c ∧ w.input = input := by
    intro more hlog c input result hdone
    rcases h c input result hdone with hc | ⟨w, hw, hwc⟩
    · exact .inl (hmove.returned hc)
    · exact .inr ⟨w, hlog ▸ List.mem_append_left _ hw, hwc⟩
  have hsame : s'.log = s.log → s'.done = s.done → Settled s' := by
    intro hlog hdone c input result hmem
    exact hold [] (by rw [hlog, List.append_nil]) c input result (hdone ▸ hmem)
  have hsettle : ∀ d i n revision value, s' = s.settle L d i n revision value → Settled s' := by
    rintro d i n revision value rfl
    cases hdecide : L.decide i value with
    | write next value' result =>
      refine hsame ?_ ?_
      · rw [State.settle, hdecide]
        rfl
      · rw [State.settle, hdecide]
        rfl
    | finish result =>
      intro c input r hmem
      simp only [State.settle, hdecide, List.mem_append, List.mem_singleton, Prod.mk.injEq] at hmem
      rcases hmem with hmem | ⟨rfl, rfl, rfl⟩
      · exact hold [] (by simp) c input r hmem
      · left
        simp [State.settle, hdecide]
  have hcommit : ∀ d i value result p, s' = s.commit d i value result p → Settled s' := by
    rintro d i value result p rfl c input r hmem
    rcases List.mem_append.mp hmem with hmem | hmem
    · exact hold _ rfl c input r hmem
    · rw [List.mem_singleton, Prod.mk.injEq, Prod.mk.injEq] at hmem
      obtain ⟨rfl, rfl, rfl⟩ := hmem
      exact .inr ⟨_, List.mem_append_right _ (List.mem_singleton_self _), rfl, rfl⟩
  cases hmove with
  | start | miss | found | conflict | stored | again | gaveUp | failed | evicted =>
    exact hsame rfl rfl
  | hit | read | absent | kept => exact hsettle _ _ _ _ _ rfl
  | committed | lost => exact hcommit _ _ _ _ _ rfl

/-- The settled calls of a run have returned or written. -/
theorem settled_of_run {acts : List (Action κ Unit ι)}
    (hrun : StepSystem.run (CasLoop.step L (.plain κ)) {} acts = some s) : Settled s :=
  StepSystem.run_invariant_of_step (fun _ _ _ h hstep => h.step (step_move hstep))
    (fun _ _ _ h => by simp at h) hrun

/-! ## Real time -/

/-- Settled calls stay settled, in the same order. -/
lemma Move.done_mono (hmove : Move L (.plain κ) s a s') : s.done <+: s'.done := by
  have hsettle : ∀ c input n revision value,
      s.done <+: (s.settle L c input n revision value).done := by
    intro c input n revision value
    unfold State.settle
    split
    · exact List.prefix_append _ _
    · exact List.prefix_rfl
  cases hmove with
  | start | miss | found | conflict | stored | again | gaveUp | failed | evicted =>
    exact List.prefix_rfl
  | hit | read | absent | kept => exact hsettle _ _ _ _ _
  | committed | lost => exact List.prefix_append _ _

/-- Along a run the sequence of settled calls only gets longer. -/
lemma done_prefix_of_run {acts : List (Action κ Unit ι)}
    (hrun : StepSystem.run (CasLoop.step L (.plain κ)) s acts = some s') : s.done <+: s'.done :=
  StepSystem.run_invariant_of_step (I := fun t => s.done <+: t.done)
    (fun _ _ _ h hstep => h.trans (step_move hstep).done_mono) List.prefix_rfl hrun

/-- In the run, `c` returned before `d` was started. -/
def Precedes (L : Loop ι V ρ) (acts : List (Action κ Unit ι)) (c d : κ) : Prop :=
  ∃ as bs t, acts = as ++ bs ∧ StepSystem.run (CasLoop.step L (.plain κ)) {} as = some t ∧
    (∃ input result, t.phase c = .returned input (some result)) ∧ t.phase d = .idle

/-- A call that returned before another was started comes before it in the sequence. -/
theorem done_of_precedes {acts : List (Action κ Unit ι)} {d : κ}
    (hrun : StepSystem.run (CasLoop.step L (.plain κ)) {} acts = some s)
    (h : Precedes L acts c d) :
    ∃ pre post, s.done = pre ++ post ∧ c ∈ pre.map Prod.fst ∧ d ∉ pre.map Prod.fst := by
  obtain ⟨as, bs, t, rfl, has, ⟨input, result, hc⟩, hd⟩ := h
  obtain ⟨t', ht', hbs⟩ := StepSystem.run_append.mp hrun
  rw [has] at ht'
  cases ht'
  obtain ⟨post, hpost⟩ := done_prefix_of_run hbs
  have hlinear := linear_of_run has
  exact ⟨t.done, post, hpost.symm, List.mem_map.mpr ⟨_, hlinear.of_phase hc, rfl⟩,
    hlinear.of_phase hd⟩

end CasLoop
