import Boutique.Lib.CasLoop
import Mathlib.Order.Basic

/-!
# Update loops that keep the largest event

A gate is a loop whose attempt writes the value of its event unless the stored value has a key that
is at least as large.  Whatever the interleaving of the attempts, the key of the stored value only
grows, and when all calls have returned the value of the largest event is stored.
-/

namespace CasLoop

variable {κ R ι V K : Type*} [LinearOrder K]

/-- On the values of the events in `P` the loop decides by the key. -/
structure Gate (L : Loop ι V Unit) (value : ι → V) (key : V → K) (P : ι → Prop) : Prop where
  keep : ∀ input v next w result, L.decide input v = .write next w result → next = input
  absent : ∀ e, L.decide e none = .write e (value e) ()
  present : ∀ e e', P e → P e' → L.decide e (some (value e')) =
    if key (value e) ≤ key (value e') then .finish () else .write e (value e) ()

/-- The event was delivered to some call. -/
def Delivered (acts : List (Action κ R ι)) (e : ι) : Prop := ∃ c, Action.start c e ∈ acts

/-- All calls have returned without an error. -/
def State.Quiet {ρ : Type*} (s : State κ R ι V ρ) : Prop :=
  ∀ c, s.phase c = .idle ∨ ∃ input result, s.phase c = .returned input (some result)

/-- The stored value grows with every write, and ends with the largest event. -/
structure Converges (value : ι → V) (key : V → K) (acts : List (Action κ R ι))
    (s : State κ R ι V Unit) : Prop where
  event : ∀ w ∈ s.log, w.value = value w.input ∧ Delivered acts w.input
  rising : (s.log.map Write.value).Pairwise fun u v => key u < key v
  limit : s.Quiet → ∀ e, Delivered acts e →
    (∀ e', Delivered acts e' → key (value e') ≤ key (value e)) → current s.log = some (value e)

variable {L : Loop ι V Unit} {value : ι → V} {key : V → K} {P : ι → Prop}
  {log : List (Write κ ι V)}

/-- The writes of a gate are the values of their events. -/
lemma Gate.written (h : Gate L value key P) (hlog : Written L log) (hP : ∀ w ∈ log, P w.input) :
    ∀ w ∈ log, w.value = value w.input := by
  induction log using List.reverseRecOn with
  | nil => simp
  | append_singleton log last ih =>
    have hvalue := ih hlog.left fun w hw => hP w (List.mem_append_left _ hw)
    intro w hw
    rcases List.mem_append.mp hw with hw | hw
    · exact hvalue w hw
    · rw [List.mem_singleton.mp hw]
      obtain ⟨next, result, hdecide⟩ := hlog log last [] rfl
      cases hcurrent : current log with
      | none =>
        rw [hcurrent, h.absent] at hdecide
        injection hdecide with _ hvalue
        exact hvalue.symm
      | some v =>
        -- the stored value is that of an event, too
        obtain ⟨u, hu, rfl⟩ := Option.map_eq_some_iff.mp hcurrent
        have hmem := List.mem_of_getLast? hu
        rw [hcurrent, hvalue u hmem, h.present _ _ (hP last (by simp))
          (hP u (List.mem_append_left _ hmem))] at hdecide
        split_ifs at hdecide
        injection hdecide with _ hvalue
        exact hvalue.symm

/-- A write replaces a value with a smaller key. -/
lemma Gate.lt_of_write (h : Gate L value key P) {e e' next : ι} {v : V} {result : Unit}
    (he : P e) (he' : P e') (hdecide : L.decide e (some (value e')) = .write next v result) :
    key (value e') < key v := by
  rw [h.present e e' he he'] at hdecide
  split_ifs at hdecide with hle
  injection hdecide with _ hvalue
  rw [← hvalue]
  exact lt_of_not_ge hle

variable [DecidableEq κ] [DecidableEq R] {N : Net κ R} {acts : List (Action κ R ι)}
  {s : State κ R ι V Unit}

/-- The inputs of a gate are the delivered events. -/
lemma Gate.inputs (h : Gate L value key P)
    (hrun : StepSystem.run (step L N) {} acts = some s) : Inputs (fun _ => Delivered acts) s :=
  inputs_of_run
    (fun _ input v next w result hinput hdecide => by rwa [h.keep input v next w result hdecide])
    (fun c input hmem => ⟨c, hmem⟩) hrun

/-- In every run of a gate a value has at most the key of the current one. -/
lemma Gate.key_le_current (h : Gate L value key (Delivered acts))
    (hrun : StepSystem.run (step L N) {} acts = some s) {w : Write κ ι V} (hw : w ∈ s.log) :
    ∃ v, current s.log = some v ∧ key w.value ≤ key v := by
  have hinputs := h.inputs hrun
  have hwritten := (sound_of_run hrun).written
  have hvalue := h.written hwritten hinputs.log
  refine hwritten.rel_current (r := fun u v => key u ≤ key v) (fun _ => le_rfl)
    (fun _ _ _ => le_trans) ?_ hw
  intro w hw u hu next result hdecide
  rw [hvalue u hu] at hdecide ⊢
  exact (h.lt_of_write (hinputs.log w hw) (hinputs.log u hu) hdecide).le

/-- An event that is skipped on some value is not larger than the current one. -/
lemma Gate.key_le_of_finish (h : Gate L value key (Delivered acts))
    (hrun : StepSystem.run (step L N) {} acts = some s) {e : ι} (he : Delivered acts e)
    {revision : ℕ} {result : Unit}
    (hdecide : L.decide e (valueAt s.log revision) = .finish result) :
    ∃ v, current s.log = some v ∧ key (value e) ≤ key v := by
  have hinputs := h.inputs hrun
  have hvalue := h.written (sound_of_run hrun).written hinputs.log
  cases hread : valueAt s.log revision with
  | none =>
    rw [hread, h.absent] at hdecide
    cases hdecide
  | some u =>
    obtain ⟨w, hw, rfl⟩ := valueAt_mem hread
    rw [hread, hvalue w hw, h.present _ _ he (hinputs.log w hw)] at hdecide
    split_ifs at hdecide with hkey
    obtain ⟨v, hv, hwv⟩ := h.key_le_current hrun hw
    rw [hvalue w hw] at hwv
    exact ⟨v, hv, hkey.trans hwv⟩

/-- An event that is skipped on some value would be skipped on the current one. -/
lemma Gate.finish_current (h : Gate L value key (Delivered acts))
    (hrun : StepSystem.run (step L N) {} acts = some s) {e : ι} (he : Delivered acts e)
    {revision : ℕ} {result : Unit}
    (hdecide : L.decide e (valueAt s.log revision) = .finish result) :
    L.decide e (current s.log) = .finish () := by
  have hinputs := h.inputs hrun
  obtain ⟨v, hv, hkey⟩ := h.key_le_of_finish hrun he hdecide
  obtain ⟨w, hw, rfl⟩ := Option.map_eq_some_iff.mp hv
  have hmem := List.mem_of_getLast? hw
  rw [h.written (sound_of_run hrun).written hinputs.log w hmem] at hkey hv
  rw [hv, h.present _ _ he (hinputs.log w hmem), if_pos hkey]

/-- Behind a call that has returned, an event is stored whose key is at least that of its event. -/
lemma Gate.current_of_returned (h : Gate L value key (Delivered acts))
    (hrun : StepSystem.run (step L N) {} acts = some s) {c : κ} {e : ι} {result : Unit}
    (hreturned : s.phase c = .returned e (some result)) :
    ∃ e', Delivered acts e' ∧ current s.log = some (value e') ∧ key (value e) ≤ key (value e') := by
  have hinputs := h.inputs hrun
  have hvalue := h.written (sound_of_run hrun).written hinputs.log
  have he : Delivered acts e := by
    have hphase := hinputs.of_phase hreturned
    exact hphase
  have hlast : ∃ v, current s.log = some v ∧ key (value e) ≤ key v := by
    rcases (sound_of_run hrun).of_phase hreturned with
      ⟨pre, v, post, next, hlog, -⟩ | ⟨revision, -, hdecide⟩
    · have hw : { caller := c, input := e, value := v } ∈ s.log := by simp [hlog]
      rw [← hvalue _ hw]
      exact h.key_le_current hrun hw
    · exact h.key_le_of_finish hrun he hdecide
  obtain ⟨v, hv, hle⟩ := hlast
  obtain ⟨w, hw, rfl⟩ := Option.map_eq_some_iff.mp hv
  have hmem := List.mem_of_getLast? hw
  exact ⟨w.input, hinputs.log w hmem, by rw [hv, hvalue w hmem], hvalue w hmem ▸ hle⟩

/-- Every run of a gate on events with different keys converges. -/
theorem Gate.converges (h : Gate L value key (Delivered acts))
    (hdistinct : ∀ e e', Delivered acts e → Delivered acts e' →
      key (value e) = key (value e') → value e = value e')
    (hrun : StepSystem.run (step L N) {} acts = some s) : Converges value key acts s := by
  have hwritten := (sound_of_run hrun).written
  have hinputs := h.inputs hrun
  have hvalue := h.written hwritten hinputs.log
  refine ⟨fun w hw => ⟨hvalue w hw, hinputs.log w hw⟩, ?_, ?_⟩
  · refine hwritten.pairwise (fun _ _ _ => lt_trans) ?_
    intro w hw u hu next result hdecide
    rw [hvalue u hu] at hdecide ⊢
    exact h.lt_of_write (hinputs.log w hw) (hinputs.log u hu) hdecide
  · intro hquiet e he hmax
    -- the call that got the largest event has written it, or found a value that is as large
    have hlast : ∃ v, current s.log = some v ∧ key (value e) ≤ key v := by
      obtain ⟨c, hc⟩ := he
      obtain ⟨hidle, hinput⟩ := started_input h.keep hrun hc
      obtain ⟨input, result, hreturned⟩ := (hquiet c).resolve_left hidle
      rw [hreturned] at hinput
      cases hinput
      rcases (sound_of_run hrun).of_phase hreturned with
        ⟨pre, v, post, next, hlog, -⟩ | ⟨revision, -, hdecide⟩
      · have hw : { caller := c, input := e, value := v } ∈ s.log := by simp [hlog]
        rw [← hvalue _ hw]
        exact h.key_le_current hrun hw
      · exact h.key_le_of_finish hrun ⟨c, hc⟩ hdecide
    obtain ⟨v, hv, hev⟩ := hlast
    obtain ⟨w, hw, rfl⟩ := Option.map_eq_some_iff.mp hv
    have hmem := List.mem_of_getLast? hw
    have hwe : key (value w.input) = key (value e) :=
      le_antisymm (hmax _ (hinputs.log w hmem)) (hvalue w hmem ▸ hev)
    rw [hv, hvalue w hmem]
    exact congrArg some (hdistinct _ _ (hinputs.log w hmem) he hwe)

end CasLoop
