import Mathlib.Tactic.Common
import Mathlib.Data.Option.Basic

/-!
# Runs of a step function

A system is a partial step function: `step s a` is the state after the action `a`, or `none` when
`a` is not enabled in `s`.  A run is a list of actions taken one after the other.  `Along` says
that every action of a run meets a condition in the state in which it is taken; the invariant rule
`run_invariant` is for runs that meet such a condition.
-/

namespace StepSystem

variable {σ α : Type*} (step : σ → α → Option σ)

/-- The state after a list of actions, if each of them is enabled when it is taken. -/
def run : σ → List α → Option σ
  | s, [] => some s
  | s, a :: as => (step s a).bind fun s' => run s' as

/-- Every action of the run meets `P` in the state in which it is taken. -/
def Along (P : σ → α → Prop) : σ → List α → Prop
  | _, [] => True
  | s, a :: as => P s a ∧ (step s a).elim True fun s' => Along P s' as

/-- A decidable condition can be checked along a run. -/
instance Along.decidable {step : σ → α → Option σ} {P : σ → α → Prop}
    [∀ s a, Decidable (P s a)] : ∀ s as, Decidable (Along step P s as)
  | _, [] => inferInstanceAs (Decidable True)
  | s, a :: as =>
    have : Decidable ((step s a).elim True fun s' => Along step P s' as) :=
      match step s a with
      | none => inferInstanceAs (Decidable True)
      | some s' => Along.decidable s' as
    inferInstanceAs (Decidable (_ ∧ _))

variable {step} {P : σ → α → Prop} {s s' : σ} {a : α} {as bs : List α}

/-- A run is its first step followed by a run. -/
lemma run_cons : run step s (a :: as) = some s' ↔
    ∃ t, step s a = some t ∧ run step t as = some s' :=
  Option.bind_eq_some_iff

/-- A run of two lists is a run of the first followed by a run of the second. -/
lemma run_append : run step s (as ++ bs) = some s' ↔
    ∃ t, run step s as = some t ∧ run step t bs = some s' := by
  induction as generalizing s with
  | nil => simp [run]
  | cons a as ih =>
    rw [List.cons_append, run_cons]
    constructor
    · rintro ⟨t, ht, hrest⟩
      obtain ⟨u, hu, hbs⟩ := ih.mp hrest
      exact ⟨u, run_cons.mpr ⟨t, ht, hu⟩, hbs⟩
    · rintro ⟨u, hu, hbs⟩
      obtain ⟨t, ht, hrest⟩ := run_cons.mp hu
      exact ⟨t, ht, ih.mpr ⟨u, hrest, hbs⟩⟩

/-- A condition along a run holds for its first step and along the rest. -/
lemma Along.cons {t : σ} (h : Along step P s (a :: as)) (ht : step s a = some t) :
    P s a ∧ Along step P t as := by
  obtain ⟨hok, hrest⟩ := h
  rw [ht] at hrest
  exact ⟨hok, hrest⟩

/-- A condition along a run and along what follows it. -/
lemma Along.append (h : Along step P s as)
    (h' : ∀ t, run step s as = some t → Along step P t bs) : Along step P s (as ++ bs) := by
  induction as generalizing s with
  | nil => exact h' s rfl
  | cons a as ih =>
    refine ⟨h.1, ?_⟩
    cases hstep : step s a with
    | none => exact trivial
    | some t =>
      exact ih (h.cons hstep).2 fun u hu => h' u (run_cons.mpr ⟨t, hstep, hu⟩)

/-- A condition along a run holds along its beginning and along the rest. -/
lemma Along.split (h : Along step P s (as ++ bs)) (hrun : run step s as = some s') :
    Along step P s as ∧ Along step P s' bs := by
  induction as generalizing s with
  | nil =>
    cases hrun
    exact ⟨trivial, h⟩
  | cons a as ih =>
    obtain ⟨t, ht, hrest⟩ := run_cons.mp hrun
    obtain ⟨hok, hafter⟩ := Along.cons h ht
    obtain ⟨hpre, hpost⟩ := ih hafter hrest
    refine ⟨⟨hok, ?_⟩, hpost⟩
    rw [ht]
    exact hpre

/-- A condition that the actions of a run meet in every state is met along it. -/
lemma Along.of_forall (h : ∀ a ∈ as, ∀ s, P s a) (s : σ) : Along step P s as := by
  induction as generalizing s with
  | nil => exact trivial
  | cons a as ih =>
    refine ⟨h a List.mem_cons_self s, ?_⟩
    cases step s a with
    | none => exact trivial
    | some t => exact ih (fun b hb => h b (List.mem_cons_of_mem a hb)) t

/-- A weaker condition is met along the same run. -/
lemma Along.mono {Q : σ → α → Prop} (h : ∀ s a, P s a → Q s a)
    (hrun : Along step P s as) : Along step Q s as := by
  induction as generalizing s with
  | nil => exact trivial
  | cons a as ih =>
    obtain ⟨hok, hrest⟩ := hrun
    refine ⟨h s a hok, ?_⟩
    cases hstep : step s a with
    | none => exact trivial
    | some t =>
      rw [hstep] at hrest
      exact ih hrest

/-- A condition that is weaker in the states of an invariant is met along the same run. -/
lemma Along.mono_of_step {I : σ → Prop} {Q : σ → α → Prop}
    (hstep : ∀ s a s', I s → step s a = some s' → I s') (h : ∀ s a, I s → P s a → Q s a) (hinit : I s)
    (hrun : Along step P s as) : Along step Q s as := by
  induction as generalizing s with
  | nil => exact trivial
  | cons a as ih =>
    obtain ⟨hok, hrest⟩ := hrun
    refine ⟨h s a hinit hok, ?_⟩
    cases ht : step s a with
    | none => exact trivial
    | some t =>
      rw [ht] at hrest
      exact ih (hstep s a t hinit ht) hrest

/-- Two conditions are met along a run together. -/
lemma Along.and {Q : σ → α → Prop} (h : Along step P s as) (h' : Along step Q s as) :
    Along step (fun s a => P s a ∧ Q s a) s as := by
  induction as generalizing s with
  | nil => exact trivial
  | cons a as ih =>
    obtain ⟨hok, hrest⟩ := h
    obtain ⟨hok', hrest'⟩ := h'
    refine ⟨⟨hok, hok'⟩, ?_⟩
    cases hstep : step s a with
    | none => exact trivial
    | some t =>
      rw [hstep] at hrest hrest'
      exact ih hrest hrest'

/-- The invariant rule: what every step that meets the condition preserves holds at the end of
every run along which the condition is met. -/
theorem run_invariant {I : σ → Prop}
    (hstep : ∀ s a s', I s → P s a → step s a = some s' → I s')
    (hinit : I s) (hok : Along step P s as) (hrun : run step s as = some s') : I s' := by
  induction as generalizing s with
  | nil =>
    cases hrun
    exact hinit
  | cons a as ih =>
    obtain ⟨t, ht, hrest⟩ := run_cons.mp hrun
    obtain ⟨hok, hokrest⟩ := hok.cons ht
    exact ih (hstep s a t hinit hok ht) hokrest hrest

/-- The invariant rule for all runs. -/
theorem run_invariant_of_step {I : σ → Prop}
    (hstep : ∀ s a s', I s → step s a = some s' → I s')
    (hinit : I s) (hrun : run step s as = some s') : I s' :=
  run_invariant (P := fun _ _ => True) (fun s a s' hinv _ => hstep s a s' hinv) hinit
    (Along.of_forall (fun _ _ _ => trivial) s) hrun

end StepSystem
