import Boutique.Lib.Run
import Mathlib.Logic.Function.Basic
import Mathlib.Order.Nat

/-!
# Rounds of reports and decisions

Workers go through rounds over a store of named objects.  In each round every worker puts a report;
worker 0 waits for the reports of all workers, one after the other, decides and puts the decision; the
others wait for the decision.  A decision sends the workers to the next round, or stops them.  Any worker
may fail at any point, also after its object is stored.

All workers that return from a round return one decision, made from the reports of all workers, and no
worker is more than one round ahead of another.
-/

namespace Gather

/-! ## The protocol -/

/-- The names of the objects, which differ. -/
structure Names (K : Type*) where
  report : ℕ → ℕ → K
  decision : ℕ → K
  report_injective : ∀ {r i r' i'}, report r i = report r' i' → r = r' ∧ i = i'
  decision_injective : Function.Injective decision
  disjoint : ∀ r i r', report r i ≠ decision r'

/-- A protocol: the names, the number of workers, how worker 0 decides with its own memory and input, and
the decisions that stop the workers. -/
structure Protocol (K V D S L : Type*) where
  names : Names K
  workers : ℕ
  positive : 0 < workers
  decide : S → ℕ → L → List V → S × D
  stop : D → Bool

/-- Where a worker is. -/
inductive Phase (V D : Type*) where
  | working (r : ℕ)
  | waiting (r : ℕ)
  | collecting (r : ℕ) (reports : List V)
  | deciding (r : ℕ) (decision : D)
  | stopped (r : ℕ) (decision : D)
  | failed

/-- The decision with which a worker has returned from a round. -/
structure Return (D : Type*) where
  worker : ℕ
  round : ℕ
  decision : D

/-- The objects, the workers, the memory of worker 0, and the returns so far. -/
structure State (K V D S : Type*) where
  store : K → Option (V ⊕ D) := fun _ => none
  phase : ℕ → Phase V D := fun _ => .working 0
  memory : S
  returned : List (Return D) := []

/-- The steps: a worker puts its report; worker 0 gets the next report, decides, and puts the decision; a
worker gets the decision; a worker fails.  A put that is not acknowledged fails its worker. -/
inductive Action (V L : Type*) where
  | report (i : ℕ) (value : V) (acknowledged : Bool)
  | collect
  | decide (input : L)
  | announce (acknowledged : Bool)
  | receive (i : ℕ)
  | fail (i : ℕ)

section System

variable {K V D S L : Type*} [DecidableEq K] (P : Protocol K V D S L)

/-- The state with another place of a worker. -/
def State.setPhase (s : State K V D S) (i : ℕ) (phase : Phase V D) : State K V D S :=
  { s with phase := Function.update s.phase i phase }

/-- The state with another object. -/
def State.put (s : State K V D S) (name : K) (object : V ⊕ D) : State K V D S :=
  { s with store := Function.update s.store name (some object) }

/-- A worker returns from a round. -/
def State.return (s : State K V D S) (i r : ℕ) (decision : D) : State K V D S :=
  { s with returned := s.returned ++ [Return.mk i r decision] }.setPhase i
    (if P.stop decision then .stopped r decision else .working (r + 1))

/-- One step. -/
def step (s : State K V D S) : Action V L → Option (State K V D S)
  | .report i value acknowledged =>
    match s.phase i with
    | .working r =>
      if i < P.workers then
        some ((s.put (P.names.report r i) (.inl value)).setPhase i
          (if acknowledged then if i = 0 then .collecting r [] else .waiting r else .failed))
      else none
    | _ => none
  | .collect =>
    match s.phase 0 with
    | .collecting r reports =>
      if reports.length < P.workers then
        match s.store (P.names.report r reports.length) with
        | some (.inl value) => some (s.setPhase 0 (.collecting r (reports ++ [value])))
        | _ => none
      else none
    | _ => none
  | .decide input =>
    match s.phase 0 with
    | .collecting r reports =>
      if reports.length = P.workers then
        let (memory, decision) := P.decide s.memory r input reports
        some ({ s with memory := memory }.setPhase 0 (.deciding r decision))
      else none
    | _ => none
  | .announce acknowledged =>
    match s.phase 0 with
    | .deciding r decision =>
      let s := s.put (P.names.decision r) (.inr decision)
      some (if acknowledged then s.return P 0 r decision else s.setPhase 0 .failed)
    | _ => none
  | .receive i =>
    match s.phase i with
    | .waiting r =>
      match s.store (P.names.decision r) with
      | some (.inr decision) => some (s.return P i r decision)
      | _ => none
    | _ => none
  | .fail i => some (s.setPhase i .failed)

end System

/-! ## The invariant -/

section Invariant

variable {K V D S L : Type*} {P : Protocol K V D S L} {s s' : State K V D S}
  {store store' : K → Option (V ⊕ D)} {phase : Phase V D} {i r : ℕ} {decision : D}

/-- The number of rounds for which a worker has put its report, if it has not failed. -/
def Phase.reported : Phase V D → Option ℕ
  | .working r => some r
  | .waiting r | .collecting r _ | .deciding r _ | .stopped r _ => some (r + 1)
  | .failed => none

/-- The decision of a round was made from the reports of all workers. -/
def Decided (P : Protocol K V D S L) (store : K → Option (V ⊕ D)) (r : ℕ) (decision : D) : Prop :=
  ∃ reports : List V, reports.length = P.workers ∧
    (∀ i value, reports[i]? = some value → store (P.names.report r i) = some (.inl value)) ∧
    ∃ memory input, (P.decide memory r input reports).2 = decision

/-- The decisions of the rounds before `r` are stored, and did not stop the workers. -/
def DecidedBefore (P : Protocol K V D S L) (store : K → Option (V ⊕ D)) (r : ℕ) : Prop :=
  ∀ r' < r, ∃ decision, store (P.names.decision r') = some (.inr decision) ∧
    P.stop decision = false

/-- What holds where a worker is. -/
def PhaseOk (P : Protocol K V D S L) (store : K → Option (V ⊕ D)) : Phase V D → Prop
  | .working r | .waiting r => DecidedBefore P store r
  | .collecting r reports => DecidedBefore P store r ∧
      ∀ i value, reports[i]? = some value → store (P.names.report r i) = some (.inl value)
  | .deciding r decision => DecidedBefore P store r ∧ Decided P store r decision
  | .stopped r decision => DecidedBefore P store r ∧
      store (P.names.decision r) = some (.inr decision) ∧ P.stop decision = true
  | .failed => True

/-- Worker 0 has put no decision of its round or a later one. -/
def LeaderOk (P : Protocol K V D S L) (store : K → Option (V ⊕ D)) : Phase V D → Prop
  | .working r | .collecting r _ | .deciding r _ => ∀ r' ≥ r, store (P.names.decision r') = none
  | .waiting _ => False
  | .stopped _ _ | .failed => True

/-- Only worker 0 collects and decides. -/
def Phase.Follows : Phase V D → Prop
  | .collecting _ _ | .deciding _ _ => False
  | _ => True

/-- What is asked of a place of worker `i`. -/
structure PlaceOk (P : Protocol K V D S L) (store : K → Option (V ⊕ D)) (i : ℕ) (phase : Phase V D) :
    Prop where
  ok : PhaseOk P store phase
  fresh : ∀ n, phase.reported = some n → ∀ r ≥ n, store (P.names.report r i) = none
  leader : i = 0 → LeaderOk P store phase
  follows : i ≠ 0 → phase.Follows

/-- The invariant. -/
structure Inv (P : Protocol K V D S L) (s : State K V D S) : Prop where
  places : ∀ i, PlaceOk P s.store i (s.phase i)
  decisions : ∀ r decision, s.store (P.names.decision r) = some (.inr decision) →
    Decided P s.store r decision
  typed : ∀ r value, s.store (P.names.decision r) ≠ some (.inl value)
  returned : ∀ ret ∈ s.returned, s.store (P.names.decision ret.round) = some (.inr ret.decision)

/-- All objects of a store are in another one. -/
def Extends (store store' : K → Option (V ⊕ D)) : Prop :=
  ∀ name object, store name = some object → store' name = some object

/-- A decision stays made from the reports. -/
lemma Decided.mono (h : Decided P store r decision) (hext : Extends store store') :
    Decided P store' r decision := by
  obtain ⟨reports, hlength, hreports, hdecide⟩ := h
  exact ⟨reports, hlength, fun i value hi => hext _ _ (hreports i value hi), hdecide⟩

/-- Earlier decisions stay stored. -/
lemma DecidedBefore.mono (h : DecidedBefore P store r) (hext : Extends store store') :
    DecidedBefore P store' r := by
  intro r' hr'
  obtain ⟨decision, hstored, hstop⟩ := h r' hr'
  exact ⟨decision, hext _ _ hstored, hstop⟩

/-- The decisions before the next round. -/
lemma DecidedBefore.succ (h : DecidedBefore P store r)
    (hr : store (P.names.decision r) = some (.inr decision)) (hstop : P.stop decision = false) :
    DecidedBefore P store (r + 1) := by
  intro r' hr'
  rcases Nat.lt_succ_iff_lt_or_eq.mp hr' with hlt | rfl
  · exact h r' hlt
  · exact ⟨decision, hr, hstop⟩

/-- What holds of a worker holds when there are more objects. -/
lemma PhaseOk.mono (h : PhaseOk P store phase) (hext : Extends store store') :
    PhaseOk P store' phase := by
  cases phase with
  | working | waiting => exact DecidedBefore.mono h hext
  | collecting => exact ⟨h.1.mono hext, fun i value hi => hext _ _ (h.2 i value hi)⟩
  | deciding => exact ⟨h.1.mono hext, h.2.mono hext⟩
  | stopped => exact ⟨h.1.mono hext, hext _ _ h.2.1, h.2.2⟩
  | failed => trivial

/-- The initial state. -/
lemma Inv.init (memory : S) : Inv P { memory := memory } where
  places := fun i => ⟨fun r' hr' => absurd hr' (Nat.not_lt_zero _), fun _ _ _ _ => rfl,
    fun _ _ _ => rfl, fun _ => trivial⟩
  decisions := by rintro _ _ ⟨⟩
  typed := by rintro _ _ ⟨⟩
  returned := fun _ h => (List.not_mem_nil h).elim

/-- What holds of all places holds after a worker has moved. -/
lemma forall_setPhase {Q : ℕ → Phase V D → Prop} (h : ∀ j, Q j (s.phase j)) (hi : Q i phase) :
    ∀ j, Q j ((s.setPhase i phase).phase j) := by
  intro j
  by_cases hj : j = i
  · subst hj
    simpa [State.setPhase] using hi
  · simpa [State.setPhase, hj] using h j

/-- A worker moves. -/
lemma Inv.setPhase (h : Inv P s) (hplace : PlaceOk P s.store i phase) : Inv P (s.setPhase i phase) where
  places := forall_setPhase (Q := PlaceOk P s.store) h.places hplace
  decisions := h.decisions
  typed := h.typed
  returned := h.returned

/-- A failed worker. -/
lemma PlaceOk.failed : PlaceOk P store i (.failed : Phase V D) :=
  ⟨trivial, by rintro _ ⟨⟩, fun _ => trivial, fun _ => trivial⟩

/-- A worker returns from a round whose decision is stored. -/
lemma Inv.return (h : Inv P s) (decision : D) (hbefore : DecidedBefore P s.store r)
    (hdecision : s.store (P.names.decision r) = some (.inr decision))
    (hfresh : ∀ r' ≥ r + 1, s.store (P.names.report r' i) = none)
    (hleader : i = 0 → ∀ r' ≥ r + 1, s.store (P.names.decision r') = none) :
    Inv P (s.return P i r decision) := by
  have hreturned : Inv P { s with
      returned := s.returned ++ [Return.mk i r decision] } := by
    refine ⟨h.places, h.decisions, h.typed, fun ret hret => ?_⟩
    rcases List.mem_append.mp hret with hold | hnew
    · exact h.returned ret hold
    · obtain rfl := List.mem_singleton.mp hnew
      exact hdecision
  refine hreturned.setPhase ?_
  split_ifs with hstop
  · exact ⟨⟨hbefore, hdecision, hstop⟩, by rintro _ ⟨⟩; exact hfresh, fun _ => trivial,
      fun _ => trivial⟩
  · exact ⟨hbefore.succ hdecision (Bool.eq_false_iff.mpr hstop), by rintro _ ⟨⟩; exact hfresh,
      hleader, fun _ => trivial⟩

variable [DecidableEq K]

/-- A new object leaves the others. -/
lemma extends_put {name : K} (object : V ⊕ D) (h : s.store name = none) :
    Extends s.store (s.put name object).store := by
  intro name' object' hstored
  have hne : name' ≠ name := by
    rintro rfl
    rw [h] at hstored
    cases hstored
  simpa [State.put, Function.update_of_ne hne] using hstored

/-- A worker puts its report of a round. -/
lemma Inv.put_report (h : Inv P s) (value : V) (hphase : s.phase i = .working r) :
    Inv P ((s.put (P.names.report r i) (.inl value)).setPhase i .failed) ∧
      Extends s.store (s.put (P.names.report r i) (.inl value)).store := by
  have hnone : s.store (P.names.report r i) = none :=
    (h.places i).fresh r (by rw [hphase]; rfl) r le_rfl
  have hext := extends_put (.inl value) hnone
  have hdecision : ∀ r', (s.put (P.names.report r i) (.inl value)).store (P.names.decision r') =
      s.store (P.names.decision r') := by
    intro r'
    have hne : P.names.decision r' ≠ P.names.report r i := (P.names.disjoint r i r').symm
    simp [State.put, Function.update_of_ne hne]
  refine ⟨⟨fun j => ?_, fun r' decision hstored => ?_, fun r' value' => ?_, fun ret hret => ?_⟩, hext⟩
  · by_cases hj : j = i
    · subst hj
      have hfailed : (((s.put (P.names.report r j) (.inl value)).setPhase j .failed).phase j) =
          .failed := by simp [State.setPhase]
      rw [hfailed]
      exact .failed
    · have hsame : (((s.put (P.names.report r i) (.inl value)).setPhase i .failed).phase j) =
          s.phase j := by simp [State.setPhase, State.put, hj]
      rw [hsame]
      refine ⟨(h.places j).ok.mono hext, fun n hn r' hr' => ?_, fun h0 => ?_, (h.places j).follows⟩
      · have hne : P.names.report r' j ≠ P.names.report r i := fun heq =>
          hj (P.names.report_injective heq).2
        have hold := (h.places j).fresh n hn r' hr'
        simpa [State.setPhase, State.put, Function.update_of_ne hne] using hold
      · have hold := (h.places j).leader h0
        cases hp : s.phase j with
        | working | collecting | deciding =>
          rw [hp] at hold
          exact fun r' hr' => (hdecision r').trans (hold r' hr')
        | waiting =>
          rw [hp] at hold
          exact hold
        | stopped | failed => trivial
  · exact (h.decisions r' decision ((hdecision r').symm.trans hstored)).mono hext
  · exact fun hstored => h.typed r' value' ((hdecision r').symm.trans hstored)
  · exact (hdecision ret.round).trans (h.returned ret hret)

omit [DecidableEq K] in
/-- Only the last move of a worker counts. -/
lemma setPhase_setPhase (s : State K V D S) (i : ℕ) (p q : Phase V D) :
    (s.setPhase i p).setPhase i q = s.setPhase i q := by
  simp [State.setPhase]

/-- Worker 0 puts the decision of its round. -/
lemma Inv.put_decision (h : Inv P s) (hphase : s.phase 0 = .deciding r decision) :
    Inv P ((s.put (P.names.decision r) (.inr decision)).setPhase 0 .failed) ∧
      Extends s.store (s.put (P.names.decision r) (.inr decision)).store := by
  have hplace := h.places 0
  rw [hphase] at hplace
  have hnone : s.store (P.names.decision r) = none := hplace.leader rfl r le_rfl
  have hext := extends_put (.inr decision) hnone
  have hreport : ∀ r' j, (s.put (P.names.decision r) (.inr decision)).store (P.names.report r' j) =
      s.store (P.names.report r' j) := by
    intro r' j
    simp [State.put, Function.update_of_ne (P.names.disjoint r' j r)]
  have hput : ∀ r', r' ≠ r → (s.put (P.names.decision r) (.inr decision)).store
      (P.names.decision r') = s.store (P.names.decision r') := by
    intro r' hr'
    have hne : P.names.decision r' ≠ P.names.decision r :=
      fun heq => hr' (P.names.decision_injective heq)
    simp [State.put, Function.update_of_ne hne]
  have hnew : (s.put (P.names.decision r) (.inr decision)).store (P.names.decision r) =
      some (.inr decision) := by
    simp [State.put]
  refine ⟨⟨fun j => ?_, fun r' decision' hstored => ?_, fun r' value => ?_, fun ret hret => ?_⟩, hext⟩
  · by_cases hj : j = 0
    · subst hj
      have hfailed : (((s.put (P.names.decision r) (.inr decision)).setPhase 0 .failed).phase 0) =
          .failed := by simp [State.setPhase]
      rw [hfailed]
      exact .failed
    · have hsame : (((s.put (P.names.decision r) (.inr decision)).setPhase 0 .failed).phase j) =
          s.phase j := by simp [State.setPhase, State.put, hj]
      rw [hsame]
      exact ⟨(h.places j).ok.mono hext,
        fun n hn r' hr' => (hreport r' j).trans ((h.places j).fresh n hn r' hr'),
        fun h0 => absurd h0 hj, (h.places j).follows⟩
  · by_cases hr : r' = r
    · subst hr
      obtain rfl : decision = decision' := by
        have heq := hnew.symm.trans hstored
        simpa using heq
      exact hplace.ok.2.mono hext
    · exact (h.decisions r' decision' ((hput r' hr).symm.trans hstored)).mono hext
  · by_cases hr : r' = r
    · subst hr
      intro hstored
      have heq := hnew.symm.trans hstored
      simp at heq
    · exact fun hstored => h.typed r' value ((hput r' hr).symm.trans hstored)
  · exact hext _ _ (h.returned ret hret)

/-- A step keeps the invariant. -/
theorem Inv.step (h : Inv P s) {action : Action V L} (hstep : step P s action = some s') :
    Inv P s' := by
  cases action with
  | report i value acknowledged =>
    simp only [Gather.step] at hstep
    split at hstep
    · next r hphase =>
      obtain ⟨-, hstep⟩ := Option.ite_none_right_eq_some.mp hstep
      cases hstep
      obtain ⟨hput, hext⟩ := h.put_report value hphase
      have hplace := h.places i
      rw [hphase] at hplace
      have hbefore : DecidedBefore P (s.put (P.names.report r i) (.inl value)).store r :=
        DecidedBefore.mono hplace.ok hext
      have hfresh : ∀ r' ≥ r + 1, (s.put (P.names.report r i) (.inl value)).store
          (P.names.report r' i) = none := by
        intro r' hr'
        have hne : P.names.report r' i ≠ P.names.report r i := by
          intro heq
          have hsame := (P.names.report_injective heq).1
          omega
        simpa [State.put, Function.update_of_ne hne] using
          hplace.fresh r rfl r' (Nat.le_of_succ_le hr')
      rw [← setPhase_setPhase _ i .failed]
      refine hput.setPhase ?_
      split_ifs with hack hi
      · subst hi
        refine ⟨⟨hbefore, by simp⟩, by rintro _ ⟨⟩; exact hfresh, fun _ r' hr' => ?_,
          fun h0 => absurd rfl h0⟩
        have hne : P.names.decision r' ≠ P.names.report r 0 := (P.names.disjoint r 0 r').symm
        have hold := hplace.leader rfl r' hr'
        simpa [State.setPhase, State.put, Function.update_of_ne hne] using hold
      · exact ⟨hbefore, by rintro _ ⟨⟩; exact hfresh, fun h0 => absurd h0 hi, fun _ => trivial⟩
      · exact .failed
    · cases hstep
  | collect =>
    simp only [Gather.step] at hstep
    split at hstep
    · next r reports hphase =>
      split_ifs at hstep with hlength
      split at hstep
      · next value hvalue =>
        cases hstep
        have hplace := h.places 0
        rw [hphase] at hplace
        refine h.setPhase ⟨⟨hplace.ok.1, fun j value' hj => ?_⟩, hplace.fresh,
          fun h0 => hplace.leader h0, fun h0 => absurd rfl h0⟩
        rw [List.getElem?_append] at hj
        split_ifs at hj with hlt
        · exact hplace.ok.2 j value' hj
        · have hlast : j = reports.length := by
            have hbound := (List.getElem?_eq_some_iff.mp hj).1
            rw [List.length_singleton] at hbound
            omega
          subst hlast
          rw [Nat.sub_self, List.getElem?_cons_zero] at hj
          obtain rfl := Option.some.inj hj
          exact hvalue
      · cases hstep
    · cases hstep
  | decide input =>
    simp only [Gather.step] at hstep
    split at hstep
    · next r reports hphase =>
      split_ifs at hstep with hlength
      cases hstep
      have hplace := h.places 0
      rw [hphase] at hplace
      have hmemory : Inv P { s with memory := (P.decide s.memory r input reports).1 } :=
        ⟨h.places, h.decisions, h.typed, h.returned⟩
      exact hmemory.setPhase ⟨⟨hplace.ok.1, reports, hlength, hplace.ok.2, s.memory, input, rfl⟩,
        hplace.fresh, fun h0 => hplace.leader h0, fun h0 => absurd rfl h0⟩
    · cases hstep
  | announce acknowledged =>
    simp only [Gather.step] at hstep
    split at hstep
    · next r decision hphase =>
      cases hstep
      obtain ⟨hput, hext⟩ := h.put_decision hphase
      have hplace := h.places 0
      rw [hphase] at hplace
      split_ifs
      · have hreturn := hput.return (i := 0) (r := r) decision
          (DecidedBefore.mono hplace.ok.1 hext) (by simp [State.setPhase, State.put])
          (fun r' hr' => ?_) (fun _ r' hr' => ?_)
        · simpa only [State.return, State.setPhase, Function.update_idem] using hreturn
        · have hold := hplace.fresh (r + 1) rfl r' hr'
          simpa [State.setPhase, State.put, Function.update_of_ne (P.names.disjoint r' 0 r)] using hold
        · have hne : P.names.decision r' ≠ P.names.decision r := by
            intro heq
            have hsame := P.names.decision_injective heq
            omega
          have hold := hplace.leader rfl r' (Nat.le_of_succ_le hr')
          simpa [State.setPhase, State.put, Function.update_of_ne hne] using hold
      · exact hput
    · cases hstep
  | receive i =>
    simp only [Gather.step] at hstep
    split at hstep
    · next r hphase =>
      split at hstep
      · next decision hdecision =>
        cases hstep
        have hplace := h.places i
        rw [hphase] at hplace
        refine h.return _ hplace.ok hdecision (hplace.fresh (r + 1) rfl) fun h0 => ?_
        exact (hplace.leader h0).elim
      · cases hstep
    · cases hstep
  | fail i =>
    cases hstep
    exact h.setPhase .failed

/-- The invariant holds in every state that a run reaches. -/
theorem inv_of_run {memory : S} {acts : List (Action V L)}
    (hrun : StepSystem.run (Gather.step P) { memory := memory } acts = some s) : Inv P s :=
  StepSystem.run_invariant_of_step (fun _ _ _ ht hstep => ht.step hstep) (.init memory) hrun

/-! ## The law -/

omit [DecidableEq K] in
/-- All workers have put their reports of a decided round. -/
lemma Decided.all (h : Decided P store r decision) (hi : i < P.workers) :
    ∃ value, store (P.names.report r i) = some (.inl value) := by
  obtain ⟨reports, hlength, hreports, -⟩ := h
  have hlt : i < reports.length := hlength ▸ hi
  exact ⟨reports[i], hreports i _ (List.getElem?_eq_getElem hlt)⟩

omit [DecidableEq K] in
/-- Before a worker works on a round, all workers have put their reports of the round before. -/
lemma Inv.reports_before (h : Inv P s) {n j : ℕ} (hn : DecidedBefore P s.store n)
    (hj : j < P.workers) {r : ℕ} (hr : r < n) :
    ∃ value, s.store (P.names.report r j) = some (.inl value) := by
  obtain ⟨decision, hdecision, -⟩ := hn r hr
  exact (h.decisions r decision hdecision).all hj

omit [DecidableEq K] in
/-- The decisions before the round of a worker are stored. -/
lemma Inv.before_of_reported (h : Inv P s) {n : ℕ} (hn : (s.phase i).reported = some n) :
    DecidedBefore P s.store (n - 1) := by
  have hok := (h.places i).ok
  cases hp : s.phase i with
  | working r =>
    rw [hp] at hok hn
    cases hn
    exact fun r' hr' => hok r' (hr'.trans_le (Nat.sub_le _ _))
  | waiting r =>
    rw [hp] at hok hn
    cases hn
    exact hok
  | collecting r reports =>
    rw [hp] at hok hn
    cases hn
    exact hok.1
  | deciding r decision =>
    rw [hp] at hok hn
    cases hn
    exact hok.1
  | stopped r decision =>
    rw [hp] at hok hn
    cases hn
    exact hok.1
  | failed =>
    rw [hp] at hn
    cases hn

/-- What the protocol promises.  Workers that return from a round return one decision, made from the
reports of all workers.  A worker that works on a round comes after all reports of the rounds before.
A worker stops with the first decision to stop.  Workers that have not failed are at most one report
apart. -/
structure Law (P : Protocol K V D S L) (s : State K V D S) : Prop where
  agree : ∀ a ∈ s.returned, ∀ b ∈ s.returned, a.round = b.round → a.decision = b.decision
  complete : ∀ a ∈ s.returned, Decided P s.store a.round a.decision
  after : ∀ i r, s.phase i = .working r → ∀ r' < r, ∀ j < P.workers,
    ∃ value, s.store (P.names.report r' j) = some (.inl value)
  stopped : ∀ i r decision, s.phase i = .stopped r decision → P.stop decision = true ∧
    Decided P s.store r decision ∧ DecidedBefore P s.store r ∧
      s.store (P.names.decision r) = some (.inr decision)
  lockstep : ∀ i j, j < P.workers → ∀ m n, (s.phase i).reported = some m →
    (s.phase j).reported = some n → m ≤ n + 1

omit [DecidableEq K] in
/-- The law follows from the invariant. -/
theorem Inv.law (h : Inv P s) : Law P s where
  agree := by
    intro a ha b hb hround
    have hsame := (h.returned a ha).symm.trans (hround ▸ h.returned b hb)
    simpa using hsame
  complete := fun a ha => h.decisions _ _ (h.returned a ha)
  after := by
    intro i r hphase r' hr' j hj
    have hok := (h.places i).ok
    rw [hphase] at hok
    exact h.reports_before hok hj hr'
  stopped := by
    intro i r decision hphase
    have hok := (h.places i).ok
    rw [hphase] at hok
    exact ⟨hok.2.2, h.decisions r decision hok.2.1, hok.1, hok.2.1⟩
  lockstep := by
    intro i j hj m n hm hn
    by_contra hfar
    have hbefore := h.before_of_reported hm
    obtain ⟨value, hvalue⟩ := h.reports_before hbefore hj (r := n) (by omega)
    have hnone := (h.places j).fresh n hn n le_rfl
    rw [hvalue] at hnone
    cases hnone

end Invariant

end Gather
