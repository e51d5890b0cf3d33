import Boutique.Lib.Run
import Mathlib.Data.List.Nodup
import Mathlib.Data.List.Perm.Subperm
import Mathlib.Logic.Function.Basic

/-!
# Batches over lanes

Batches of messages are handled by lanes.  Each lane takes its messages from a bounded queue, one after the
other; a message goes to the lane that a function of it names.  The call for a batch sends its messages in
order, waits while a queue is full, and returns when a counter of the messages under way is zero.

Messages are numbered in the order in which they are sent.  Every message is handled exactly once before the
call for its batch returns, and the messages of a lane are handled one at a time in their order.
-/

namespace Lanes

open StepSystem

variable {α ω : Type}

/-- A lane: its queue, and the message that it handles. -/
structure Lane (α : Type) where
  queue : List (ℕ × α) := []
  current : Option (ℕ × α) := none

/-- The messages of a lane in their order. -/
def Lane.items (lane : Lane α) : List (ℕ × α) := lane.current.toList ++ lane.queue

/-- What happens to the messages: the handling of one starts, and ends with an outcome. -/
inductive Event (ω : Type) where
  | started (i : ℕ)
  | finished (i : ℕ) (outcome : ω)

/-- The batches that were given, the messages that were sent, those of the running call that are not sent
yet, the counter of the messages under way, the lanes and what has happened. -/
structure State (α ω : Type) where
  batches : List (List α) := []
  sent : List α := []
  call : Option (List α) := none
  pending : ℕ := 0
  lanes : ℕ → Lane α := fun _ => {}
  log : List (Event ω) := []

/-- The steps: a call begins, sends a message and returns, and a lane takes a message and ends with it. -/
inductive Action (α ω : Type) where
  | process (batch : List α)
  | send
  | take (lane : ℕ)
  | finish (lane : ℕ) (outcome : ω)
  | return

section Steps

variable (laneOf : α → ℕ) (capacity : ℕ)

/-- The state with another lane. -/
def State.setLane (s : State α ω) (l : ℕ) (lane : Lane α) : State α ω :=
  { s with lanes := Function.update s.lanes l lane }

/-- A message is sent to its lane: into the queue, or to the waiting lane if there is no queue. -/
def State.send (s : State α ω) (message : α) (rest : List α) : Option (State α ω) :=
  let l := laneOf message
  let lane := s.lanes l
  let item := (s.sent.length, message)
  let s' := { s with sent := s.sent ++ [message], call := some rest, pending := s.pending + 1 }
  if lane.queue.length < capacity then some (s'.setLane l { lane with queue := lane.queue ++ [item] })
  else if capacity = 0 ∧ lane.current.isNone then
    some { s'.setLane l { lane with current := some item } with log := s.log ++ [.started item.1] }
  else none

/-- One step. -/
def State.step (s : State α ω) : Action α ω → Option (State α ω)
  | .process batch =>
    match s.call with
    | none => some { s with batches := s.batches ++ [batch], call := some batch, pending := 0 }
    | some _ => none
  | .send =>
    match s.call with
    | some (message :: rest) => s.send laneOf capacity message rest
    | _ => none
  | .take l =>
    match (s.lanes l).current, (s.lanes l).queue with
    | none, item :: queue =>
      some { s.setLane l { queue := queue, current := some item } with log := s.log ++ [.started item.1] }
    | _, _ => none
  | .finish l outcome =>
    match (s.lanes l).current with
    | some item =>
      some { s.setLane l { s.lanes l with current := none } with
        log := s.log ++ [.finished item.1 outcome], pending := s.pending - 1 }
    | none => none
  | .return =>
    match s.call with
    | some [] => if s.pending = 0 then some { s with call := none } else none
    | _ => none

end Steps

/-! ## The log -/

/-- The messages whose handling started. -/
def startedIds (log : List (Event ω)) : List ℕ :=
  log.filterMap fun
    | .started i => some i
    | .finished _ _ => none

/-- The messages whose handling ended. -/
def finishedIds (log : List (Event ω)) : List ℕ :=
  log.filterMap fun
    | .started _ => none
    | .finished i _ => some i

@[simp]
lemma startedIds_started (log : List (Event ω)) (i : ℕ) :
    startedIds (log ++ [.started i]) = startedIds log ++ [i] := by
  simp [startedIds]

@[simp]
lemma startedIds_finished (log : List (Event ω)) (i : ℕ) (outcome : ω) :
    startedIds (log ++ [.finished i outcome]) = startedIds log := by
  simp [startedIds]

@[simp]
lemma finishedIds_started (log : List (Event ω)) (i : ℕ) :
    finishedIds (log ++ [.started i]) = finishedIds log := by
  simp [finishedIds]

@[simp]
lemma finishedIds_finished (log : List (Event ω)) (i : ℕ) (outcome : ω) :
    finishedIds (log ++ [.finished i outcome]) = finishedIds log ++ [i] := by
  simp [finishedIds]

/-- The messages of a lane are handled one at a time in their order: when the handling of one starts, that
of every earlier message of its lane has ended. -/
def Ordered (laneOf : α → ℕ) (sent : List α) (log : List (Event ω)) : Prop :=
  ∀ before j after, log = before ++ .started j :: after → ∀ i a b, i < j → sent[i]? = some a →
    sent[j]? = some b → laneOf a = laneOf b → i ∈ finishedIds before

/-- What an appended event adds to a split of the log. -/
lemma split_concat {log before after : List (Event ω)} {e : Event ω} {j : ℕ}
    (h : log ++ [e] = before ++ .started j :: after) :
    (after = [] ∧ before = log ∧ e = .started j) ∨
      ∃ after', log = before ++ .started j :: after' := by
  rcases List.eq_nil_or_concat after with rfl | ⟨after', last, rfl⟩
  · have hinj := List.append_inj' h rfl
    exact .inl ⟨rfl, hinj.1.symm, List.singleton_inj.mp hinj.2⟩
  · rw [List.concat_eq_append, ← List.cons_append, ← List.append_assoc] at h
    exact .inr ⟨after', (List.append_inj' h rfl).1⟩

/-- The handling of a message ends. -/
lemma Ordered.finished {laneOf : α → ℕ} {sent : List α} {log : List (Event ω)} (h : Ordered laneOf sent log)
    (i : ℕ) (outcome : ω) : Ordered laneOf sent (log ++ [.finished i outcome]) := by
  intro before j after hlog
  rcases split_concat hlog with ⟨-, -, hevent⟩ | ⟨after', hlog'⟩
  · cases hevent
  · exact h before j after' hlog'

/-- The handling of a message starts when that of the earlier ones of its lane has ended. -/
lemma Ordered.started {laneOf : α → ℕ} {sent : List α} {log : List (Event ω)} (h : Ordered laneOf sent log)
    {k : ℕ} (hk : ∀ i a b, i < k → sent[i]? = some a → sent[k]? = some b → laneOf a = laneOf b →
      i ∈ finishedIds log) : Ordered laneOf sent (log ++ [.started k]) := by
  intro before j after hlog
  rcases split_concat hlog with ⟨-, rfl, hevent⟩ | ⟨after', hlog'⟩
  · cases hevent
    exact hk
  · exact h before j after' hlog'

/-- Another message is sent. -/
lemma Ordered.sent {laneOf : α → ℕ} {sent : List α} {log : List (Event ω)} (h : Ordered laneOf sent log)
    (hsent : ∀ i ∈ startedIds log, i < sent.length) (message : α) :
    Ordered laneOf (sent ++ [message]) log := by
  intro before j after hlog i a b hij ha hb
  have hj : j < sent.length := by
    refine hsent j ?_
    rw [hlog, startedIds, List.mem_filterMap]
    exact ⟨.started j, by simp, rfl⟩
  rw [List.getElem?_append_left (by omega)] at ha
  rw [List.getElem?_append_left hj] at hb
  exact h before j after hlog i a b hij ha hb

/-! ## The invariant -/

/-- The invariant. -/
structure Inv (laneOf : α → ℕ) (capacity : ℕ) (s : State α ω) : Prop where
  batches : s.sent ++ s.call.getD [] = s.batches.flatten
  pending : s.pending + (finishedIds s.log).length = s.sent.length
  idle : s.call = none → s.pending = 0
  bounded : ∀ l, (s.lanes l).queue.length ≤ capacity
  sorted : ∀ l, ((s.lanes l).items.map Prod.fst).Pairwise (· < ·)
  item : ∀ l, ∀ item ∈ (s.lanes l).items, s.sent[item.1]? = some item.2 ∧ laneOf item.2 = l
  complete : ∀ i a, s.sent[i]? = some a →
    i ∈ finishedIds s.log ∨ (i, a) ∈ (s.lanes (laneOf a)).items
  queued : ∀ l, ∀ item ∈ (s.lanes l).queue, item.1 ∉ startedIds s.log
  current : ∀ l item, (s.lanes l).current = some item →
    item.1 ∈ startedIds s.log ∧ item.1 ∉ finishedIds s.log
  startedNodup : (startedIds s.log).Nodup
  finishedNodup : (finishedIds s.log).Nodup
  started : ∀ i ∈ finishedIds s.log, i ∈ startedIds s.log
  sent : ∀ i ∈ startedIds s.log, i < s.sent.length
  ordered : Ordered laneOf s.sent s.log

variable {laneOf : α → ℕ} {capacity : ℕ} {s s' : State α ω}

/-- The invariant holds at the start. -/
lemma Inv.init : Inv laneOf capacity ({} : State α ω) where
  batches := rfl
  pending := rfl
  idle _ := rfl
  bounded _ := Nat.zero_le _
  sorted _ := List.Pairwise.nil
  item _ _ h := by cases h
  complete _ _ h := by cases h
  queued _ _ h := by cases h
  current _ _ h := by cases h
  startedNodup := List.nodup_nil
  finishedNodup := List.nodup_nil
  started _ h := by cases h
  sent _ h := by cases h
  ordered before _ _ h := by cases before <;> cases h

/-- The items of a lane were sent. -/
lemma Inv.item_lt (h : Inv laneOf capacity s) {l : ℕ} {item : ℕ × α} (hitem : item ∈ (s.lanes l).items) :
    item.1 < s.sent.length :=
  (List.getElem?_eq_some_iff.mp (h.item l item hitem).1).1

/-- Messages of different lanes are different. -/
lemma Inv.lane_eq (h : Inv laneOf capacity s) {k l : ℕ} {a b : ℕ × α} (ha : a ∈ (s.lanes k).items)
    (hb : b ∈ (s.lanes l).items) (heq : a.1 = b.1) : k = l := by
  have hk := h.item k a ha
  have hl := h.item l b hb
  rw [heq, hl.1, Option.some_inj] at hk
  exact hk.2.symm.trans (hk.1 ▸ hl.2)

/-- A call begins. -/
lemma Inv.process (h : Inv laneOf capacity s) (batch : List α) (hcall : s.call = none) :
    Inv laneOf capacity { s with batches := s.batches ++ [batch], call := some batch, pending := 0 } :=
  { h with
    batches := by
      have hbatches := h.batches
      rw [hcall, Option.getD_none, List.append_nil] at hbatches
      simp [hbatches]
    pending := by
      have hpending := h.pending
      rwa [h.idle hcall] at hpending
    idle := fun hnone => by cases hnone }

/-- A call returns. -/
lemma Inv.return (h : Inv laneOf capacity s) (hcall : s.call = some []) (hpending : s.pending = 0) :
    Inv laneOf capacity { s with call := none } :=
  { h with
    batches := by
      have hbatches := h.batches
      rw [hcall] at hbatches
      exact hbatches
    idle := fun _ => hpending }

/-- A lane takes the first message of its queue. -/
lemma Inv.take (h : Inv laneOf capacity s) {l : ℕ} {item : ℕ × α} {queue : List (ℕ × α)}
    (hcurrent : (s.lanes l).current = none) (hqueue : (s.lanes l).queue = item :: queue) :
    Inv laneOf capacity
      { s.setLane l { queue := queue, current := some item } with log := s.log ++ [.started item.1] } := by
  -- The messages of the lane and their order stay.
  have hitems : ∀ k, (Function.update s.lanes l { queue := queue, current := some item } k).items =
      (s.lanes k).items := by
    intro k
    by_cases hk : k = l
    · subst hk
      simp [Lane.items, hcurrent, hqueue]
    · rw [Function.update_of_ne hk]
  have hmem : item ∈ (s.lanes l).items := by simp [Lane.items, hqueue]
  have hfresh : item.1 ∉ startedIds s.log := h.queued l item (by simp [hqueue])
  have hsorted := h.sorted l
  rw [Lane.items, hcurrent, hqueue] at hsorted
  refine ⟨h.batches, by rw [finishedIds_started]; exact h.pending, h.idle,
    ?_, ?_, ?_, ?_, ?_, ?_, ?_, ?_, ?_, ?_, ?_⟩
  · intro k
    have hbound := h.bounded k
    by_cases hk : k = l
    · subst hk
      rw [hqueue, List.length_cons] at hbound
      simpa [State.setLane] using Nat.le_of_succ_le hbound
    · simpa [State.setLane, Function.update_of_ne hk] using hbound
  · intro k
    exact (hitems k).symm ▸ h.sorted k
  · intro k other hother
    exact h.item k other (hitems k ▸ hother)
  · intro i a ha
    simpa [State.setLane, hitems] using h.complete i a ha
  · intro k other hother
    rw [startedIds_started, List.mem_append, List.mem_singleton]
    by_cases hk : k = l
    · subst hk
      have hother' : other ∈ queue := by simpa [State.setLane] using hother
      rintro (hstarted | heq)
      · exact h.queued k other (by simp [hqueue, hother']) hstarted
      · have hlt := List.rel_of_pairwise_cons hsorted (List.mem_map_of_mem (f := Prod.fst) hother')
        omega
    · have hother' : other ∈ (s.lanes k).queue := by
        simpa [State.setLane, Function.update_of_ne hk] using hother
      rintro (hstarted | heq)
      · exact h.queued k other hother' hstarted
      · exact hk (h.lane_eq (List.mem_append_right _ hother') hmem heq)
  · intro k other hother
    rw [startedIds_started, finishedIds_started, List.mem_append, List.mem_singleton]
    by_cases hk : k = l
    · subst hk
      have heq : item = other := by simpa [State.setLane] using hother
      subst heq
      exact ⟨.inr rfl, fun hfinished => hfresh (h.started _ hfinished)⟩
    · have hother' : (s.lanes k).current = some other := by
        simpa [State.setLane, Function.update_of_ne hk] using hother
      exact ⟨.inl (h.current k other hother').1, (h.current k other hother').2⟩
  · rw [startedIds_started]
    exact h.startedNodup.append (List.nodup_singleton _) (by simpa using hfresh)
  · rw [finishedIds_started]
    exact h.finishedNodup
  · intro i hi
    rw [finishedIds_started] at hi
    rw [startedIds_started]
    exact List.mem_append_left _ (h.started i hi)
  · intro i hi
    rw [startedIds_started, List.mem_append, List.mem_singleton] at hi
    rcases hi with hi | rfl
    · exact h.sent i hi
    · exact h.item_lt hmem
  · refine h.ordered.started fun i a b hlt ha hb hlane => ?_
    have hl' := h.item l item hmem
    rw [hl'.1, Option.some_inj] at hb
    subst hb
    rcases h.complete i a ha with hfinished | hwaiting
    · exact hfinished
    · -- An earlier message that is still in the lane would be before the one that is taken.
      rw [hlane, hl'.2, Lane.items, hcurrent, hqueue, Option.toList_none, List.nil_append,
        List.mem_cons] at hwaiting
      rcases hwaiting with heq | hlater
      · rw [← heq] at hlt
        exact absurd hlt (Nat.lt_irrefl _)
      · have hlt' := List.rel_of_pairwise_cons hsorted (List.mem_map_of_mem (f := Prod.fst) hlater)
        exact absurd hlt (Nat.not_lt.mpr (Nat.le_of_lt hlt'))

/-- A lane ends with its message. -/
lemma Inv.finish (h : Inv laneOf capacity s) {l : ℕ} {item : ℕ × α} (hcurrent : (s.lanes l).current = some item)
    (outcome : ω) :
    Inv laneOf capacity
      { s.setLane l { s.lanes l with current := none } with
        log := s.log ++ [.finished item.1 outcome], pending := s.pending - 1 } := by
  obtain ⟨hstarted, hunfinished⟩ := h.current l item hcurrent
  have hmem : item ∈ (s.lanes l).items := by simp [Lane.items, hcurrent]
  have hitems : (s.lanes l).items = item :: (s.lanes l).queue := by simp [Lane.items, hcurrent]
  have hnodup : (finishedIds s.log ++ [item.1]).Nodup :=
    h.finishedNodup.append (List.nodup_singleton _) (by simpa using hunfinished)
  -- A message is under way, so that the counter is not zero.
  have hpending : 0 < s.pending := by
    have hsub : (finishedIds s.log ++ [item.1]) ⊆ List.range s.sent.length := by
      intro i hi
      rw [List.mem_append, List.mem_singleton] at hi
      rw [List.mem_range]
      rcases hi with hi | rfl
      · exact h.sent i (h.started i hi)
      · exact h.item_lt hmem
    have hlength := (hnodup.subperm hsub).length_le
    have hcount := h.pending
    rw [List.length_append, List.length_singleton, List.length_range] at hlength
    omega
  refine ⟨h.batches, ?_, ?_, ?_, ?_, ?_, ?_, ?_, ?_, ?_, ?_, ?_, ?_, ?_⟩
  · have hcount := h.pending
    rw [finishedIds_finished, List.length_append, List.length_singleton]
    change s.pending - 1 + _ = s.sent.length
    omega
  · intro hnone
    have hzero := h.idle hnone
    omega
  · intro k
    by_cases hk : k = l
    · subst hk
      simpa [State.setLane] using h.bounded k
    · simpa [State.setLane, Function.update_of_ne hk] using h.bounded k
  · intro k
    by_cases hk : k = l
    · subst hk
      have hsorted := h.sorted k
      rw [hitems, List.map_cons] at hsorted
      simpa [State.setLane, Lane.items] using hsorted.of_cons
    · simpa [State.setLane, Function.update_of_ne hk] using h.sorted k
  · intro k other hother
    by_cases hk : k = l
    · subst hk
      have hother' : other ∈ (s.lanes k).queue := by simpa [State.setLane, Lane.items] using hother
      exact h.item k other (List.mem_append_right _ hother')
    · have hother' : other ∈ (s.lanes k).items := by
        simpa [State.setLane, Function.update_of_ne hk] using hother
      exact h.item k other hother'
  · intro i a ha
    rw [finishedIds_finished, List.mem_append, List.mem_singleton]
    rcases h.complete i a ha with hfinished | hwaiting
    · exact .inl (.inl hfinished)
    · by_cases hl : laneOf a = l
      · rw [hl, hitems, List.mem_cons] at hwaiting
        rcases hwaiting with heq | hqueue
        · exact .inl (.inr (by rw [← heq]))
        · refine .inr ?_
          simpa [State.setLane, Lane.items, hl] using hqueue
      · refine .inr ?_
        simpa [State.setLane, Function.update_of_ne hl] using hwaiting
  · intro k other hother
    rw [startedIds_finished]
    refine h.queued k other ?_
    by_cases hk : k = l
    · subst hk
      simpa [State.setLane] using hother
    · simpa [State.setLane, Function.update_of_ne hk] using hother
  · intro k other hother
    by_cases hk : k = l
    · subst hk
      simp [State.setLane] at hother
    · have hother' : (s.lanes k).current = some other := by
        simpa [State.setLane, Function.update_of_ne hk] using hother
      obtain ⟨hstarted', hunfinished'⟩ := h.current k other hother'
      rw [startedIds_finished, finishedIds_finished, List.mem_append, List.mem_singleton]
      refine ⟨hstarted', ?_⟩
      rintro (hfinished | heq)
      · exact hunfinished' hfinished
      · exact hk (h.lane_eq (by simp [Lane.items, hother']) hmem heq)
  · rw [startedIds_finished]
    exact h.startedNodup
  · rw [finishedIds_finished]
    exact hnodup
  · intro i hi
    rw [finishedIds_finished, List.mem_append, List.mem_singleton] at hi
    rw [startedIds_finished]
    rcases hi with hi | rfl
    · exact h.started i hi
    · exact hstarted
  · intro i hi
    rw [startedIds_finished] at hi
    exact h.sent i hi
  · exact h.ordered.finished item.1 outcome

/-- A message is put into the queue of its lane. -/
lemma Inv.enqueue (h : Inv laneOf capacity s) {message : α} {rest : List α}
    (hcall : s.call = some (message :: rest)) {bound : ℕ} (hle : capacity ≤ bound)
    (hroom : (s.lanes (laneOf message)).queue.length < bound) :
    Inv laneOf bound
      ({ s with sent := s.sent ++ [message], call := some rest, pending := s.pending + 1 }.setLane
        (laneOf message) { s.lanes (laneOf message) with
          queue := (s.lanes (laneOf message)).queue ++ [(s.sent.length, message)] }) := by
  have hget : (s.sent ++ [message])[s.sent.length]? = some message := by simp
  have hold : ∀ {i : ℕ} {a : α}, s.sent[i]? = some a → (s.sent ++ [message])[i]? = some a := by
    intro i a ha
    rw [List.getElem?_append_left (List.getElem?_eq_some_iff.mp ha).1]
    exact ha
  have hitems : ∀ k, (Function.update s.lanes (laneOf message) { s.lanes (laneOf message) with
      queue := (s.lanes (laneOf message)).queue ++ [(s.sent.length, message)] } k).items =
      if k = laneOf message then (s.lanes k).items ++ [(s.sent.length, message)] else (s.lanes k).items := by
    intro k
    by_cases hk : k = laneOf message
    · subst hk
      simp [Lane.items]
    · simp [hk]
  have hcurrent : ∀ k, (Function.update s.lanes (laneOf message) { s.lanes (laneOf message) with
      queue := (s.lanes (laneOf message)).queue ++ [(s.sent.length, message)] } k).current =
      (s.lanes k).current := by
    intro k
    by_cases hk : k = laneOf message
    · subst hk
      simp
    · simp [hk]
  refine ⟨?_, ?_, fun hnone => (by cases hnone), ?_, ?_, ?_, ?_, ?_, ?_, h.startedNodup, h.finishedNodup,
    h.started, ?_, h.ordered.sent h.sent message⟩
  · have hbatches := h.batches
    rw [hcall] at hbatches
    simpa [State.setLane] using hbatches
  · have hcount := h.pending
    simp only [State.setLane, List.length_append, List.length_singleton]
    omega
  · intro k
    by_cases hk : k = laneOf message
    · subst hk
      simpa [State.setLane] using Nat.succ_le_of_lt hroom
    · simpa [State.setLane, hk] using Nat.le_trans (h.bounded k) hle
  · intro k
    simp only [State.setLane, hitems]
    split_ifs
    · rw [List.map_append, List.pairwise_append]
      refine ⟨h.sorted k, List.pairwise_singleton _ _, ?_⟩
      intro i hi j hj
      obtain ⟨item, hitem, rfl⟩ := List.mem_map.mp hi
      rw [List.map_singleton, List.mem_singleton] at hj
      rw [hj]
      exact h.item_lt hitem
    · exact h.sorted k
  · intro k item hitem
    simp only [State.setLane, hitems] at hitem ⊢
    split_ifs at hitem with hk
    · rcases List.mem_append.mp hitem with hitem | hitem
      · exact ⟨hold (h.item k item hitem).1, (h.item k item hitem).2⟩
      · rw [List.mem_singleton.mp hitem]
        exact ⟨hget, hk.symm⟩
    · exact ⟨hold (h.item k item hitem).1, (h.item k item hitem).2⟩
  · intro i a ha
    simp only [State.setLane, hitems] at ha ⊢
    rcases Nat.lt_or_ge i s.sent.length with hlt | hge
    · rw [List.getElem?_append_left hlt] at ha
      rcases h.complete i a ha with hfinished | hwaiting
      · exact .inl hfinished
      · refine .inr ?_
        split_ifs
        · exact List.mem_append_left _ hwaiting
        · exact hwaiting
    · -- The message that is sent.
      have hi : i = s.sent.length := by
        have hlt := (List.getElem?_eq_some_iff.mp ha).1
        rw [List.length_append, List.length_singleton] at hlt
        omega
      subst hi
      rw [hget, Option.some_inj] at ha
      subst ha
      refine .inr ?_
      rw [if_pos rfl]
      exact List.mem_append_right _ List.mem_cons_self
  · intro k item hitem
    by_cases hk : k = laneOf message
    · subst hk
      have hitem' : item ∈ (s.lanes (laneOf message)).queue ∨ item = (s.sent.length, message) := by
        simpa [State.setLane] using hitem
      rcases hitem' with hitem' | rfl
      · exact h.queued _ item hitem'
      · intro hstarted
        exact absurd (h.sent _ hstarted) (Nat.lt_irrefl _)
    · have hitem' : item ∈ (s.lanes k).queue := by simpa [State.setLane, hk] using hitem
      exact h.queued k item hitem'
  · intro k item hitem
    simp only [State.setLane, hcurrent] at hitem
    exact h.current k item hitem
  · intro i hi
    have hlt := h.sent i hi
    simp only [State.setLane, List.length_append, List.length_singleton]
    omega

/-- A message is sent. -/
lemma Inv.send (h : Inv laneOf capacity s) {message : α} {rest : List α}
    (hcall : s.call = some (message :: rest)) (hsend : s.send laneOf capacity message rest = some s') :
    Inv laneOf capacity s' := by
  simp only [State.send] at hsend
  split_ifs at hsend with hroom hhandover
  · cases hsend
    exact h.enqueue hcall (Nat.le_refl _) hroom
  · -- Without a queue the lane takes the message at once.
    obtain ⟨rfl, hnone⟩ := hhandover
    have hcurrent : (s.lanes (laneOf message)).current = none := Option.isNone_iff_eq_none.mp hnone
    have hempty : ∀ k, (s.lanes k).queue = [] := fun k =>
      List.eq_nil_of_length_eq_zero (Nat.le_zero.mp (h.bounded k))
    have henqueued := h.enqueue hcall (Nat.le_succ 0) (by simp [hempty])
    have hqueue : (Function.update s.lanes (laneOf message) { s.lanes (laneOf message) with
        queue := (s.lanes (laneOf message)).queue ++ [(s.sent.length, message)] }
        (laneOf message)).queue = [(s.sent.length, message)] := by
      simp [hempty]
    have htaken := henqueued.take (by simpa [State.setLane] using hcurrent) hqueue
    rw [Option.some_inj] at hsend
    subst hsend
    simp only [State.setLane, Function.update_idem, hempty] at htaken ⊢
    refine { htaken with bounded := fun k => ?_ }
    by_cases hk : k = laneOf message
    · simp [hk]
    · simp [hk, hempty]

/-- Every step keeps the invariant. -/
lemma Inv.step (h : Inv laneOf capacity s) {a : Action α ω} (hstep : s.step laneOf capacity a = some s') :
    Inv laneOf capacity s' := by
  cases a with
  | process batch =>
    simp only [State.step] at hstep
    split at hstep
    · next hcall =>
      cases hstep
      exact h.process batch hcall
    · cases hstep
  | send =>
    simp only [State.step] at hstep
    split at hstep
    · next message rest hcall => exact h.send hcall hstep
    · cases hstep
  | take l =>
    simp only [State.step] at hstep
    split at hstep
    · next item queue hcurrent hqueue =>
      cases hstep
      exact h.take hcurrent hqueue
    · cases hstep
  | finish l outcome =>
    simp only [State.step] at hstep
    split at hstep
    · next item hcurrent =>
      cases hstep
      exact h.finish hcurrent outcome
    · cases hstep
  | «return» =>
    simp only [State.step] at hstep
    split at hstep
    · next hcall =>
      split_ifs at hstep with hpending
      cases hstep
      exact h.return hcall hpending
    · cases hstep

/-- Every run keeps the invariant. -/
lemma Inv.run {actions : List (Action α ω)} (h : Inv laneOf capacity s)
    (hrun : StepSystem.run (State.step laneOf capacity) s actions = some s') : Inv laneOf capacity s' := by
  induction actions generalizing s with
  | nil =>
    cases hrun
    exact h
  | cons a actions ih =>
    obtain ⟨t, hstep, hrest⟩ := run_cons.mp hrun
    exact ih (h.step hstep) hrest

/-! ## Calls that have returned -/

/-- When no call is running, every message of the batches was handled exactly once. -/
lemma Inv.handled (h : Inv laneOf capacity s) (hcall : s.call = none) :
    s.sent = s.batches.flatten ∧
      ∀ i < s.batches.flatten.length, (startedIds s.log).count i = 1 ∧ (finishedIds s.log).count i = 1 := by
  have hsent : s.sent = s.batches.flatten := by
    have hbatches := h.batches
    rwa [hcall, Option.getD_none, List.append_nil] at hbatches
  refine ⟨hsent, fun i hi => ?_⟩
  -- As many messages have ended as were sent, and they are different.
  have hsub : finishedIds s.log ⊆ List.range s.sent.length := fun j hj =>
    List.mem_range.mpr (h.sent j (h.started j hj))
  have hlength : (List.range s.sent.length).length ≤ (finishedIds s.log).length := by
    have hcount := h.pending
    rw [h.idle hcall] at hcount
    rw [List.length_range]
    omega
  have hperm := (h.finishedNodup.subperm hsub).perm_of_length_le hlength
  have hfinished : i ∈ finishedIds s.log := by
    rw [hperm.mem_iff, List.mem_range, hsent]
    exact hi
  exact ⟨List.count_eq_one_of_mem h.startedNodup (h.started i hfinished),
    List.count_eq_one_of_mem h.finishedNodup hfinished⟩

/-! ## Running calls -/

/-- The steps of a running call: no new call begins. -/
def Action.isProcess : Action α ω → Bool
  | .process _ => true
  | _ => false

/-- A running call is never stuck. -/
lemma Inv.progress [Inhabited ω] (h : Inv laneOf capacity s) {rest : List α} (hcall : s.call = some rest) :
    ∃ a, a.isProcess = false ∧ (s.step laneOf capacity a).isSome := by
  by_cases hbusy : ∃ l item, (s.lanes l).current = some item
  · obtain ⟨l, item, hcurrent⟩ := hbusy
    exact ⟨.finish l default, rfl, by simp only [State.step, hcurrent]; rfl⟩
  · have hcurrent : ∀ l, (s.lanes l).current = none := fun l => by
      cases hl : (s.lanes l).current with
      | none => rfl
      | some item => exact absurd ⟨l, item, hl⟩ hbusy
    by_cases hwaiting : ∃ l item queue, (s.lanes l).queue = item :: queue
    · obtain ⟨l, item, queue, hqueue⟩ := hwaiting
      exact ⟨.take l, rfl, by simp only [State.step, hcurrent l, hqueue]; rfl⟩
    · have hqueue : ∀ l, (s.lanes l).queue = [] := fun l => by
        cases hl : (s.lanes l).queue with
        | nil => rfl
        | cons item queue => exact absurd ⟨l, item, queue, hl⟩ hwaiting
      cases rest with
      | cons message rest =>
        -- The lane of the next message is waiting.
        rcases Nat.eq_zero_or_pos capacity with hzero | hpos
        · refine ⟨.send, rfl, ?_⟩
          simp only [State.step, hcall, State.send, hqueue, List.length_nil, hzero, hcurrent,
            Option.isNone_none, Nat.lt_irrefl, if_false, and_self, if_true, Option.isSome_some]
        · refine ⟨.send, rfl, ?_⟩
          simp only [State.step, hcall, State.send, hqueue, List.length_nil, hpos, if_true,
            Option.isSome_some]
      | nil =>
        -- All messages have ended, so that the counter is zero.
        have hall : List.range s.sent.length ⊆ finishedIds s.log := by
          intro i hi
          have hlt := List.mem_range.mp hi
          rcases h.complete i _ (List.getElem?_eq_getElem hlt) with hfinished | hitem
          · exact hfinished
          · simp [Lane.items, hcurrent, hqueue] at hitem
        have hlength := (List.nodup_range.subperm hall).length_le
        have hcount := h.pending
        rw [List.length_range] at hlength
        have hpending : s.pending = 0 := by omega
        exact ⟨.return, rfl, by simp only [State.step, hcall, hpending, if_true]; rfl⟩

/-- How many steps a running call can take: three for a message that is not sent, up to two for one that
is, and the return. -/
def State.left (s : State α ω) : ℕ :=
  3 * (s.call.getD []).length + (2 * s.sent.length - (startedIds s.log).length - (finishedIds s.log).length) +
    s.call.toList.length

/-- No more messages start or end than were sent. -/
lemma Inv.length_le (h : Inv laneOf capacity s) :
    (startedIds s.log).length ≤ s.sent.length ∧ (finishedIds s.log).length ≤ s.sent.length := by
  have hsub : startedIds s.log ⊆ List.range s.sent.length := fun i hi => List.mem_range.mpr (h.sent i hi)
  have hlength := (h.startedNodup.subperm hsub).length_le
  rw [List.length_range] at hlength
  exact ⟨hlength, by have hcount := h.pending; omega⟩

/-- Every step but the beginning of a call leaves fewer steps. -/
lemma Inv.left_lt (h : Inv laneOf capacity s) {a : Action α ω} (ha : a.isProcess = false)
    (hstep : s.step laneOf capacity a = some s') : s'.left < s.left := by
  have hbefore := h.length_le
  have hafter := (h.step hstep).length_le
  cases a with
  | process batch => cases ha
  | send =>
    simp only [State.step] at hstep
    split at hstep
    · next message rest hcall =>
      simp only [State.send] at hstep
      split_ifs at hstep
      · cases hstep
        simp [State.left, State.setLane, hcall] at *
        omega
      · cases hstep
        simp [State.left, State.setLane, hcall] at *
        omega
    · cases hstep
  | take l =>
    simp only [State.step] at hstep
    split at hstep
    · cases hstep
      simp [State.left, State.setLane] at *
      omega
    · cases hstep
  | finish l outcome =>
    simp only [State.step] at hstep
    split at hstep
    · cases hstep
      simp [State.left, State.setLane] at *
      omega
    · cases hstep
  | «return» =>
    simp only [State.step] at hstep
    split at hstep
    · next hcall =>
      split_ifs at hstep
      cases hstep
      simp [State.left, hcall]
    · cases hstep

/-- A running call takes boundedly many steps. -/
lemma Inv.run_length_le {actions : List (Action α ω)} (h : Inv laneOf capacity s)
    (hactions : ∀ a ∈ actions, a.isProcess = false)
    (hrun : StepSystem.run (State.step laneOf capacity) s actions = some s') :
    actions.length + s'.left ≤ s.left := by
  induction actions generalizing s with
  | nil =>
    cases hrun
    simp
  | cons a actions ih =>
    obtain ⟨t, hstep, hrest⟩ := run_cons.mp hrun
    have hlt := h.left_lt (hactions a List.mem_cons_self) hstep
    have hle := ih (h.step hstep) (fun b hb => hactions b (List.mem_cons_of_mem _ hb)) hrest
    rw [List.length_cons]
    omega

end Lanes
