import Mathlib.Order.WithBot
import Mathlib.Data.List.Induction

/-!
# Version gates

A stored value that is replaced only by values with a larger key.  Whatever is offered to such a
gate one after the other, it ends with the first of the values that have the largest key, provided
that this key is above the one with which the empty gate starts.
-/

namespace VersionGate

variable {α β κ : Type*} [LinearOrder κ] (key : α → κ) (base : κ)

/-- The stored value after `x` was offered.  The empty gate refuses everything up to `base`. -/
def offer (stored : Option α) (x : α) : Option α :=
  if key x ≤ stored.elim base key then stored else some x

/-- The value that is left after the values of a list were offered to the empty gate. -/
def winner (l : List α) : Option α := l.foldl (offer key base) none

/-- `v` is the first value of the list with the largest key. -/
def FirstMax (l : List α) (v : α) : Prop :=
  ∃ pre post, l = pre ++ v :: post ∧ (∀ w ∈ pre, key w < key v) ∧ ∀ w ∈ post, key w ≤ key v

variable {key base} {l : List α} {v w x : α}

/-- The winner of a longer list. -/
lemma winner_concat : winner key base (l ++ [x]) = offer key base (winner key base l) x := by
  rw [winner, List.foldl_append]
  rfl

/-- The first largest value has a largest key. -/
lemma FirstMax.le (h : FirstMax key l v) (hw : w ∈ l) : key w ≤ key v := by
  obtain ⟨pre, post, rfl, hpre, hpost⟩ := h
  rcases List.mem_append.mp hw with hw | hw
  · exact (hpre w hw).le
  · rcases List.mem_cons.mp hw with rfl | hw
    · exact le_rfl
    · exact hpost w hw

/-- The first largest value is in the list. -/
lemma FirstMax.mem (h : FirstMax key l v) : v ∈ l := by
  obtain ⟨pre, post, rfl, -, -⟩ := h
  exact List.mem_append_right _ List.mem_cons_self

/-- A value that is not larger changes nothing. -/
lemma FirstMax.concat_of_le (h : FirstMax key l v) (hx : key x ≤ key v) :
    FirstMax key (l ++ [x]) v := by
  obtain ⟨pre, post, rfl, hpre, hpost⟩ := h
  refine ⟨pre, post ++ [x], by simp, hpre, fun w hw => ?_⟩
  rcases List.mem_append.mp hw with hw | hw
  · exact hpost w hw
  · rw [List.mem_singleton.mp hw]
    exact hx

/-- A value that is larger than all others is the first largest one. -/
lemma firstMax_concat_of_lt (hx : ∀ w ∈ l, key w < key x) : FirstMax key (l ++ [x]) x :=
  ⟨l, [], rfl, hx, by simp⟩

/-- The winner is the first value with the largest key, if that is above `base`; without one nothing
is above `base`. -/
lemma winner_spec (key : α → κ) (base : κ) (l : List α) :
    (winner key base l = none ∧ ∀ w ∈ l, key w ≤ base) ∨
      ∃ v, winner key base l = some v ∧ base < key v ∧ FirstMax key l v := by
  induction l using List.reverseRecOn with
  | nil => exact .inl ⟨rfl, by simp⟩
  | append_singleton l x ih =>
    rw [winner_concat]
    rcases ih with ⟨hnone, hle⟩ | ⟨v, hv, hbase, hmax⟩
    · rw [hnone, offer, Option.elim_none]
      by_cases hx : key x ≤ base
      · refine .inl ⟨if_pos hx, fun w hw => ?_⟩
        rcases List.mem_append.mp hw with hw | hw
        · exact hle w hw
        · rw [List.mem_singleton.mp hw]
          exact hx
      · have hlt := lt_of_not_ge hx
        exact .inr ⟨x, if_neg hx, hlt, firstMax_concat_of_lt fun w hw => (hle w hw).trans_lt hlt⟩
    · rw [hv, offer, Option.elim_some]
      by_cases hx : key x ≤ key v
      · exact .inr ⟨v, if_pos hx, hbase, hmax.concat_of_le hx⟩
      · have hlt := lt_of_not_ge hx
        exact .inr ⟨x, if_neg hx, hbase.trans hlt,
          firstMax_concat_of_lt fun w hw => (hmax.le hw).trans_lt hlt⟩

/-- There is only one first largest value. -/
lemma FirstMax.unique (h : FirstMax key l v) (h' : FirstMax key l w) : v = w := by
  have hkey : key v = key w := le_antisymm (h'.le h.mem) (h.le h'.mem)
  obtain ⟨pre, post, rfl, hpre, -⟩ := h
  obtain ⟨pre', post', hl, hpre', -⟩ := h'
  -- neither of the two positions can be before the other
  rcases List.append_eq_append_iff.mp hl with ⟨mid, rfl, hmid⟩ | ⟨mid, rfl, hmid⟩
  · cases mid with
    | nil => exact (List.cons.inj hmid).1
    | cons y mid =>
      obtain ⟨rfl, -⟩ := List.cons.inj hmid
      exact absurd (hpre' v (by simp)) (by rw [hkey]; exact lt_irrefl _)
  · cases mid with
    | nil => exact (List.cons.inj hmid).1.symm
    | cons y mid =>
      obtain ⟨rfl, -⟩ := List.cons.inj hmid
      exact absurd (hpre w (by simp)) (by rw [hkey]; exact lt_irrefl _)

/-- What a gate ends with. -/
theorem winner_eq_some_iff : winner key base l = some v ↔ base < key v ∧ FirstMax key l v := by
  rcases winner_spec key base l with ⟨hnone, hle⟩ | ⟨u, hu, hbase, hmax⟩
  · rw [hnone]
    refine ⟨fun h => ?_, fun h => absurd (hle v h.2.mem) (not_le_of_gt h.1)⟩
    cases h
  · rw [hu]
    constructor
    · intro h
      cases h
      exact ⟨hbase, hmax⟩
    · intro h
      rw [hmax.unique h.2]

/-- A gate that starts empty and takes the first value whatever its key. -/
lemma winner_withBot_iff : winner (fun x => WithBot.some (key x)) ⊥ l = some v ↔
    FirstMax key l v := by
  rw [winner_eq_some_iff]
  simp only [FirstMax, WithBot.coe_lt_coe, WithBot.coe_le_coe, WithBot.bot_lt_coe, true_and]

/-- A list that is not empty has a first largest value. -/
lemma exists_firstMax (key : α → κ) (h : l ≠ []) : ∃ v, FirstMax key l v := by
  rcases winner_spec (fun x => WithBot.some (key x)) ⊥ l with ⟨-, hle⟩ | ⟨v, hv, -⟩
  · obtain ⟨x, hx⟩ := List.exists_mem_of_ne_nil l h
    exact absurd (hle x hx) (not_le.mpr (WithBot.bot_lt_coe _))
  · exact ⟨v, winner_withBot_iff.mp hv⟩

/-! ## Derived lists -/

/-- The winner among the images is the image of the winner. -/
lemma winner_map {key : β → κ} (f : α → β) (l : List α) :
    winner key base (l.map f) = (winner (key ∘ f) base l).map f := by
  induction l using List.reverseRecOn with
  | nil => rfl
  | append_singleton l x ih =>
    rw [List.map_append, List.map_singleton, winner_concat, winner_concat, ih, offer, offer,
      Option.elim_map]
    by_cases hx : key (f x) ≤ (winner (key ∘ f) base l).elim base (key ∘ f)
    · rw [if_pos hx, if_pos (by exact hx)]
    · rw [if_neg hx, if_neg (by exact hx)]
      rfl

/-- Offering a value a second time changes nothing. -/
lemma offer_offer (stored : Option α) (x : α) :
    offer key base (offer key base stored x) x = offer key base stored x := by
  unfold offer
  by_cases hx : key x ≤ stored.elim base key
  · rw [if_pos hx, if_pos hx]
  · rw [if_neg hx, Option.elim_some, if_pos le_rfl]

/-- Nor does offering it any number of times more. -/
lemma foldl_replicate_succ (stored : Option α) (x : α) (n : ℕ) :
    (List.replicate (n + 1) x).foldl (offer key base) stored = offer key base stored x := by
  induction n with
  | zero => rfl
  | succ n ih =>
    rw [List.replicate_succ', List.foldl_append, ih]
    exact offer_offer stored x

/-- Values that are offered several times in a row count as offered once. -/
lemma winner_flatMap_replicate (count : α → ℕ) (l : List α) :
    winner key base (l.flatMap fun x => List.replicate (count x + 1) x) = winner key base l := by
  induction l using List.reverseRecOn with
  | nil => rfl
  | append_singleton l x ih =>
    rw [winner_concat, ← ih, winner, List.flatMap_append, List.foldl_append, List.flatMap_singleton]
    exact foldl_replicate_succ _ x (count x)

/-! ## Scripts with a reply -/

section Replies

variable {σ ω : Type*} (step : σ → ω → σ) (reply : σ → ω → Bool)

/-- A state and the last write that was accepted, after one more write. -/
def track (held : σ × Option ω) (w : ω) : σ × Option ω :=
  (step held.1 w, if reply held.1 w then some w else held.2)

/-- The write that a state holds after a history: the last one to which the reply was positive. -/
def holder (s : σ) (writes : List ω) : Option ω := (writes.foldl (track step reply) (s, none)).2

variable {step reply} {s : σ} {level : σ → κ} {key : ω → κ}

/-- The state next to the last accepted write is the state after the history. -/
lemma track_fst (writes : List ω) (held : σ × Option ω) :
    (writes.foldl (track step reply) held).1 = writes.foldl step held.1 := by
  induction writes generalizing held with
  | nil => rfl
  | cons w writes ih => exact ih _

omit [LinearOrder κ] in
/-- A state that compares keys is at the key of the write that it holds. -/
lemma level_of_holder (hstep : ∀ s w, level (step s w) = if reply s w then key w else level s)
    {writes : List ω} {w : ω} (h : holder step reply s writes = some w) :
    level (writes.foldl step s) = key w := by
  induction writes using List.reverseRecOn with
  | nil => cases h
  | append_singleton writes x ih =>
    rw [holder, List.foldl_append, List.foldl_cons, List.foldl_nil, track, track_fst] at h
    rw [List.foldl_append, List.foldl_cons, List.foldl_nil, hstep]
    by_cases hx : reply (writes.foldl step s) x = true
    · rw [if_pos hx] at h ⊢
      rw [Option.some.inj h]
    · rw [if_neg hx] at h ⊢
      exact ih h

end Replies

end VersionGate
