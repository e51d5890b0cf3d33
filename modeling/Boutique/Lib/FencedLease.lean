import Mathlib.Order.Lattice
import Mathlib.Order.Nat
import Mathlib.Data.List.Induction

/-!
# Fenced leases

A record says who holds a lease, until when, and whether the work is done.  Workers acquire, renew
and complete the lease with times of their own, which come from any linear order and need not agree.
What excludes them from each other is the token of the record, which every acquisition increases:
`History.fenced` derives all exclusion from what a single write requires of the record it replaces.
-/

namespace FencedLease

/-- Who holds the lease, with which token and until when, and whether the work is done. -/
structure Record (τ : Type*) where
  owner : String
  token : ℕ
  expiry : τ
  completed : Bool
  deriving DecidableEq

/-- What a write is for, with the time of the writer. -/
inductive Op (τ : Type*) where
  | acquire (owner : String) (now : τ)
  | renew (owner : String) (token : ℕ) (now : τ)
  | complete (owner : String) (token : ℕ) (now : τ)
  deriving DecidableEq

/-- The write is an acquisition. -/
def Op.isAcquire {τ : Type*} : Op τ → Bool
  | .acquire _ _ => true
  | _ => false

variable {τ : Type*} [LinearOrder τ]

/-- The record is held with this token, at this time, and the work is not done. -/
structure Record.HeldBy (r : Record τ) (owner : String) (token : ℕ) (now : τ) : Prop where
  owner : r.owner = owner
  token : r.token = token
  expiry : now < r.expiry
  completed : r.completed = false

/-- The record can be taken over. -/
structure Record.Free (r : Record τ) (now : τ) : Prop where
  expiry : r.expiry ≤ now
  completed : r.completed = false

/-- The write may replace a record, if there is one, by another. -/
def Op.Allows : Op τ → Option (Record τ) → Record τ → Prop
  | .acquire owner _, none, next => next.owner = owner ∧ next.completed = false
  | .acquire owner now, some r, next =>
    r.Free now ∧ r.token < next.token ∧ next.owner = owner ∧ next.completed = false
  | .renew owner token now, some r, next =>
    r.HeldBy owner token now ∧ next.owner = owner ∧ next.token = token ∧ next.completed = false
  | .complete owner token now, some r, next =>
    r.HeldBy owner token now ∧ next.owner = owner ∧ next.token = token ∧ next.completed = true
  | _, none, _ => False

/-- The record that the writes leave. -/
def last (writes : List (Op τ × Record τ)) : Option (Record τ) := writes.getLast?.map Prod.snd

/-- Writes each of which may replace the record before it. -/
def History (writes : List (Op τ × Record τ)) : Prop :=
  ∀ pre op r post, writes = pre ++ (op, r) :: post → op.Allows (last pre) r

/-- The owner and token of the latest acquisition. -/
def LatestClaim (writes : List (Op τ × Record τ)) (owner : String) (token : ℕ) : Prop :=
  ∃ pre now r post, writes = pre ++ (.acquire owner now, r) :: post ∧ r.token = token ∧
    ∀ x ∈ post, x.1.isAcquire = false

/-- The exclusion that leases give. -/
structure Fenced (writes : List (Op τ × Record τ)) : Prop where
  /-- Every acquisition has a larger token than all earlier ones. -/
  tokens : (writes.filter fun x => x.1.isAcquire).Pairwise fun x y => x.2.token < y.2.token
  /-- Nobody acquires a lease that has not expired. -/
  exclusive : ∀ pre owner now r post, writes = pre ++ (.acquire owner now, r) :: post →
    ∀ stored, last pre = some stored → ¬ now < stored.expiry
  /-- Only the owner of the latest claim renews it, before it expires. -/
  renewals : ∀ pre owner token now r post, writes = pre ++ (.renew owner token now, r) :: post →
    LatestClaim pre owner token ∧ ∃ stored, last pre = some stored ∧ now < stored.expiry
  /-- Only the owner of the latest claim completes the work, before it expires. -/
  completions : ∀ pre owner token now r post,
    writes = pre ++ (.complete owner token now, r) :: post →
    LatestClaim pre owner token ∧ ∃ stored, last pre = some stored ∧ now < stored.expiry
  /-- Nothing is written after a completion. -/
  final : ∀ pre owner token now r post, writes = pre ++ (.complete owner token now, r) :: post →
    post = []

variable {writes : List (Op τ × Record τ)} {op : Op τ} {r : Record τ}

omit [LinearOrder τ] in
/-- The last record. -/
lemma last_concat : last (writes ++ [(op, r)]) = some r := by
  simp [last]

/-- The earlier writes. -/
lemma History.left {rest : List (Op τ × Record τ)} (h : History (writes ++ rest)) :
    History writes := by
  intro pre op r post heq
  exact h pre op r (post ++ rest) (by rw [heq, List.append_assoc, List.cons_append])

/-- One more write. -/
lemma History.concat (h : History writes) (hop : op.Allows (last writes) r) :
    History (writes ++ [(op, r)]) := by
  intro pre op' r' post heq
  rcases List.append_eq_append_iff.mp heq with ⟨mid, rfl, hmid⟩ | ⟨mid, rfl, hmid⟩
  · cases mid with
    | nil =>
      obtain ⟨⟨⟩, -⟩ := List.cons.inj hmid
      rw [List.append_nil]
      exact hop
    | cons _ mid => simp at hmid
  · cases mid with
    | nil =>
      obtain ⟨⟨⟩, -⟩ := List.cons.inj hmid
      rw [List.append_nil] at hop
      exact hop
    | cons x mid =>
      obtain ⟨rfl, -⟩ := List.cons.inj hmid
      exact h pre op' r' mid rfl

/-- The last record is that of the latest claim, and has the largest token. -/
lemma History.claim (h : History writes) {stored : Record τ} (hlast : last writes = some stored) :
    LatestClaim writes stored.owner stored.token ∧
      ∀ x ∈ writes, x.1.isAcquire = true → x.2.token ≤ stored.token := by
  induction writes using List.reverseRecOn generalizing stored with
  | nil => cases hlast
  | append_singleton writes x ih =>
    obtain ⟨op, r⟩ := x
    rw [last_concat] at hlast
    obtain rfl : r = stored := Option.some.inj hlast
    have hop := h writes op r [] rfl
    have hkeep : ∀ (claimed : Record τ), last writes = some claimed → r.owner = claimed.owner →
        r.token = claimed.token → op.isAcquire = false →
        LatestClaim (writes ++ [(op, r)]) r.owner r.token ∧
          ∀ x ∈ writes ++ [(op, r)], x.1.isAcquire = true → x.2.token ≤ r.token := by
      intro claimed hclaimed howner htoken hnot
      obtain ⟨⟨pre, now, r', post, rfl, hr', hpost⟩, hmax⟩ := ih h.left hclaimed
      refine ⟨⟨pre, now, r', post ++ [(op, r)], by simp [howner], hr'.trans htoken.symm, ?_⟩, ?_⟩
      · intro x hx
        rcases List.mem_append.mp hx with hx | hx
        · exact hpost x hx
        · rw [List.mem_singleton.mp hx]
          exact hnot
      · intro x hx hacquire
        rcases List.mem_append.mp hx with hx | hx
        · rw [htoken]
          exact hmax x hx hacquire
        · rw [List.mem_singleton.mp hx]
    cases op with
    | acquire owner now =>
      have howner : r.owner = owner := by
        cases hprev : last writes <;> rw [hprev] at hop
        · exact hop.1
        · exact hop.2.2.1
      refine ⟨⟨writes, now, r, [], by rw [howner], rfl, by simp⟩, fun x hx hacquire => ?_⟩
      rcases List.mem_append.mp hx with hx | hx
      · cases hprev : last writes with
        | none =>
          rw [last, Option.map_eq_none_iff, List.getLast?_eq_none_iff] at hprev
          simp [hprev] at hx
        | some stored =>
          rw [hprev] at hop
          exact ((ih h.left hprev).2 x hx hacquire).trans hop.2.1.le
      · rw [List.mem_singleton.mp hx]
    | renew owner token now =>
      cases hprev : last writes <;> rw [hprev] at hop
      · exact hop.elim
      · exact hkeep _ hprev (hop.2.1.trans hop.1.owner.symm) (hop.2.2.1.trans hop.1.token.symm) rfl
    | complete owner token now =>
      cases hprev : last writes <;> rw [hprev] at hop
      · exact hop.elim
      · exact hkeep _ hprev (hop.2.1.trans hop.1.owner.symm) (hop.2.2.1.trans hop.1.token.symm) rfl

/-- The tokens of acquisitions increase. -/
lemma History.tokens (h : History writes) :
    (writes.filter fun x => x.1.isAcquire).Pairwise fun x y => x.2.token < y.2.token := by
  induction writes using List.reverseRecOn with
  | nil => exact .nil
  | append_singleton writes x ih =>
    obtain ⟨op, r⟩ := x
    rw [List.filter_append, List.pairwise_append]
    refine ⟨ih h.left, by cases hop : op.isAcquire <;> simp [hop], ?_⟩
    intro x hx y hy
    obtain ⟨hy, hacquire⟩ := List.mem_filter.mp hy
    rw [List.mem_singleton] at hy
    subst hy
    obtain ⟨hx, hxacquire⟩ := List.mem_filter.mp hx
    have hop := h writes op r [] rfl
    cases op with
    | acquire owner now =>
      cases hprev : last writes with
      | none =>
        rw [last, Option.map_eq_none_iff, List.getLast?_eq_none_iff] at hprev
        simp [hprev] at hx
      | some stored =>
        rw [hprev] at hop
        exact ((h.left.claim hprev).2 x hx (by simpa using hxacquire)).trans_lt hop.2.1
    | renew => cases hacquire
    | complete => cases hacquire

/-- A held record is that of the latest claim. -/
lemma History.held {owner : String} {token : ℕ} {now : τ} {stored : Record τ} (h : History writes)
    (hlast : last writes = some stored) (hheld : stored.HeldBy owner token now) :
    LatestClaim writes owner token ∧ ∃ stored, last writes = some stored ∧ now < stored.expiry := by
  refine ⟨?_, stored, hlast, hheld.expiry⟩
  rw [← hheld.owner, ← hheld.token]
  exact (h.claim hlast).1

/-- A completed record is not replaced. -/
lemma Op.not_allows_completed {next : Record τ} (h : r.completed = true) :
    ¬ op.Allows (some r) next := by
  intro hop
  cases op with
  | acquire => exact absurd (h.symm.trans hop.1.completed) (by simp)
  | renew => exact absurd (h.symm.trans hop.1.completed) (by simp)
  | complete => exact absurd (h.symm.trans hop.1.completed) (by simp)

/-- Writes that follow the rules are fenced, whatever the times. -/
theorem History.fenced (h : History writes) : Fenced writes where
  tokens := h.tokens
  exclusive := by
    intro pre owner now r post heq stored hstored
    have hop := h pre (.acquire owner now) r post heq
    rw [hstored] at hop
    exact not_lt.mpr hop.1.expiry
  renewals := by
    intro pre owner token now r post heq
    have hop := h pre (.renew owner token now) r post heq
    subst heq
    cases hprev : last pre with
    | none =>
      rw [hprev] at hop
      exact hop.elim
    | some stored =>
      rw [hprev] at hop
      rw [← hprev]
      exact h.left.held hprev hop.1
  completions := by
    intro pre owner token now r post heq
    have hop := h pre (.complete owner token now) r post heq
    subst heq
    cases hprev : last pre with
    | none =>
      rw [hprev] at hop
      exact hop.elim
    | some stored =>
      rw [hprev] at hop
      rw [← hprev]
      exact h.left.held hprev hop.1
  final := by
    intro pre owner token now r post heq
    cases post with
    | nil => rfl
    | cons x post =>
      obtain ⟨op, next⟩ := x
      have hcompleted : r.completed = true := by
        have hop := h pre (.complete owner token now) r _ heq
        cases hprev : last pre <;> rw [hprev] at hop
        · exact hop.elim
        · exact hop.2.2.2
      have hnext := h (pre ++ [(.complete owner token now, r)]) op next post (by simp [heq])
      rw [last_concat] at hnext
      exact absurd hnext (Op.not_allows_completed hcompleted)

end FencedLease
