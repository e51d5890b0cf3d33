import Mathlib.Tactic.Common
import Mathlib.Order.Nat

/-!
# A register written by compare-and-set on a version

Writers read a register, compute a new value from what they read and write it back under the
condition that the register still has the version they read.  The version is part of the value, and
each writer decides for itself whether the value it writes has a larger one.  So a write may replace
a value that is not the one its writer read, as long as the two have the same version.

`History` is the list of successful writes together with the value they leave.  `History.fresh` is
the one fact that carries all reasoning about stale reads: if a write at an unchanged version keeps
the old value up to a relation `R`, then every value that was ever stored is related by `R` to every
later one of the same version.
-/

namespace OptimisticRegister

variable {ν ε : Type*}

/-- A register with values in `ν` and write attempts in `ε`: the version of a value, the value a
writer had read, the value it leaves, and which attempts may succeed over which stored value. -/
structure Register (ν ε : Type*) where
  version : ν → ℕ
  initial : ν
  loaded : ε → ν
  after : ε → ν
  valid : ν → ε → Prop

/-- The successful writes of a register in order, and the value they leave.  The value that a writer
read is the one left by some earlier part of the list. -/
inductive History (G : Register ν ε) : List ε → ν → Prop where
  | nil : History G [] G.initial
  | snoc {log pre : List ε} {v : ν} {e : ε} (hlog : History G log v) (hpre : pre <+: log)
      (hload : History G pre (G.loaded e))
      (hversion : G.version (G.loaded e) = G.version v) (hvalid : G.valid v e) :
      History G (log ++ [e]) (G.after e)

/-- `u` is not newer than `v`, and related to it when the versions agree. -/
def Fresh (version : ν → ℕ) (R : ν → ν → Prop) (u v : ν) : Prop :=
  version u ≤ version v ∧ (version u = version v → R u v)

section Fresh

variable {version : ν → ℕ} {R : ν → ν → Prop} {u v w : ν}

/-- A value is fresh with respect to itself. -/
lemma Fresh.refl (hrefl : ∀ v, R v v) (v : ν) : Fresh version R v v := ⟨le_rfl, fun _ => hrefl v⟩

/-- Freshness is transitive. -/
lemma Fresh.trans (htrans : ∀ u v w, R u v → R v w → R u w) (huv : Fresh version R u v)
    (hvw : Fresh version R v w) : Fresh version R u w := by
  refine ⟨huv.1.trans hvw.1, fun h => ?_⟩
  have huv' : version u = version v := le_antisymm huv.1 (h ▸ hvw.1)
  exact htrans u v w (huv.2 huv') (hvw.2 (huv' ▸ h))

end Fresh

namespace History

variable {G : Register ν ε} {log pre : List ε} {u v : ν}

/-- The writes determine the stored value. -/
lemma unique (h : History G log v) (h' : History G log u) : u = v := by
  cases h with
  | nil =>
    generalize hl : ([] : List ε) = l at h'
    cases h' with
    | nil => rfl
    | snoc => simp at hl
  | @snoc log _ v e =>
    generalize hl : log ++ [e] = l at h'
    cases h' with
    | nil => simp at hl
    | snoc => rw [(List.append_inj_right' hl.symm rfl |> List.singleton_inj.mp)]

/-- An invariant of the stored value: it holds initially, and a write over a value for which it
holds, by a writer that read a value for which it holds, leaves one for which it holds. -/
theorem invariant {I : ν → Prop} (hinit : I G.initial)
    (hwrite : ∀ v e, I (G.loaded e) → I v → G.version (G.loaded e) = G.version v →
      G.valid v e → I (G.after e))
    (h : History G log v) : I v := by
  induction h with
  | nil => exact hinit
  | snoc hlog hp hload hversion hvalid ihlog ihload =>
    exact hwrite _ _ ihload ihlog hversion hvalid

/-- The freshness rule: if every write moves to a fresh value, then so is the current value with
respect to every value stored earlier. -/
theorem fresh {R : ν → ν → Prop} (hrefl : ∀ v, R v v) (htrans : ∀ u v w, R u v → R v w → R u w)
    (hwrite : ∀ log v e, History G log v → R (G.loaded e) v →
      G.version (G.loaded e) = G.version v → G.valid v e →
      (∃ pre, History G pre (G.loaded e)) → Fresh G.version R v (G.after e))
    (h : History G log v) (hpre : pre <+: log) (hu : History G pre u) :
    Fresh G.version R u v := by
  induction h generalizing pre u with
  | nil =>
    rw [List.prefix_nil.mp hpre] at hu
    rw [unique .nil hu]
    exact Fresh.refl hrefl _
  | @snoc log p v e hlog hp hload hversion hvalid ih =>
    rcases List.prefix_concat_iff.mp hpre with rfl | hpre
    · rw [unique (.snoc hlog hp hload hversion hvalid) hu]
      exact Fresh.refl hrefl _
    · have hR : R (G.loaded e) v := (ih hp hload).2 hversion
      exact (ih hpre hu).trans htrans (hwrite log v e hlog hR hversion hvalid ⟨p, hload⟩)

end History

end OptimisticRegister
