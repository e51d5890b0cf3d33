import Mathlib.Algebra.BigOperators.Ring.Finset
import Mathlib.Algebra.Order.BigOperators.Group.List
import Mathlib.Algebra.Order.Group.Nat
import Mathlib.Data.List.Nodup
import Mathlib.Order.WellFounded

/-!
# Stores with a budget

A store holds items under distinct keys and counts their weights by hand.  An item that is added makes room
first: while the store is full, one of its items is evicted.  `Balanced` says that the count is right, and
`Within` that the limits are kept, a limit of `0` being none.
-/

namespace Budget

variable {κ ε : Type*}

/-- The number of items and the weight that are allowed. -/
structure Limits where
  items : ℕ
  weight : ℕ

/-- The items and the count of their weights. -/
structure Ledger (ε : Type*) where
  items : List ε := []
  total : ℤ := 0

section Operations

variable (key : ε → κ) (weight : ε → ℕ)

namespace Ledger

/-- The items of a kind are removed. -/
def remove (l : Ledger ε) (p : ε → Bool) : Ledger ε where
  items := l.items.filter fun e => !p e
  total := l.total - ((l.items.filter p).map fun e => (weight e : ℤ)).sum

/-- An item is added. -/
def add (l : Ledger ε) (e : ε) : Ledger ε where
  items := l.items ++ [e]
  total := l.total + weight e

/-- There is no room for another weight. -/
def full (limits : Limits) (l : Ledger ε) (w : ℕ) : Bool :=
  0 < l.items.length &&
    ((0 < limits.items && limits.items ≤ l.items.length) ||
      (0 < limits.weight && (limits.weight : ℤ) < l.total + w))

/-- The items have different keys, and the count is the sum of their weights. -/
structure Balanced (l : Ledger ε) : Prop where
  keys : (l.items.map key).Nodup
  total : l.total = ((l.items.map weight).sum : ℕ)

/-- The limits are kept; one item alone may be too heavy. -/
structure Within (limits : Limits) (l : Ledger ε) : Prop where
  items : 0 < limits.items → l.items.length ≤ limits.items
  weight : 0 < limits.weight → l.total ≤ limits.weight ∨ l.items.length = 1

variable [DecidableEq κ]

/-- The item of a key. -/
def find (l : Ledger ε) (k : κ) : Option ε := l.items.find? fun e => key e = k

/-- The item of a key is removed, and its weight is no longer counted. -/
def drop (l : Ledger ε) (k : κ) : Ledger ε where
  items := l.items.filter fun e => key e ≠ k
  total := l.total - (((l.find key k).map weight).getD 0 : ℕ)

/-- One round of making room for a weight: the store is full, and one of its items is evicted. -/
def Evicts (limits : Limits) (w : ℕ) (l l' : Ledger ε) : Prop :=
  l.full limits w = true ∧ ∃ k, (l.find key k).isSome ∧ l' = l.drop key weight k

/-- Room is made for a weight: the keys are those that are evicted one after the other, and the result is
`none` if they are not there or room is not made exactly then. -/
def makeRoom (limits : Limits) (w : ℕ) : Ledger ε → List κ → Option (Ledger ε)
  | l, [] => if l.full limits w then none else some l
  | l, k :: ks =>
    if l.full limits w ∧ (l.find key k).isSome then makeRoom limits w (l.drop key weight k) ks else none

end Ledger

end Operations

namespace Ledger

variable {key : ε → κ} {weight : ε → ℕ} {limits : Limits} {l l' : Ledger ε} {e : ε} {k : κ} {w : ℕ}

/-! ## The count -/

/-- The empty store. -/
lemma Balanced.empty : ({} : Ledger ε).Balanced key weight := ⟨by simp, by simp⟩

/-- What is kept and what is removed make up the whole. -/
lemma sum_filter_add_sum_filter (weight : ε → ℕ) (p : ε → Bool) (items : List ε) :
    ((items.filter fun e => !p e).map weight).sum + ((items.filter p).map weight).sum =
      (items.map weight).sum := by
  induction items with
  | nil => rfl
  | cons e items ih =>
    cases hp : p e with
    | false =>
      rw [List.filter_cons_of_pos (by simp [hp]), List.filter_cons_of_neg (by simp [hp])]
      simp only [List.map_cons, List.sum_cons]
      omega
    | true =>
      rw [List.filter_cons_of_neg (by simp [hp]), List.filter_cons_of_pos hp]
      simp only [List.map_cons, List.sum_cons]
      omega

/-- Removing items keeps the count right. -/
lemma Balanced.remove (h : l.Balanced key weight) (p : ε → Bool) :
    (l.remove weight p).Balanced key weight where
  keys := h.keys.sublist (List.filter_sublist.map key)
  total := by
    have hsplit := sum_filter_add_sum_filter weight p l.items
    have hremoved : ((l.items.filter p).map fun e => (weight e : ℤ)).sum =
        (((l.items.filter p).map weight).sum : ℕ) := by
      rw [Nat.cast_list_sum, List.map_map]
      rfl
    simp only [Ledger.remove, h.total, hremoved]
    omega

/-- Adding an item under a new key keeps the count right. -/
lemma Balanced.add (h : l.Balanced key weight) (hnew : key e ∉ l.items.map key) :
    (l.add weight e).Balanced key weight where
  keys := by
    simpa only [Ledger.add, List.map_append, List.map_cons, List.map_nil, List.concat_eq_append] using
      h.keys.concat hnew
  total := by
    simp only [Ledger.add, h.total, List.map_append, List.map_cons, List.map_nil, List.sum_append,
      List.sum_cons, List.sum_nil]
    push_cast
    omega

/-! ## The limits -/

/-- The empty store keeps the limits. -/
lemma Within.empty : ({} : Ledger ε).Within limits := ⟨fun _ => by simp, fun _ => .inl (by simp)⟩

/-- A part of a store keeps the limits of the store. -/
lemma Within.sublist (h : l.Within limits) (hl : l.Balanced key weight) (hl' : l'.Balanced key weight)
    (hpart : l'.items.Sublist l.items) : l'.Within limits where
  items hpos := hpart.length_le.trans (h.items hpos)
  weight hpos := by
    have hle : l'.total ≤ l.total := by
      rw [hl.total, hl'.total]
      exact_mod_cast (hpart.map weight).sum_le_sum fun _ _ => Nat.zero_le _
    rcases h.weight hpos with htotal | hone
    · exact .inl (hle.trans htotal)
    · have hlength := hpart.length_le
      rcases Nat.lt_or_ge l'.items.length 1 with hempty | hsome
      · left
        have hnil : l'.items = [] := List.length_eq_zero_iff.mp (by omega)
        rw [hl'.total, hnil]
        simp
      · exact .inr (by omega)

/-- Removing items keeps the limits. -/
lemma Within.remove (h : l.Within limits) (hl : l.Balanced key weight) (p : ε → Bool) :
    (l.remove weight p).Within limits :=
  h.sublist hl (hl.remove p) List.filter_sublist

/-- There is room for an item if the store is not full. -/
lemma Within.add (hroom : l.full limits (weight e) = false) : (l.add weight e).Within limits := by
  simp only [full, Bool.and_eq_false_iff, Bool.or_eq_false_iff, decide_eq_false_iff_not, not_lt,
    not_le] at hroom
  refine ⟨fun hpos => ?_, fun hpos => ?_⟩
  · simp only [Ledger.add, List.length_append, List.length_singleton]
    rcases hroom with hempty | ⟨hitems, -⟩ <;> omega
  · simp only [Ledger.add, List.length_append, List.length_singleton]
    rcases hroom with hempty | ⟨-, hweight⟩
    · exact .inr (by omega)
    · exact .inl (by omega)

/-! ## The items of a key -/

variable [DecidableEq κ]

/-- An item has the key under which it is found. -/
lemma find_key (h : l.find key k = some e) : key e = k := by
  simpa using List.find?_some h

/-- An item that is found is there. -/
lemma find_mem (h : l.find key k = some e) : e ∈ l.items := List.mem_of_find?_eq_some h

/-- A key is found if an item has it. -/
lemma find_isSome : (l.find key k).isSome ↔ k ∈ l.items.map key := by
  simp [find, List.find?_isSome]

/-- The items of a key are the one that is found. -/
lemma filter_key (hkeys : (l.items.map key).Nodup) (k : κ) :
    l.items.filter (fun e => decide (key e = k)) = (l.find key k).toList := by
  cases hfind : l.find key k with
  | none =>
    rw [Option.toList_none, List.filter_eq_nil_iff]
    intro e he
    simpa using List.find?_eq_none.mp hfind e he
  | some found =>
    have hnodup : (l.items.filter fun e => decide (key e = k)).Nodup := (hkeys.of_map).filter _
    have hmem : ∀ e, e ∈ l.items.filter (fun e => decide (key e = k)) ↔ e = found := by
      intro e
      simp only [List.mem_filter, decide_eq_true_eq]
      constructor
      · rintro ⟨he, hk⟩
        exact List.inj_on_of_nodup_map hkeys he (find_mem hfind) (hk.trans (find_key hfind).symm)
      · rintro rfl
        exact ⟨find_mem hfind, find_key hfind⟩
    exact List.perm_singleton.mp
      ((List.perm_ext_iff_of_nodup hnodup (List.nodup_singleton found)).mpr (by simpa using hmem))

/-- To remove the item of a key is to drop the key. -/
lemma drop_eq_remove (hkeys : (l.items.map key).Nodup) (k : κ) :
    l.drop key weight k = l.remove weight fun e => decide (key e = k) := by
  simp only [drop, remove, filter_key hkeys k, decide_not]
  cases l.find key k <;> simp

/-- Dropping a key keeps the count right. -/
lemma Balanced.drop (h : l.Balanced key weight) (k : κ) : (l.drop key weight k).Balanced key weight := by
  rw [drop_eq_remove h.keys]
  exact h.remove _

/-- Dropping a key keeps the limits. -/
lemma Within.drop (h : l.Within limits) (hl : l.Balanced key weight) (k : κ) :
    (l.drop key weight k).Within limits :=
  h.sublist hl (hl.drop k) List.filter_sublist

/-! ## Making room -/

/-- Room is made by removing items, and the store is not full afterwards. -/
lemma makeRoom_spec {ks : List κ} (h : l.makeRoom key weight limits w ks = some l') :
    l'.items.Sublist l.items ∧ l'.full limits w = false ∧
      (l.Balanced key weight → l'.Balanced key weight) := by
  induction ks generalizing l with
  | nil =>
    rw [makeRoom] at h
    split_ifs at h with hfull
    cases h
    exact ⟨List.Sublist.refl _, by simpa using hfull, id⟩
  | cons k ks ih =>
    rw [makeRoom] at h
    split_ifs at h with hcond
    obtain ⟨hpart, hfull, hbalanced⟩ := ih h
    exact ⟨hpart.trans List.filter_sublist, hfull, fun hl => hbalanced (hl.drop k)⟩

/-- Making room for an item under a new key, and adding it, keeps the count right and the limits. -/
lemma makeRoom_add {ks : List κ} (hl : l.Balanced key weight) (hnew : key e ∉ l.items.map key)
    (h : l.makeRoom key weight limits (weight e) ks = some l') :
    (l'.add weight e).Balanced key weight ∧ (l'.add weight e).Within limits := by
  obtain ⟨hpart, hroom, hbalanced⟩ := makeRoom_spec h
  exact ⟨(hbalanced hl).add fun hmem => hnew ((hpart.map key).subset hmem), Within.add hroom⟩

/-- The key that `drop` removes is gone. -/
lemma drop_not_mem (l : Ledger ε) (k : κ) : k ∉ (l.drop key weight k).items.map key := by
  simp [Ledger.drop]

/-- A key that is there makes the store smaller when it is dropped. -/
lemma drop_length_lt (h : (l.find key k).isSome) :
    (l.drop key weight k).items.length < l.items.length := by
  obtain ⟨e, he⟩ := Option.isSome_iff_exists.mp h
  exact List.length_filter_lt_length_iff_exists.mpr ⟨e, find_mem he, by simp [find_key he]⟩

/-- Making room goes on as long as the store is full. -/
lemma exists_evicts (h : l.full limits w = true) : ∃ l', l.Evicts key weight limits w l' := by
  have hpos : 0 < l.items.length := by
    simp only [full, Bool.and_eq_true, decide_eq_true_eq] at h
    exact h.1
  obtain ⟨e, he⟩ := List.exists_mem_of_length_pos hpos
  exact ⟨_, h, key e, find_isSome.mpr (List.mem_map_of_mem he), rfl⟩

/-- Making room comes to an end, whatever the store and whatever is evicted. -/
theorem evicts_wellFounded (key : ε → κ) (weight : ε → ℕ) (limits : Limits) (w : ℕ) :
    WellFounded fun l' l : Ledger ε => l.Evicts key weight limits w l' := by
  refine Subrelation.wf ?_ (measure fun l : Ledger ε => l.items.length).wf
  rintro l' l ⟨-, k, hk, rfl⟩
  exact drop_length_lt hk

end Ledger

end Budget
