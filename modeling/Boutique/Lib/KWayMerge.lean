import Mathlib.Order.Lattice
import Mathlib.Algebra.GroupWithZero.Nat
import Mathlib.Data.List.Nodup
import Mathlib.Algebra.BigOperators.Group.List.Basic

/-!
# Merging many streams

The merge of streams that always takes a smallest head, and the first stream of those with equal heads.
The key of a value is computed when the value becomes a head, and may fail; the values of the last stream
that is left are taken without their keys.  What is merged is an interleaving of the streams, and is sorted
if the streams are.
-/

namespace KWayMerge

variable {α κ ε : Type}

/-- A stream that is not exhausted: the key of its head, its number, its head and what follows. -/
structure Entry (α κ : Type) where
  key : κ
  order : ℕ
  value : α
  tail : List α

/-- The values of a stream. -/
def Entry.values (entry : Entry α κ) : List α := entry.value :: entry.tail

/-- The number of values that are left. -/
def size (heap : List (Entry α κ)) : ℕ := (heap.map fun entry => entry.values.length).sum

/-- The part of a merge that comes from one stream. -/
def part (i : ℕ) (merged : List (ℕ × α)) : List α :=
  (merged.filter fun entry => entry.1 = i).map Prod.snd

/-! ## Interleavings -/

variable {least : Entry α κ} {others : List (Entry α κ)} {merged : List (ℕ × α)}

/-- The entries of a heap have different numbers, and the keys of their heads; every key can be
computed. -/
structure Keyed (key : α → Except ε κ) (k : α → κ) (heap : List (Entry α κ)) : Prop where
  nodup : (heap.map Entry.order).Nodup
  head : ∀ entry ∈ heap, entry.key = k entry.value
  key_eq : ∀ entry ∈ heap, ∀ value ∈ entry.values, key value = .ok (k value)

variable {key : α → Except ε κ} {k : α → κ}

/-- A stream is exhausted. -/
lemma Keyed.tail (h : Keyed key k (least :: others)) : Keyed key k others where
  nodup := (List.nodup_cons.mp h.nodup).2
  head entry hentry := h.head entry (List.mem_cons_of_mem _ hentry)
  key_eq entry hentry := h.key_eq entry (List.mem_cons_of_mem _ hentry)

/-- A stream goes on. -/
lemma Keyed.next {value : α} {tail : List α} (h : Keyed key k (least :: others))
    (htail : least.tail = value :: tail) :
    Keyed key k ({ key := k value, order := least.order, value, tail } :: others) where
  nodup := h.nodup
  head entry hentry := by
    rcases List.mem_cons.mp hentry with rfl | hother
    · rfl
    · exact h.tail.head entry hother
  key_eq entry hentry := by
    rcases List.mem_cons.mp hentry with rfl | hother
    · intro v hv
      refine h.key_eq least List.mem_cons_self v ?_
      rw [Entry.values, htail]
      exact List.mem_cons_of_mem _ hv
    · exact h.tail.key_eq entry hother

variable (key) in
/-- The first entries, of the streams from number `i` on. -/
def entries : ℕ → List (List α) → Except ε (List (Entry α κ))
  | _, [] => .ok []
  | i, [] :: streams => entries (i + 1) streams
  | i, (value :: tail) :: streams => do
    let head ← key value
    let rest ← entries (i + 1) streams
    return { key := head, order := i, value, tail } :: rest

variable [LinearOrder κ]

/-- Heads are compared by their keys, and then by the numbers of the streams. -/
def Entry.Le (a b : Entry α κ) : Prop := a.key < b.key ∨ a.key = b.key ∧ a.order ≤ b.order

instance (a b : Entry α κ) : Decidable (a.Le b) := inferInstanceAs (Decidable (_ ∨ _))

/-- The least entry, and the others. -/
def extractMin (entry : Entry α κ) : List (Entry α κ) → Entry α κ × List (Entry α κ)
  | [] => (entry, [])
  | next :: entries =>
    let (least, others) := extractMin next entries
    if entry.Le least then (entry, next :: entries) else (least, entry :: others)

variable (key)

/-- The loop of the merge: the values with the numbers of their streams. -/
def mergeLoop : ℕ → List (Entry α κ) → Except ε (List (ℕ × α))
  | 0, _ | _, [] => .ok []
  | _ + 1, [entry] => .ok (entry.values.map fun value => (entry.order, value))
  | n + 1, entry :: next :: entries =>
    let (least, others) := extractMin entry (next :: entries)
    match least.tail with
    | [] => do
      let rest ← mergeLoop n others
      return (least.order, least.value) :: rest
    | value :: tail => do
      let head ← key value
      let rest ← mergeLoop n ({ key := head, order := least.order, value, tail } :: others)
      return (least.order, least.value) :: rest

/-- The merge of streams. -/
def merge (streams : List (List α)) : Except ε (List (ℕ × α)) := do
  let heap ← entries key 0 streams
  mergeLoop key (size heap) heap

/-! ## The least entry -/

variable {key} {entry : Entry α κ}

/-- The order of entries is transitive. -/
lemma Entry.le_trans {a b c : Entry α κ} (hab : a.Le b) (hbc : b.Le c) : a.Le c := by
  rcases hab with hab | ⟨hab, hab'⟩ <;> rcases hbc with hbc | ⟨hbc, hbc'⟩
  · exact .inl (lt_trans hab hbc)
  · exact .inl (hbc ▸ hab)
  · exact .inl (hab ▸ hbc)
  · exact .inr ⟨hab.trans hbc, Nat.le_trans hab' hbc'⟩

end KWayMerge
