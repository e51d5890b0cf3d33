import Mathlib.Order.Lattice
import Mathlib.Data.List.Nodup
import Mathlib.Data.List.Induction

/-!
# The newest value of each key

A table with one value for each key, in the order in which the keys came.  A value that is offered takes
the place of the one with its key, unless that one has a larger version.  Of all the values that were
offered, the table has for each key the last one with the largest version.
-/

namespace NewestPerKey

variable {α κ ω : Type*} [DecidableEq κ] [LinearOrder ω] (key : α → κ) (version : α → ω)

/-- The table after `x` was offered, and the value that is superseded. -/
def offer (table : List α) (x : α) : List α × Option α :=
  match table.find? fun t => key t = key x with
  | none => (table ++ [x], none)
  | some previous =>
    if version previous ≤ version x then
      (table.map fun t => if key t = key x then x else t, some previous)
    else (table, some x)

/-- The table after the values of a list were offered. -/
def newest (l : List α) : List α := l.foldl (fun table x => (offer key version table x).1) []

/-- `t` is the last value of the list with the largest version. -/
def LastMax (l : List α) (t : α) : Prop :=
  ∃ pre post, l = pre ++ t :: post ∧ (∀ w ∈ pre, version w ≤ version t) ∧
    ∀ w ∈ post, version w < version t

variable {key version} {l table : List α} {t x : α}

/-- The last largest value has a largest version. -/
lemma LastMax.le (h : LastMax version l t) : ∀ w ∈ l, version w ≤ version t := by
  obtain ⟨pre, post, rfl, hpre, hpost⟩ := h
  intro w hw
  rcases List.mem_append.mp hw with hw | hw
  · exact hpre w hw
  · rcases List.mem_cons.mp hw with rfl | hw
    · exact le_rfl
    · exact le_of_lt (hpost w hw)

/-- A value that is smaller changes nothing. -/
lemma LastMax.concat_of_lt (h : LastMax version l t) (hx : version x < version t) :
    LastMax version (l ++ [x]) t := by
  obtain ⟨pre, post, rfl, hpre, hpost⟩ := h
  refine ⟨pre, post ++ [x], by simp, hpre, fun w hw => ?_⟩
  rcases List.mem_append.mp hw with hw | hw
  · exact hpost w hw
  · rw [List.mem_singleton.mp hw]
    exact hx

/-- A value that is not smaller than the others is the last largest one. -/
lemma lastMax_concat (hx : ∀ w ∈ l, version w ≤ version x) : LastMax version (l ++ [x]) x :=
  ⟨l, [], rfl, hx, by simp⟩

/-! ## One offer -/

/-- The value of a key in a table with one value for each key. -/
lemma exists_of_find? (hnodup : (table.map key).Nodup)
    (h : (table.find? fun t => key t = key x) = some t) :
    ∃ pre post, table = pre ++ t :: post ∧ key t = key x ∧ (∀ w ∈ pre, key w ≠ key x) ∧
      ∀ w ∈ post, key w ≠ key x := by
  obtain ⟨hkey, pre, post, rfl, hpre⟩ := List.find?_eq_some_iff_append.mp h
  have hkey : key t = key x := of_decide_eq_true hkey
  refine ⟨pre, post, rfl, hkey, fun w hw => by simpa using hpre w hw, fun w hw hsame => ?_⟩
  rw [List.map_append, List.map_cons] at hnodup
  have hcons := (List.nodup_append.mp hnodup).2.1
  rw [List.nodup_cons] at hcons
  refine hcons.1 ?_
  rw [hkey, ← hsame]
  exact List.mem_map_of_mem hw

/-- A table has only one value with the key of a value in it. -/
lemma filter_key_eq (hnodup : (table.map key).Nodup) (ht : t ∈ table) :
    (table.filter fun w => key w = key t) = [t] := by
  obtain ⟨pre, post, rfl⟩ := List.append_of_mem ht
  rw [List.map_append, List.map_cons, List.nodup_append, List.nodup_cons] at hnodup
  obtain ⟨-, ⟨hpost, -⟩, hpre⟩ := hnodup
  have hpreNil : pre.filter (fun w => key w = key t) = [] := by
    refine List.filter_eq_nil_iff.mpr fun w hw hkey => ?_
    exact hpre (key w) (List.mem_map_of_mem hw) (key t) List.mem_cons_self (of_decide_eq_true hkey)
  have hpostNil : post.filter (fun w => key w = key t) = [] := by
    refine List.filter_eq_nil_iff.mpr fun w hw hkey => hpost ?_
    rw [← of_decide_eq_true hkey]
    exact List.mem_map_of_mem hw
  rw [List.filter_append, hpreNil, List.filter_cons, hpostNil]
  simp

/-- Replacing the value of a key. -/
lemma map_replace {pre post : List α} (hkey : key t = key x) (hpre : ∀ w ∈ pre, key w ≠ key x)
    (hpost : ∀ w ∈ post, key w ≠ key x) :
    ((pre ++ t :: post).map fun t => if key t = key x then x else t) = pre ++ x :: post := by
  have hsame : ∀ part : List α, (∀ w ∈ part, key w ≠ key x) →
      part.map (fun t => if key t = key x then x else t) = part := by
    intro part hpart
    refine (List.map_congr_left fun w hw => ?_).trans (List.map_id part)
    exact if_neg (hpart w hw)
  rw [List.map_append, List.map_cons, hsame pre hpre, hsame post hpost, if_pos hkey]

/-- What an offer does to the table. -/
inductive Offered (key : α → κ) (version : α → ω) (table : List α) (x : α) :
    List α → Option α → Prop where
  | added (hkey : ∀ w ∈ table, key w ≠ key x) : Offered key version table x (table ++ [x]) none
  | replaced {pre post : List α} {t : α} (htable : table = pre ++ t :: post) (hkey : key t = key x)
      (hpre : ∀ w ∈ pre, key w ≠ key x) (hpost : ∀ w ∈ post, key w ≠ key x)
      (hversion : version t ≤ version x) :
      Offered key version table x (pre ++ x :: post) (some t)
  | refused {pre post : List α} {t : α} (htable : table = pre ++ t :: post) (hkey : key t = key x)
      (hpre : ∀ w ∈ pre, key w ≠ key x) (hpost : ∀ w ∈ post, key w ≠ key x)
      (hversion : version x < version t) : Offered key version table x table (some x)

/-- The cases of an offer. -/
lemma offer_cases (version : α → ω) (x : α) (hnodup : (table.map key).Nodup) :
    Offered key version table x (offer key version table x).1 (offer key version table x).2 := by
  unfold offer
  cases hfind : table.find? fun t => key t = key x with
  | none => exact .added fun w hw => by simpa using List.find?_eq_none.mp hfind w hw
  | some t =>
    obtain ⟨pre, post, rfl, hkey, hpre, hpost⟩ := exists_of_find? hnodup hfind
    by_cases hversion : version t ≤ version x
    · simp only [hversion, if_true, map_replace hkey hpre hpost]
      exact .replaced rfl hkey hpre hpost hversion
    · simp only [hversion, if_false]
      exact .refused rfl hkey hpre hpost (lt_of_not_ge hversion)

/-! ## Many offers -/

/-- The table of the values that were offered. -/
structure Table (key : α → κ) (version : α → ω) (l table : List α) : Prop where
  /-- There is one value for each key. -/
  nodup : (table.map key).Nodup
  /-- It is the last value with the largest version. -/
  lastMax : ∀ t ∈ table, LastMax version (l.filter fun w => key w = key t) t
  /-- Each key that was offered is there. -/
  complete : ∀ w ∈ l, ∃ t ∈ table, key t = key w

/-- One more offer. -/
lemma Table.offer (h : Table key version l table) (x : α) :
    Table key version (l ++ [x]) (NewestPerKey.offer key version table x).1 := by
  have hother : ∀ t, key t ≠ key x →
      (l ++ [x]).filter (fun w => key w = key t) = l.filter fun w => key w = key t := by
    intro t ht
    rw [List.filter_append, List.filter_singleton]
    simp [Ne.symm ht]
  have hsame : ∀ t, key t = key x →
      (l ++ [x]).filter (fun w => key w = key t) = l.filter (fun w => key w = key t) ++ [x] := by
    intro t ht
    rw [List.filter_append, List.filter_singleton]
    simp [ht]
  have hcases := offer_cases version x h.nodup
  generalize (NewestPerKey.offer key version table x).1 = table' at hcases ⊢
  generalize (NewestPerKey.offer key version table x).2 = superseded at hcases
  cases hcases with
  | added hkey =>
    have hfresh : ∀ w ∈ l, key w ≠ key x := by
      intro w hw
      obtain ⟨t, ht, hsame⟩ := h.complete w hw
      exact hsame ▸ hkey t ht
    refine ⟨?_, fun t ht => ?_, fun w hw => ?_⟩
    · rw [List.map_append, List.map_singleton, List.nodup_append]
      refine ⟨h.nodup, List.nodup_singleton _, ?_⟩
      rintro _ hmem _ hlast rfl
      obtain ⟨w, hw, hkeys⟩ := List.mem_map.mp hmem
      exact hkey w hw (hkeys.trans (List.mem_singleton.mp hlast))
    · rcases List.mem_append.mp ht with ht | ht
      · rw [hother t (hkey t ht)]
        exact h.lastMax t ht
      · obtain rfl := List.mem_singleton.mp ht
        rw [hsame t rfl, List.filter_eq_nil_iff.mpr fun w hw => by simpa using hfresh w hw]
        exact lastMax_concat (by simp)
    · rcases List.mem_append.mp hw with hw | hw
      · obtain ⟨t, ht, hsame⟩ := h.complete w hw
        exact ⟨t, List.mem_append_left _ ht, hsame⟩
      · exact ⟨w, List.mem_append_right _ hw, rfl⟩
  | @replaced pre post t htable hkey hpre hpost hversion =>
    subst htable
    have hlast := h.lastMax t (by simp)
    refine ⟨?_, fun u hu => ?_, fun w hw => ?_⟩
    · have hnodup := h.nodup
      rw [List.map_append, List.map_cons, hkey] at hnodup
      rwa [List.map_append, List.map_cons]
    · rcases List.mem_append.mp hu with hu | hu
      · rw [hother u (hpre u hu)]
        exact h.lastMax u (List.mem_append_left _ hu)
      · rcases List.mem_cons.mp hu with rfl | hu
        · rw [hsame u rfl, ← hkey]
          exact lastMax_concat fun w hw => le_trans (hlast.le w hw) hversion
        · rw [hother u (hpost u hu)]
          exact h.lastMax u (List.mem_append_right _ (List.mem_cons_of_mem _ hu))
    · by_cases hw' : key w = key x
      · exact ⟨x, by simp, hw'.symm⟩
      · have hold : w ∈ l := by
          rcases List.mem_append.mp hw with hw | hw
          · exact hw
          · exact absurd (congrArg key (List.mem_singleton.mp hw)) hw'
        obtain ⟨u, hu, hsame⟩ := h.complete w hold
        refine ⟨u, ?_, hsame⟩
        have hne : u ≠ t := by
          rintro rfl
          exact hw' (hsame.symm.trans hkey)
        rcases List.mem_append.mp hu with hu | hu
        · exact List.mem_append_left _ hu
        · exact List.mem_append_right _
            (List.mem_cons_of_mem _ ((List.mem_cons.mp hu).resolve_left hne))
  | @refused pre post t htable hkey hpre hpost hversion =>
    have ht : t ∈ table := by
      rw [htable]
      simp
    refine ⟨h.nodup, fun u hu => ?_, fun w hw => ?_⟩
    · by_cases hux : key u = key x
      · obtain rfl : u = t := by
          rw [htable] at hu
          rcases List.mem_append.mp hu with hu | hu
          · exact absurd hux (hpre u hu)
          · rcases List.mem_cons.mp hu with rfl | hu
            · rfl
            · exact absurd hux (hpost u hu)
        rw [hsame u hux]
        exact (h.lastMax u ht).concat_of_lt hversion
      · rw [hother u hux]
        exact h.lastMax u hu
    · rcases List.mem_append.mp hw with hw | hw
      · exact h.complete w hw
      · rw [List.mem_singleton.mp hw]
        exact ⟨t, ht, hkey⟩

/-- The table and the value that an offer supersedes are the table before and the offered value. -/
lemma offer_perm (hnodup : (table.map key).Nodup) :
    ((offer key version table x).2.toList ++ (offer key version table x).1).Perm
      (table ++ [x]) := by
  have hcases := offer_cases version x hnodup
  generalize (offer key version table x).1 = table' at hcases ⊢
  generalize (offer key version table x).2 = superseded at hcases ⊢
  cases hcases with
  | added => exact List.Perm.refl _
  | @replaced pre post t htable =>
    subst htable
    show (t :: (pre ++ x :: post)).Perm ((pre ++ t :: post) ++ [x])
    refine (List.Perm.cons t List.perm_middle).trans ?_
    refine List.Perm.trans ?_ (List.perm_append_singleton x _).symm
    exact (List.Perm.swap x t _).trans (List.Perm.cons x List.perm_middle.symm)
  | refused => exact (List.perm_append_singleton x table).symm

/-- The table of the offered values. -/
theorem table_newest (key : α → κ) (version : α → ω) (l : List α) :
    Table key version l (newest key version l) := by
  induction l using List.reverseRecOn with
  | nil => exact ⟨List.nodup_nil, by simp [newest], by simp⟩
  | append_singleton l x ih =>
    rw [newest, List.foldl_append]
    exact ih.offer x

end NewestPerKey
