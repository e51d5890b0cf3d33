import Mathlib.Order.Lattice
import Mathlib.Data.List.Basic

/-!
# Streams with a high-water mark

A reader takes items that arrive in any order.  It shows the first one, passes over every item that is
older than the last one it showed, and ends after an item that says so.  What is shown depends only on
what arrived before: an item is shown if no earlier one is younger, and no earlier one that was itself
not overtaken has ended the stream.
-/

namespace HighWater

variable {α T : Type*} [LinearOrder T] (time : α → T) (stop : α → Bool)

/-- The items that are shown above a mark. -/
def follow : T → List α → List α
  | _, [] => []
  | mark, x :: rest =>
    if time x < mark then follow mark rest
    else x :: (if stop x then [] else follow (time x) rest)

/-- The items that are shown. -/
def shown : List α → List α
  | [] => []
  | x :: rest => x :: (if stop x then [] else follow time stop (time x) rest)

/-- No item of a list is younger. -/
def Leads (before : List α) (x : α) : Prop := ∀ y ∈ before, time y ≤ time x

/-- An item is shown after the items before it. -/
def Shows (before : List α) (x : α) : Prop :=
  Leads time before x ∧
    ∀ earlier y later, before = earlier ++ y :: later → Leads time earlier y → stop y = false

/-- An item is shown above a mark after the items before it. -/
def ShowsAbove (mark : T) (before : List α) (x : α) : Prop :=
  mark ≤ time x ∧ Leads time before x ∧
    ∀ earlier y later, before = earlier ++ y :: later → mark ≤ time y → Leads time earlier y →
      stop y = false

variable {time stop} {mark : T} {x y z : α} {before rest : List α} {R : α → α → Prop}

/-- No item of a longer list is younger. -/
lemma leads_cons : Leads time (z :: before) x ↔ time z ≤ time x ∧ Leads time before x :=
  List.forall_mem_cons

/-- An item below the mark makes no difference. -/
lemma showsAbove_cons_of_lt (hz : time z < mark) :
    ShowsAbove time stop mark (z :: before) x ↔ ShowsAbove time stop mark before x := by
  constructor
  · rintro ⟨hmark, hleads, hopen⟩
    refine ⟨hmark, (leads_cons.mp hleads).2, ?_⟩
    intro earlier y later hsplit hy hleads'
    refine hopen (z :: earlier) y later (by rw [hsplit, List.cons_append]) hy ?_
    exact leads_cons.mpr ⟨(hz.trans_le hy).le, hleads'⟩
  · rintro ⟨hmark, hleads, hopen⟩
    refine ⟨hmark, leads_cons.mpr ⟨(hz.trans_le hmark).le, hleads⟩, ?_⟩
    intro earlier y later hsplit hy hleads'
    cases earlier with
    | nil =>
      obtain ⟨rfl, -⟩ := List.cons.inj hsplit
      exact absurd hy (not_le.mpr hz)
    | cons z' earlier =>
      obtain ⟨-, hrest⟩ := List.cons.inj hsplit
      exact hopen earlier y later hrest hy (leads_cons.mp hleads').2

/-- An item above the mark ends the stream or raises the mark. -/
lemma showsAbove_cons_of_le (hz : mark ≤ time z) :
    ShowsAbove time stop mark (z :: before) x ↔
      stop z = false ∧ ShowsAbove time stop (time z) before x := by
  constructor
  · rintro ⟨-, hleads, hopen⟩
    obtain ⟨hzx, hbefore⟩ := leads_cons.mp hleads
    refine ⟨hopen [] z before rfl hz (by simp [Leads]), hzx, hbefore, ?_⟩
    intro earlier y later hsplit hy hleads'
    refine hopen (z :: earlier) y later (by rw [hsplit, List.cons_append]) (hz.trans hy) ?_
    exact leads_cons.mpr ⟨hy, hleads'⟩
  · rintro ⟨hstop, hzx, hleads, hopen⟩
    refine ⟨hz.trans hzx, leads_cons.mpr ⟨hzx, hleads⟩, ?_⟩
    intro earlier y later hsplit hy hleads'
    cases earlier with
    | nil =>
      obtain ⟨rfl, -⟩ := List.cons.inj hsplit
      exact hstop
    | cons z' earlier =>
      obtain ⟨rfl, hrest⟩ := List.cons.inj hsplit
      obtain ⟨hzy, hleads''⟩ := leads_cons.mp hleads'
      exact hopen earlier y later hrest hzy hleads''

/-- The first item is shown above its mark. -/
lemma showsAbove_nil : ShowsAbove time stop mark [] x ↔ mark ≤ time x := by
  constructor
  · exact fun h => h.1
  · intro h
    refine ⟨h, by simp [Leads], ?_⟩
    intro earlier y later hsplit
    simp at hsplit

/-- Where an item of a longer list is. -/
lemma exists_split_cons {P : List α → Prop} :
    (∃ before after, z :: rest = before ++ x :: after ∧ P before) ↔
      (z = x ∧ P []) ∨ ∃ before after, rest = before ++ x :: after ∧ P (z :: before) := by
  constructor
  · rintro ⟨before, after, hsplit, hP⟩
    cases before with
    | nil =>
      obtain ⟨rfl, -⟩ := List.cons.inj hsplit
      exact Or.inl ⟨rfl, hP⟩
    | cons z' before =>
      obtain ⟨rfl, hrest⟩ := List.cons.inj hsplit
      exact Or.inr ⟨before, after, hrest, hP⟩
  · rintro (⟨rfl, hP⟩ | ⟨before, after, rfl, hP⟩)
    · exact ⟨[], rest, rfl, hP⟩
    · exact ⟨z :: before, after, rfl, hP⟩

/-- The items that are shown above a mark. -/
lemma mem_follow : x ∈ follow time stop mark rest ↔
    ∃ before after, rest = before ++ x :: after ∧ ShowsAbove time stop mark before x := by
  induction rest generalizing mark with
  | nil => simp [follow]
  | cons z rest ih =>
    rw [exists_split_cons, showsAbove_nil]
    by_cases hz : time z < mark
    · simp only [follow, hz, if_true, showsAbove_cons_of_lt hz]
      rw [ih]
      refine ⟨Or.inr, ?_⟩
      rintro (⟨rfl, hmark⟩ | hrest)
      · exact absurd hz (not_lt.mpr hmark)
      · exact hrest
    · have hle := not_lt.mp hz
      simp only [follow, hz, if_false, showsAbove_cons_of_le hle, List.mem_cons]
      cases hstop : stop z with
      | true =>
        simp only [if_true, List.not_mem_nil, or_false, reduceCtorEq, false_and, and_false,
          exists_false]
        exact ⟨fun heq => ⟨heq.symm, heq ▸ hle⟩, fun heq => heq.1.symm⟩
      | false =>
        simp only [Bool.false_eq_true, if_false, ih, true_and]
        constructor
        · rintro (rfl | hrest)
          · exact Or.inl ⟨rfl, hle⟩
          · exact Or.inr hrest
        · rintro (⟨rfl, -⟩ | hrest)
          · exact Or.inl rfl
          · exact Or.inr hrest

/-- A relation between every two items of a list that meet a condition on what is before them. -/
def Related (P : List α → α → Prop) (R : α → α → Prop) (items : List α) : Prop :=
  ∀ before x mid y after, items = before ++ x :: (mid ++ y :: after) → P before x →
    P (before ++ x :: mid) y → R x y

/-- The pairs of a longer list. -/
lemma related_cons {P : List α → α → Prop} :
    Related P R (z :: rest) ↔
      (P [] z → ∀ y, (∃ mid after, rest = mid ++ y :: after ∧ P (z :: mid) y) → R z y) ∧
        Related (fun before => P (z :: before)) R rest := by
  constructor
  · intro h
    constructor
    · rintro hz y ⟨mid, after, hrest, hy⟩
      exact h [] z mid y after (by rw [hrest, List.nil_append]) hz hy
    · intro before x mid y after hrest hx hy
      exact h (z :: before) x mid y after (by rw [hrest, List.cons_append]) hx hy
  · rintro ⟨hfirst, hrest⟩ before x mid y after hsplit hx hy
    cases before with
    | nil =>
      obtain ⟨rfl, htail⟩ := List.cons.inj hsplit
      exact hfirst hx y ⟨mid, after, htail, hy⟩
    | cons z' before =>
      obtain ⟨rfl, htail⟩ := List.cons.inj hsplit
      exact hrest before x mid y after htail hx hy

/-- What holds between every two items that are shown above a mark. -/
lemma pairwise_follow : (follow time stop mark rest).Pairwise R ↔
    Related (ShowsAbove time stop mark) R rest := by
  induction rest generalizing mark with
  | nil =>
    simp only [follow, List.Pairwise.nil, true_iff]
    intro before x mid y after hsplit
    simp at hsplit
  | cons z rest ih =>
    rw [related_cons, showsAbove_nil]
    by_cases hz : time z < mark
    · have hskip : Related (fun before => ShowsAbove time stop mark (z :: before)) R rest ↔
          Related (ShowsAbove time stop mark) R rest := by
        simp only [Related, showsAbove_cons_of_lt hz]
      simp only [follow, hz, if_true, hskip, ih, not_le.mpr hz, false_imp_iff, true_and]
    · have hle := not_lt.mp hz
      simp only [follow, hz, if_false, hle, true_imp_iff, List.pairwise_cons]
      cases hstop : stop z with
      | true =>
        simp only [if_true, List.not_mem_nil, false_imp_iff, List.Pairwise.nil, implies_true,
          and_self, true_iff]
        constructor
        · rintro y ⟨mid, after, -, hy⟩
          rw [showsAbove_cons_of_le hle, hstop] at hy
          cases hy.1
        · rintro before x mid y after - hx
          rw [showsAbove_cons_of_le hle, hstop] at hx
          cases hx.1
      | false =>
        have hraise : Related (fun before => ShowsAbove time stop mark (z :: before)) R rest ↔
            Related (ShowsAbove time stop (time z)) R rest := by
          simp only [Related, showsAbove_cons_of_le hle, hstop, true_and]
        simp only [Bool.false_eq_true, if_false, mem_follow, hraise, ih,
          showsAbove_cons_of_le hle, hstop, true_and]

/-- Above the mark of the first item. -/
lemma showsAbove_iff_shows :
    ShowsAbove time stop (time z) (z :: before) x ↔ Shows time stop (z :: before) x := by
  constructor
  · rintro ⟨-, hleads, hopen⟩
    refine ⟨hleads, ?_⟩
    intro earlier y later hsplit hleads'
    refine hopen earlier y later hsplit ?_ hleads'
    cases earlier with
    | nil =>
      obtain ⟨rfl, -⟩ := List.cons.inj hsplit
      exact le_rfl
    | cons z' earlier =>
      obtain ⟨rfl, -⟩ := List.cons.inj hsplit
      exact (leads_cons.mp hleads').1
  · rintro ⟨hleads, hopen⟩
    refine ⟨(leads_cons.mp hleads).1, hleads, ?_⟩
    intro earlier y later hsplit _
    exact hopen earlier y later hsplit

/-- Every item that is shown is related to every later one exactly if the items that meet the condition
on what arrived before them are. -/
theorem pairwise_shown (items : List α) :
    (shown time stop items).Pairwise R ↔ Related (Shows time stop) R items := by
  cases items with
  | nil =>
    simp only [shown, List.Pairwise.nil, true_iff]
    intro before x mid y after hsplit
    simp at hsplit
  | cons z rest =>
    have hshown : shown time stop (z :: rest) = follow time stop (time z) (z :: rest) := by
      simp [shown, follow]
    have hfirst : Shows time stop [] z := by
      refine ⟨by simp [Leads], ?_⟩
      intro earlier y later hsplit
      simp at hsplit
    rw [hshown, pairwise_follow, related_cons, related_cons]
    simp only [Related, showsAbove_nil, le_rfl, hfirst, showsAbove_iff_shows]

end HighWater
