import Mathlib.Data.List.Basic

/-!
# Names that are joined from parts

Names are texts made of parts with a separator between them.  A part that has no separator is determined
by the name, and so is what follows it.  A number that is padded with zeros is determined by its text.
-/

namespace JoinedNames

/-- What stands before the first separator of a list, and what stands after it. -/
lemma append_sep_inj {α : Type*} {x : α} {a b c d : List α} (ha : x ∉ a) (hc : x ∉ c)
    (h : a ++ x :: b = c ++ x :: d) : a = c ∧ b = d := by
  induction a generalizing c with
  | nil =>
    cases c with
    | nil => exact ⟨rfl, (List.cons.inj h).2⟩
    | cons y ys =>
      obtain ⟨rfl, -⟩ := List.cons.inj h
      exact absurd List.mem_cons_self hc
  | cons y ys ih =>
    cases c with
    | nil =>
      obtain ⟨rfl, -⟩ := List.cons.inj h
      exact absurd List.mem_cons_self ha
    | cons z zs =>
      obtain ⟨rfl, htail⟩ := List.cons.inj h
      obtain ⟨rfl, rfl⟩ := ih (fun hy => ha (List.mem_cons_of_mem _ hy))
        (fun hz => hc (List.mem_cons_of_mem _ hz)) htail
      exact ⟨rfl, rfl⟩

/-- The parts before and after the first slash. -/
lemma append_slash_inj {a b c d : String} (ha : '/' ∉ a.toList) (hc : '/' ∉ c.toList)
    (h : a ++ ("/" ++ b) = c ++ ("/" ++ d)) : a = c ∧ b = d := by
  have hslash : "/".toList = ['/'] := rfl
  have hlists : a.toList ++ '/' :: b.toList = c.toList ++ '/' :: d.toList := by
    simpa [String.toList_append, hslash] using congrArg String.toList h
  obtain ⟨hac, hbd⟩ := append_sep_inj ha hc hlists
  exact ⟨String.toList_inj.mp hac, String.toList_inj.mp hbd⟩

/-- What follows a common start. -/
lemma append_left_cancel {start a b : String} (h : start ++ a = start ++ b) : a = b := by
  have hlists := congrArg String.toList h
  rw [String.toList_append, String.toList_append] at hlists
  exact String.toList_inj.mp (List.append_cancel_left hlists)

/-- What comes before a common end. -/
lemma append_right_cancel {rest a b : String} (h : a ++ rest = b ++ rest) : a = b := by
  have hlists := congrArg String.toList h
  rw [String.toList_append, String.toList_append] at hlists
  exact String.toList_inj.mp (List.append_cancel_right hlists)

/-- Three parts after a common start, of which only the last may have slashes. -/
lemma three_parts_inj {start a b c a' b' c' : String} (ha : '/' ∉ a.toList) (ha' : '/' ∉ a'.toList)
    (hb : '/' ∉ b.toList) (hb' : '/' ∉ b'.toList)
    (h : start ++ a ++ "/" ++ b ++ "/" ++ c = start ++ a' ++ "/" ++ b' ++ "/" ++ c') :
    a = a' ∧ b = b' ∧ c = c' := by
  simp only [String.append_assoc] at h
  obtain ⟨hfirst, htail⟩ := append_slash_inj ha ha' (append_left_cancel h)
  obtain ⟨hsecond, hthird⟩ := append_slash_inj hb hb' htail
  exact ⟨hfirst, hsecond, hthird⟩

/-- A number with zeros in front of it, up to a width. -/
def padded (width n : ℕ) : String :=
  String.ofList (List.replicate (width - (Nat.toDigits 10 n).length) '0' ++ Nat.toDigits 10 n)

/-- The padded text determines the number. -/
lemma padded_injective (width : ℕ) : Function.Injective (padded width) := by
  intro m n h
  have hlist := String.ofList_injective h
  have hvalue := congrArg (fun digits => Nat.ofDigitChars 10 digits 0) hlist
  simpa [Nat.ofDigitChars_append, Nat.ofDigitChars_replicate_zero, Nat.ofDigitChars_ten_toDigits]
    using hvalue

/-- A padded number has no slash. -/
lemma slash_notMem_padded (width n : ℕ) : '/' ∉ (padded width n).toList := by
  rw [padded, String.toList_ofList, List.mem_append, not_or]
  refine ⟨fun h => absurd (List.eq_of_mem_replicate h) (by decide), fun h => ?_⟩
  have hdigit := Nat.isDigit_of_mem_toDigits (by decide) (by decide) h
  exact absurd hdigit (by decide)

end JoinedNames
