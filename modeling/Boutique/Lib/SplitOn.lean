import Mathlib.Data.String.Basic

/-!
# Splitting at a character

`split` of a text at a character, as in JavaScript: there is one part more than there are separators.
-/

namespace SplitOn

/-- `split`. -/
def split (separator : Char) (text : String) : List String :=
  (text.toList.splitOn separator).map String.ofList

/-- Texts without dots that are joined with dots are split again. -/
theorem split_join_dot {a b c d : String} (ha : '.' ∉ a.toList) (hb : '.' ∉ b.toList)
    (hc : '.' ∉ c.toList) (hd : '.' ∉ d.toList) :
    split '.' (a ++ "." ++ b ++ "." ++ c ++ "." ++ d) = [a, b, c, d] := by
  have hsplit : (['.'].intercalate [a.toList, b.toList, c.toList, d.toList]).splitOn '.' =
      [a.toList, b.toList, c.toList, d.toList] :=
    List.splitOn_intercalate '.' (by simp [ha, hb, hc, hd]) (by simp)
  have hlist : (a ++ "." ++ b ++ "." ++ c ++ "." ++ d).toList =
      ['.'].intercalate [a.toList, b.toList, c.toList, d.toList] := by
    simp [List.intercalate]
  rw [split, hlist, hsplit]
  simp

end SplitOn
