import Boutique.Lib.JoinedNames
import Boutique.Lib.LuaNumber
import Mathlib.Data.Rat.Floor
import Mathlib.Data.List.DropRight

/-!
# Python values of the benchmark service

Decoded JSON documents, dictionaries and the texts of the standard library, as `benchmarkservice/config.py`
and `benchmarkservice/parallel.py` use them.  Numbers are rational: an integer of any size, or a finite double.
-/

namespace Boutique.Benchmark.Workers

/-! ## Documents -/

/-- A decoded JSON document. -/
inductive Json where
  | null
  | bool (value : Bool)
  | number (value : ℚ)
  | string (value : String)
  | array (items : List Json)
  | object (fields : List (String × Json))

/-- A dictionary. -/
abbrev Dict := List (String × Json)

/-- `dict.get`, `none` if there is no such key. -/
def Dict.get (dict : Dict) (name : String) : Option Json := dict.lookup name

/-- `dict[name] = value`. -/
def Dict.set : Dict → String → Json → Dict
  | [], name, value => [(name, value)]
  | field :: fields, name, value =>
    if name == field.1 then (field.1, value) :: fields else field :: Dict.set fields name value

/-- `dict.setdefault`. -/
def Dict.setDefault (dict : Dict) (name : String) (value : Json) : Dict :=
  if (dict.get name).isSome then dict else dict.set name value

/-- A value that is there is not changed by a default. -/
lemma Dict.setDefault_of_get {dict : Dict} {name : String} {found : Json} (h : dict.get name = some found)
    (value : Json) : dict.setDefault name value = dict := by
  simp [Dict.setDefault, h]

/-! ## Conversions -/

/-- What the code uses of the language that it does not depend on: the text of a value that is not a text,
the finite numbers that texts stand for, and the texts of numbers in messages. -/
structure Language where
  str : Json → String
  intOfText : String → Option ℤ
  floatOfText : String → Option ℚ
  repr : ℚ → String

/-- `str`. -/
def Language.text (language : Language) : Json → String
  | .string value => value
  | value => language.str value

/-- The number truncated toward zero, as `int` does. -/
def truncate (value : ℚ) : ℤ := if 0 ≤ value then ⌊value⌋ else ⌈value⌉

/-- An integer is not changed. -/
@[simp]
lemma truncate_intCast (n : ℤ) : truncate (n : ℚ) = n := by
  simp [truncate]

/-- `int`; `none` is a `TypeError` or a `ValueError`. -/
def Language.int (language : Language) : Json → Option ℤ
  | .bool value => some (if value then 1 else 0)
  | .number value => some (truncate value)
  | .string value => language.intOfText value
  | .null | .array _ | .object _ => none

/-- The exceptions of `float`: a `TypeError` or a `ValueError`, and an `OverflowError`. -/
inductive FloatError where
  | conversion
  | overflow
  deriving DecidableEq

/-- The first power of two that is not a double. -/
def doubleLimit : ℕ := 2 ^ 1024

/-- `float` of a number: an integer is rounded to the nearest double, if there is one; a number that is not
an integer is a double. -/
def double (value : ℚ) : Except FloatError ℚ :=
  if value.den = 1 then
    if doubleLimit ≤ (luaInt value.num).natAbs then .error .overflow else .ok (luaInt value.num)
  else .ok value

/-- The integers up to `2 ^ 53` and the numbers that are not integers stay as they are. -/
lemma double_of_le {value : ℚ} (h : |value| ≤ 2 ^ 53) : double value = .ok value := by
  unfold double
  by_cases hinteger : value.den = 1
  · obtain ⟨n, rfl⟩ : ∃ n : ℤ, value = n := ⟨value.num, ((Rat.den_eq_one_iff value).mp hinteger).symm⟩
    have hn : n.natAbs ≤ 2 ^ 53 := by
      have habs : |n| ≤ 2 ^ 53 := by exact_mod_cast h
      rw [Int.abs_eq_natAbs] at habs
      exact_mod_cast habs
    have hpow : ∀ e, 53 < e → 2 ^ 53 < 2 ^ e := fun e he => Nat.pow_lt_pow_right (by decide) he
    have hlimit : 2 ^ 53 < doubleLimit := hpow 1024 (by decide)
    have hsmall := hn.trans_lt hlimit
    rw [if_pos hinteger, Rat.num_intCast, luaInt_of_le hn, if_neg hsmall.not_ge]
  · rw [if_neg hinteger]

/-- `float`. -/
def Language.float (language : Language) : Json → Except FloatError ℚ
  | .bool value => .ok (if value then 1 else 0)
  | .number value => double value
  | .string value =>
    match language.floatOfText value with
    | some value => .ok value
    | none => .error .conversion
  | .null | .array _ | .object _ => .error .conversion

/-- A language whose texts are not numbers. -/
def Sample.plain : Language where
  str _ := ""
  intOfText _ := none
  floatOfText _ := none
  repr _ := ""

/-! ## Texts -/

/-- `str.isspace` of a character. -/
def isSpace (c : Char) : Bool :=
  (0x09 ≤ c.val && c.val ≤ 0x0d) || (0x1c ≤ c.val && c.val ≤ 0x20) || c.val == 0x85 || c.val == 0xa0 ||
  c.val == 0x1680 || (0x2000 ≤ c.val && c.val ≤ 0x200a) || c.val == 0x2028 || c.val == 0x2029 ||
  c.val == 0x202f || c.val == 0x205f || c.val == 0x3000

/-- The characters without those of a kind at the end. -/
def dropEnd (p : Char → Bool) (chars : List Char) : List Char := chars.rdropWhile p

/-- `str.strip`. -/
def strip (s : String) : String := String.ofList (dropEnd isSpace (s.toList.dropWhile isSpace))

/-- `str.rstrip("/")`. -/
def rstripSlash (s : String) : String := String.ofList (dropEnd (· == '/') s.toList)

/-- `f"{n:04d}"`. -/
def pad4 : ℕ → String := JoinedNames.padded 4

end Boutique.Benchmark.Workers
