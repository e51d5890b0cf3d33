import Mathlib.Tactic.Ring
import Mathlib.Data.Nat.Log

/-!
# Natural numbers as Lua numbers

Lua 5.1 has one type of numbers, the double.  `luaNumber n` is the double that is nearest to the
natural number `n`, with ties to an even significand of 53 bits.  It is again a natural number.
-/

/-! ## Rounding to a multiple -/

/-- The number of units nearest to `n`, ties to even. -/
def roundEven (unit n : ℕ) : ℕ :=
  if unit < 2 * (n % unit) ∨ (2 * (n % unit) = unit ∧ n / unit % 2 = 1) then n / unit + 1
  else n / unit

/-- Rounding is to the quotient or to the next number. -/
lemma roundEven_bounds (unit n : ℕ) :
    n / unit ≤ roundEven unit n ∧ roundEven unit n ≤ n / unit + 1 := by
  unfold roundEven
  split_ifs <;> omega

/-- Rounding to the same unit keeps the order. -/
lemma roundEven_mono (unit : ℕ) {m n : ℕ} (h : m ≤ n) : roundEven unit m ≤ roundEven unit n := by
  have hm := roundEven_bounds unit m
  have hn := roundEven_bounds unit n
  rcases (Nat.div_le_div_right (c := unit) h).lt_or_eq with hlt | heq
  · omega
  · -- the quotients agree, so the remainders decide
    have hdm := Nat.div_add_mod m unit
    have hdn := Nat.div_add_mod n unit
    rw [heq] at hdm
    have hmod : m % unit ≤ n % unit := by omega
    unfold roundEven
    rw [heq]
    split_ifs <;> omega

/-! ## The nearest double -/

/-- The exponent with which the significand of `n` has at most 53 bits. -/
def luaExponent (n : ℕ) : ℕ := n.log2 - 52

/-- The double nearest to a natural number. -/
def luaNumber (n : ℕ) : ℕ := roundEven (2 ^ luaExponent n) n * 2 ^ luaExponent n

/-- Numbers of at most 53 bits are doubles. -/
lemma luaNumber_of_lt {n : ℕ} (h : n < 2 ^ 53) : luaNumber n = n := by
  have hexp : luaExponent n = 0 := by
    unfold luaExponent
    rcases Nat.eq_zero_or_pos n with rfl | hpos
    · decide
    · have hlog : n.log2 < 53 := (Nat.log2_lt hpos.ne').mpr h
      omega
  simp [luaNumber, roundEven, hexp, Nat.mod_one]

/-- A positive number is at least its unit. -/
lemma two_pow_luaExponent_le {n : ℕ} (h : 0 < n) : 2 ^ luaExponent n ≤ n := by
  refine le_trans (Nat.pow_le_pow_right (by decide) (Nat.sub_le _ _)) ?_
  exact Nat.log2_self_le h.ne'

/-- A positive number rounds to a positive one. -/
lemma luaNumber_pos {n : ℕ} (h : 0 < n) : 0 < luaNumber n := by
  have hquotient : 0 < n / 2 ^ luaExponent n :=
    Nat.div_pos (two_pow_luaExponent_le h) (Nat.two_pow_pos _)
  exact Nat.mul_pos (hquotient.trans_le (roundEven_bounds _ n).1) (Nat.two_pow_pos _)

/-- The significand has at most 53 bits, so rounding stays below the next power of two. -/
lemma luaNumber_le (n : ℕ) : luaNumber n ≤ 2 ^ (luaExponent n + 53) := by
  have hlt : n < 2 ^ luaExponent n * 2 ^ 53 := by
    rw [← pow_add]
    refine Nat.lt_log2_self.trans_le (Nat.pow_le_pow_right (by decide) ?_)
    unfold luaExponent
    omega
  have hquotient : n / 2 ^ luaExponent n < 2 ^ 53 := Nat.div_lt_of_lt_mul hlt
  rw [luaNumber, add_comm, pow_add]
  exact Nat.mul_le_mul_right _ ((roundEven_bounds _ n).2.trans hquotient)

/-- A significand of 53 bits is not rounded below its highest bit. -/
lemma le_luaNumber {n : ℕ} (h : 0 < luaExponent n) : 2 ^ (luaExponent n + 52) ≤ luaNumber n := by
  have hpos : n ≠ 0 := by
    rintro rfl
    simp [luaExponent] at h
  have hlog : luaExponent n + 52 = n.log2 := by
    unfold luaExponent at h ⊢
    omega
  have hle : 2 ^ 52 * 2 ^ luaExponent n ≤ n := by
    rw [← pow_add, add_comm, hlog]
    exact Nat.log2_self_le hpos
  have hquotient : 2 ^ 52 ≤ n / 2 ^ luaExponent n :=
    (Nat.le_div_iff_mul_le (Nat.two_pow_pos _)).mpr hle
  rw [luaNumber, add_comm, pow_add]
  exact Nat.mul_le_mul_right _ (hquotient.trans (roundEven_bounds _ n).1)

/-- Rounding to doubles keeps the order. -/
theorem luaNumber_mono : Monotone luaNumber := by
  intro m n h
  have hexp : luaExponent m ≤ luaExponent n := by
    unfold luaExponent
    have hlog : m.log2 ≤ n.log2 := by
      rw [Nat.log2_eq_log_two, Nat.log2_eq_log_two]
      exact Nat.log_mono_right h
    omega
  rcases hexp.lt_or_eq with hlt | heq
  · calc luaNumber m ≤ 2 ^ (luaExponent m + 53) := luaNumber_le m
      _ ≤ 2 ^ (luaExponent n + 52) := Nat.pow_le_pow_right (by decide) (by omega)
      _ ≤ luaNumber n := le_luaNumber (by omega)
  · rw [luaNumber, luaNumber, heq]
    exact Nat.mul_le_mul_right _ (roundEven_mono _ h)

/-! ## Texts of numbers -/

/-- The number of decimal digits of `n` that the format `%.14g` does not keep. -/
def luaTextExponent (n : ℕ) : ℕ := Nat.log 10 n - 13

/-- The number that `tonumber` reads from `tostring n`, which keeps fourteen digits. -/
def luaText (n : ℕ) : ℕ :=
  luaNumber (roundEven (10 ^ luaTextExponent n) n * 10 ^ luaTextExponent n)

/-- Numbers of at most fourteen digits are read as they were written. -/
lemma luaText_of_lt {n : ℕ} (h : n < 10 ^ 14) : luaText n = n := by
  have hexp : luaTextExponent n = 0 := by
    have hlog : Nat.log 10 n < 14 := Nat.log_lt_of_lt_pow' (by decide) h
    unfold luaTextExponent
    omega
  have hexact : roundEven (10 ^ luaTextExponent n) n * 10 ^ luaTextExponent n = n := by
    simp [roundEven, hexp, Nat.mod_one]
  rw [luaText, hexact]
  exact luaNumber_of_lt (h.trans (by decide))

/-! ## Integers -/

/-- The double nearest to an integer. -/
def luaInt (n : ℤ) : ℤ := n.sign * luaNumber n.natAbs

/-- Integers up to `2 ^ 53` are doubles. -/
lemma luaInt_of_le {n : ℤ} (h : n.natAbs ≤ 2 ^ 53) : luaInt n = n := by
  have hexact : luaNumber n.natAbs = n.natAbs := by
    rcases h.lt_or_eq with hlt | heq
    · exact luaNumber_of_lt hlt
    · rw [heq]
      decide
  rw [luaInt, hexact, Int.sign_mul_natAbs]
