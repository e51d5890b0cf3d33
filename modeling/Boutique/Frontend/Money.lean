import Mathlib.Data.List.Infix
import Boutique.Common.Money

/-!
# The frontend's money arithmetic

`IsValid`, `Sum` and `MultiplySlow` of `frontend/money/money.go`, and the total of `viewCartHandler`.  A
valid value has no more than 999,999,999 nanos, of the sign of its units.  `Sum` normalizes its result
by the signs of the added units and nanos, but takes units that add up to zero for negative ones.
-/

namespace Boutique.Frontend

/-! ## The functions -/

/-- `nanosMod`. -/
def nanosMod : ℤ := 1000000000

/-- `signMatches`. -/
def signMatches (m : Money) : Bool :=
  m.nanos = 0 || m.units = 0 || (decide (m.nanos < 0) == decide (m.units < 0))

/-- `validNanos`. -/
def validNanos (nanos : ℤ) : Bool := -999999999 ≤ nanos && nanos ≤ 999999999

/-- `IsValid`. -/
def isValid (m : Money) : Bool := signMatches m && validNanos m.nanos

/-- `ErrInvalidValue` and `ErrMismatchingCurrency`. -/
inductive MoneyError where
  | invalidValue | mismatchingCurrency
  deriving DecidableEq

/-- `Sum`. -/
def sum (l r : Money) : Except MoneyError Money :=
  if !isValid l || !isValid r then .error .invalidValue
  else if l.currencyCode ≠ r.currencyCode then .error .mismatchingCurrency
  else
    let units := wrapInt64 (l.units + r.units)
    let nanos := wrapInt32 (l.nanos + r.nanos)
    if units = 0 ∧ nanos = 0 ∨ 0 < units ∧ 0 ≤ nanos ∨ units < 0 ∧ nanos ≤ 0 then
      .ok { currencyCode := l.currencyCode, units := wrapInt64 (units + nanos.tdiv nanosMod)
            nanos := nanos.tmod nanosMod }
    else if 0 < units then
      .ok { currencyCode := l.currencyCode, units := wrapInt64 (units - 1)
            nanos := wrapInt32 (nanos + nanosMod) }
    else
      .ok { currencyCode := l.currencyCode, units := wrapInt64 (units + 1)
            nanos := wrapInt32 (nanos - nanosMod) }

/-- `Must`; a panic is `none`. -/
def must (result : Except MoneyError Money) : Option Money := result.toOption

/-- The loop of `MultiplySlow`, with the number of iterations that are left. -/
def multiplyLoop (m : Money) : ℕ → Money → Option Money
  | 0, out => some out
  | n + 1, out => do
    let out ← must (sum out m)
    multiplyLoop m n out

/-- `MultiplySlow`. -/
def multiplySlow (m : Money) (n : ℕ) : Option Money := multiplyLoop m (n - 1) m

/-- The loop over the items of `viewCartHandler`. -/
def addPrices (total : Money) (prices : List Money) : Option Money :=
  prices.foldlM (fun total price => must (sum total price)) total

/-- The total of `viewCartHandler`. -/
def cartTotal (currency : String) (prices : List Money) (shippingCost : Option Money) :
    Option Money := do
  let totalPrice ← addPrices { currencyCode := currency } prices
  match shippingCost with
  | none => return totalPrice
  | some cost => must (sum totalPrice cost)

/-! ## Amounts -/

/-- The units of a value are an `int64`. -/
def InInt64 (x : ℤ) : Prop := -2 ^ 63 ≤ x ∧ x < 2 ^ 63

/-- The amount of a value in billionths. -/
def amount (m : Money) : ℤ := m.units * 1000000000 + m.nanos

/-- The whole units of an amount fit in an `int64`. -/
def Fits (t : ℤ) : Prop := -(2 ^ 63 + 1) * 1000000000 < t ∧ t < 2 ^ 63 * 1000000000

/-- A valid value, as the machine holds it. -/
structure Valid (m : Money) : Prop where
  valid : isValid m = true
  units : InInt64 m.units

/-- The valid value of an amount. -/
def ofAmount (currency : String) (t : ℤ) : Money where
  currencyCode := currency
  units := t.tdiv 1000000000
  nanos := t.tmod 1000000000

/-- The units cancel out and the nanos do not, nor do they make up a unit. -/
def Stuck (l r : Money) : Prop :=
  l.units + r.units = 0 ∧ l.nanos + r.nanos ≠ 0 ∧ l.nanos + r.nanos < 1000000000

/-- The units cancel out, and the nanos are too small for an `int32` from which a unit is taken. -/
def Wraps (l r : Money) : Prop := l.units + r.units = 0 ∧ l.nanos + r.nanos < -1147483648

/-- A value that fits is not wrapped. -/
lemma wrapInt64_of_inInt64 {x : ℤ} (h : InInt64 x) : wrapInt64 x = x := by
  obtain ⟨hlower, hupper⟩ := h
  rw [wrapInt64, Int.bmod_eq_of_le] <;> omega

/-- Nanos that fit are not wrapped. -/
lemma wrapInt32_of_mem {x : ℤ} (hlower : -2 ^ 31 ≤ x) (hupper : x < 2 ^ 31) : wrapInt32 x = x := by
  rw [wrapInt32, Int.bmod_eq_of_le] <;> omega

/-- Nanos below the `int32` are wrapped once. -/
lemma wrapInt32_below {x : ℤ} (hlower : -3000000000 ≤ x) (hupper : x < -2 ^ 31) :
    wrapInt32 x = x + 2 ^ 32 := by
  have hcancel : wrapInt32 (x + 2 ^ 32) = wrapInt32 x := Int.add_bmod_right x (2 ^ 32)
  rw [← hcancel, wrapInt32_of_mem (by omega) (by omega)]

/-- What `IsValid` checks. -/
lemma isValid_iff {m : Money} : isValid m = true ↔
    (m.nanos = 0 ∨ m.units = 0 ∨ (m.nanos < 0 ↔ m.units < 0)) ∧
      -999999999 ≤ m.nanos ∧ m.nanos ≤ 999999999 := by
  simp only [isValid, signMatches, validNanos, Bool.and_eq_true, Bool.or_eq_true, decide_eq_true_eq,
    beq_iff_eq, decide_eq_decide, or_assoc]

/-- The remainder has the sign of the amount. -/
lemma tdiv_tmod_cases (s : ℤ) :
    s.tdiv 1000000000 * 1000000000 + s.tmod 1000000000 = s ∧
      (0 ≤ s → 0 ≤ s.tmod 1000000000 ∧ s.tmod 1000000000 < 1000000000) ∧
      (s ≤ 0 → s.tmod 1000000000 ≤ 0 ∧ -1000000000 < s.tmod 1000000000) := by
  refine ⟨Int.tdiv_mul_add_tmod s 1000000000, ?_, ?_⟩
  · intro hs
    exact ⟨Int.tmod_nonneg _ hs, Int.tmod_lt_of_pos _ (by decide)⟩
  · intro hs
    have hneg := Int.neg_tmod (-s) 1000000000
    have hnonneg := Int.tmod_nonneg (1000000000 : ℤ) (show 0 ≤ -s by omega)
    have hlt := Int.tmod_lt_of_pos (-s) (show (0 : ℤ) < 1000000000 by decide)
    rw [neg_neg] at hneg
    omega

/-! ## One sum -/

section Sum

variable {l r : Money}

/-- The units of valid values whose sum fits add up to an `int64`. -/
lemma units_inInt64 (hl : Valid l) (hr : Valid r) (hfits : Fits (amount l + amount r)) :
    InInt64 (l.units + r.units) := by
  obtain ⟨hsignl, hnanosl⟩ := isValid_iff.mp hl.valid
  obtain ⟨hsignr, hnanosr⟩ := isValid_iff.mp hr.valid
  obtain ⟨hlowerl, hupperl⟩ := hl.units
  obtain ⟨hlowerr, hupperr⟩ := hr.units
  simp only [Fits, amount] at hfits
  constructor
  · omega
  · omega

/-- The sum of valid values: when it is valid and when it is the exact amount. -/
theorem sum_spec (hl : Valid l) (hr : Valid r) (hcurrency : l.currencyCode = r.currencyCode)
    (hfits : Fits (amount l + amount r)) :
    ∃ m, sum l r = .ok m ∧ m.currencyCode = l.currencyCode ∧ InInt64 m.units ∧
      (isValid m = true ↔ ¬Stuck l r) ∧ (amount m = amount l + amount r ↔ ¬Wraps l r) := by
  have hunits := units_inInt64 hl hr hfits
  obtain ⟨hsignl, hnanosl⟩ := isValid_iff.mp hl.valid
  obtain ⟨hsignr, hnanosr⟩ := isValid_iff.mp hr.valid
  have hinvalid : ¬(!isValid l || !isValid r) = true := by simp [hl.valid, hr.valid]
  have hu : wrapInt64 (l.units + r.units) = l.units + r.units := wrapInt64_of_inInt64 hunits
  have hs : wrapInt32 (l.nanos + r.nanos) = l.nanos + r.nanos :=
    wrapInt32_of_mem (by omega) (by omega)
  obtain ⟨hdivmod, hpos, hneg⟩ := tdiv_tmod_cases (l.nanos + r.nanos)
  simp only [Fits, amount, InInt64] at hfits hunits
  simp only [sum, if_neg hinvalid, hcurrency, ne_eq, not_true_eq_false, if_false, hu, hs, nanosMod]
  by_cases hsame : l.units + r.units = 0 ∧ l.nanos + r.nanos = 0 ∨
      0 < l.units + r.units ∧ 0 ≤ l.nanos + r.nanos ∨ l.units + r.units < 0 ∧ l.nanos + r.nanos ≤ 0
  · -- the carry of the nanos has the sign of the units
    have hcarry : InInt64 (l.units + r.units + (l.nanos + r.nanos).tdiv 1000000000) := by
      constructor <;> omega
    rw [if_pos hsame, wrapInt64_of_inInt64 hcarry]
    refine ⟨_, rfl, rfl, hcarry, ?_, ?_⟩
    · refine iff_of_true (isValid_iff.mpr ?_) ?_
      · dsimp only
        omega
      · simp only [Stuck]
        omega
    · refine iff_of_true ?_ ?_
      · simp only [amount]
        omega
      · simp only [Wraps]
        omega
  · rw [if_neg hsame]
    by_cases hpositive : 0 < l.units + r.units
    · have hborrow : InInt64 (l.units + r.units - 1) := by constructor <;> omega
      rw [if_pos hpositive, wrapInt64_of_inInt64 hborrow,
        wrapInt32_of_mem (x := l.nanos + r.nanos + 1000000000) (by omega) (by omega)]
      refine ⟨_, rfl, rfl, hborrow, ?_, ?_⟩
      · refine iff_of_true (isValid_iff.mpr ?_) ?_
        · dsimp only
          omega
        · simp only [Stuck]
          omega
      · refine iff_of_true ?_ ?_
        · simp only [amount]
          omega
        · simp only [Wraps]
          omega
    · have hborrow : InInt64 (l.units + r.units + 1) := by constructor <;> omega
      rw [if_neg hpositive, wrapInt64_of_inInt64 hborrow]
      refine ⟨_, rfl, rfl, hborrow, ?_, ?_⟩
      · rw [isValid_iff]
        dsimp only
        by_cases hwraps : l.nanos + r.nanos < -1147483648
        · rw [wrapInt32_below (by omega) (by omega)]
          simp only [Stuck]
          omega
        · rw [wrapInt32_of_mem (by omega) (by omega)]
          simp only [Stuck]
          omega
      · by_cases hwraps : l.nanos + r.nanos < -1147483648
        · rw [wrapInt32_below (by omega) (by omega)]
          simp only [amount, Wraps]
          omega
        · rw [wrapInt32_of_mem (by omega) (by omega)]
          simp only [amount, Wraps]
          omega

/-- A value that is wrapped is stuck. -/
lemma Wraps.stuck (h : Wraps l r) : Stuck l r := by
  obtain ⟨hunits, hnanos⟩ := h
  exact ⟨hunits, by omega, by omega⟩

/-- A valid value is the one of its amount. -/
lemma Valid.eq_ofAmount {m : Money} (h : Valid m) : ofAmount m.currencyCode (amount m) = m := by
  obtain ⟨hsign, hnanos⟩ := isValid_iff.mp h.valid
  obtain ⟨hdivmod, hpos, hneg⟩ := tdiv_tmod_cases (amount m)
  obtain ⟨currency, units, nanos⟩ := m
  simp only [amount] at hdivmod hpos hneg hsign hnanos
  simp only [ofAmount, amount, Money.mk.injEq, true_and]
  constructor <;> omega

end Sum

/-! ## Repeated sums -/

/-- The sums of a list of prices to an amount are exact: none but the last is stuck, and the last is not
wrapped. -/
def Foldable (currency : String) : ℤ → List Money → Prop
  | _, [] => True
  | total, [price] => ¬Wraps (ofAmount currency total) price
  | total, price :: next :: rest =>
    ¬Stuck (ofAmount currency total) price ∧ Foldable currency (total + amount price) (next :: rest)

/-- Every partial sum fits. -/
def PartialSumsFit (total : ℤ) (prices : List Money) : Prop :=
  ∀ before after, prices = before ++ after → Fits (total + (before.map amount).sum)

/-- The partial sums after the first. -/
lemma PartialSumsFit.tail {total : ℤ} {price : Money} {prices : List Money}
    (h : PartialSumsFit total (price :: prices)) : PartialSumsFit (total + amount price) prices := by
  rintro before after rfl
  have hfits := h (price :: before) after rfl
  rwa [List.map_cons, List.sum_cons, ← add_assoc] at hfits

/-- An invalid total is a panic at the next price. -/
lemma addPrices_invalid {total price : Money} {prices : List Money} (h : isValid total = false) :
    addPrices total (price :: prices) = none := by
  have hsum : sum total price = .error .invalidValue := by simp [sum, h]
  simp [addPrices, must, hsum, Except.toOption]

/-- The loop over the prices does not panic and is exact if and only if the sums are. -/
theorem addPrices_iff {total : Money} {prices : List Money} (htotal : Valid total)
    (hprices : ∀ price ∈ prices, Valid price ∧ total.currencyCode = price.currencyCode)
    (hfits : PartialSumsFit (amount total) prices) :
    (∃ out, addPrices total prices = some out ∧
        amount out = amount total + (prices.map amount).sum) ↔
      Foldable total.currencyCode (amount total) prices := by
  induction prices generalizing total with
  | nil => exact iff_of_true ⟨total, rfl, by simp⟩ trivial
  | cons price rest ih =>
    obtain ⟨hprice, hcurrency⟩ := hprices price List.mem_cons_self
    have hfirst : Fits (amount total + amount price) := by
      simpa using hfits [price] rest rfl
    obtain ⟨m, hsum, hcode, hunits, hvalid, hexact⟩ := sum_spec htotal hprice hcurrency hfirst
    have hstep : addPrices total (price :: rest) = addPrices m rest := by
      simp [addPrices, must, hsum, Except.toOption]
    rw [hstep]
    cases rest with
    | nil =>
      simp only [Foldable, htotal.eq_ofAmount, ← hexact, List.map_cons, List.map_nil,
        List.sum_cons, List.sum_nil, add_zero]
      constructor
      · rintro ⟨out, hout, hamount⟩
        obtain rfl : m = out := Option.some.inj hout
        exact hamount
      · intro hamount
        exact ⟨m, rfl, hamount⟩
    | cons next rest =>
      simp only [Foldable, htotal.eq_ofAmount]
      by_cases hstuck : Stuck total price
      · have hinvalid : isValid m = false := by
          rw [← Bool.not_eq_true, hvalid, not_not]
          exact hstuck
        rw [addPrices_invalid hinvalid]
        simp [hstuck]
      · have hamount : amount m = amount total + amount price :=
          hexact.mpr fun hwraps => hstuck hwraps.stuck
        have hm : Valid m := ⟨hvalid.mpr hstuck, hunits⟩
        have hrest := ih hm
          (fun other hother => ⟨(hprices other (List.mem_cons_of_mem _ hother)).1,
            hcode.trans (hprices other (List.mem_cons_of_mem _ hother)).2⟩)
          (hamount ▸ hfits.tail)
        rw [hcode, hamount] at hrest
        rw [List.map_cons, List.sum_cons, ← add_assoc, hrest]
        simp [hstuck]

/-- Repeated addition of one value. -/
lemma multiplyLoop_eq (m : Money) (n : ℕ) (out : Money) :
    multiplyLoop m n out = addPrices out (List.replicate n m) := by
  induction n generalizing out with
  | zero => rfl
  | succ n ih =>
    simp only [multiplyLoop, List.replicate_succ, addPrices, List.foldlM_cons]
    congr 1
    funext out'
    exact ih out'

/-- The total of the cart page is the loop over the prices and the shipping cost. -/
lemma cartTotal_eq (currency : String) (prices : List Money) (shippingCost : Option Money) :
    cartTotal currency prices shippingCost =
      addPrices { currencyCode := currency } (prices ++ shippingCost.toList) := by
  cases shippingCost with
  | none => simp [cartTotal, addPrices]
  | some cost => simp [cartTotal, addPrices, List.foldlM_append]

/-! ## Multiples -/

section Multiples

variable {m : Money}

/-- A multiple of a value that is not stuck with itself is not stuck with it. -/
lemma not_stuck_multiple (hm : Valid m) (h : ¬Stuck m m) {t : ℤ}
    (ht : t = amount m ∨ 0 < amount m ∧ 2 * amount m ≤ t ∨ amount m < 0 ∧ t ≤ 2 * amount m) :
    ¬Stuck (ofAmount m.currencyCode t) m := by
  obtain ⟨hsign, hnanos⟩ := isValid_iff.mp hm.valid
  rcases ht with rfl | ht
  · rwa [hm.eq_ofAmount]
  · obtain ⟨hdivmod, hpos, hneg⟩ := tdiv_tmod_cases t
    simp only [Stuck, ofAmount, amount] at h ht ⊢
    omega

/-- The sums of a value that is not stuck with itself are exact. -/
lemma foldable_replicate (hm : Valid m) (h : ¬Stuck m m) (k j : ℕ) (hj : 1 ≤ j) :
    Foldable m.currencyCode (j * amount m) (List.replicate k m) := by
  have hmultiple : ∀ i : ℕ, 1 ≤ i → ¬Stuck (ofAmount m.currencyCode (i * amount m)) m := by
    intro i hi
    refine not_stuck_multiple hm h ?_
    rcases Nat.eq_or_lt_of_le hi with rfl | hlt
    · exact Or.inl (by simp)
    · have htwo : (2 : ℤ) ≤ i := by exact_mod_cast hlt
      rcases lt_trichotomy (amount m) 0 with hneg | hzero | hpos
      · exact Or.inr (Or.inr ⟨hneg, mul_le_mul_of_nonpos_right htwo hneg.le⟩)
      · exact Or.inl (by simp [hzero])
      · exact Or.inr (Or.inl ⟨hpos, mul_le_mul_of_nonneg_right htwo hpos.le⟩)
  induction k generalizing j with
  | zero => trivial
  | succ k ih =>
    cases k with
    | zero => exact fun hwraps => hmultiple j hj hwraps.stuck
    | succ k =>
      refine ⟨hmultiple j hj, ?_⟩
      have hnext := ih (j + 1) (by omega)
      have hsum : ((j + 1 : ℕ) : ℤ) * amount m = j * amount m + amount m := by
        push_cast
        ring
      rw [hsum] at hnext
      exact hnext

/-- When a value can be multiplied. -/
lemma foldable_multiple_iff (hm : Valid m) {n : ℕ} (hn : 1 ≤ n) :
    Foldable m.currencyCode (amount m) (List.replicate (n - 1) m) ↔
      n = 1 ∨ n = 2 ∧ ¬Wraps m m ∨ ¬Stuck m m := by
  by_cases hstuck : Stuck m m
  · match n, hn with
    | 1, _ => exact iff_of_true trivial (Or.inl rfl)
    | 2, _ => simp [Foldable, hm.eq_ofAmount, hstuck]
    | n + 3, _ => simp [Foldable, List.replicate_succ, hm.eq_ofAmount, hstuck]
  · have hfold := foldable_replicate hm hstuck (n - 1) 1 le_rfl
    rw [Nat.cast_one, one_mul] at hfold
    exact iff_of_true hfold (Or.inr (Or.inr hstuck))

/-- The multiples of a value that fit are its partial sums. -/
lemma partialSumsFit_replicate {n : ℕ} (hn : 1 ≤ n) (hfits : ∀ k ≤ n, Fits (k * amount m)) :
    PartialSumsFit (amount m) (List.replicate (n - 1) m) := by
  intro before after hsplit
  have hlength : before.length ≤ n - 1 := by
    have := congrArg List.length hsplit
    simp at this
    omega
  have hbefore : before = List.replicate before.length m := by
    refine List.eq_replicate_of_mem fun x hx => ?_
    exact List.eq_of_mem_replicate (hsplit ▸ List.mem_append_left after hx)
  have hsum : amount m + (before.map amount).sum = ((before.length + 1 : ℕ) : ℤ) * amount m := by
    rw [hbefore, List.map_replicate, List.sum_replicate, List.length_replicate]
    push_cast
    ring
  rw [hsum]
  exact hfits _ (by omega)

end Multiples

/-- The sum of two valid values whose sum fits is exact and valid if and only if the values are not
stuck; the total of a cart page does not panic and is exact if and only if none of its sums but the last
is stuck and the last is not wrapped; and a multiple does not panic and is exact if and only if it is
the value itself, or the double of a value that is not wrapped, or the value is not stuck with itself. -/
theorem money_sum_exact_iff (l r m : Money) (currency : String) (prices : List Money)
    (shippingCost : Option Money) (n : ℕ) :
    (Valid l → Valid r → l.currencyCode = r.currencyCode → Fits (amount l + amount r) →
      ((∃ s, sum l r = .ok s ∧ amount s = amount l + amount r ∧ isValid s = true) ↔ ¬Stuck l r)) ∧
    ((∀ price ∈ prices ++ shippingCost.toList, Valid price ∧ currency = price.currencyCode) →
      PartialSumsFit 0 (prices ++ shippingCost.toList) →
      ((∃ total, cartTotal currency prices shippingCost = some total ∧
          amount total = ((prices ++ shippingCost.toList).map amount).sum) ↔
        Foldable currency 0 (prices ++ shippingCost.toList))) ∧
    (Valid m → 1 ≤ n → (∀ k ≤ n, Fits (k * amount m)) →
      ((∃ out, multiplySlow m n = some out ∧ amount out = n * amount m) ↔
        n = 1 ∨ n = 2 ∧ ¬Wraps m m ∨ ¬Stuck m m)) := by
  refine ⟨?_, ?_, ?_⟩
  · intro hl hr hcurrency hfits
    obtain ⟨s, hsum, -, -, hvalid, hexact⟩ := sum_spec hl hr hcurrency hfits
    rw [← hvalid]
    constructor
    · rintro ⟨s', hsum', -, hok⟩
      obtain rfl : s = s' := Except.ok.inj (hsum.symm.trans hsum')
      exact hok
    · intro hok
      exact ⟨s, hsum, hexact.mpr fun hwraps => hvalid.mp hok hwraps.stuck, hok⟩
  · intro hprices hfits
    have hzero : Valid { currencyCode := currency } := ⟨rfl, by simp [InInt64]⟩
    have hiff := addPrices_iff hzero hprices hfits
    simp only [amount, zero_mul, zero_add] at hiff
    rw [cartTotal_eq]
    exact hiff
  · intro hm hn hfits
    have hsame : ∀ price ∈ List.replicate (n - 1) m,
        Valid price ∧ m.currencyCode = price.currencyCode := by
      intro price hprice
      obtain rfl := List.eq_of_mem_replicate hprice
      exact ⟨hm, rfl⟩
    have hsum : amount m + ((List.replicate (n - 1) m).map amount).sum = n * amount m := by
      rw [List.map_replicate, List.sum_replicate, nsmul_eq_mul, Nat.cast_sub hn]
      push_cast
      ring
    rw [← foldable_multiple_iff hm hn, multiplySlow, multiplyLoop_eq,
      ← addPrices_iff hm hsame (partialSumsFit_replicate hn hfits), hsum]

/-- Some dollars. -/
def dollars (units nanos : ℤ) : Money where
  currencyCode := "USD"
  units := units
  nanos := nanos

/-- Amounts of more than a dollar are added, totalled and multiplied. -/
theorem dollars_add_up :
    (∃ m, sum (dollars 2 900000000) (dollars 3 300000000) = .ok m ∧ amount m = 6200000000 ∧
      isValid m = true) ∧
    (∃ total, cartTotal "USD" [dollars 2 900000000] (some (dollars 3 300000000)) = some total ∧
      amount total = 6200000000) ∧
    ∃ out, multiplySlow (dollars 2 900000000) 3 = some out ∧ amount out = 8700000000 := by
  have htwo : Valid (dollars 2 900000000) := ⟨by decide, by simp [InInt64, dollars]⟩
  have hthree : Valid (dollars 3 300000000) := ⟨by decide, by simp [InInt64, dollars]⟩
  have hsums := money_sum_exact_iff (dollars 2 900000000) (dollars 3 300000000)
    (dollars 2 900000000) "USD" [dollars 2 900000000] (some (dollars 3 300000000)) 3
  refine ⟨?_, ?_, ?_⟩
  · exact (hsums.1 htwo hthree rfl (by simp [Fits, amount, dollars])).mpr (by simp [Stuck, dollars])
  · refine (hsums.2.1 ?_ ?_).mpr ?_
    · intro price hprice
      rcases List.mem_pair.mp hprice with rfl | rfl
      · exact ⟨htwo, rfl⟩
      · exact ⟨hthree, rfl⟩
    · intro before after hsplit
      have hbefore : before ∈ [dollars 2 900000000, dollars 3 300000000].inits :=
        (List.mem_inits _ _).mpr ⟨after, hsplit.symm⟩
      simp only [List.inits, List.map_cons, List.map_nil, List.mem_cons, List.not_mem_nil,
        or_false] at hbefore
      rcases hbefore with rfl | rfl | rfl
      · simp [Fits]
      · simp [Fits, amount, dollars]
      · simp [Fits, amount, dollars]
    · simp [Foldable, Stuck, Wraps, ofAmount, amount, dollars]
  · refine (hsums.2.2 htwo (by decide) ?_).mpr ?_
    · intro k hk
      simp only [Fits, amount, dollars]
      omega
    · simp [Stuck, dollars]

/-- Cents do not: the sum of fifty and thirty cents is not valid, the page of a cart with it panics at
the next price, and so does the third multiple of thirty cents. -/
theorem cents_do_not_add_up :
    Valid (dollars 0 500000000) ∧ Valid (dollars 0 300000000) ∧
      Fits (amount (dollars 0 500000000) + amount (dollars 0 300000000)) ∧
      sum (dollars 0 500000000) (dollars 0 300000000) = .ok (dollars 1 (-200000000)) ∧
      isValid (dollars 1 (-200000000)) = false ∧
      cartTotal "USD" [dollars 0 500000000, dollars 0 300000000, dollars 0 300000000] none = none ∧
      multiplySlow (dollars 0 300000000) 3 = none := by
  refine ⟨⟨by decide, by simp [InInt64, dollars]⟩, ⟨by decide, by simp [InInt64, dollars]⟩, ?_, ?_⟩
  · simp [Fits, amount, dollars]
  · decide

end Boutique.Frontend
