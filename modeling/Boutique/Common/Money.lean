import Boutique.Common.Message

/-!
# Checkout's money arithmetic

`convertMoney`, `addMoney` and `multiplyMoney` of `checkoutservice/saga.go`.  The conversion is the
only floating-point code of the saga: each operation is exact on rationals and then rounded by
`round64`, the rounding of a real number to the nearest `float64`.
-/

namespace Boutique

/-- The entry of the rate table for `code`.  A later entry overrides an earlier one, as in the Go
map built from the list. -/
def rateOf (rates : CurrencyRatesUpdatedEvent) (code : String) : Option ℚ :=
  rates.rates.foldl (fun found rate =>
    if rate.currencyCode = code then some rate.unitsPerBase else found) none

/-- `math.Round`: to the nearest integer, halves away from zero. -/
def roundHalfAway (q : ℚ) : ℤ :=
  if 0 ≤ q then ⌊q + 1 / 2⌋ else -⌊-q + 1 / 2⌋

/-- The floating-point part of `convertMoney`: the amount in the target currency. -/
def convertedAmount (round64 : ℚ → ℚ) (value : Money) (fromRate toRate : ℚ) : ℚ :=
  round64 (round64
    (round64 (round64 value.units + round64 (round64 value.nanos / 1000000000)) / fromRate)
      * toRate)

/-- `convertMoney`. -/
def convertMoney (round64 : ℚ → ℚ) (rates : Option CurrencyRatesUpdatedEvent)
    (value : Option Money) (toCode : String) : Option Money :=
  match rates, value with
  | some rates, some value =>
    match rateOf rates value.currencyCode, rateOf rates toCode with
    | some fromRate, some toRate =>
      if fromRate = 0 then none
      else
        let amount := convertedAmount round64 value fromRate toRate
        let units := ⌊amount⌋
        let nanos := roundHalfAway (round64 (round64 (amount - units) * 1000000000))
        -- the rounded fraction can reach a whole unit, which is carried
        if 1000000000 ≤ nanos then
          some { currencyCode := toCode, units := wrapInt64 (units + 1),
                 nanos := wrapInt32 (nanos - 1000000000) }
        else some { currencyCode := toCode, units := wrapInt64 units, nanos := wrapInt32 nanos }
    | _, _ => none
  | _, _ => none

/-- `addMoney`, with the wrap-around of `int64` units and `int32` nanos. -/
def addMoney (left : Option Money) (right : Money) : Money :=
  match left with
  | none => right
  | some left =>
    let units := wrapInt64 (left.units + right.units)
    let nanos := wrapInt32 (left.nanos + right.nanos)
    if 1000000000 ≤ nanos then
      { currencyCode := left.currencyCode, units := wrapInt64 (units + 1),
        nanos := wrapInt32 (nanos - 1000000000) }
    else { currencyCode := left.currencyCode, units := units, nanos := nanos }

/-- `multiplyMoney`: Go's `/` and `%` truncate towards zero. -/
def multiplyMoney (value : Money) (quantity : ℤ) : Money :=
  let nanos := wrapInt64 (value.nanos * quantity)
  { currencyCode := value.currencyCode
    units := wrapInt64 (wrapInt64 (value.units * quantity) + nanos.tdiv 1000000000)
    nanos := wrapInt32 (nanos.tmod 1000000000) }

end Boutique
