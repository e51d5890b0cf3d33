import Boutique.Common.Message
import Mathlib.Data.List.DropRight

/-!
# `time.RFC3339Nano`

`Format(time.RFC3339Nano)` of a time in UTC: the date of the Gregorian calendar, the time of the day, and the
fraction of the second without trailing zeros.
-/

namespace Boutique

/-- A number in decimal digits, at least `width` of them. -/
def appendInt (x : ℤ) (width : ℕ) : List Char :=
  let digits := Nat.toDigits 10 x.natAbs
  (if x < 0 then ['-'] else []) ++ List.replicate (width - digits.length) '0' ++ digits

/-- A date of the Gregorian calendar. -/
structure Date where
  year : ℤ
  month : ℕ
  day : ℕ
  deriving DecidableEq, Repr

/-- The date that is a number of days after `0001-01-01`.  The days are counted in eras of 400 years that
start on the first of March, so that a leap day is the last day of its year. -/
def Date.ofDays (days : ℤ) : Date :=
  let sinceMarch := days + 306
  let dayOfEra := (sinceMarch % 146097).toNat
  let yearOfEra := (dayOfEra - dayOfEra / 1460 + dayOfEra / 36524 - dayOfEra / 146096) / 365
  let dayOfYear := dayOfEra - (365 * yearOfEra + yearOfEra / 4 - yearOfEra / 100)
  let monthFromMarch := (5 * dayOfYear + 2) / 153
  let month := if monthFromMarch < 10 then monthFromMarch + 3 else monthFromMarch - 9
  { year := sinceMarch / 146097 * 400 + yearOfEra + if month ≤ 2 then 1 else 0
    month := month
    day := dayOfYear - (153 * monthFromMarch + 2) / 5 + 1 }

/-- The fraction of a second: a point and its digits up to the last that is not zero, or nothing. -/
def appendNano (nanos : ℕ) : List Char :=
  if nanos = 0 then [] else '.' :: (appendInt nanos 9).rdropWhile (· == '0')

/-- `t.UTC().Format(time.RFC3339Nano)`. -/
def formatRFC3339Nano (t : Time) : List Char :=
  let seconds := t / 1000000000
  let date := Date.ofDays (seconds / 86400)
  let second := seconds % 86400
  appendInt date.year 4 ++ ['-'] ++ appendInt date.month 2 ++ ['-'] ++ appendInt date.day 2 ++ ['T'] ++
    appendInt (second / 3600) 2 ++ [':'] ++ appendInt (second / 60 % 60) 2 ++ [':'] ++
    appendInt (second % 60) 2 ++ appendNano (t % 1000000000).toNat ++ ['Z']

/-- A character of a formatted time. -/
def isStamp (c : Char) : Bool := c.isDigit || c == '-' || c == ':' || c == '.' || c == 'T' || c == 'Z'

/-- A number is written in digits, after a sign. -/
lemma appendInt_stamp (x : ℤ) (width : ℕ) : ∀ c ∈ appendInt x width, isStamp c = true := by
  intro c hc
  simp only [appendInt, List.mem_append] at hc
  rcases hc with (hsign | hzero) | hdigit
  · split_ifs at hsign
    · rw [List.mem_singleton.mp hsign]
      rfl
    · cases hsign
  · rw [List.eq_of_mem_replicate hzero]
    rfl
  · have hdigit : c.isDigit := Nat.isDigit_of_mem_toDigits (by decide) (by decide) hdigit
    simp [isStamp, hdigit]

/-- A fraction is written in digits, after a point. -/
lemma appendNano_stamp (nanos : ℕ) : ∀ c ∈ appendNano nanos, isStamp c = true := by
  intro c hc
  unfold appendNano at hc
  split_ifs at hc
  · cases hc
  · rcases List.mem_cons.mp hc with rfl | hdigit
    · rfl
    · have hpart : (appendInt nanos 9).rdropWhile (· == '0') <+: appendInt nanos 9 :=
        List.rdropWhile_prefix _ _
      exact appendInt_stamp nanos 9 c (hpart.subset hdigit)

/-- A formatted time has digits and separators only. -/
lemma formatRFC3339Nano_stamp (t : Time) : ∀ c ∈ formatRFC3339Nano t, isStamp c = true := by
  intro c hc
  simp only [formatRFC3339Nano, List.mem_append, List.mem_singleton] at hc
  rcases hc with ((((((((((((h | rfl) | h) | rfl) | h) | rfl) | h) | rfl) | h) | rfl) | h) | h) | rfl)
  · exact appendInt_stamp _ _ c h
  · rfl
  · exact appendInt_stamp _ _ c h
  · rfl
  · exact appendInt_stamp _ _ c h
  · rfl
  · exact appendInt_stamp _ _ c h
  · rfl
  · exact appendInt_stamp _ _ c h
  · rfl
  · exact appendInt_stamp _ _ c h
  · exact appendNano_stamp _ c h
  · rfl

example : formatRFC3339Nano (unixEpoch + 1709208000 * 1000000000 + 120000000) =
    "2024-02-29T12:00:00.12Z".toList := by
  decide +kernel

end Boutique
