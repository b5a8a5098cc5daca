import SafeMarkup.Text.Basic

/-!
Contract: points in time as audit logs hold them.

An instant is written as its date and time of day in the Gregorian calendar, with as many groups of
three fractional digits as it needs, and with the offset of universal time.
-/

namespace SafeMarkup

/-- A point in time: whole seconds since the beginning of 1970, and nanoseconds behind them. -/
structure Instant where
  seconds : Nat
  nanoseconds : Nat
deriving DecidableEq, Repr

namespace Instant

/-- A date. -/
structure Date where
  year : Nat
  month : Nat
  day : Nat
deriving DecidableEq, Repr

/-- The date of a number of days since the beginning of 1970. Years are counted from March, so that
the day a leap year adds is the last of its year. -/
def dateOf (days : Nat) : Date :=
  let shifted := days + 719468
  let era := shifted / 146097
  let dayOfEra := shifted % 146097
  let yearOfEra :=
    (dayOfEra - dayOfEra / 1460 + dayOfEra / 36524 - dayOfEra / 146096) / 365
  let dayOfYear := dayOfEra - (365 * yearOfEra + yearOfEra / 4 - yearOfEra / 100)
  let monthFromMarch := (5 * dayOfYear + 2) / 153
  let day := dayOfYear - (153 * monthFromMarch + 2) / 5 + 1
  let month := if monthFromMarch < 10 then monthFromMarch + 3 else monthFromMarch - 9
  ⟨yearOfEra + 400 * era + (if month ≤ 2 then 1 else 0), month, day⟩

example : dateOf 0 = ⟨1970, 1, 1⟩ := by decide

example : dateOf 11016 = ⟨2000, 2, 29⟩ := by decide

/-- A number with zeros before it up to a width. -/
def padded (width value : Nat) : Text :=
  let digits := Text.ofNat value
  List.replicate (width - digits.length) '0' ++ digits

def fraction (nanoseconds : Nat) : Text :=
  if nanoseconds = 0 then []
  else if nanoseconds % 1000000 = 0 then '.' :: padded 3 (nanoseconds / 1000000)
  else if nanoseconds % 1000 = 0 then '.' :: padded 6 (nanoseconds / 1000)
  else '.' :: padded 9 nanoseconds

def text (instant : Instant) : Text :=
  let date := dateOf (instant.seconds / 86400)
  let second := instant.seconds % 86400
  padded 4 date.year ++ '-' :: padded 2 date.month ++ '-' :: padded 2 date.day ++
    'T' :: padded 2 (second / 3600) ++ ':' :: padded 2 (second / 60 % 60) ++
    ':' :: padded 2 (second % 60) ++ fraction instant.nanoseconds ++ "+00:00"

end Instant
end SafeMarkup
