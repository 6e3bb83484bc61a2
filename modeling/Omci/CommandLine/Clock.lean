import Omci.Text.Numeral

/-!
# Clock times

The time as it stands in version headings: year, month and day, hour, minute and second,
in UTC.
-/

namespace Omci.CommandLine

structure Date where
  year : Int
  month : Nat
  day : Nat
deriving DecidableEq, Repr

/-- The date so many days after the first of January 1970. Years are counted from the
first of March, so that a leap day is the last of its year, in periods of 400 years or
146097 days. -/
def Date.ofDays (days : Int) : Date :=
  let days := days + 719468
  let period := days.fdiv 146097
  let dayOfPeriod := (days - period * 146097).toNat
  let yearOfPeriod :=
    (dayOfPeriod - dayOfPeriod / 1460 + dayOfPeriod / 36524 - dayOfPeriod / 146096) / 365
  let dayOfYear :=
    dayOfPeriod - (365 * yearOfPeriod + yearOfPeriod / 4 - yearOfPeriod / 100)
  let monthFromMarch := (5 * dayOfYear + 2) / 153
  let month := if monthFromMarch < 10 then monthFromMarch + 3 else monthFromMarch - 9
  { year := period * 400 + yearOfPeriod + if month ≤ 2 then 1 else 0
    month := month
    day := dayOfYear - (153 * monthFromMarch + 2) / 5 + 1 }

/-- A numeral with zeros in front up to a width. -/
def padded (width n : Nat) : String :=
  let digits := Text.decimal n
  String.ofList (List.replicate (width - digits.length) '0' ++ digits)

/-- The time so many seconds after the beginning of 1970. -/
def timeText (seconds : Int) : String :=
  let days := seconds.fdiv 86400
  let second := (seconds - days * 86400).toNat
  let date := Date.ofDays days
  padded 4 date.year.toNat ++ "-" ++ padded 2 date.month ++ "-" ++
    padded 2 date.day ++ "T" ++
    padded 2 (second / 3600) ++ ":" ++ padded 2 (second / 60 % 60) ++ ":" ++
      padded 2 (second % 60) ++
    "Z"

end Omci.CommandLine
