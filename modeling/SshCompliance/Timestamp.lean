/-!
# Points in time

A point in time is given in seconds since the start of 1970, together with the seconds by which
local time is ahead. Dates are those of the Gregorian calendar, extended to all years. Its days
repeat every 400 years; years are counted from March on, so that the leap day is the last of its
year.
-/

namespace SshCompliance

structure Timestamp where
  seconds : Int
  ahead : Int
deriving DecidableEq, Repr

structure Date where
  year : Int
  month : Nat
  day : Nat
deriving DecidableEq, Repr

namespace Date

def daysPerEra : Int := 146097

/-- Days from the first of March of year zero to the start of 1970. -/
def daysBefore1970 : Int := 719468

/-- The date so many days after the start of 1970. -/
def ofDays (days : Int) : Date :=
  let shifted := days + daysBefore1970
  let era := shifted / daysPerEra
  let dayOfEra := (shifted % daysPerEra).toNat
  let yearOfEra := (dayOfEra - dayOfEra / 1460 + dayOfEra / 36524 - dayOfEra / 146096) / 365
  let dayOfYear := dayOfEra - (365 * yearOfEra + yearOfEra / 4 - yearOfEra / 100)
  let monthFromMarch := (5 * dayOfYear + 2) / 153
  let month := if monthFromMarch < 10 then monthFromMarch + 3 else monthFromMarch - 9
  { year := 400 * era + yearOfEra + (if month ≤ 2 then 1 else 0)
    month := month
    day := dayOfYear - (153 * monthFromMarch + 2) / 5 + 1 }

end Date

/-- The digits of a number, with zeros before them up to a width. -/
def paddedText (width number : Nat) : String :=
  let digits := toString number
  String.ofList (List.replicate (width - digits.length) '0') ++ digits

/-- Years of up to four digits take four columns; later ones have a plus, earlier ones a minus. -/
def yearText (year : Int) : String :=
  if year < 0 then "-" ++ paddedText 4 year.natAbs
  else if 9999 < year then "+" ++ toString year
  else paddedText 4 year.natAbs

namespace Timestamp

/-- Year, month, day and time of day in local time. -/
def text (time : Timestamp) : String :=
  let seconds := time.seconds + time.ahead
  let date := Date.ofDays (seconds / 86400)
  let ofDay := (seconds % 86400).toNat
  yearText date.year ++ "-" ++ paddedText 2 date.month ++ "-" ++ paddedText 2 date.day ++ "-" ++
    paddedText 2 (ofDay / 3600) ++ ":" ++ paddedText 2 (ofDay / 60 % 60) ++ ":" ++
    paddedText 2 (ofDay % 60)

end Timestamp

end SshCompliance
