import Socks5.Value.Basic

/-!
# Days and seconds

Dates of the calendar, counted in days and seconds since the beginning of 1970, in universal time.
-/

namespace Socks5

/-- Whether a year has a leap day. -/
def isLeapYear (year : Nat) : Bool := year % 4 = 0 ∧ (year % 100 ≠ 0 ∨ year % 400 = 0)

def daysInMonth (year month : Nat) : Nat :=
  if month = 2 then if isLeapYear year then 29 else 28
  else if month ∈ [4, 6, 9, 11] then 30 else 31

namespace Date

/-- The date that is a number of days after the first day of 1970. Years are counted from March, so
that the leap day is the last one, in cycles of four hundred years. -/
def ofDays (n : Int) : Date :=
  let fromMarch := n + 719468
  let cycle := fromMarch.fdiv 146097
  let day := (fromMarch - cycle * 146097).toNat
  let yearOfCycle := (day - day / 1460 + day / 36524 - day / 146096) / 365
  let dayOfYear := day - (365 * yearOfCycle + yearOfCycle / 4 - yearOfCycle / 100)
  let monthFromMarch := (5 * dayOfYear + 2) / 153
  let month := if monthFromMarch < 10 then monthFromMarch + 3 else monthFromMarch - 9
  { year := (yearOfCycle + cycle * 400).toNat + (if month ≤ 2 then 1 else 0)
    month, day := dayOfYear - (153 * monthFromMarch + 2) / 5 + 1 }

/-- The number of a day in its year, from 1. -/
def dayOfYear (d : Date) : Nat :=
  (List.range (d.month - 1)).foldl (fun days m => days + daysInMonth d.year (m + 1)) d.day

end Date

def secondsPerDay : Int := 86400

namespace Moment

/-- The moment that is a number of seconds after the beginning of 1970. -/
def ofSeconds (n : Int) : Moment :=
  let second := (n.fmod secondsPerDay).toNat
  { date := Date.ofDays (n.fdiv secondsPerDay), hour := second / 3600
    minute := second / 60 % 60, second := second % 60, micro := 0, offset := some 0 }

end Moment

/-- The day of the week on which a second falls, from 0 for Sunday. -/
def weekday (seconds : Int) : Nat := ((seconds.fdiv secondsPerDay + 4).fmod 7).toNat

/-- The second at which the day after the given one begins. -/
def nextMidnight (seconds : Int) : Int := (seconds.fdiv secondsPerDay + 1) * secondsPerDay

end Socks5
