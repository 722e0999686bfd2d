import Socks5.Calendar.Basic
import Socks5.Text.Capital
import Socks5.Text.Numeral

/-!
# Written dates

A moment written after a pattern, in which a percent sign with a letter stands for a part of it. In
between there may be flags, a width and a variant, of which English knows no other than the usual
one. The names of days and months are English, and what has no meaning stands for itself. A text
that grows out of proportion to its pattern is left out.
-/

namespace Socks5.Calendar

open Text (paddedNumeral)

/-- The names of the days of the week. -/
def dayNames : List String :=
  ["Sunday", "Monday", "Tuesday", "Wednesday", "Thursday", "Friday", "Saturday"]

def monthNames : List String :=
  ["January", "February", "March", "April", "May", "June", "July", "August", "September",
    "October", "November", "December"]

/-- A name in a list, by its number. -/
def nameAt (names : List String) (n : Nat) : List Char := ((names[n]?).getD "").toList

/-- A text behind as many of a character as its width asks for. -/
def filled (c : Char) (width : Nat) (cs : List Char) : List Char :=
  List.replicate (width - cs.length) c ++ cs

/-- The hour on the face of a clock. -/
def clockHour (hour : Nat) : Nat := if hour % 12 = 0 then 12 else hour % 12

/-- The number of the week in a year whose first week begins with the first day of a kind; days
since the last day of that kind are given. -/
def weekOfYear (dayOfYear daysSince : Nat) : Nat := (dayOfYear + 6 - daysSince) / 7

/-- How many weeks from Monday to Sunday a year has, those that lie mostly in it; the weekday of its
first day is given, from 0 for Monday. -/
def weeksInYear (year first : Nat) : Nat :=
  if first = 3 ∨ (first = 2 ∧ isLeapYear year) then 53 else 52

/-- The year and number of the week from Monday to Sunday that lies mostly in that year. -/
def isoWeek (d : Date) (weekday : Nat) : Nat × Nat :=
  let fromMonday := (weekday + 6) % 7
  let week := (d.dayOfYear + 9 - fromMonday) / 7
  let first := (fromMonday + 7 * 53 + 1 - d.dayOfYear) % 7
  if week = 0 then
    let days := if isLeapYear (d.year - 1) then 366 else 365
    (d.year - 1, weeksInYear (d.year - 1) ((first + 7 * 53 - days) % 7))
  else if weeksInYear d.year first < week then (d.year + 1, 1)
  else (d.year, week)

/-! ### Parts of moments -/

/-- What becomes of the letters of a part. -/
inductive Lettering where
  | usual
  /-- They can be made capital, and swapping them makes them capital too. -/
  | capitalWhenSwapped
  /-- They can be made capital, but swapping them makes them small. -/
  | smallWhenSwapped
  | fixed

/-- A part of a moment. -/
inductive Part where
  | text (lettering : Lettering) (cs : List Char)
  /-- A number with its usual count of digits, filled up with spaces or else with zeros. -/
  | number (digits : Nat) (isSpaced : Bool) (value : Nat)
  /-- The distance from universal time, which is none: a sign, and a number behind it. -/
  | offset

/-- The part of a moment that a letter of a pattern stands for, if it stands for one. -/
def part? (seconds : Int) (letter : Char) : Option Part :=
  let m := Moment.ofSeconds seconds
  let d := m.date
  let day := weekday seconds
  let time := paddedNumeral 2 m.hour ++ ':' :: paddedNumeral 2 m.minute
  let fullTime := time ++ ':' :: paddedNumeral 2 m.second
  let half := if m.hour < 12 then "AM" else "PM"
  let shortDate := paddedNumeral 2 d.month ++ '/' :: paddedNumeral 2 d.day ++
    '/' :: paddedNumeral 2 (d.year % 100)
  let (weekYear, week) := isoWeek d day
  let dayName := nameAt dayNames day
  let monthName := nameAt monthNames (d.month - 1)
  match letter with
  | 'a' => some (.text .capitalWhenSwapped (dayName.take 3))
  | 'A' => some (.text .capitalWhenSwapped dayName)
  | 'b' | 'h' => some (.text .capitalWhenSwapped (monthName.take 3))
  | 'B' => some (.text .capitalWhenSwapped monthName)
  | 'c' => some (.text .usual (dayName.take 3 ++ ' ' :: monthName.take 3 ++
      ' ' :: filled ' ' 2 (Nat.toDigits 10 d.day) ++ ' ' :: fullTime ++
      ' ' :: Nat.toDigits 10 d.year))
  | 'C' => some (.number 2 false (d.year / 100))
  | 'd' => some (.number 2 false d.day)
  | 'D' | 'x' => some (.text .usual shortDate)
  | 'e' => some (.number 2 true d.day)
  | 'F' => some (.text .usual (Nat.toDigits 10 d.year ++ '-' :: paddedNumeral 2 d.month ++
      '-' :: paddedNumeral 2 d.day))
  | 'g' => some (.number 2 false (weekYear % 100))
  | 'G' => some (.number 1 false weekYear)
  | 'H' => some (.number 2 false m.hour)
  | 'I' => some (.number 2 false (clockHour m.hour))
  | 'j' => some (.number 3 false d.dayOfYear)
  | 'k' => some (.number 2 true m.hour)
  | 'l' => some (.number 2 true (clockHour m.hour))
  | 'm' => some (.number 2 false d.month)
  | 'M' => some (.number 2 false m.minute)
  | 'n' => some (.text .fixed ['\n'])
  | 'p' => some (.text .smallWhenSwapped half.toList)
  | 'P' => some (.text .fixed (half.toList.map Char.toLower))
  | 'r' => some (.text .usual (paddedNumeral 2 (clockHour m.hour) ++
      ':' :: paddedNumeral 2 m.minute ++ ':' :: paddedNumeral 2 m.second ++ ' ' :: half.toList))
  | 'R' => some (.text .fixed time)
  | 's' => some (.text .fixed (Text.signedNumeral seconds))
  | 'S' => some (.number 2 false m.second)
  | 't' => some (.text .fixed ['\t'])
  | 'T' | 'X' => some (.text .fixed fullTime)
  | 'u' => some (.number 1 false (if day = 0 then 7 else day))
  | 'U' => some (.number 2 false (weekOfYear d.dayOfYear day))
  | 'V' => some (.number 2 false week)
  | 'w' => some (.number 1 false day)
  | 'W' => some (.number 2 false (weekOfYear d.dayOfYear ((day + 6) % 7)))
  | 'y' => some (.number 2 false (d.year % 100))
  | 'Y' => some (.number 1 false d.year)
  | 'z' => some .offset
  | 'Z' => some (.text .smallWhenSwapped "UTC".toList)
  | '%' => some (.text .fixed ['%'])
  | _ => none

/-! ### Directives -/

/-- A flag that says how a part is filled up to its width. -/
inductive Filling where
  | least
  | spaces
  | zeros

/-- A variant of a part. -/
inductive Variant where
  | calendar
  | numerals
  deriving DecidableEq

/-- What stands between the percent sign and the letter. -/
structure Directive where
  filling : Option Filling
  isCapital : Bool
  isSwapped : Bool
  width : Nat
  variant : Option Variant

namespace Directive

def allows (letter : Char) : Option Variant → Bool
  | none => true
  | some .calendar => letter ∈ "CPRTXYZcnprstuxyz".toList
  | some .numerals => letter ∈ "BCGHIMPRSTUVWZbdeghjklmnprstuwyz".toList

def fillingOf (flags : List Char) : Option Filling :=
  match flags.reverse.find? fun c => c ∈ ['-', '_', '0'] with
  | some '-' => some .least
  | some '_' => some .spaces
  | some '0' => some .zeros
  | _ => none

/-- Reads the characters behind a percent sign up to the letter. A width is cut down to the given
limit. -/
def read (limit : Nat) (cs : List Char) : Directive × List Char :=
  let flags := cs.takeWhile fun c => c ∈ ['-', '_', '0', '^', '#']
  let cs := cs.drop flags.length
  let digits := cs.takeWhile Text.isDigit
  let cs := cs.drop digits.length
  let variant : Option Variant := match cs with
    | 'E' :: _ => some .calendar
    | 'O' :: _ => some .numerals
    | _ => none
  ({ filling := fillingOf flags, isCapital := '^' ∈ flags, isSwapped := '#' ∈ flags
     width := min limit ((Text.readNumeral? 10 digits).getD 0), variant },
    if variant.isSome then cs.drop 1 else cs)

/-- A text with its letters made capital or small. -/
def lettered (d : Directive) (lettering : Lettering) (cs : List Char) : List Char :=
  let capital := cs.map Text.capital
  match lettering with
  | .usual => if d.isCapital then capital else cs
  | .capitalWhenSwapped => if d.isCapital ∨ d.isSwapped then capital else cs
  | .smallWhenSwapped =>
    if d.isSwapped then cs.map Char.toLower else if d.isCapital then capital else cs
  | .fixed => cs

/-- A text filled up to the width. -/
def fillText (d : Directive) (cs : List Char) : List Char :=
  filled (if d.filling matches some .zeros then '0' else ' ') d.width cs

/-- A number filled up to its usual count of digits and to the width. -/
def fillNumber (d : Directive) (digits : Nat) (isSpaced : Bool) (value : Nat) : List Char :=
  let numeral := Nat.toDigits 10 value
  match d.filling, isSpaced with
  | some .least, _ => filled ' ' d.width numeral
  | some .spaces, _ | none, true => filled ' ' (max digits d.width) numeral
  | some .zeros, _ | none, false => filled '0' (max digits d.width) numeral

/-- A part as a directive has it. -/
def writePart (d : Directive) : Part → List Char
  | .text lettering cs => d.fillText (d.lettered lettering cs)
  | .number digits isSpaced value => d.fillNumber digits isSpaced value
  | .offset => d.fillText ['+'] ++ d.fillNumber 4 false 0

/-- A directive without a meaning. It stands for itself, but two percent signs for one. -/
def writeUnknown (d : Directive) (source : List Char) (letter : Option Char) : List Char :=
  let isMonth : Bool := letter = some 'b' ∨ letter = some 'h'
  let lettering := if isMonth then .capitalWhenSwapped else .usual
  d.fillText (d.lettered lettering (if letter = some '%' then ['%'] else '%' :: source))

end Directive

/-! ### Whole patterns -/

/-- A pattern with its directives carried out, each of them up to a given width. -/
def expand (seconds : Int) (limit : Nat) : (fuel : Nat) → (pattern : List Char) → List Char
  | 0, _ => []
  | fuel + 1, '%' :: r =>
    let (d, rest) := Directive.read limit r
    match rest with
    | [] => d.writeUnknown r none
    | letter :: rest =>
      let part := if Directive.allows letter d.variant then part? seconds letter else none
      let cs := match part with
        | some p => d.writePart p
        | none => d.writeUnknown (r.take (r.length - rest.length)) (some letter)
      cs ++ expand seconds limit fuel rest
  | fuel + 1, c :: r => c :: expand seconds limit fuel r
  | _, [] => []

/-- How long a text may get that is written after a pattern of a given length: 1024, doubled until
it is at least 256 times that length. -/
def lengthLimit (length : Nat) : Nat :=
  let blocks := (256 * length + 1023) / 1024
  if blocks ≤ 1 then 1024 else 1024 * Nat.pow 2 (Nat.log2 (blocks - 1) + 1)

def write (seconds : Int) (pattern : List Char) : List Char :=
  let limit := lengthLimit pattern.length
  let cs := expand seconds limit pattern.length pattern
  if cs.length < limit then cs else []

end Socks5.Calendar
