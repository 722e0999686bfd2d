import Socks5.Yaml.Token
import Socks5.Yaml.Tag
import Socks5.Text.Base64
import Socks5.Calendar.Basic
import Socks5.Value.Conversion

/-!
# Values of scalars

What the text of a scalar denotes under its tag. Integers may be written in base two, eight, ten,
sixteen or sixty; underscores between digits mean nothing.
-/

namespace Socks5.Yaml

/-- A result whose fault is that of a scalar's text. -/
def ofFault {α : Type} (r : Except Fault α) : Except YamlError α := r.mapError .fault

/-! ### Numbers -/

/-- The fault of a number text without any character. -/
def emptyNumber : Fault := ⟨.index, "string index out of range"⟩

/-- The integer that a text stands for in base 2, 8 or 16; the letter of the base may stand in
front. -/
def integerInBase (base : Nat) (letter : Char) (t : Text) : Except Fault Int :=
  let (negative, body) := Decimal.splitSign (Text.strip (Text.toAsciiNumeral t.numeralChars))
  let digits := match body with
    | '0' :: x :: r => if Text.lowerChar x = letter then r else body
    | _ => body
  match Text.readNumeral? base digits with
  | some n => .ok (if negative then -(n : Int) else n)
  | none => .error (badInteger base (Text.quoted t))

/-- The number whose digits in base sixty are given, the highest first. -/
def sexagesimal (digits : List Int) : Int := digits.foldl (fun n d => 60 * n + d) 0

/-- The integer that is written without underscores and sign. -/
def unsignedInteger (t : Text) : Except Fault Int :=
  match t with
  | [] => .error emptyNumber
  | ['0'] => .ok 0
  | '0' :: 'b' :: r => integerInBase 2 'b' r
  | '0' :: 'x' :: r => integerInBase 16 'x' r
  | '0' :: _ => integerInBase 8 'o' t
  | _ =>
    if .char ':' ∈ t then ((Text.fields (.char ':') t).mapM integerOfText).map sexagesimal
    else integerOfText t

/-- The integer that a scalar stands for. -/
def integerScalar (t : Text) : Except Fault Int :=
  match t.filter (· ≠ .char '_') with
  | [] => .error emptyNumber
  | '-' :: r => (unsignedInteger r).map fun n => -n
  | '+' :: r => unsignedInteger r
  | t => unsignedInteger t

/-- The sum of parts in base sixty, the lowest part being added first. -/
def sexagesimalSum : (unit : Int) → (sum : Float) → (parts : List Float) → Except Fault Float
  | _, sum, [] => .ok sum
  | unit, sum, x :: r => do
    let factor ← floatOfInteger unit
    sexagesimalSum (60 * unit) (sum + x * factor) r

/-- The number that is written without underscores and sign, times a sign. -/
def unsignedFloat (sign : Float) (t : Text) : Except Fault Float :=
  if t = ".inf" then .ok (sign * Decimal.infinity)
  else if t = ".nan" then .ok Decimal.notANumber
  else if .char ':' ∈ t then do
    let parts ← (Text.fields (.char ':') t).mapM floatOfText
    return sign * (← sexagesimalSum 1 0 parts.reverse)
  else (floatOfText t).map (sign * ·)

/-- The floating-point number that a scalar stands for. -/
def floatScalar (t : Text) : Except Fault Float :=
  match (t.filter (· ≠ .char '_')).map (CodePoint.map Text.lowerChar) with
  | [] => .error emptyNumber
  | '-' :: r => unsignedFloat (-1) r
  | '+' :: r => unsignedFloat 1 r
  | t => unsignedFloat 1 t

/-! ### Dates -/

/-- The date with a year, month and day in range. -/
def dateOf (year month day : Nat) : Except Fault Date :=
  if year = 0 then .error ⟨.value, "year 0 is out of range"⟩
  else if month = 0 ∨ 12 < month then .error ⟨.value, "month must be in 1..12"⟩
  else if day = 0 ∨ daysInMonth year month < day then
    .error ⟨.value, "day is out of range for month"⟩
  else .ok ⟨year, month, day⟩

def digitsValue (cs : List Char) : Nat := (Text.readNumeral? 10 cs).getD 0

/-- A span of seconds as a constructor call with days and seconds. -/
def spanLiteral (seconds : Int) : List Char :=
  let part (name : String) (n : Int) := if n = 0 then [] else [name.toList ++ Text.signedNumeral n]
  let parts := part "days=" (seconds.fdiv 86400) ++ part "seconds=" (seconds.fmod 86400)
  "datetime.timedelta(".toList ++ Text.join [',', ' '] (if parts.isEmpty then [['0']] else parts) ++
    [')']

/-- The minutes by which a zone is ahead of universal time, less than a day. -/
def offsetOf : Option (Char × List Char × List Char) → Except Fault Int
  | none => .ok 0
  | some (sign, hours, minutes) =>
    let n : Int := 60 * digitsValue hours + digitsValue minutes
    let n := if sign = '-' then -n else n
    if -1440 < n ∧ n < 1440 then .ok n
    else .error ⟨.value, "offset must be a timedelta strictly between -timedelta(hours=24) and " ++
      "timedelta(hours=24), not " ++ String.ofList (spanLiteral (60 * n)) ++ "."⟩

/-- The millionths of a second that the digits of a fraction stand for. -/
def microOf (fraction : List Char) : Nat :=
  let digits := fraction.take 6
  digitsValue (digits ++ List.replicate (6 - digits.length) '0')

/-- The date that written parts stand for, with the time of day if there is one. -/
def dateValue (p : DateParts) : Except Fault Value := do
  let year := digitsValue p.year
  let month := digitsValue p.month
  let day := digitsValue p.day
  match p.time with
  | none => return .date (← dateOf year month day)
  | some (hour, minute, second, fraction) => do
    let offset ← p.zone.mapM offsetOf
    let date ← dateOf year month day
    let hour := digitsValue hour
    let minute := digitsValue minute
    let second := digitsValue second
    if 23 < hour then .error ⟨.value, "hour must be in 0..23"⟩
    else if 59 < minute then .error ⟨.value, "minute must be in 0..59"⟩
    else if 59 < second then .error ⟨.value, "second must be in 0..59"⟩
    else return .moment { date, hour, minute, second, micro := microOf fraction, offset }

/-! ### All scalars -/

/-- The truth value that a text stands for. -/
def truthValue? (t : Text) : Option Bool :=
  let word := t.map (CodePoint.map Text.lowerChar)
  if word = "yes" ∨ word = "true" ∨ word = "on" then some true
  else if word = "no" ∨ word = "false" ∨ word = "off" then some false
  else none

/-- The value of a scalar under a tag for scalars. -/
def scalarValue (tag : Tag) (t : Text) : Except YamlError Value :=
  match tag with
  | .null => .ok .null
  | .bool => match truthValue? t with
    | some b => .ok (.bool b)
    | none => .error (.fault ⟨.key, ""⟩)
  | .int => (ofFault (integerScalar t)).map .int
  | .float => (ofFault (floatScalar t)).map .float
  | .binary =>
    if t.all (·.toNat < 128) then match Text.Base64.decode? (t.filterMap CodePoint.char?) with
      | some bs => .ok (.bytes bs)
      | none => .error .malformed
    else .error .malformed
  | .timestamp => match t.chars?.bind fun cs => DateParts.ofChars? (withoutLastBreak cs) with
    | some p => ofFault (dateValue p)
    | none => .error (.fault ⟨.attribute, ""⟩)
  | .str => .ok (.text t)
  | _ => .error .malformed

end Socks5.Yaml
