import Socks5.Decimal.Binary64
import Socks5.Text.Numeral
import Socks5.Text.Unicode

/-!
# Reading numbers

The number texts that settings may hold. Blanks around a number are ignored, digits of all scripts
count, and a single underscore may stand between two digits.
-/

namespace Socks5.Decimal

/-! ### Underscores -/

/-- Leaves out underscores, each of which must stand between two digits. -/
def dropUnderscores? : (previous : Char) → List Char → Option (List Char)
  | previous, [] => if previous = '_' then none else some []
  | previous, c :: r =>
    if c = '_' then
      if Text.isDigit previous then dropUnderscores? '_' r else none
    else if previous = '_' ∧ ¬ Text.isDigit c then none
    else (dropUnderscores? c r).map (c :: ·)

/-! ### Floating point -/

/-- A sign at the front, and the rest. -/
def splitSign : List Char → Bool × List Char
  | '-' :: r => (true, r)
  | '+' :: r => (false, r)
  | cs => (false, cs)

/-- The exponent after an `e`: an optional sign and at least one digit. -/
private def exponent? (cs : List Char) : Option Int :=
  let (negative, ds) := splitSign cs
  if ds.isEmpty ∨ ¬ ds.all Text.isDigit then none
  else (Text.readNumeral? 10 ds).map fun n => if negative then -(n : Int) else n

/-- An unsigned decimal: digits with an optional point and an optional exponent. -/
private def unsigned? (negative : Bool) (cs : List Char) : Option Float :=
  let whole := cs.takeWhile Text.isDigit
  let rest := cs.dropWhile Text.isDigit
  let (fraction, rest) := match rest with
    | '.' :: r => (r.takeWhile Text.isDigit, r.dropWhile Text.isDigit)
    | r => ([], r)
  if whole.isEmpty ∧ fraction.isEmpty then none
  else
    let exponent := match rest with
      | [] => some 0
      | c :: r => if c = 'e' ∨ c = 'E' then exponent? r else none
    match exponent, Text.readNumeral? 10 (whole ++ fraction) with
    | some e, some m => some (nearestDecimal negative m (e - fraction.length))
    | _, _ => none

/-- The number that a text stands for: a decimal, `inf`, `infinity` or `nan` with an optional sign.
-/
def float? (cs : List Char) : Option Float := do
  let cs ← dropUnderscores? ' ' (Text.strip (Text.toAsciiNumeral cs))
  let (negative, body) := splitSign cs
  let word := body.map Text.lowerChar
  if word = "inf".toList ∨ word = "infinity".toList then
    return if negative then negInfinity else infinity
  else if word = "nan".toList then return notANumber
  else unsigned? negative body

/-! ### Integers -/

/-- Why a text is not read as an integer. -/
inductive IntegerError where
  | literal
  /-- The integer has this many digits, more than are read. -/
  | digits (count : Nat)
  deriving DecidableEq, Repr

/-- The most digits that an integer text may have. -/
def maxDigits : Nat := 4300

/-- The integer that a text stands for. -/
def integer? (cs : List Char) : Except IntegerError Int :=
  match dropUnderscores? ' ' (Text.strip (Text.toAsciiNumeral cs)) with
  | none => .error .literal
  | some cs =>
    let (negative, body) := splitSign cs
    let ds := body.takeWhile Text.isDigit
    if maxDigits < ds.length then .error (.digits ds.length)
    else if ds.length < body.length then .error .literal
    else match Text.readNumeral? 10 ds with
      | some n => .ok (if negative then -(n : Int) else n)
      | none => .error .literal

end Socks5.Decimal
