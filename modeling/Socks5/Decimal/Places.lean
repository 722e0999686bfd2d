import Socks5.Decimal.Shortest

/-!
# Decimals with a given number of places

A finite double written with a given number of digits behind the point, or with a given number of
digits in all, in positional or in scientific notation. Rounding is exact, and a half goes to the
even neighbour.
-/

namespace Socks5.Decimal

/-- The absolute value of a finite double as a quotient. -/
def quotient (x : Float) : Nat × Nat :=
  let q := binaryExponent x
  if 0 ≤ q then (significand x * Nat.pow 2 q.toNat, 1) else (significand x, Nat.pow 2 (-q).toNat)

/-- A number of tenths, hundredths and so on, with a point before the last `places` digits; without
places the point stands only if it has to. -/
def pointed (keepPoint : Bool) (places n : Nat) : List Char :=
  let digits := Text.paddedNumeral (places + 1) n
  let whole := digits.take (digits.length - places)
  let fraction := digits.drop (digits.length - places)
  if places = 0 ∧ !keepPoint then whole else whole ++ '.' :: fraction

/-- The absolute value of a finite double in positional notation. -/
def positional (keepPoint : Bool) (places : Nat) (x : Float) : List Char :=
  let (num, den) := quotient x
  pointed keepPoint places (roundDiv (num * Nat.pow 10 places) den)

/-- The digits, one before the point and `places` behind it, and the exponent of a finite double. -/
def scientificParts (places : Nat) (x : Float) : Nat × Int :=
  let (num, den) := quotient x
  if num = 0 then (0, 0)
  else
    let e := decimalExponent num den
    let shift := places - e
    let n := if 0 ≤ shift then roundDiv (num * Nat.pow 10 shift.toNat) den
      else roundDiv num (den * Nat.pow 10 (-shift).toNat)
    if n = Nat.pow 10 (places + 1) then (Nat.pow 10 places, e + 1) else (n, e)

/-- The absolute value of a finite double in scientific notation. -/
def scientific (keepPoint : Bool) (places : Nat) (x : Float) : List Char :=
  let (n, e) := scientificParts places x
  pointed keepPoint places n ++ exponentChars e

/-- A decimal without zeros at the end of its fraction. -/
def dropZeros (cs : List Char) : List Char :=
  if '.' ∈ cs then
    let kept := (cs.reverse.dropWhile (· = '0')).reverse
    if kept.getLast? = some '.' then kept.dropLast else kept
  else cs

/-- The absolute value of a finite double with a number of digits in all, in whichever notation is
shorter; zeros at the end are left out unless they have to stand. -/
def general (keepZeros : Bool) (digits : Nat) (x : Float) : List Char :=
  let digits := max digits 1
  let e := (scientificParts (digits - 1) x).2
  let trim (cs : List Char) : List Char := if keepZeros then cs else dropZeros cs
  if -4 ≤ e ∧ e < digits then trim (positional keepZeros (digits - 1 - e).toNat x)
  else
    let n := (scientificParts (digits - 1) x).1
    trim (pointed keepZeros (digits - 1) n) ++ exponentChars e

end Socks5.Decimal
