/-!
# Binary floating point, exactly

A finite double is `m · 2^q` with natural `m < 2^53`. This module takes doubles apart into `m` and
`q`, rounds a quotient of natural numbers to the nearest double (ties to even), and truncates a
double to an integer; all arithmetic is exact.
-/

namespace Socks5.Decimal

/-! ### Taking doubles apart -/

def signBit (x : Float) : Bool := x.toBits.toNat / Nat.pow 2 63 = 1

def exponentBits (x : Float) : Nat := x.toBits.toNat / Nat.pow 2 52 % Nat.pow 2 11

def fractionBits (x : Float) : Nat := x.toBits.toNat % Nat.pow 2 52

/-- Whether the value is neither infinite nor a NaN. -/
def isFinite (x : Float) : Bool := exponentBits x < 2047

/-- Whether the value is not a number. -/
def isNaN (x : Float) : Bool := exponentBits x = 2047 ∧ fractionBits x ≠ 0

/-- The natural factor `m` of a finite double. -/
def significand (x : Float) : Nat :=
  if exponentBits x = 0 then fractionBits x else Nat.pow 2 52 + fractionBits x

/-- The exponent `q` of a finite double. -/
def binaryExponent (x : Float) : Int :=
  if exponentBits x = 0 then -1074 else (exponentBits x : Int) - 1075

/-! ### Rounding -/

/-- The quotient rounded to the nearest natural number, ties to even. -/
def roundDiv (num den : Nat) : Nat :=
  let n := num / den
  let r := num % den
  if 2 * r < den then n else if den < 2 * r then n + 1 else n + n % 2

/-- The double with a sign, a natural factor of at most `2^53` and an exponent. -/
def assemble (negative : Bool) (m : Nat) (q : Int) : Float :=
  let sign : Nat := if negative then Nat.pow 2 63 else 0
  let body : Nat :=
    if m < Nat.pow 2 52 then m
    else
      let field := (q + 1075).toNat
      if 2047 ≤ field then 2047 * Nat.pow 2 52
      else min (field * Nat.pow 2 52 + (m - Nat.pow 2 52)) (2047 * Nat.pow 2 52)
  Float.ofBits (UInt64.ofNat (sign + body))

/-- A quotient scaled by a power of two, as numerator and denominator. -/
def scaled (num den : Nat) (q : Int) : Nat × Nat :=
  if 0 ≤ q then (num, den * Nat.pow 2 q.toNat) else (num * Nat.pow 2 (-q).toNat, den)

/-- The double nearest to `num / den`, with ties to even; too large a quotient is infinite. -/
def nearest (negative : Bool) (num den : Nat) : Float :=
  if num = 0 then assemble negative 0 (-1074)
  else
    let k : Int := (Nat.log2 num : Int) - Nat.log2 den
    let q₀ := max (k - 53) (-1074)
    let q := match scaled num den q₀ with
      | (n, d) => if Nat.pow 2 53 ≤ n / d then q₀ + 1 else q₀
    match scaled num den q with
    | (n, d) => assemble negative (roundDiv n d) q

/-- The double nearest to `m · 10^e`; far outside the range nothing is multiplied out. -/
def nearestDecimal (negative : Bool) (m : Nat) (e : Int) : Float :=
  let magnitude := e + (Nat.toDigits 10 m).length
  if m = 0 ∨ magnitude < -400 then assemble negative 0 (-1074)
  else if 400 < magnitude then assemble negative (Nat.pow 2 52) 972
  else if 0 ≤ e then nearest negative (m * Nat.pow 10 e.toNat) 1
  else nearest negative m (Nat.pow 10 (-e).toNat)

def infinity : Float := Float.ofBits 0x7ff0000000000000

def negInfinity : Float := Float.ofBits 0xfff0000000000000

def notANumber : Float := Float.ofBits 0x7ff8000000000000

/-! ### Integers -/

/-- The double nearest to an integer, unless it would be infinite. -/
def ofInt? (n : Int) : Option Float :=
  let x := nearest (n < 0) n.natAbs 1
  if isFinite x then some x else none

/-- A finite double with its fraction cut off. -/
def truncate (x : Float) : Int :=
  let m := significand x
  let q := binaryExponent x
  let n : Nat := if 0 ≤ q then m * Nat.pow 2 q.toNat else m / Nat.pow 2 (-q).toNat
  if signBit x then -(n : Int) else n

def isInteger (x : Float) : Bool :=
  isFinite x ∧ (0 ≤ binaryExponent x ∨ significand x % Nat.pow 2 (-binaryExponent x).toNat = 0)

end Socks5.Decimal
