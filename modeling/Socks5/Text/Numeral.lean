/-!
# Positional numerals

Signed and padded decimal numerals, and reading of numerals in a base of at most sixteen, whose
letters may stand in either case. Natural numbers are written with `Nat.toDigits`.
-/

namespace Socks5.Text

/-! ### Digits -/

/-- The value of an ASCII digit or a letter from `a` to `f` in either case. -/
def digitValue? (c : Char) : Option Nat :=
  if 48 ≤ c.toNat ∧ c.toNat ≤ 57 then some (c.toNat - 48)
  else if 97 ≤ c.toNat ∧ c.toNat ≤ 102 then some (c.toNat - 87)
  else if 65 ≤ c.toNat ∧ c.toNat ≤ 70 then some (c.toNat - 55)
  else none

def isDigit (c : Char) : Bool := 48 ≤ c.toNat ∧ c.toNat ≤ 57

def isHexDigit (c : Char) : Bool := (digitValue? c).isSome

/-! ### Writing -/

/-- The decimal numeral of an integer, with a minus sign when it is negative. -/
def signedNumeral : Int → List Char
  | .ofNat n => Nat.toDigits 10 n
  | .negSucc n => '-' :: Nat.toDigits 10 (n + 1)

/-- A numeral filled up with leading zeros to a width. -/
def paddedNumeral (width n : Nat) : List Char :=
  let digits := Nat.toDigits 10 n
  List.replicate (width - digits.length) '0' ++ digits

/-! ### Reading -/

/-- The value of a run of digits in base `b`, read after the digits that made `acc`. -/
def numeralValue? (b : Nat) : (acc : Nat) → List Char → Option Nat
  | acc, [] => some acc
  | acc, c :: r => match digitValue? c with
    | some d => if d < b then numeralValue? b (b * acc + d) r else none
    | none => none

/-- The value of a numeral, which has at least one digit. -/
def readNumeral? (b : Nat) : List Char → Option Nat
  | [] => none
  | cs => numeralValue? b 0 cs

end Socks5.Text
