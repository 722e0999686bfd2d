import Socks5.Decimal.Binary64
import Socks5.Text.Numeral

/-!
# Shortest decimal form

The decimal form of a double with the fewest digits that reads back as the same double; of two such
forms the nearer, of two equally near the one with the even last digit.
-/

namespace Socks5.Decimal

/-! ### Digits -/

/-- A positive decimal `digits · 10^exponent`. -/
structure Scientific where
  digits : Nat
  /-- The power of ten that the last digit counts. -/
  exponent : Int

/-- Whether `a / b ≤ c / d`. -/
private def quotientLe (a b c d : Nat) : Bool := a * d ≤ c * b

/-- `10^e` as a quotient. -/
private def tenPower (e : Int) : Nat × Nat :=
  if 0 ≤ e then (Nat.pow 10 e.toNat, 1) else (1, Nat.pow 10 (-e).toNat)

/-- Corrects an estimate of the decimal exponent of `num / den` in at most `fuel` steps. -/
private def settleExponent (num den : Nat) : (fuel : Nat) → Int → Int
  | 0, e => e
  | fuel + 1, e =>
    if ¬ quotientLe (tenPower e).1 (tenPower e).2 num den then
      settleExponent num den fuel (e - 1)
    else if quotientLe (tenPower (e + 1)).1 (tenPower (e + 1)).2 num den then
      settleExponent num den fuel (e + 1)
    else e

/-- The exponent `e` with `10^e ≤ num / den < 10^(e+1)`. -/
def decimalExponent (num den : Nat) : Int :=
  let k : Int := (Nat.log2 num : Int) - Nat.log2 den
  settleExponent num den 8 (Int.fdiv (k * 30103) 100000)

/-- The grid point of step `10^e` in the interval that is nearest to `num / den`, if any lies in it.
-/
private def onGrid? (num lo hi den : Nat) (closed : Bool) (e : Int) : Option Scientific :=
  let (p, r) := tenPower e
  let below := num * r / (den * p)
  let inside (c : Nat) : Bool :=
    if closed then quotientLe lo den (c * p) r && quotientLe (c * p) r hi den
    else !quotientLe (c * p) r lo den && !quotientLe hi den (c * p) r
  let twiceRest := 2 * (num * r - below * (den * p))
  let lowerFirst := twiceRest < den * p ∨ (twiceRest = den * p ∧ below % 2 = 0)
  let candidates := if lowerFirst then [below, below + 1] else [below + 1, below]
  (candidates.find? fun c => 0 < c && inside c).map (⟨·, e⟩)

/-- Tries grids with one digit more at each step. -/
private def refine (num lo hi den : Nat) (closed : Bool) (top : Int) :
    (count : Nat) → Int → Scientific
  | 0, e => ⟨num / den, e⟩
  | count + 1, e => match onGrid? num lo hi den closed (top - e) with
    | some s => s
    | none => refine num lo hi den closed top count (e + 1)

/-- The shortest decimal that reads back as the given positive finite double. -/
def shortest (x : Float) : Scientific :=
  let m := significand x
  let q := binaryExponent x - 2
  let lower := if m = Nat.pow 2 52 ∧ -1074 < binaryExponent x then 4 * m - 1 else 4 * m - 2
  let up : Nat := if 0 ≤ q then Nat.pow 2 q.toNat else 1
  let den : Nat := if 0 ≤ q then 1 else Nat.pow 2 (-q).toNat
  let num := 4 * m * up
  refine num (lower * up) ((4 * m + 2) * up) den (m % 2 = 0) (decimalExponent num den) 18 0

/-- Leaves out zeros at the end of the digits. -/
private def trimZeros : (fuel : Nat) → Scientific → Scientific
  | 0, s => s
  | fuel + 1, s =>
    if s.digits ≠ 0 ∧ s.digits % 10 = 0 then trimZeros fuel ⟨s.digits / 10, s.exponent + 1⟩ else s

/-! ### Text -/

/-- How doubles are written: which exponents are positional and how the special values read. -/
structure Format where
  small : Int
  /-- Numbers from `10^large` on are written with an exponent. -/
  large : Int

/-- Positional from one ten-thousandth to below ten to the sixteenth. -/
def plain : Format := ⟨4, 16⟩

/-- The exponent part: an `e`, a sign and at least two digits. -/
def exponentChars (e : Int) : List Char :=
  'e' :: (if e < 0 then '-' else '+') :: Text.paddedNumeral 2 e.natAbs

/-- A positive decimal in the given format. -/
private def scientificChars (f : Format) (s : Scientific) : List Char :=
  let ds := Nat.toDigits 10 s.digits
  let point : Int := s.exponent + ds.length
  if point ≤ -f.small ∨ f.large < point then
    let mantissa := match ds with
      | [d] => [d]
      | d :: r => d :: '.' :: r
      | [] => []
    mantissa ++ exponentChars (point - 1)
  else if point ≤ 0 then
    ['0', '.'] ++ List.replicate (-point).toNat '0' ++ ds
  else if 0 ≤ s.exponent then
    ds ++ List.replicate s.exponent.toNat '0' ++ ['.', '0']
  else
    ds.take point.toNat ++ '.' :: ds.drop point.toNat

/-- The text of a double: shortest digits, `.0` for whole numbers, `inf` and `nan`. -/
def chars (x : Float) : List Char :=
  let sign : List Char := if signBit x then ['-'] else []
  if isNaN x then ['n', 'a', 'n']
  else if ¬ isFinite x then sign ++ ['i', 'n', 'f']
  else if significand x = 0 then sign ++ ['0', '.', '0']
  else sign ++ scientificChars plain (trimZeros 20 (shortest x))

end Socks5.Decimal
