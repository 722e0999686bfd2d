import Socks5.Bytes

/-!
# Base 64

Octets written with sixty-four characters, four for every three octets. Reading leaves out
characters that do not belong, and stops where the padding is complete.
-/

namespace Socks5.Text.Base64

/-! ### Writing -/

/-- The character of a number below sixty-four. -/
def digit (n : Nat) : Char :=
  if n < 26 then Char.ofNat (65 + n)
  else if n < 52 then Char.ofNat (71 + n)
  else if n < 62 then Char.ofNat (n - 4)
  else if n = 62 then '+'
  else '/'

/-- Four characters for every three octets, with padding at the end. -/
def encode : Bytes → List Char
  | a :: b :: c :: r =>
    let n := 65536 * a.toNat + 256 * b.toNat + c.toNat
    digit (n / 262144) :: digit (n / 4096 % 64) :: digit (n / 64 % 64) :: digit (n % 64) :: encode r
  | [a, b] =>
    let n := 1024 * a.toNat + 4 * b.toNat
    [digit (n / 4096), digit (n / 64 % 64), digit (n % 64), '=']
  | [a] =>
    let n := 16 * a.toNat
    [digit (n / 64), digit (n % 64), '=', '=']
  | [] => []

/-- Lines of 57 octets each, every one with its line feed. -/
def encodeLines : (fuel : Nat) → Bytes → List Char
  | 0, _ => []
  | fuel + 1, bs =>
    if bs.isEmpty then [] else encode (bs.take 57) ++ '\n' :: encodeLines fuel (bs.drop 57)

/-! ### Reading -/

def digitValue? (c : Char) : Option Nat :=
  if 'A' ≤ c ∧ c ≤ 'Z' then some (c.toNat - 65)
  else if 'a' ≤ c ∧ c ≤ 'z' then some (c.toNat - 71)
  else if '0' ≤ c ∧ c ≤ '9' then some (c.toNat + 4)
  else if c = '+' then some 62
  else if c = '/' then some 63
  else none

/-- Reads on in a group of four of which some characters were read: their number, the bits that are
left of them, and the padding behind them. -/
def decodeFrom (seen bits pads : Nat) : List Char → Option Bytes
  | [] => if seen = 0 then some [] else none
  | c :: r =>
    if c = '=' then
      if 2 ≤ seen then
        if 4 ≤ seen + pads + 1 then some [] else decodeFrom seen bits (pads + 1) r
      else decodeFrom seen bits pads r
    else match digitValue? c with
      | none => decodeFrom seen bits pads r
      | some d => match seen with
        | 0 => decodeFrom 1 d 0 r
        | 1 => (decodeFrom 2 (d % 16) 0 r).map (UInt8.ofNat (4 * bits + d / 16) :: ·)
        | 2 => (decodeFrom 3 (d % 4) 0 r).map (UInt8.ofNat (16 * bits + d / 4) :: ·)
        | _ => (decodeFrom 0 0 0 r).map (UInt8.ofNat (64 * bits + d) :: ·)

/-- The octets that a text stands for. -/
def decode? (cs : List Char) : Option Bytes := decodeFrom 0 0 0 cs

end Socks5.Text.Base64
