import Socks5.Bytes
import Socks5.Text.Fields
import Socks5.Text.Numeral

/-!
# IPv4 addresses

Four octets, and their dotted decimal text. The text form is strict: four fields of one to three
ASCII digits, no leading zeros, each value at most 255.
-/

namespace Socks5.Ip

/-- An IPv4 address, octet by octet. -/
structure V4 where
  a : UInt8
  b : UInt8
  c : UInt8
  d : UInt8
  deriving DecidableEq, Repr, Inhabited

namespace V4

/-! ### Wire form -/

def octets (v : V4) : Bytes := [v.a, v.b, v.c, v.d]

/-- The address that four octets stand for. -/
def ofOctets? : Bytes → Option V4
  | [a, b, c, d] => some ⟨a, b, c, d⟩
  | _ => none

@[simp] theorem length_octets (v : V4) : v.octets.length = 4 := rfl

@[simp] theorem ofOctets?_octets (v : V4) : ofOctets? v.octets = some v := rfl

/-- The address 0.0.0.0, which stands for no particular host. -/
def isUnspecified (v : V4) : Bool := v = ⟨0, 0, 0, 0⟩

/-! ### Text form -/

def chars (v : V4) : List Char :=
  Text.join ['.'] (v.octets.map fun o => Nat.toDigits 10 o.toNat)

/-- One decimal field: one to three ASCII digits without a leading zero, at most 255. -/
def octet? (cs : List Char) : Option UInt8 :=
  if cs.isEmpty ∨ ¬ cs.all Text.isDigit ∨ 3 < cs.length ∨ (cs.head? = some '0' ∧ cs ≠ ['0']) then
    none
  else match Text.readNumeral? 10 cs with
    | some n => if n ≤ 255 then some (UInt8.ofNat n) else none
    | none => none

def text (v : V4) : Text := Text.ofChars v.chars

/-- Reads the characters of a dotted decimal text. -/
def ofChars? (cs : List Char) : Option V4 :=
  match Text.fields '.' cs with
  | [a, b, c, d] => do return ⟨← octet? a, ← octet? b, ← octet? c, ← octet? d⟩
  | _ => none

def ofText? (t : Text) : Option V4 := t.chars?.bind ofChars?

end V4

end Socks5.Ip
