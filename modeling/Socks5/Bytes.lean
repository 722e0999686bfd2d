import Socks5.Text.CodePoint

/-!
# Octet strings

Wire data is a list of octets. Sixteen-bit fields travel most significant octet first, and text
travels as UTF-8, which is decoded only when it is well formed: decoding is injective, because the
decoded text is the octets themselves together with the evidence that they are UTF-8.
-/

namespace Socks5

/-- A string of octets, as it travels on the wire. -/
abbrev Bytes := List UInt8

namespace Bytes

/-! ### Sixteen-bit fields -/

/-- The two octets of a sixteen-bit number, most significant first. -/
def ofUInt16 (n : UInt16) : Bytes := [(n >>> 8).toUInt8, n.toUInt8]

/-- The number that two octets stand for, the first being the more significant. -/
def toUInt16 (hi lo : UInt8) : UInt16 := (hi.toUInt16 <<< 8) ||| lo.toUInt16

@[simp] theorem length_ofUInt16 (n : UInt16) : (ofUInt16 n).length = 2 := rfl

/-! ### Text -/

def ofText (s : String) : Bytes := s.toByteArray.data.toList

/-- The text that an octet string is the UTF-8 form of, if it is one. -/
def toText? (bs : Bytes) : Option String := String.fromUTF8? bs.toByteArray

/-! ### Hexadecimal -/

/-- A hexadecimal digit, in lower case. -/
def hexDigit (n : Nat) : Char :=
  if n < 10 then Char.ofNat (48 + n) else Char.ofNat (87 + n)

/-- Two lower-case hexadecimal digits for every octet. -/
def hex (bs : Bytes) : List Char :=
  bs.flatMap fun b => [hexDigit (b.toNat / 16), hexDigit (b.toNat % 16)]

/-- The value of a hexadecimal digit in either case. -/
def hexValue? (c : Char) : Option Nat :=
  if '0' ≤ c ∧ c ≤ '9' then some (c.toNat - 48)
  else if 'a' ≤ c ∧ c ≤ 'f' then some (c.toNat - 87)
  else if 'A' ≤ c ∧ c ≤ 'F' then some (c.toNat - 55)
  else none

/-- ASCII blanks, which may stand between the octets of a hexadecimal text. -/
def isAsciiBlank (c : Char) : Bool :=
  c = ' ' ∨ (9 ≤ c.toNat ∧ c.toNat ≤ 13)

/--
Reads pairs of hexadecimal digits, with blanks allowed before a pair but not inside it. The error
is the position of the first character that fits neither, counted from `pos`.
-/
def ofHex? (pos : Nat := 0) : List Char → Except Nat Bytes
  | [] => .ok []
  | c :: r =>
    if isAsciiBlank c then ofHex? (pos + 1) r
    else match hexValue? c, r with
      | none, _ => .error pos
      | some _, [] => .error (pos + 1)
      | some h, d :: r => match hexValue? d with
        | none => .error (pos + 1)
        | some l => (ofHex? (pos + 2) r).map (UInt8.ofNat (16 * h + l) :: ·)

/--
The octets that a text of hexadecimal digits stands for, or the position of the character that does
not fit. A character beyond ASCII is found before any other.
-/
def ofHexText (t : Text) : Except Nat Bytes :=
  match t.findIdx? (128 ≤ ·.toNat) with
  | some pos => .error pos
  | none => ofHex? 0 (t.filterMap CodePoint.char?)

end Bytes

end Socks5
