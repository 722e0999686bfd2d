import Socks5.Bytes
import Socks5.Text.Printable

/-!
# Quoted texts

How a text or an octet string is shown inside a message: in single quotes, or in double quotes when
it holds a single quote and no double quote. A backslash, the quote in use, and every code point
without a visible form are written as escapes, so that what is shown has no surrogates.
-/

namespace Socks5.Text

/-! ### Escapes -/

/-- A number in lower-case hexadecimal, filled up with zeros to a width. -/
def hexPadded (width n : Nat) : List Char :=
  let digits := Nat.toDigits 16 n
  List.replicate (width - digits.length) '0' ++ digits

/-- The escape of a code point: the shortest of `\x`, `\u` and `\U` that fits. -/
def escape (n : Nat) : List Char :=
  if n < 0x100 then ['\\', 'x'] ++ hexPadded 2 n
  else if n < 0x10000 then ['\\', 'u'] ++ hexPadded 4 n
  else ['\\', 'U'] ++ hexPadded 8 n

/-- A character between quotes of the given kind. -/
def quotedChar (quote : Char) (c : Char) : List Char :=
  if c = quote ∨ c = '\\' then ['\\', c]
  else if c = '\n' then ['\\', 'n']
  else if c = '\r' then ['\\', 'r']
  else if c = '\t' then ['\\', 't']
  else if isPrintable c then [c]
  else escape c.toNat

/-- A code point between quotes of the given kind. -/
def quotedPoint (quote : Char) : CodePoint → List Char
  | .char c => quotedChar quote c
  | p => escape p.toNat

/-! ### Quoting -/

/-- The quote for a text: single unless only single quotes occur in it. -/
def quoteFor (t : Text) : Char :=
  if .char '\'' ∈ t ∧ .char '"' ∉ t then '"' else '\''

def quoted (t : Text) : List Char :=
  let quote := quoteFor t
  quote :: t.flatMap (quotedPoint quote) ++ [quote]

/-- An octet string in quotes after a `b`, with octets outside ASCII as escapes. -/
def quotedBytes (bs : Bytes) : List Char :=
  let cs := bs.map fun b => Char.ofNat b.toNat
  let quote := quoteFor (ofChars cs)
  let show1 (c : Char) := if c.toNat < 128 then quotedChar quote c else escape c.toNat
  'b' :: quote :: cs.flatMap show1 ++ [quote]

end Socks5.Text
