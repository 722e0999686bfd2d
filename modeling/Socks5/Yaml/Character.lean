/-!
# Characters of YAML texts

The classes of characters by which a YAML text is cut into tokens. A NUL stands for the end of the
text, because no text may hold one.
-/

namespace Socks5.Yaml

/-- The character that stands for the end of a text. -/
def endMark : Char := Char.ofNat 0

def isBreak (c : Char) : Bool :=
  c = '\n' ∨ c = '\r' ∨ c.toNat = 0x85 ∨ c.toNat = 0x2028 ∨ c.toNat = 0x2029

def isBreakOrEnd (c : Char) : Bool := c = endMark ∨ isBreak c

def isSpaceOrEnd (c : Char) : Bool := c = ' ' ∨ isBreakOrEnd c

/-- Spaces, tabs, line breaks and the end. -/
def isBlankOrEnd (c : Char) : Bool := c = '\t' ∨ isSpaceOrEnd c

def isSpaceOrTab (c : Char) : Bool := c = ' ' ∨ c = '\t'

/-- ASCII letters and digits, the hyphen and the underscore. -/
def isWord (c : Char) : Bool :=
  ('0' ≤ c ∧ c ≤ '9') ∨ ('A' ≤ c ∧ c ≤ 'Z') ∨ ('a' ≤ c ∧ c ≤ 'z') ∨ c = '-' ∨ c = '_'

def isUri (c : Char) : Bool := isWord c ∨ c ∈ ";/?:@&=+$,.!~*'()[]%".toList

/-- Characters that a text may hold. -/
def isAllowed (c : Char) : Bool :=
  let n := c.toNat
  n = 9 ∨ n = 10 ∨ n = 13 ∨ (0x20 ≤ n ∧ n ≤ 0x7e) ∨ n = 0x85 ∨ (0xa0 ≤ n ∧ n ≤ 0xd7ff) ∨
    (0xe000 ≤ n ∧ n ≤ 0xfffd) ∨ 0x10000 ≤ n

/-- The character that may stand at the very front of a text and means nothing. -/
def byteOrderMark : Char := Char.ofNat 0xfeff

end Socks5.Yaml
