import Socks5.Ip.V4

/-!
# IPv6 addresses

Eight groups of sixteen bits, and a zone that belongs to the text form alone. Reading accepts at
most one `::`, which stands for one or more zero groups, and an IPv4 text in place of the last two
groups. Writing uses lower-case groups without leading zeros and puts `::` in place of the first
longest run of at least two zero groups.
-/

namespace Socks5.Ip

/-- An IPv6 address with an optional zone. -/
structure V6 where
  groups : List UInt16
  zone : Option Text := none
  length_groups : groups.length = 8
  deriving DecidableEq, Repr

namespace V6

/-! ### Wire form -/

/-- The sixteen octets in network order; the zone is not part of them. -/
def octets (v : V6) : Bytes := v.groups.flatMap Bytes.ofUInt16

/-- Pairs of octets as sixteen-bit numbers; an odd last octet is left out. -/
def groupsOfOctets : Bytes → List UInt16
  | a :: b :: r => Bytes.toUInt16 a b :: groupsOfOctets r
  | _ => []

theorem length_groupsOfOctets : ∀ bs : Bytes, (groupsOfOctets bs).length = bs.length / 2
  | [] => rfl
  | [_] => by simp [groupsOfOctets]
  | _ :: _ :: r => by
    simp only [groupsOfOctets, List.length_cons, length_groupsOfOctets r]
    omega

/-- The address that sixteen octets stand for, without a zone. -/
def ofOctets? (bs : Bytes) : Option V6 :=
  if h : bs.length = 16 then
    some { groups := groupsOfOctets bs, length_groups := by rw [length_groupsOfOctets, h] }
  else none

/-- The same address without its zone. -/
def withoutZone (v : V6) : V6 := { v with zone := none }

/-- The address `::`, which stands for no particular host. -/
def isUnspecified (v : V6) : Bool := v.groups.all (· = 0)

/-- The IPv4 address inside an IPv4-mapped address `::ffff:a.b.c.d`. -/
def mapped? (v : V6) : Option V4 :=
  match v.groups with
  | [0, 0, 0, 0, 0, 0xffff, hi, lo] =>
    V4.ofOctets? (Bytes.ofUInt16 hi ++ Bytes.ofUInt16 lo)
  | _ => none

/-! ### Writing -/

/-- A group in lower-case hexadecimal without leading zeros. -/
def groupChars (g : UInt16) : List Char := Nat.toDigits 16 g.toNat

def groupsChars (gs : List UInt16) : List Char := Text.join [':'] (gs.map groupChars)

/-- How many zero groups a list begins with. -/
def zeroRun (gs : List UInt16) : Nat := (gs.takeWhile (· = 0)).length

/-- Start and length of the first longest run of zero groups, positions counted from `at`. -/
def longestZeroRun : (start : Nat) → List UInt16 → Nat × Nat
  | start, [] => (start, 0)
  | start, g :: gs =>
    let here := zeroRun (g :: gs)
    let later := longestZeroRun (start + 1) gs
    if later.2 ≤ here then (start, here) else later

/-- The address text without the zone. -/
def addressChars (gs : List UInt16) : List Char :=
  match longestZeroRun 0 gs with
  | (start, len) =>
    if 2 ≤ len then
      groupsChars (gs.take start) ++ [':', ':'] ++ groupsChars (gs.drop (start + len))
    else groupsChars gs

/-- The text of the address, with its zone if it has one. -/
def text (v : V6) : Text :=
  Text.ofChars (addressChars v.groups) ++ match v.zone with
    | some z => .char '%' :: z
    | none => []

/-! ### Reading -/

/-- A group of one to four hexadecimal digits. -/
def group? (cs : List Char) : Option UInt16 :=
  if cs.isEmpty ∨ ¬ cs.all Text.isHexDigit ∨ 4 < cs.length then none
  else (Text.readNumeral? 16 cs).map UInt16.ofNat

/-- The groups of a list of fields, the last of which may be an IPv4 text of two groups. -/
def groupsOfFields? : List (List Char) → Option (List UInt16)
  | [] => some []
  | [f] =>
    if '.' ∈ f then
      (V4.ofChars? f).map fun v => [Bytes.toUInt16 v.a v.b, Bytes.toUInt16 v.c v.d]
    else (group? f).map ([·])
  | f :: g :: fs => do
    let head ← group? f
    let rest ← groupsOfFields? (g :: fs)
    return head :: rest

/-- The groups of a text without `::`; an empty text has none. -/
def groupsOfChars? (cs : List Char) : Option (List UInt16) :=
  if cs.isEmpty then some [] else groupsOfFields? (Text.fields ':' cs)

/-- The parts before and after the first `::`. -/
def splitGap? : List Char → Option (List Char × List Char)
  | ':' :: ':' :: r => some ([], r)
  | [] => none
  | c :: r => (splitGap? r).map fun (a, b) => (c :: a, b)

/-- The eight groups of an address text without a zone. -/
def addressGroups? (cs : List Char) : Option (List UInt16) :=
  match splitGap? cs with
  | none => groupsOfChars? cs
  | some (before, after) => do
    let hi ← if '.' ∈ before then none else groupsOfChars? before
    let lo ← groupsOfChars? after
    if hi.length + lo.length ≤ 7 then
      return hi ++ List.replicate (8 - (hi.length + lo.length)) 0 ++ lo
    else none

/-- The address text and the zone of a text: a zone is not empty and holds no percent sign. -/
def splitZone? (t : Text) : Option (Text × Option Text) :=
  match Text.splitFirst? (.char '%') t with
  | none => some (t, none)
  | some (address, zone) =>
    if zone.isEmpty ∨ .char '%' ∈ zone then none else some (address, some zone)

/-- Reads an IPv6 text. Its zone alone may hold surrogates. -/
def ofText? (t : Text) : Option V6 :=
  if .char '/' ∈ t then none
  else match splitZone? t with
    | none => none
    | some (address, zone) => match address.chars?.bind addressGroups? with
      | none => none
      | some gs => if h : gs.length = 8 then some ⟨gs, zone, h⟩ else none

end V6

end Socks5.Ip
