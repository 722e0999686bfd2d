import Socks5.Address.Basic

/-!
# Addresses on the wire

An address is a type octet, a body and a two-octet port. The body is four octets for IPv4, sixteen
for IPv6, and a length octet followed by the name for a domain name. `pack` writes this form and
`unpack` reads one address from the front of an octet string.
-/

namespace Socks5

/-- The kinds of address on the wire. -/
inductive AddressType where
  | ipv4
  | domain
  | ipv6
  deriving DecidableEq, Repr

namespace AddressType

def octet : AddressType → UInt8
  | ipv4 => 1
  | domain => 3
  | ipv6 => 4

def ofOctet? (b : UInt8) : Option AddressType :=
  if b = 1 then some .ipv4 else if b = 3 then some .domain else if b = 4 then some .ipv6 else none

/-- How many octets the body has; the length of a domain name is on the wire. -/
def bodyLength? : AddressType → Option Nat
  | ipv4 => some 4
  | domain => none
  | ipv6 => some 16

@[simp] theorem ofOctet?_octet (t : AddressType) : ofOctet? t.octet = some t := by
  cases t <;> rfl

end AddressType

/-- A type number as callers may write it: any integer, or a truth value that counts as 0 or 1. -/
inductive TypeNumber where
  | int (n : Int)
  | bool (b : Bool)
  deriving DecidableEq, Repr

namespace TypeNumber

def value : TypeNumber → Int
  | int n => n
  | bool b => if b then 1 else 0

/-- The type number as it stands in messages. -/
def text : TypeNumber → String
  | int n => String.ofList (Text.signedNumeral n)
  | bool b => if b then "True" else "False"

def ofOctet (b : UInt8) : TypeNumber := .int b.toNat

def type? (t : TypeNumber) : Option AddressType :=
  if t.value = 1 then some .ipv4
  else if t.value = 3 then some .domain
  else if t.value = 4 then some .ipv6
  else none

end TypeNumber

/-! ### Errors -/

/-- Where an octet string ends too early. -/
inductive Truncation where
  | type
  | length
  | body
  deriving DecidableEq, Repr

/-- Why octets are not an address. -/
inductive WireError where
  | short (part : Truncation)
  | unsupported (type : TypeNumber)
  | invalid (reason : AddressError)
  | bodyLength
  | portLength
  deriving DecidableEq, Repr

namespace WireError

def message : WireError → Text
  | short .type => "address type too short"
  | short .length => "fqdn length too short"
  | short .body => "address too short"
  | unsupported t => "unsupported address type: " ++ t.text
  | invalid e => e.message
  | bodyLength => "wrong number of address octets"
  | portLength => "wrong number of port octets"

end WireError

namespace Address

/-! ### Writing -/

def type (a : Address) : AddressType :=
  match a.host with
  | .ipv4 _ => .ipv4
  | .ipv6 _ _ => .ipv6
  | .name _ => .domain

/-- The body of the wire form, with the length octet of a domain name. -/
def body (a : Address) : Bytes :=
  match a.host with
  | .ipv4 v => v.octets
  | .ipv6 v _ => v.octets
  | .name n => UInt8.ofNat n.octets.length :: n.octets

def pack (a : Address) : Bytes := a.type.octet :: a.body ++ Bytes.ofUInt16 a.port

/-! ### Reading -/

/-- The address of a type, a body without length octet, and a port. -/
def ofFields (t : AddressType) (body : Bytes) (port : UInt16) : Except WireError Address :=
  match t with
  | .ipv4 => match Ip.V4.ofOctets? body with
    | some v => .ok (ofIp (.v4 v) port)
    | none => .error .bodyLength
  | .ipv6 => match Ip.V6.ofOctets? body with
    | some v => .ok (ofIp (.v6 v) port)
    | none => .error .bodyLength
  | .domain => match Bytes.toText? body with
    | some name => (ofName name port).mapError .invalid
    | none => .error (.invalid .notUtf8)

/-- The address of wire fields that were read one by one. -/
def ofWire (t : TypeNumber) (body port : Bytes) : Except WireError Address :=
  match port with
  | [hi, lo] => match t.type? with
    | some t => ofFields t body (Bytes.toUInt16 hi lo)
    | none => .error (.unsupported t)
  | _ => .error .portLength

/-- Reads a body of the given length and a port from the front of an octet string. -/
def unpackBody (t : TypeNumber) (size : Nat) (bs : Bytes) : Except WireError (Address × Bytes) :=
  if bs.length < size + 2 then .error (.short .body)
  else (ofWire t (bs.take size) ((bs.drop size).take 2)).map (·, bs.drop (size + 2))

/-- Reads one address from the front of an octet string, and leaves the rest. -/
def unpack : Bytes → Except WireError (Address × Bytes)
  | [] => .error (.short .type)
  | t :: r => match AddressType.ofOctet? t with
    | none => .error (.unsupported (.ofOctet t))
    | some type => match type.bodyLength? with
      | some size => unpackBody (.ofOctet t) size r
      | none => match r with
        | [] => .error (.short .length)
        | n :: r =>
          if n = 0 then .error (.invalid .zeroLength) else unpackBody (.ofOctet t) n.toNat r

/-- Reads addresses until the octets run out or an error stops it; `fuel` bounds their number. -/
def unpackAll : (fuel : Nat) → Bytes → List (Address × Bytes) × Option WireError
  | 0, _ => ([], none)
  | fuel + 1, bs => match unpack bs with
    | .error e => ([], some e)
    | .ok (a, rest) =>
      if rest.isEmpty then ([(a, rest)], none)
      else
        let (more, e) := unpackAll fuel rest
        ((a, rest) :: more, e)

end Address

end Socks5
