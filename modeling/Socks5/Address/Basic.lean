import Socks5.Ip.Any
import Socks5.Text.Encoding

/-!
# Addresses

A SOCKS5 address is a host with a port. The host is an IPv4 address, an IPv6 address that is not an
IPv4-mapped one, or a domain name of 1 to 255 UTF-8 octets; these bounds are part of the types, so
every address in existence can be put on the wire.
-/

namespace Socks5

/-- Why something is not an address. -/
inductive AddressError where
  | malformed
  | port
  | emptyName
  | nameTooLong
  | notIp (text : Text)
  /-- The host is neither a text nor an IP address but a value of this type. -/
  | hostType (typeName : String)
  | notUtf8
  | zeroLength
  | unresolved
  deriving DecidableEq, Repr

namespace AddressError

def message : AddressError → Text
  | malformed => "invalid socksaddr"
  | port => "invalid port"
  | emptyName => "empty fqdn"
  | nameTooLong => "address too long"
  | notIp text => "invalid ip address: " ++ text
  | hostType typeName => "invalid host type: " ++ typeName
  | notUtf8 => "invalid fqdn encoding"
  | zeroLength => "fqdn length is zero"
  | unresolved => "cannot convert fqdn socksaddr to a udp address"

end AddressError

/-- Why there is no address: it would be none, or something in it cannot be made out. -/
inductive AddressFailure where
  | invalid (reason : AddressError)
  /-- The port has this many digits, more than are read as a number. -/
  | digits (count : Nat)
  | encoding (error : EncodingError)
  deriving DecidableEq, Repr

/-! ### Hosts -/

/-- A domain name that fits the one-octet length field of the wire form. -/
structure DomainName where
  text : String
  nonempty : 0 < (Bytes.ofText text).length
  fits : (Bytes.ofText text).length ≤ 255
  deriving DecidableEq, Repr

namespace DomainName

def octets (n : DomainName) : Bytes := Bytes.ofText n.text

/-- Checks the length of a name that can be encoded. -/
def ofString (text : String) : Except AddressError DomainName :=
  if h₀ : 0 < (Bytes.ofText text).length then
    if h₁ : (Bytes.ofText text).length ≤ 255 then .ok ⟨text, h₀, h₁⟩
    else .error .nameTooLong
  else .error .emptyName

@[simp] theorem ofString_text (n : DomainName) : ofString n.text = .ok n := by
  rw [ofString, dif_pos n.nonempty, dif_pos n.fits]

/-- Encodes a name and checks its length. -/
def ofText (t : Text) : Except AddressFailure DomainName :=
  match t.encodable with
  | .ok s => (ofString s).mapError .invalid
  | .error e => .error (.encoding e)

end DomainName

/-- The host part of an address. -/
inductive Host where
  | ipv4 (address : Ip.V4)
  | ipv6 (address : Ip.V6) (not_mapped : address.mapped? = none)
  | name (name : DomainName)
  deriving DecidableEq, Repr

namespace Host

/-- The host of an IP address; an IPv4-mapped address becomes the IPv4 address inside it. -/
def ofIp : Ip → Host
  | .v4 a => .ipv4 a
  | .v6 a => match h : a.mapped? with
    | some b => .ipv4 b
    | none => .ipv6 a h

/-- The text of the host, without brackets. -/
def text : Host → Text
  | .ipv4 a => a.text
  | .ipv6 a _ => a.text
  | .name n => n.text

/-- Whether the host is a domain name. -/
def isName : Host → Bool
  | .name _ => true
  | _ => false

/-- Whether the host is 0.0.0.0 or `::`; a domain name never is. -/
def isUnspecified : Host → Bool
  | .ipv4 a => a.isUnspecified
  | .ipv6 a _ => a.isUnspecified
  | .name _ => false

/-- The same host without an IPv6 zone. -/
def withoutZone : Host → Host
  | .ipv6 a h => .ipv6 a.withoutZone h
  | h => h

end Host

/-! ### Addresses -/

/-- A host with a port. -/
structure Address where
  host : Host
  port : UInt16
  deriving DecidableEq, Repr

namespace Address

/-- The address of an IP address and a port. -/
def ofIp (ip : Ip) (port : UInt16) : Address := ⟨.ofIp ip, port⟩

/-- The address of a domain name and a port. -/
def ofName (name : String) (port : UInt16) : Except AddressError Address :=
  (DomainName.ofString name).map fun n => ⟨.name n, port⟩

/-- The text of the address: an IPv6 host stands in brackets. -/
def text (a : Address) : Text :=
  let port := Text.ofChars (':' :: Nat.toDigits 10 a.port.toNat)
  match a.host with
  | .ipv6 v _ => .char '[' :: v.text ++ .char ']' :: port
  | h => h.text ++ port

/-- Whether the host is 0.0.0.0 or `::`. -/
def isUnspecified (a : Address) : Bool := a.host.isUnspecified

/-- The same address without an IPv6 zone. -/
def withoutZone (a : Address) : Address := { a with host := a.host.withoutZone }

/-- The host text and the port, the form that socket calls take. -/
def toPair (a : Address) : Text × UInt16 := (a.host.text, a.port)

end Address

/-! ### Endpoints -/

/-- A UDP endpoint as the rest of a program sees it: resolved, or a name that nobody looked up. -/
inductive Endpoint where
  | resolved (ip : Ip) (port : UInt16)
  /-- The text of an address whose host is a name. -/
  | named (text : Text)
  deriving DecidableEq, Repr

namespace Endpoint

def text : Endpoint → Text
  | .resolved ip port =>
    let port := Text.ofChars (':' :: Nat.toDigits 10 port.toNat)
    match ip with
    | .v4 a => a.text ++ port
    | .v6 a => .char '[' :: a.text ++ .char ']' :: port
  | .named text => text

end Endpoint

namespace Address

/-- The endpoint of an address: only IP addresses are resolved. -/
def endpoint (a : Address) : Endpoint :=
  match a.host with
  | .ipv4 v => .resolved (.v4 v) a.port
  | .ipv6 v _ => .resolved (.v6 v) a.port
  | .name _ => .named a.text

/-- The resolved endpoint of an address; no name is looked up here. -/
def resolvedEndpoint (a : Address) : Except AddressError Endpoint :=
  match a.host with
  | .name _ => .error .unresolved
  | _ => .ok a.endpoint

end Address

end Socks5
