import Socks5.Address.Basic
import Socks5.Decimal.Reading

/-!
# Reading address texts

An address text is `[IPv6]:port`, or a host and a port separated by the last colon, where the host
is an IP address of either version or a domain name without a colon. A domain name is encoded before
the port is looked at.
-/

namespace Socks5

namespace Address

/-- The port that characters stand for: ASCII digits with a value of at most 65535. -/
def portOfChars (cs : List Char) : Except AddressFailure UInt16 :=
  if cs.isEmpty ∨ ¬ cs.all Text.isDigit then .error (.invalid .port)
  else if Decimal.maxDigits < cs.length then .error (.digits cs.length)
  else match Text.readNumeral? 10 cs with
    | some n => if n ≤ 65535 then .ok (UInt16.ofNat n) else .error (.invalid .port)
    | none => .error (.invalid .port)

def parsePort (t : Text) : Except AddressFailure UInt16 :=
  match t.chars? with
  | some cs => portOfChars cs
  | none => .error (.invalid .port)

/-- Reads what follows an opening bracket: an IPv6 text, `]:` and a port. -/
def parseBracketed (t : Text) : Except AddressFailure Address :=
  match Text.splitFirst? (.char ']') t with
  | some (host, ':' :: port) => match Ip.V6.ofText? host with
    | some v => (parsePort port).map (ofIp (.v6 v))
    | none => .error (.invalid .malformed)
  | _ => .error (.invalid .malformed)

/-- Reads a host without brackets and a port. -/
def parsePlain (t : Text) : Except AddressFailure Address :=
  match Text.splitLast? (.char ':') t with
  | none => .error (.invalid .malformed)
  | some (host, port) =>
    if host.isEmpty then .error (.invalid .malformed)
    else match Ip.ofText? host with
      | some ip => (parsePort port).map (ofIp ip)
      | none =>
        -- What still has a colon was meant to be an IPv6 address.
        if .char ':' ∈ host then .error (.invalid .malformed)
        else match DomainName.ofText host with
          | .error e => .error e
          | .ok name => (parsePort port).map (⟨.name name, ·⟩)

def parse : Text → Except AddressFailure Address
  | '[' :: r => parseBracketed r
  | t => parsePlain t

end Address

end Socks5
