import Socks5.Error

/-!
# Addresses from values

Addresses made of a host value and a port value, and the destinations that a relay accepts: an
address, an endpoint, a text, or a tuple that starts with a host text and a port number.
-/

namespace Socks5

namespace Address

def hostOf (v : Value) : Except AddressFailure Host :=
  match v.text? with
  | some s => (DomainName.ofText s).map .name
  | none => match v with
    | .ip a => .ok (.ofIp a)
    | v => .error (.invalid (.hostType v.typeName))

/-- The port that a value denotes; truth values are no numbers here. -/
def portOf : Value → Except AddressFailure UInt16
  | .int n =>
    if 0 ≤ n ∧ n ≤ 65535 then .ok (UInt16.ofNat n.toNat) else .error (.invalid .port)
  | _ => .error (.invalid .port)

/-- The address of a host value and a port value; a host text is always a domain name. -/
def make (host port : Value) : Except AddressFailure Address := do
  let host ← hostOf host
  let port ← portOf port
  return ⟨host, port⟩

/-- The address of an IP address, which may be given as a text, and a port value. -/
def makeIp (host port : Value) : Except AddressFailure Address :=
  match host.text? with
  | some s => match Ip.ofText? s with
    | some ip => make (.ip ip) port
    | none => .error (.invalid (.notIp s))
  | none => make host port

end Address

/-! ### Destinations -/

/-- The address that a destination value denotes. -/
def destination (v : Value) : Except Failure Address :=
  match v with
  | .address a => .ok a
  | .endpoint ip port => (Address.make (.ip ip) port).mapError .ofAddress
  | .text s => (Address.parse s).mapError .ofAddress
  | .named s => (Address.parse s).mapError .ofAddress
  | .tuple (host :: .int port :: _) => match host.text? with
    | some s =>
      let host := match Ip.ofText? s with
        | some ip => .ip ip
        | none => .text s
      (Address.make host (.int port)).mapError .ofAddress
    | none => .error (.error (.destinationInvalid (String.ofList v.literal)))
  | v => .error (.error (.destinationInvalid (String.ofList v.literal)))

end Socks5
