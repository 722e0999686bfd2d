import Socks5.Address.Wire

/-!
# Frames

The frames that a client sends: the method negotiation, the command request, and the header in front
of every relayed datagram. Also the reading of a relayed datagram and the meaning of reply codes.
-/

namespace Socks5

/-- The two kinds of connection that a proxy is asked for. -/
inductive Network where
  | tcp
  | udp
  deriving DecidableEq, Repr

namespace Network

def ofName? (name : Text) : Option Network :=
  if name = "tcp" then some tcp else if name = "udp" then some udp else none

def name : Network → String
  | tcp => "tcp"
  | udp => "udp"

@[simp] theorem ofName?_name (n : Network) : ofName? n.name = some n := by cases n <;> rfl

/-- The command octet: 1 asks for a connection, 3 for a relay. -/
def command : Network → UInt8
  | tcp => 1
  | udp => 3

/-- What the proxy is asked to do. -/
def request : Network → String
  | tcp => "connect"
  | udp => "associate"

end Network

namespace Frame

/-! ### Requests -/

def version : UInt8 := 5

/-- The offer of one method, to go without authentication. -/
def negotiation : Bytes := [version, 1, 0]

/-- The request to carry out a command for an address. -/
def request (command : UInt8) (a : Address) : Bytes := version :: command :: 0 :: a.pack

/-- The request with a command number, which has to fit an octet. -/
def numberedRequest? (command : Int) (a : Address) : Option Bytes :=
  if 0 ≤ command ∧ command ≤ 255 then some (request (UInt8.ofNat command.toNat) a) else none

def datagramHeader (a : Address) : Bytes := 0 :: 0 :: 0 :: a.pack

def datagram (a : Address) (payload : Bytes) : Bytes := datagramHeader a ++ payload

def maxDatagram : Nat := 65535

/-! ### Reply codes -/

def replyMessage (status : Int) : String :=
  if status = 1 then "general socks server failure"
  else if status = 2 then "connection not allowed by ruleset"
  else if status = 3 then "network unreachable"
  else if status = 4 then "host unreachable"
  else if status = 5 then "connection refused"
  else if status = 6 then "ttl expired"
  else if status = 7 then "command not supported"
  else if status = 8 then "address type not supported"
  else if status = 9 then "host unreachable"
  else "unassigned"

/-! ### Relayed datagrams -/

/-- Why a datagram is no relayed datagram. -/
inductive DatagramError where
  | short
  | reserved (first second : UInt8)
  | fragment (number : UInt8)
  | address (reason : WireError)
  deriving DecidableEq, Repr

/-- Reads the payload and the source address of a relayed datagram. -/
def parseDatagram : Bytes → Except DatagramError (Bytes × Address)
  | r₀ :: r₁ :: fragment :: t :: rest =>
    if r₀ ≠ 0 ∨ r₁ ≠ 0 then .error (.reserved r₀ r₁)
    else if fragment ≠ 0 then .error (.fragment fragment)
    else match Address.unpack (t :: rest) with
      | .ok (source, payload) => .ok (payload, source)
      | .error e => .error (.address e)
  | _ => .error .short

end Frame

end Socks5
