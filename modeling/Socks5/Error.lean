import Socks5.Fault
import Socks5.Address.Parsing
import Socks5.Frame

/-!
# Errors

What can go wrong between a client and its proxy. Every error has a category, a stage that tells how
far things got, and a wording. Faults below the protocol are kept as the cause of an error.
-/

namespace Socks5

/-- How far a dial or a relay had got. -/
inductive Stage where
  | request
  | dial
  | negotiation
  | connect
  | associate
  | relay
  deriving DecidableEq, Repr

namespace Stage

def name : Stage → String
  | request => "request"
  | dial => "dial"
  | negotiation => "negotiation"
  | connect => "connect"
  | associate => "associate"
  | relay => "relay"

end Stage

/-- The stage in which a network is asked for. -/
def Network.stage : Network → Stage
  | .tcp => .connect
  | .udp => .associate

/-- The kinds of error that callers tell apart. -/
inductive Category where
  | transport
  | shortReply
  | version
  | reply
  | protocol
  | unsupported
  | address
  | destination
  deriving DecidableEq, Repr

/-! ### The parts of the handshake -/

/-- The requests of the handshake. -/
inductive Request where
  | negotiation
  | command (network : Network)
  deriving DecidableEq, Repr

namespace Request

def stage : Request → Stage
  | negotiation => .negotiation
  | command network => network.stage

/-- The name of a request in messages. -/
def name : Request → String
  | negotiation => "negotiation request"
  | command network => network.request ++ " request"

end Request

/-- The name of an address type in messages. -/
def AddressType.name : AddressType → String
  | .ipv4 => "ipv4"
  | .domain => "fqdn"
  | .ipv6 => "ipv6"

/-- The parts of the answers, each read as a whole. -/
inductive Part where
  | method
  | header (network : Network)
  | nameLength (network : Network)
  | body (network : Network) (type : AddressType)
  | port (network : Network)
  deriving DecidableEq, Repr

namespace Part

def stage : Part → Stage
  | method => .negotiation
  | header network | nameLength network | body network _ | port network => network.stage

/-- The message for a part that cannot be read. -/
def failure : Part → String
  | method => "receive negotiation response failed"
  | header network => "receive " ++ network.request ++ " response failed"
  | nameLength _ => "parse fqdn bind address length failed"
  | body _ type => "parse " ++ type.name ++ " bind address failed"
  | port _ => "parse bind port failed"

/-- The message for a part that is cut. -/
def tooShort : Part → String
  | method => "negotiation response too short"
  | header network => network.request ++ " response too short"
  | nameLength network => (nameLength network).failure ++ ": bind address length too short"
  | body network type => (body network type).failure ++ ": bind address too short"
  | port network => (port network).failure ++ ": bind port too short"

end Part

/-! ### Errors -/

/-- What went wrong. -/
inductive Error where
  | address (reason : AddressError)
  | wire (reason : WireError)
  | network (name : Text)
  | target (reason : AddressError)
  | opening (cause : Fault)
  | sending (request : Request) (cause : Fault)
  | receiving (part : Part) (cause : Fault)
  | short (part : Part)
  | methodVersion (found : UInt8)
  | replyVersion (network : Network) (found : UInt8)
  | refused (network : Network) (status : UInt8)
  | reserved (network : Network) (found : UInt8)
  | bindType (network : Network) (found : UInt8)
  | emptyBind (network : Network)
  | bind (network : Network) (type : AddressType) (reason : AddressError)
  | openingRelay (bound : Address) (cause : Fault)
  | notEndpoint
  | notUdp
  | datagram (reason : Frame.DatagramError)
  | destinationMissing
  | destinationMismatch (given fixed : Address)
  | destinationInvalid (literal : String)
  deriving DecidableEq, Repr

def WireError.category : WireError → Category
  | .short _ => .shortReply
  | .unsupported _ => .unsupported
  | .invalid _ | .bodyLength | .portLength => .address

def Frame.DatagramError.category : Frame.DatagramError → Category
  | .short => .shortReply
  | .reserved _ _ => .protocol
  | .fragment _ => .unsupported
  | .address reason => reason.category

def octetText (b : UInt8) : String := String.ofList (Nat.toDigits 10 b.toNat)

def Frame.DatagramError.message : Frame.DatagramError → Text
  | .short => "relay datagram too short"
  | .reserved a b =>
    "invalid relay datagram reserved bytes: " ++ octetText a ++ " " ++ octetText b
  | .fragment n => "relay datagram fragment not supported: " ++ octetText n
  | .address reason => "parse relay datagram address failed: " ++ reason.message

namespace Error

def category : Error → Category
  | address _ | target _ | emptyBind _ | bind _ _ _ => .address
  | wire reason => reason.category
  | network _ | bindType _ _ => .unsupported
  | opening _ | sending _ _ | receiving _ _ | openingRelay _ _ => .transport
  | short _ => .shortReply
  | methodVersion _ | replyVersion _ _ => .version
  | refused _ _ => .reply
  | reserved _ _ | notEndpoint | notUdp => .protocol
  | datagram reason => reason.category
  | destinationMissing | destinationMismatch _ _ | destinationInvalid _ => .destination

/-- How far things had got; errors of the address codec alone have no stage. -/
def stage : Error → Option Stage
  | address _ | wire _ | network _ => none
  | target _ => some .request
  | opening _ => some .dial
  | sending request _ => some request.stage
  | receiving part _ | short part => some part.stage
  | methodVersion _ => some .negotiation
  | replyVersion n _ | refused n _ | reserved n _ | bindType n _ | emptyBind n | bind n _ _ =>
    some n.stage
  | openingRelay _ _ | notEndpoint | notUdp => some .associate
  | datagram _ | destinationMissing | destinationMismatch _ _ | destinationInvalid _ =>
    some .relay

def message : Error → Text
  | address reason => reason.message
  | wire reason => reason.message
  | network name => "unsupported network type: " ++ name
  | target reason => "parse socks addr failed: " ++ reason.message
  | opening cause => "dial failed: " ++ cause.reason
  | sending request cause => "send " ++ request.name ++ " failed: " ++ cause.reason
  | receiving part cause => part.failure ++ ": " ++ cause.reason
  | short part => part.tooShort
  | methodVersion found =>
    "unsupported negotiation response version: " ++ octetText found
  | replyVersion n found =>
    "unsupported " ++ n.request ++ " response version: " ++ octetText found
  | refused n status => n.request ++ " failed: " ++ Frame.replyMessage status.toNat
  | reserved n found =>
    "invalid " ++ n.request ++ " response reserved byte: " ++ octetText found
  | bindType _ found => "unsupported bind address type: " ++ octetText found
  | emptyBind _ => "parse fqdn bind address failed: length is zero"
  | bind _ type reason => "parse " ++ type.name ++ " bind address failed: " ++ reason.message
  | openingRelay bound cause =>
    "dial udp relay " ++ bound.text ++ " failed: " ++ cause.reason
  | notEndpoint => "not a packet conn"
  | notUdp => "not a udp conn"
  | datagram reason => reason.message
  | destinationMissing => "destination address required"
  | destinationMismatch given fixed =>
    "destination " ++ given.text ++ " does not match associated destination " ++ fixed.text
  | destinationInvalid literal => "invalid destination: " ++ literal

/-- The fault below an error of the transport. -/
def cause? : Error → Option Fault
  | opening cause | sending _ cause | receiving _ cause | openingRelay _ cause => some cause
  | _ => none

/-- The version that was found instead of 5. -/
def version? : Error → Option UInt8
  | methodVersion found | replyVersion _ found => some found
  | _ => none

/-- The code with which the proxy refused. -/
def status? : Error → Option UInt8
  | refused _ status => some status
  | _ => none

end Error

/-! ### Failures -/

/-- How an operation ends when it does not give its result. -/
inductive Failure where
  | error (e : Error)
  | fault (f : Fault)
  | incomplete (received : Bytes) (expected : Nat)
  | cancelled
  deriving DecidableEq, Repr

namespace Failure

/-- The refusal of a number text with too many digits. -/
def tooManyDigits (count : Nat) : Failure :=
  .fault ⟨.value, "Exceeds the limit (4300 digits) for integer string conversion: value has " ++
    String.ofList (Nat.toDigits 10 count) ++
    " digits; use sys.set_int_max_str_digits() to increase the limit"⟩

/-- The failure that there is no address. -/
def ofAddress : AddressFailure → Failure
  | .invalid reason => .error (.address reason)
  | .digits count => tooManyDigits count
  | .encoding e => .fault (.ofEncoding e)

/-- The failure of a dial whose target is no address. -/
def ofTarget : AddressFailure → Failure
  | .invalid reason => .error (.target reason)
  | .digits count => tooManyDigits count
  | .encoding e => .fault (.ofEncoding e)

def message : Failure → Text
  | error e => e.message
  | fault f => f.text
  | incomplete received expected =>
    String.ofList (Nat.toDigits 10 received.length) ++ " bytes read on a total of " ++
      String.ofList (Nat.toDigits 10 expected) ++ " expected bytes"
  | cancelled => ""

end Failure

end Socks5
