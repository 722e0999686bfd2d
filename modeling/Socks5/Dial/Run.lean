import Socks5.Dial.Line
import Socks5.Session

/-!
# Dialling

A dial opens a connection to the proxy, carries out the handshake and, for datagrams, opens an
endpoint towards the relay that the proxy has named. How the network behaves is given by a script.
A dial that fails closes what it has opened.
-/

namespace Socks5

/-! ### Scripts -/

/-- How the proxy behaves on a stream. -/
structure StreamScript where
  delay : Nat := 0
  fault : Option Fault := none
  /-- What the proxy does, in order, and when after the opening. -/
  arrivals : List (Nat × Arrival) := []
  plans : List WritePlan := []
  info : List (String × Value) := []
  closeFault : Option Fault := none

/-- The families of sockets. -/
inductive Family where
  | inet
  | inet6
  | unix
  deriving DecidableEq, Repr

/-- The types of sockets. -/
inductive SocketType where
  | datagram
  | stream
  | raw
  deriving DecidableEq, Repr

/-- What opening an endpoint gives. -/
inductive HandleKind where
  | endpoint (socket : Option (Family × SocketType))
  | unmade
  | foreign (closable : Bool)
  deriving DecidableEq, Repr

/-- How opening an endpoint goes, and what arrives there. -/
structure EndpointScript where
  delay : Nat := 0
  fault : Option Fault := none
  kind : HandleKind := .endpoint (some (.inet, .datagram))
  capacity : Int := 1024
  info : List (String × Value) := []
  /-- What the network does to the endpoint, and when after the opening. -/
  incoming : List (Nat × Signal) := []

/-- How the network behaves during a dial and afterwards. -/
structure Script where
  stream : StreamScript := {}
  endpoint : EndpointScript := {}
  cancelAt : Option Nat := none

/-! ### Dialers -/

/-- A dialer for one proxy. -/
structure Dialer where
  proxy : Address
  stepLimit : Option Int := none
  openLimit : Option Int := none

/-- What a dial has opened towards the relay. -/
inductive Handle where
  | endpoint (e : DatagramEndpoint)
  | foreign (closed : Bool)

/-- What a dial did, as far as it can be seen from outside. -/
structure Trace where
  streamCalls : List (Text × UInt16) := []
  endpointCalls : List (Text × UInt16) := []
  stream : Option Stream := none
  handle : Option Handle := none
  now : Nat := 0
  notes : List Note := []

/-- The end of a dial. -/
structure Dialled where
  outcome : Ended Session
  trace : Trace

namespace Dialer

/-! ### The relay -/

/-- Where the relay is: an unspecified bound host stands for the host of the proxy. -/
def relayHost (d : Dialer) (bound : Address) : Text :=
  if bound.isUnspecified then d.proxy.host.text else bound.host.text

/-- The only destination of a relay for a target: none if host or port are left open. -/
def fixedDestination (target : Address) : Option Address :=
  if target.isUnspecified ∨ target.port = 0 then none else some target

def openedEndpoint (script : EndpointScript) (port : Port) : DatagramEndpoint :=
  { capacity := script.capacity, port, info := script.info }

def openedHandle (script : EndpointScript) : Handle :=
  match script.kind with
  | .endpoint _ => .endpoint (openedEndpoint script .opened)
  | .unmade => .endpoint (openedEndpoint script .unmade)
  | .foreign _ => .foreign false

/-- Whether the opened socket is one for UDP. -/
def isUdp (socket : Option (Family × SocketType)) : Bool :=
  match socket with
  | some (family, type) => type = .datagram ∧ (family = .inet ∨ family = .inet6)
  | none => false

/-- The relay in use, whose watcher has begun to work. -/
def relaySession (l : Line) (script : EndpointScript) (endpoint : DatagramEndpoint)
    (fixed : Option Address) : Session :=
  { now := l.now
    connection := .relay { control := l.stream, endpoint, fixed }
    arrivals := l.arrivals
    incoming := script.incoming.map fun (time, g) => (l.now + time, g)
    shownWritten := l.stream.written.length }

/-- Checks what was opened towards the relay. -/
def checkHandle (d : Dialer) (script : EndpointScript) (host : Text) (bound target : Address)
    (l : Line) : Ended Session × Handle × Line :=
  match script.kind with
  | .foreign closable => (.failure (.error .notEndpoint), .foreign closable, l)
  | .unmade => (.failure (.error .notUdp), openedHandle script, l)
  | .endpoint socket =>
    let endpoint := openedEndpoint script .opened
    if isUdp socket then
      let fixed := fixedDestination target
      (.value (relaySession l script endpoint fixed), .endpoint endpoint,
        l.tell (.associated host bound.port fixed d.proxy))
    else (.failure (.error .notUdp), .endpoint (endpoint.close none).2, l)

def relayFailure (bound : Address) : Failure → Failure
  | .fault f => if f.isSystem then .error (.openingRelay bound f) else .fault f
  | f => f

/-- Opens the endpoint towards the relay; also gives the attempts and what was opened. -/
def openRelay (d : Dialer) (script : EndpointScript) (deadline : Option Int)
    (bound target : Address) (l : Line) :
    Ended Session × List (Text × UInt16) × Option Handle × Line :=
  let host := d.relayHost bound
  let limit := Handshake.limitAt d.stepLimit deadline l.now
  let l := l.tell (.openingRelay host bound.port)
  let timedOut : Ended Session := .failure (relayFailure bound (.fault .timeout))
  if runOut limit then (timedOut, [], none, l)
  else
    let l := l.tell (.openingEndpoint host bound.port)
    if runOut d.openLimit then (timedOut, [], none, l)
    else
      let calls := [(host, bound.port)]
      match pass l.now script.delay (stricter limit d.openLimit) l.cancelAt with
      | (.value (), now) =>
        let l := Line.catchUp { l with now }
        match script.fault with
        | some f => (.failure (relayFailure bound (.fault f)), calls, none, l)
        | none =>
          let (ended, handle, l) := d.checkHandle script host bound target l
          (ended, calls, some handle, l)
      | (.failure f, now) => (.failure (relayFailure bound f), calls, none, { l with now })
      | (.never, now) => (.never, calls, none, { l with now })

/-! ### The dial -/

def openedStream (script : StreamScript) : Stream :=
  { plans := script.plans, info := script.info, closeFault := script.closeFault }

/-- The line at the moment of its opening. -/
def openedLine (script : Script) (now : Nat) (notes : List Note) : Line :=
  Line.catchUp
    { now
      cancelAt := script.cancelAt
      stream := openedStream script.stream
      arrivals := script.stream.arrivals.map fun (time, a) => (now + time, a)
      notes }

def streamSession (l : Line) : Session :=
  { now := l.now, connection := .stream l.stream, arrivals := l.arrivals,
    shownWritten := l.stream.written.length }

/-- What happens on an open line: the handshake, and the relay if one is wanted. -/
def converse (d : Dialer) (script : Script) (network : Network) (target : Address)
    (deadline : Option Int) (l : Line) :
    Ended Session × List (Text × UInt16) × Option Handle × Line :=
  match (Handshake.negotiate network target).run d.stepLimit deadline l with
  | (.value bound, l) => match network with
    | .tcp => (.value (streamSession l), [], none, l.tell (.connected target d.proxy))
    | .udp => d.openRelay script.endpoint deadline bound target l
  | (.failure f, l) => (.failure f, [], none, l)
  | (.never, l) => (.never, [], none, l)

def openFailure : Failure → Failure
  | .fault f => if f.isSystem then .error (.opening f) else .fault f
  | f => f

/-- Closes the line of a dial that has not succeeded. -/
def abandonLine (d : Dialer) (target : Address) (ended : Ended Session) (l : Line) : Line :=
  match ended with
  | .value _ => l
  | .failure (.error e) =>
    Line.tell (.failed d.proxy target e) { l with stream := l.stream.close }
  | _ => { l with stream := l.stream.close }

def dialTarget (d : Dialer) (script : Script) (network : Network) (target : Address)
    (limit : Option Int) : Dialled :=
  let (host, port) := d.proxy.toPair
  let notes := [.connecting d.proxy]
  let deadline := limit
  -- The deadline itself may lie in the past, but nobody waits for less than no time.
  let limit := deadline.map (max 0)
  let timedOut : Ended Session := .failure (openFailure (.fault .timeout))
  if runOut limit then ⟨timedOut, { notes }⟩
  else
    let notes := notes ++ [.openingStream host port]
    if runOut d.openLimit then ⟨timedOut, { notes }⟩
    else
      let streamCalls := [(host, port)]
      match pass 0 script.stream.delay (stricter limit d.openLimit) script.cancelAt with
      | (.value (), now) => match script.stream.fault with
        | some f => ⟨.failure (openFailure (.fault f)), { streamCalls, now, notes }⟩
        | none =>
          let (outcome, endpointCalls, handle, l) :=
            d.converse script network target deadline (openedLine script now notes)
          let l := d.abandonLine target outcome l
          ⟨outcome, { streamCalls, endpointCalls, stream := some l.stream, handle
                      now := l.now, notes := l.notes }⟩
      | (.failure f, now) => ⟨.failure (openFailure f), { streamCalls, now, notes }⟩
      | (.never, now) => ⟨.never, { streamCalls, now, notes }⟩

/-- Dials: network and target are checked before anything is opened. -/
def dial (d : Dialer) (script : Script) (network address : Text) (limit : Option Int) :
    Dialled :=
  match Network.ofName? network with
  | none => ⟨.failure (.error (.network network)), {}⟩
  | some network => match Address.parse address with
    | .ok target => d.dialTarget script network target limit
    | .error f => ⟨.failure (.ofTarget f), {}⟩

end Dialer

namespace Session

/-- Does all work that is ready when a dial has just succeeded. -/
def begin (s : Session) : Session :=
  let (_, s) := s.tick s.now
  let (_, s) := s.onRelay (·.settle)
  s

end Session

/-- The trace of a dial once the work is done that was ready when it ended. -/
def Dialled.settled (r : Dialled) : Trace :=
  match r.outcome with
  | .value s => match s.begin.endpoint? with
    | some e => { r.trace with handle := some (.endpoint e) }
    | none => r.trace
  | _ => r.trace

end Socks5
