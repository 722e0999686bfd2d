import Socks5.Dial.Line

/-!
# Opening connections

Connections that are bound to a network interface are opened on a socket made beforehand: the host
name is resolved, and the candidates are tried in order until one of them can be connected. The
socket of every other candidate is closed. A candidate whose socket cannot even be made ends the
attempt. Everything together has one time limit.
-/

namespace Socks5.Net

/-! ### Calls -/

/-- A call to the operating system; sockets are numbered by their candidates. -/
inductive Call where
  | resolve (host : Text) (port : Int) (network : Network)
  | socket (number : Nat) (family : String) (network : Network) (protocol : Int)
  | nonBlocking (number : Nat)
  | bindDevice (number : Nat) (interface : Bytes)
  | bind (number : Nat) (source : Value)
  | connect (number : Nat) (network : Network) (address : Value)
  | close (number : Nat)
  | openHost (network : Network) (host : Text) (port : Int) (source : Value)
  | openSocket (network : Network) (number : Nat)

/-- What name resolution gives, and how the socket for it behaves. -/
structure Candidate where
  family : String
  protocol : Int
  address : Value
  socketFault : Option Fault := none
  /-- The fault with which making the socket return at once fails. -/
  modeFault : Option Fault := none
  deviceFault : Option Fault := none
  bindFault : Option Fault := none
  connectFault : Option Fault := none
  connectDelay : Nat := 0

/-- How the system behaves. -/
structure System where
  candidates : List Candidate := []
  resolveDelay : Nat := 0
  resolveFault : Option Fault := none
  openDelay : Nat := 0
  openFault : Option Fault := none
  canBindDevice : Bool := true

/-- How connections are opened. -/
structure Opener where
  limit : Option Int := some 5000
  interface : Value := .null
  source : Value := .null

/-- The end of an opening: its outcome, the time and the calls that were made. -/
structure Opened (α : Type) where
  outcome : Except Failure α
  now : Nat
  calls : List Call

/-! ### Candidates -/

/-- The fault of binding to an interface where sockets cannot be bound to one. -/
def noDevice : Fault :=
  ⟨.system, "binding to an interface is not supported on this platform"⟩

/-- The fault of a host name that is resolved to no candidates. -/
def noCandidates (host : Text) : Fault :=
  ⟨.system, "getaddrinfo returned no results for " ++ host⟩

namespace Opener

/-- The octets of the interface's name. Settings may give anything for it, not only a text. -/
def interfaceName (o : Opener) : Except Fault Bytes :=
  match o.interface.text? with
  | none => .error ⟨.attribute, "no name"⟩
  | some t => match t.encodable with
    | .ok name => .ok (Bytes.ofText name)
    | .error e => .error (.ofEncoding e)

/-- Binds a socket to the interface, if there is one, whose name has to be encoded for that. -/
def bindDevice (o : Opener) (sys : System) (number : Nat) (c : Candidate) :
    Option Fault × List Call :=
  if !o.interface.isTrue then (none, [])
  -- Where it cannot be bound to, the name is not even encoded.
  else if !sys.canBindDevice then (some noDevice, [])
  else match o.interfaceName with
    | .ok name => (c.deviceFault, [.bindDevice number name])
    | .error f => (some f, [])

/-- Binds a socket to the source address, if there is one. -/
def bindSource (o : Opener) (number : Nat) (c : Candidate) : Option Fault × List Call :=
  if o.source.isTrue then (c.bindFault, [.bind number o.source]) else (none, [])

/-- The first fault of two parts of a work, and the calls up to it. -/
def andThen (first second : Option Fault × List Call) : Option Fault × List Call :=
  match first with
  | (some f, calls) => (some f, calls)
  | (none, calls) => (second.1, calls ++ second.2)

/-- The first fault of the calls that prepare a socket, and the calls up to it. -/
def prepare (o : Opener) (sys : System) (number : Nat) (c : Candidate) :
    Option Fault × List Call :=
  andThen (c.modeFault, [.nonBlocking number])
    (andThen (o.bindDevice sys number c) (o.bindSource number c))

/-- Prepares and connects the socket of a candidate. -/
def tryOne (o : Opener) (sys : System) (network : Network) (stop : Option Nat) (now number : Nat)
    (c : Candidate) : Opened Unit :=
  match o.prepare sys number c with
  | (some f, calls) => ⟨.error (.fault f), now, calls⟩
  | (none, calls) =>
    let calls := calls ++ [.connect number network c.address]
    let delay := if network = .tcp then c.connectDelay else 0
    match pass now delay none stop with
    | (.value (), now) => match c.connectFault with
      | some f => ⟨.error (.fault f), now, calls⟩
      | none => ⟨.ok (), now, calls⟩
    | (_, now) => ⟨.error .cancelled, now, calls⟩

/-- Whether a failed candidate is closed: not after a fault that nobody expects. -/
def isClosedAfter : Failure → Bool
  | .fault f => f.isSystem
  | _ => true

/-- Whether the next candidate is tried after a failure. -/
def goesOn : Failure → Bool
  | .fault f => f.isSystem
  | _ => false

/-- Tries candidates in order; gives the number of the first whose socket is connected. -/
def tryAll (o : Opener) (sys : System) (network : Network) (stop : Option Nat) :
    (last : Failure) → (now number : Nat) → List Candidate → Opened Nat
  | last, now, _, [] => ⟨.error last, now, []⟩
  | _, now, number, c :: rest =>
    let made := .socket number c.family network c.protocol
    match c.socketFault with
    -- Failing here is not expected: it ends the attempt, whatever candidates are left.
    | some f => ⟨.error (.fault f), now, [made]⟩
    | none =>
      let tried := o.tryOne sys network stop now number c
      match tried.outcome with
      | .ok () => ⟨.ok number, tried.now, made :: tried.calls⟩
      | .error f =>
        let calls := made :: tried.calls ++ if isClosedAfter f then [.close number] else []
        if goesOn f then
          let more := tryAll o sys network stop f tried.now (number + 1) rest
          { more with calls := calls ++ more.calls }
        else ⟨.error f, tried.now, calls⟩

/-- Resolves a host and makes a connected socket; `stop` is when time runs out. -/
def makeSocket (o : Opener) (sys : System) (network : Network) (stop : Option Nat) (host : Text)
    (port : Int) : Opened Nat :=
  let calls := [.resolve host port network]
  match pass 0 sys.resolveDelay none stop with
  | (.value (), now) => match sys.resolveFault with
    | some f => ⟨.error (.fault f), now, calls⟩
    | none =>
      let tried := o.tryAll sys network stop (.fault (noCandidates host)) now 0 sys.candidates
      { tried with calls := calls ++ tried.calls }
  | (_, now) => ⟨.error .cancelled, now, calls⟩

/-! ### Openings -/

/-- The opening itself, after which the connection is there. -/
def finish (sys : System) (stop : Option Nat) (call : Call) (now : Nat) (calls : List Call) :
    Opened Unit :=
  let calls := calls ++ [call]
  match pass now sys.openDelay none stop with
  | (.value (), now) => match sys.openFault with
    | some f => ⟨.error (.fault f), now, calls⟩
    | none => ⟨.ok (), now, calls⟩
  | (_, now) => ⟨.error .cancelled, now, calls⟩

/-- Opens a connection until time runs out. -/
def openUntil (o : Opener) (sys : System) (network : Network) (stop : Option Nat) (host : Text)
    (port : Int) : Opened Unit :=
  if !o.interface.isTrue then finish sys stop (.openHost network host port o.source) 0 []
  else
    let made := o.makeSocket sys network stop host port
    match made.outcome with
    | .ok number => finish sys stop (.openSocket network number) made.now made.calls
    | .error f => ⟨.error f, made.now, made.calls⟩

def openConnection (o : Opener) (sys : System) (network : Network) (host : Text) (port : Int) :
    Opened Unit :=
  if runOut o.limit then ⟨.error (.fault .timeout), 0, []⟩
  else
    let opened := o.openUntil sys network (o.limit.map (·.toNat)) host port
    match opened.outcome with
    | .error .cancelled => { opened with outcome := .error (.fault .timeout) }
    | _ => opened

end Opener

end Socks5.Net
