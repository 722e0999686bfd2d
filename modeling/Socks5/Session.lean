import Socks5.Relay

/-!
# Sessions

A session is a connection in use, under a clock that moves only when told to. Callers start
operations one by one and get each result at once or later, under the number with which they started
it. After every operation all work that is ready is done before time goes on.
-/

namespace Socks5

/-- What a session is about. -/
inductive Connection where
  | stream (s : Stream)
  | relay (r : Relay)
  | endpoint (e : DatagramEndpoint)

/-! ### Operations and answers -/

/-- What a caller does, or what happens from outside. -/
inductive Step where
  | advance (ticks : Nat)
  | cancel (ticket : Ticket)
  | isClosing
  | close
  | waitClosed
  | leave
  | atEnd
  | names
  /-- Reads up to so many bytes within a time limit; a negative number asks for everything up to the
  end. -/
  | read (n : Int) (limit : Option Int := none)
  | readExactly (n : Int)
  | write (bs : Bytes)
  | sendTo (bs : Bytes) (dest : Option Value)
  | receiveFrom (limit : Option Int)
  | send (bs : Bytes)
  | receive
  | closeEndpoint (reason : Option Fault)
  | info (name : String) (default : Value)
  | make (info : List (String × Value))
  | arrive (batch : List Bytes)
  | report (f : Fault)
  | lose (f : Option Fault)
  | control (a : Arrival)
  | closeControl

/-- The result of an operation. -/
inductive Answer where
  | nothing
  | flag (b : Bool)
  | bytes (bs : Bytes)
  | count (n : Nat)
  | message (payload : Bytes) (source : Address)
  | names (here there : Option Value)
  | relayNames (here : Option Value) (there : Option Endpoint)
  | value (v : Value)
  | left

/-- A result or the reason why there is none. -/
abbrev Result := Except Failure Answer

/-! ### Sessions -/

/-- How the outcome of a pending operation becomes its answer. -/
inductive Shape where
  | bytes
  | payload
  | message
  | nothing
  | left
  deriving DecidableEq, Repr

/-- An operation without a result so far. -/
structure Pending where
  ticket : Ticket
  shape : Shape
  deadline : Option Nat := none

/-- A write whose bytes are still leaving. -/
structure Draining where
  time : Nat
  ticket : Ticket
  fault : Option Fault

/-- A connection in use. -/
structure Session where
  now : Nat := 0
  connection : Connection
  arrivals : List (Nat × Arrival) := []
  incoming : List (Nat × Signal) := []
  pending : List Pending := []
  draining : List Draining := []
  shownWritten : Nat := 0
  shownSent : Nat := 0

namespace Session

/-! ### Shaping answers -/

def shaped (shape : Shape) : Outcome → Result
  | .bytes bs => match shape with
    | .payload => (Relay.decode bs).map fun m => .bytes m.1
    | .message => (Relay.decode bs).map fun m => .message m.1 m.2
    | _ => .ok (.bytes bs)
  | .ended => if shape = .left then .ok .left else .ok .nothing

def resultOf (pending : List Pending) (c : Completion Outcome) : Ticket × Result :=
  let shape := match pending.find? (·.ticket = c.1) with
    | some p => p.shape
    | none => .bytes
  (c.1, c.2.bind (shaped shape))

/-- Takes completed operations off the list of pending ones. -/
def finish (done : List (Completion Outcome)) (s : Session) :
    List (Ticket × Result) × Session :=
  (done.map (resultOf s.pending),
    { s with pending := s.pending.filter fun p => done.all (·.1 ≠ p.ticket) })

/-! ### Events of the network -/

/-- Something happens on the stream or control connection. -/
def onControl (a : Arrival) (s : Session) : List (Ticket × Result) × Session :=
  match s.connection with
  | .stream c =>
    let (done, c) := (c.feed a).serve
    finish (received done) { s with connection := .stream c }
  | .relay r =>
    let (done, r) := r.feed a
    finish done { s with connection := .relay r }
  | .endpoint _ => ([], s)

def onEndpoint (f : DatagramEndpoint → List (Completion Bytes) × DatagramEndpoint) (s : Session) :
    List (Ticket × Result) × Session :=
  match s.connection with
  | .stream _ => ([], s)
  | .relay r =>
    let (done, r) := r.onEndpoint f
    finish done { s with connection := .relay r }
  | .endpoint e =>
    let (done, e) := f e
    finish (received done) { s with connection := .endpoint e }

/-- Gives up a pending operation, which ends with the given failure. -/
def abandon (t : Ticket) (f : Failure) (s : Session) : List (Ticket × Result) × Session :=
  if s.draining.any (·.ticket = t) then
    let (done, s) := finish [(t, .error f)] s
    (done, { s with draining := s.draining.filter (·.ticket ≠ t) })
  else match s.connection with
    | .stream c => match c.abandon? t with
      | some c => finish [(t, .error f)] { s with connection := .stream c }
      | none => ([], s)
    | .relay r => match r.abandon? t with
      | some (done, r) => finish ((t, .error f) :: done) { s with connection := .relay r }
      | none => ([], s)
    | .endpoint e => match e.abandon? t with
      | some e => finish [(t, .error f)] { s with connection := .endpoint e }
      | none => ([], s)

/-! ### The clock -/

def nextTime? (s : Session) : Option Nat :=
  (s.arrivals.map (·.1) ++ s.incoming.map (·.1) ++ s.draining.map (·.time) ++
    s.pending.filterMap (·.deadline)).min?

/-- The results of a list of events that happen one after the other. -/
def inTurn {α : Type} (f : α → Session → List (Ticket × Result) × Session) :
    List α → Session → List (Ticket × Result) × Session
  | [], s => ([], s)
  | a :: r, s =>
    let (done, s) := f a s
    let (more, s) := inTurn f r s
    (done ++ more, s)

/-- The bytes of a write have left. -/
def drained (d : Draining) (s : Session) : List (Ticket × Result) × Session :=
  finish [(d.ticket, match d.fault with
    | some f => .error (.fault f)
    | none => .ok .ended)] s

/-- Everything happens that is due at a time. -/
def tick (t : Nat) (s : Session) : List (Ticket × Result) × Session :=
  let s := { s with now := t }
  let arrivals := s.arrivals.filter (·.1 ≤ t)
  let incoming := s.incoming.filter (·.1 ≤ t)
  let drains := s.draining.filter (·.time ≤ t)
  let s := { s with
    arrivals := s.arrivals.filter (t < ·.1)
    incoming := s.incoming.filter (t < ·.1)
    draining := s.draining.filter (t < ·.time) }
  let (r₁, s) := inTurn (fun a => onControl a.2) arrivals s
  let (r₂, s) := inTurn (fun d => onEndpoint (·.signal d.2)) incoming s
  let (r₃, s) := inTurn drained drains s
  -- Only what still waits now is late; a result that came in this tick was in time.
  let late := s.pending.filter fun p => p.deadline.any (· ≤ t)
  let (r₄, s) := inTurn (fun p => abandon p.ticket (.fault .timeout)) late s
  (r₁ ++ r₂ ++ r₃ ++ r₄, s)

/-- How many things are still to happen. -/
def timers (s : Session) : Nat :=
  s.arrivals.length + s.incoming.length + s.draining.length + s.pending.length

/-- Lets time pass up to a moment; `fuel` bounds the number of things that happen. -/
def runUntil : (fuel : Nat) → (moment : Nat) → Session → List (Ticket × Result) × Session
  | 0, moment, s => ([], { s with now := moment })
  | fuel + 1, moment, s => match s.nextTime? with
    | some t =>
      if t ≤ moment then
        let (done, s) := s.tick t
        let (more, s) := runUntil fuel moment s
        (done ++ more, s)
      else ([], { s with now := moment })
    | none => ([], { s with now := moment })

def advance (ticks : Nat) (s : Session) : List (Ticket × Result) × Session :=
  runUntil s.timers (s.now + ticks) s

/-! ### Operations -/

/-- An operation that gives its result at once. -/
def instantly (t : Ticket) (r : Result) (s : Session) : List (Ticket × Result) × Session :=
  ([(t, r)], s)

/-- The failure of an operation that the connection does not have. -/
def noOperation : Result := .error (.fault ⟨.attribute, "no such operation"⟩)

/-- Starts an operation whose result comes now or later. -/
def start (t : Ticket) (shape : Shape) (deadline : Option Nat)
    (f : Session → List (Ticket × Result) × Session) (s : Session) :
    List (Ticket × Result) × Session :=
  f { s with pending := s.pending ++ [⟨t, shape, deadline⟩] }

/-- Starts a read on a stream. -/
def onStream (f : Stream → List (Completion Bytes) × Stream) (s : Session) :
    List (Ticket × Result) × Session :=
  match s.connection with
  | .stream c =>
    let (done, c) := f c
    finish (received done) { s with connection := .stream c }
  | _ => ([], s)

def onRelay (f : Relay → List (Completion Outcome) × Relay) (s : Session) :
    List (Ticket × Result) × Session :=
  match s.connection with
  | .relay r =>
    let (done, r) := f r
    finish done { s with connection := .relay r }
  | _ => ([], s)

def isClosing (s : Session) : Bool :=
  match s.connection with
  | .stream c => c.closed
  | .relay r => r.isClosing
  | .endpoint e => e.isClosing

def control? (s : Session) : Option Stream :=
  match s.connection with
  | .stream c => some c
  | .relay r => some r.control
  | .endpoint _ => none

def endpoint? (s : Session) : Option DatagramEndpoint :=
  match s.connection with
  | .stream _ => none
  | .relay r => some r.endpoint
  | .endpoint e => some e

def close (s : Session) : List (Ticket × Result) × Session :=
  match s.connection with
  | .stream c => ([], { s with connection := .stream c.close })
  | .relay _ => s.onRelay (·.close)
  | .endpoint _ => s.onEndpoint (·.close none)

/-- Starts to wait for the end of the connection. -/
def waitClosed (t : Ticket) (shape : Shape) (s : Session) : List (Ticket × Result) × Session :=
  match s.connection with
  | .stream c => start t shape none (finish [(t, c.waitClosed.map fun _ => .ended)]) s
  | .relay _ => start t shape none (onRelay (·.waitClosed t)) s
  | .endpoint _ => s.instantly t noOperation

def names (s : Session) : Answer :=
  match s.connection with
  | .stream c => .names (c.info? "sockname") (c.info? "peername")
  | .relay r => .relayNames (r.endpoint.info? "sockname") (r.fixed.map (·.endpoint))
  | .endpoint e => .names (e.info? "sockname") (e.info? "peername")

def write (t : Ticket) (bs : Bytes) (s : Session) : List (Ticket × Result) × Session :=
  match s.connection with
  | .stream c => match c.write bs with
    | (.error f, c) => { s with connection := .stream c }.instantly t (.error (.fault f))
    | (.ok (delay, fault), c) =>
      let d : Draining := ⟨s.now + delay, t, fault⟩
      let s := { s with connection := .stream c }
      if delay = 0 then start t .nothing none (drained d) s
      else start t .nothing none (fun s => ([], { s with draining := s.draining ++ [d] })) s
  | _ => s.instantly t noOperation

def sendTo (t : Ticket) (bs : Bytes) (dest : Option Value) (s : Session) :
    List (Ticket × Result) × Session :=
  match s.connection with
  | .relay r => match r.sendTo bs dest with
    | .ok (n, r) => { s with connection := .relay r }.instantly t (.ok (.count n))
    | .error e => s.instantly t (.error e)
  | _ => s.instantly t noOperation

def send (t : Ticket) (bs : Bytes) (s : Session) : List (Ticket × Result) × Session :=
  match s.endpoint? with
  | some e => match e.send bs with
    | .ok e =>
      let (_, s) := s.onEndpoint fun _ => ([], e)
      s.instantly t (.ok .nothing)
    | .error f => s.instantly t (.error f)
  | none => s.instantly t noOperation

/-- Starts an operation within a time limit; without any time it is not even begun. -/
def startWithin (t : Ticket) (shape : Shape) (limit : Option Int)
    (f : Session → List (Ticket × Result) × Session) (s : Session) :
    List (Ticket × Result) × Session :=
  match limit with
  | some l =>
    if l ≤ 0 then s.instantly t (.error (.fault .timeout))
    else start t shape (some (s.now + l.toNat)) f s
  | none => start t shape none f s

/-- Starts to receive through a relay, within a time limit. -/
def receiveFrom (t : Ticket) (shape : Shape) (limit : Option Int) (s : Session) :
    List (Ticket × Result) × Session :=
  startWithin t shape limit (onRelay (·.receive t)) s

/-- An event from outside, which has no result of its own. -/
def outside (t : Ticket) (r : List (Ticket × Result) × Session) :
    List (Ticket × Result) × Session :=
  (r.1 ++ [(t, .ok .nothing)], r.2)

/-- Carries out one step; the result of the step itself is among those that it gives. -/
def perform (t : Ticket) (step : Step) (s : Session) : List (Ticket × Result) × Session :=
  match step with
  | .advance ticks => outside t (s.advance ticks)
  | .cancel t' =>
    let (done, s') := s.abandon t' .cancelled
    (done ++ [(t, .ok (.flag (s.pending.any (·.ticket = t'))))], s')
  | .isClosing => s.instantly t (.ok (.flag s.isClosing))
  | .close => outside t s.close
  | .waitClosed => s.waitClosed t .nothing
  | .leave =>
    let (done, s) := s.close
    let (more, s) := s.waitClosed t .left
    (done ++ more, s)
  | .atEnd => s.instantly t (match s.control? with
    | some c => .ok (.flag c.atEnd)
    | none => noOperation)
  | .names => s.instantly t (.ok s.names)
  | .read n limit => match s.connection with
    | .stream _ => startWithin t .bytes limit (onStream (·.startRead t (Stream.readingOf n))) s
    | .relay _ => s.receiveFrom t .payload limit
    | .endpoint _ => s.instantly t noOperation
  | .readExactly n => match s.connection with
    | .stream _ => start t .bytes none (onStream (·.startReadExactly t n)) s
    | _ => s.instantly t noOperation
  | .write bs => match s.connection with
    | .stream _ => s.write t bs
    | _ => s.sendTo t bs none
  | .sendTo bs dest => s.sendTo t bs dest
  | .receiveFrom limit => s.receiveFrom t .message limit
  | .send bs => s.send t bs
  | .receive => start t .bytes none (onEndpoint (·.receive t)) s
  | .closeEndpoint reason => outside t (s.onEndpoint (·.close reason))
  | .info name default => s.instantly t (match s.endpoint? with
    | some e => .ok (.value ((e.info? name).getD default))
    | none => noOperation)
  | .make info => outside t (s.onEndpoint fun e => ([], e.make info))
  | .arrive batch => outside t (s.onEndpoint (·.arrive batch))
  | .report f => outside t (s.onEndpoint (·.report f))
  | .lose f => outside t (s.onEndpoint (·.lose f))
  | .control a => outside t (s.onControl a)
  | .closeControl => outside t (match s.connection with
    | .stream c => ([], { s with connection := .stream c.close })
    | .relay r => ([], { s with connection := .relay { r with control := r.control.close } })
    | .endpoint _ => ([], s))

/-! ### Reports -/

/-- What can be seen of a session from outside. -/
structure View where
  written : Option Bytes
  controlClosed : Option Bool
  atEnd : Option Bool
  sent : Option (List Bytes)
  dropped : Option Nat
  queued : Option Nat
  endpointClosing : Option Bool
  closing : Option Bool

def view (s : Session) : View × Session :=
  let control := s.control?
  let endpoint := s.endpoint?
  ({ written := control.map (·.written.drop s.shownWritten)
     controlClosed := control.map (·.closed)
     atEnd := control.map (·.atEnd)
     sent := (endpoint.filter (·.isMade)).map (·.sent.drop s.shownSent)
     dropped := endpoint.map (·.dropped)
     queued := endpoint.map (·.queue.length)
     endpointClosing := endpoint.map (·.isClosing)
     closing := control.map fun _ => s.isClosing },
    { s with
      shownWritten := (control.map (·.written.length)).getD 0
      shownSent := (endpoint.map (·.sent.length)).getD 0 })

/-- What a step gives: its own result unless it is pending, late results of earlier steps in the
order in which they were started, and a view. -/
structure Report where
  result : Option Result
  late : List (Ticket × Result)
  view : View

def report (t : Ticket) (step : Step) (s : Session) : Report × Session :=
  let (done, s) := s.perform t step
  let (view, s) := s.view
  ({ result := (done.find? (·.1 = t)).map (·.2)
     late := (done.filter (·.1 ≠ t)).mergeSort fun a b => a.1 ≤ b.1
     view }, s)

/-- Carries out steps, numbered from `t`. -/
def reports : (t : Ticket) → List Step → Session → List Report × Session
  | _, [], s => ([], s)
  | t, step :: rest, s =>
    let (r, s) := s.report t step
    let (more, s) := reports (t + 1) rest s
    (r :: more, s)

end Session

end Socks5
