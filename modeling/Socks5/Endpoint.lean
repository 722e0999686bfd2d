import Socks5.Stream

/-!
# Datagram endpoints

A connected datagram endpoint with a bounded queue. A datagram that finds the queue full is dropped,
while a notice of an error or of the end evicts the oldest items until there is room for it. The
notice of the end stays in the queue for ever, so that every receiver sees it. Receivers are served
in the order in which they came.
-/

namespace Socks5

namespace Endpoint

/-! ### Queues -/

/-- A fault for receivers; notices are told apart by their tags. -/
structure Notice where
  tag : Nat
  fault : Fault
  deriving DecidableEq, Repr

/-- What the queue of an endpoint holds. -/
inductive Item where
  | datagram (bs : Bytes)
  | notice (n : Notice)
  deriving DecidableEq, Repr

/-- Whether a queue of a length is full; only positive capacities are limits. -/
def isFull (capacity : Int) (length : Nat) : Bool := 0 < capacity ∧ capacity ≤ length

/-- Removes the oldest items while the queue is full, and counts them. -/
def makeRoom (capacity : Int) : List Item → Nat × List Item
  | [] => (0, [])
  | item :: rest =>
    if isFull capacity (item :: rest).length then
      let (evicted, left) := makeRoom capacity rest
      (evicted + 1, left)
    else (0, item :: rest)

end Endpoint

/-! ### Endpoints -/

/-- What the network does to an endpoint. -/
inductive Signal where
  | datagram (bs : Bytes)
  | fault (f : Fault)
  | lost (f : Option Fault)
  deriving DecidableEq, Repr

/-- The socket below an endpoint. -/
inductive Port where
  | unmade
  | opened
  | closed
  deriving DecidableEq, Repr

/-- A connected datagram endpoint. -/
structure DatagramEndpoint where
  capacity : Int := 1024
  queue : List Endpoint.Item := []
  dropped : Nat := 0
  waiting : List Ticket := []
  port : Port := .unmade
  info : List (String × Value) := []
  reason : Option Endpoint.Notice := none
  ending : Option Endpoint.Notice := none
  nextTag : Nat := 0
  sent : List Bytes := []

namespace DatagramEndpoint

open Endpoint

/-- The fault of an endpoint that is not open. -/
def closedFault : Fault := ⟨.connection, "use of closed network connection"⟩

/-- Whether nothing can be sent. -/
def isClosing (e : DatagramEndpoint) : Bool := e.port ≠ .opened

/-- Whether the endpoint has had a socket. -/
def isMade (e : DatagramEndpoint) : Bool := e.port ≠ .unmade

/-! ### Arrivals -/

/-- Queues a datagram, or drops it when the queue is full. -/
def enqueue (e : DatagramEndpoint) (bs : Bytes) : DatagramEndpoint :=
  if isFull e.capacity e.queue.length then { e with dropped := e.dropped + 1 }
  else { e with queue := e.queue ++ [.datagram bs] }

/-- Queues a notice after making room for it. -/
def enqueueNotice (n : Notice) (e : DatagramEndpoint) : DatagramEndpoint :=
  let (evicted, left) := makeRoom e.capacity e.queue
  { e with queue := left ++ [.notice n], dropped := e.dropped + evicted }

def freshNotice (f : Fault) (e : DatagramEndpoint) : Notice × DatagramEndpoint :=
  (⟨e.nextTag, f⟩, { e with nextTag := e.nextTag + 1 })

/-! ### Receiving -/

/-- Takes the oldest item; the notice of the end goes back to the end of the queue. -/
def take? (e : DatagramEndpoint) : Option (Except Failure Bytes × DatagramEndpoint) :=
  match e.queue with
  | [] => none
  | .datagram bs :: rest => some (.ok bs, { e with queue := rest })
  | .notice n :: rest =>
    -- Notices are the same only by their tags: two of them may bring equal faults.
    let queue := if e.ending.map (·.tag) = some n.tag then rest ++ [.notice n] else rest
    some (.error (.fault n.fault), { e with queue })

/-- Serves receivers in turn until the queue or the receivers run out. -/
def serveAll : List Ticket → DatagramEndpoint → List (Completion Bytes) × DatagramEndpoint
  | [], e => ([], { e with waiting := [] })
  | t :: r, e => match e.take? with
    | none => ([], { e with waiting := t :: r })
    | some (result, e) =>
      let (more, e) := serveAll r e
      ((t, result) :: more, e)

def serve (e : DatagramEndpoint) : List (Completion Bytes) × DatagramEndpoint :=
  serveAll e.waiting e

/-- A new receiver waits its turn. -/
def receive (t : Ticket) (e : DatagramEndpoint) : List (Completion Bytes) × DatagramEndpoint :=
  serve { e with waiting := e.waiting ++ [t] }

/-- A receiver gives up, if it was waiting. -/
def abandon? (t : Ticket) (e : DatagramEndpoint) : Option DatagramEndpoint :=
  if t ∈ e.waiting then some { e with waiting := e.waiting.filter (· ≠ t) } else none

/-! ### Events of the socket -/

/-- Datagrams arrive together; receivers are served after the last of them. -/
def arrive (batch : List Bytes) (e : DatagramEndpoint) :
    List (Completion Bytes) × DatagramEndpoint :=
  serve (batch.foldl enqueue e)

def report (f : Fault) (e : DatagramEndpoint) : List (Completion Bytes) × DatagramEndpoint :=
  let (n, e) := e.freshNotice f
  serve (e.enqueueNotice n)

/-- The notice of the end: the fault that came with it, else the reason for closing. -/
def endNotice (f : Option Fault) (e : DatagramEndpoint) : Notice × DatagramEndpoint :=
  match f, e.reason with
  | some f, _ => e.freshNotice f
  | none, some n => (n, e)
  | none, none => e.freshNotice closedFault

/-- The socket is gone, with or without a fault. -/
def lose (f : Option Fault) (e : DatagramEndpoint) :
    List (Completion Bytes) × DatagramEndpoint :=
  let (n, e) := e.endNotice f
  let port := if e.port = .opened then .closed else e.port
  serve ({ e with port, ending := some n }.enqueueNotice n)

/-- Closes an open endpoint with a reason for receivers; a closed one stays as it is. -/
def close (reason : Option Fault) (e : DatagramEndpoint) :
    List (Completion Bytes) × DatagramEndpoint :=
  if e.port = .opened then
    let (reason, e) := match reason with
      | some f => let (n, e) := e.freshNotice f; (some n, e)
      | none => (none, e)
    lose none { e with port := .closed, reason }
  else ([], e)

/-- The network does something to an endpoint; a socket that is gone has no more faults and cannot
be lost again. -/
def signal (g : Signal) (e : DatagramEndpoint) : List (Completion Bytes) × DatagramEndpoint :=
  match g with
  | .datagram bs => e.arrive [bs]
  | .fault f => if e.port = .opened then e.report f else ([], e)
  | .lost f => if e.port = .opened then e.lose f else ([], e)

def make (info : List (String × Value)) (e : DatagramEndpoint) : DatagramEndpoint :=
  { e with port := .opened, info }

/-! ### Sending -/

/-- Sends a datagram of at most 65535 octets. -/
def send (bs : Bytes) (e : DatagramEndpoint) : Except Failure DatagramEndpoint :=
  if e.isClosing then .error (.fault closedFault)
  else if Frame.maxDatagram < bs.length then
    .error (.fault ⟨.value, "datagram too large: " ++
      String.ofList (Nat.toDigits 10 bs.length) ++ " bytes"⟩)
  else .ok { e with sent := e.sent ++ [bs] }

/-- What is known about the socket under a name. -/
def info? (name : String) (e : DatagramEndpoint) : Option Value :=
  if e.isMade then (e.info.find? (·.1 = name)).map (·.2) else none

end DatagramEndpoint

end Socks5
