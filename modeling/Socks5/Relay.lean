import Socks5.Endpoint
import Socks5.Address.Making

/-!
# Datagram relays

A relay is a datagram endpoint towards a proxy together with the control connection that keeps it
alive. A watcher throws away whatever the proxy says on the control connection; when that ends or
fails, the watcher closes the endpoint and ends. Every operation leaves the relay with its watcher
and its receivers served.
-/

namespace Socks5

/-- A datagram relay. -/
structure Relay where
  control : Stream
  endpoint : DatagramEndpoint
  fixed : Option Address
  watching : Bool := true
  /-- Those who wait for the end of the relay. -/
  leaving : List Ticket := []

namespace Relay

/-- The fault of a relay whose control connection is gone. -/
def controlFault : Fault := ⟨.reset, "socks control connection closed"⟩

/-! ### The watcher -/

/-- The watcher reads all there is and ends with the control connection. -/
def watch (r : Relay) : List (Completion Outcome) × Relay :=
  if r.watching then
    match r.control.failure with
    | some f =>
      if f.isSystem then
        let (done, endpoint) := r.endpoint.close (some controlFault)
        (received done, { r with endpoint, watching := false })
      -- Any other fault ends the watcher alone, and the endpoint stays open.
      else ([], { r with watching := false })
    | none =>
      let r := { r with control := { r.control with buffer := [] } }
      if r.control.ended then
        let (done, endpoint) := r.endpoint.close (some controlFault)
        (received done, { r with endpoint, watching := false })
      else ([], r)
  else ([], r)

/-- Those who wait for the end are done when the watcher has ended. -/
def release (r : Relay) : List (Completion Outcome) × Relay :=
  if r.watching then ([], r)
  else
    (r.leaving.map fun t => (t, r.control.waitClosed.map fun _ => .ended), { r with leaving := [] })

/-- Lets the watcher work, and then those who wait for the end. -/
def settle (r : Relay) : List (Completion Outcome) × Relay :=
  let (done, r) := r.watch
  let (more, r) := r.release
  (done ++ more, r)

/-! ### Events -/

def feed (a : Arrival) (r : Relay) : List (Completion Outcome) × Relay :=
  settle { r with control := r.control.feed a }

def onEndpoint (f : DatagramEndpoint → List (Completion Bytes) × DatagramEndpoint) (r : Relay) :
    List (Completion Outcome) × Relay :=
  let (done, endpoint) := f r.endpoint
  (received done, { r with endpoint })

/-! ### Sending -/

/-- The control connection has to be there for every operation. -/
def checkControl (r : Relay) : Except Failure Unit :=
  if r.control.closed || r.control.atEnd then .error (.fault controlFault) else .ok ()

/-- The address that a datagram for a destination goes to. -/
def resolve (dest : Option Value) (r : Relay) : Except Failure Address :=
  match dest, r.fixed with
  | none, none => .error (.error .destinationMissing)
  | none, some fixed => .ok fixed
  | some v, none => destination v
  | some v, some fixed => do
    let target ← destination v
    if target = fixed then .ok target else .error (.error (.destinationMismatch target fixed))

/-- Sends a payload to a destination, and gives its length. -/
def sendTo (payload : Bytes) (dest : Option Value) (r : Relay) : Except Failure (Nat × Relay) := do
  let target ← r.resolve dest
  r.checkControl
  let endpoint ← r.endpoint.send (Frame.datagram target payload)
  return (payload.length, { r with endpoint })

/-! ### Receiving -/

def receive (t : Ticket) (r : Relay) : List (Completion Outcome) × Relay :=
  match r.checkControl with
  | .error e => ([(t, .error e)], r)
  | .ok _ => r.onEndpoint (·.receive t)

/-- The payload and the source of a received datagram. -/
def decode (bs : Bytes) : Except Failure (Bytes × Address) :=
  (Frame.parseDatagram bs).mapError fun e => .error (.datagram e)

/-! ### Closing -/

/-- Whether the endpoint or the control connection is closed. -/
def isClosing (r : Relay) : Bool := r.endpoint.isClosing || r.control.closed

/-- Ends the watcher and closes the endpoint and the control connection. -/
def close (r : Relay) : List (Completion Outcome) × Relay :=
  let (done, endpoint) := r.endpoint.close none
  let (more, r) := release { r with endpoint, control := r.control.close, watching := false }
  (received done ++ more, r)

/-- Starts to wait for the end of the relay. -/
def waitClosed (t : Ticket) (r : Relay) : List (Completion Outcome) × Relay :=
  release { r with leaving := r.leaving ++ [t] }

/-- Gives up a receiver, or one who waits for the end, who takes the watcher along. -/
def abandon? (t : Ticket) (r : Relay) : Option (List (Completion Outcome) × Relay) :=
  if t ∈ r.leaving then
    some (release { r with leaving := r.leaving.filter (· ≠ t), watching := false })
  else (r.endpoint.abandon? t).map fun endpoint => ([], { r with endpoint })

end Relay

end Socks5
