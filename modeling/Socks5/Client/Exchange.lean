import Socks5.Dial.Run

/-!
# Exchanges

An exchange sends one payload over a connection that was just dialled, and takes the first answer: a
single read of a stream, or a single datagram of a relay. However it ends, the connection is closed
behind it.
-/

namespace Socks5.Client

/-- An answer. -/
structure Reply where
  payload : Bytes
  source : Option Address := none

/-- A session in use, and what was told meanwhile. -/
structure Talk where
  session : Session
  notes : List Note := []

namespace Talk

/-! ### Time -/

/-- What the watcher of a relay tells if it ended between two moments. -/
def watcherNotes (before after : Session) : List Note :=
  match before.connection, after.connection with
  | .relay r, .relay r' =>
    if r.watching && !r'.watching then
      match r'.control.failure with
      | some f => if f.isSystem then [.controlFault f, .controlGone] else []
      | none => [.controlGone]
    else []
  | _, _ => []

def goOn (s : Session) (talk : Talk) : Talk :=
  { session := s, notes := talk.notes ++ watcherNotes talk.session s }

def tell (n : Note) (talk : Talk) : Talk := { talk with notes := talk.notes ++ [n] }

/-- Lets time pass until an operation has its result, which may never be; `fuel` bounds the number
of moments at which something happens. -/
def await (t : Ticket) : (fuel : Nat) → List (Ticket × Result) → Talk → Ended Answer × Talk
  | fuel, done, talk => match done.find? (·.1 = t) with
    | some (_, .ok a) => (.value a, talk)
    | some (_, .error f) => (.failure f, talk)
    | none => match fuel, talk.session.nextTime? with
      | fuel + 1, some time =>
        let (done, s) := talk.session.tick time
        await t fuel done (talk.goOn s)
      | _, _ => (.never, talk)

/-- Carries out a step and waits for its result. -/
def perform (t : Ticket) (step : Step) (talk : Talk) : Ended Answer × Talk :=
  let (done, s) := talk.session.perform t step
  await t s.timers done { talk with session := s }

/-! ### Streams -/

def maxReply : Nat := 65535

/-- Writes a payload, unless it is empty, and reads an answer within a time limit. -/
def overStream (payload : Bytes) (limit : Option Int) (talk : Talk) : Ended Reply × Talk :=
  let talk := talk.goOn talk.session.begin
  let (written, talk) :=
    if payload.isEmpty then (.value .nothing, talk) else talk.perform 0 (.write payload)
  match written with
  | .value _ => match talk.perform 1 (.read maxReply limit) with
    | (.value (.bytes bs), talk) => (.value { payload := bs }, talk)
    | (.failure f, talk) => (.failure f, talk)
    | (_, talk) => (.never, talk)
  | .failure f => (.failure f, talk)
  | .never => (.never, talk)

/-! ### Relays -/

def tellSent (payload : Bytes) (dest : Value) (talk : Talk) : Talk :=
  match talk.session.connection with
  | .relay r => match r.resolve (some dest) with
    | .ok a => talk.tell (.sent a payload.length)
    | .error _ => talk
  | _ => talk

/-- Sends a payload to a destination, and receives an answer within a time limit. The watcher begins
its work behind the sending. -/
def overRelay (payload : Bytes) (dest : Value) (limit : Option Int) (talk : Talk) :
    Ended Reply × Talk :=
  match talk.perform 0 (.sendTo payload (some dest)) with
  | (.value _, talk) =>
    let talk := talk.tellSent payload dest
    let talk := talk.goOn talk.session.begin
    match talk.perform 1 (.receiveFrom limit) with
    | (.value (.message payload source), talk) =>
      (.value { payload, source := some source }, talk.tell (.received source payload.length))
    | (.failure f, talk) => (.failure f, talk)
    | (_, talk) => (.never, talk)
  | (.failure f, talk) => (.failure f, talk)
  | (.never, talk) => (.never, talk)

/-! ### The whole -/

/-- The fault that comes up at the end of the connection, if it is one of the system. -/
def closeFault? (talk : Talk) : Option Fault :=
  (talk.session.control?.bind (·.closeFault)).filter (·.isSystem)

/-- Leaves the connection. A fault of the system is only told then; any other takes the place of the
outcome. -/
def leave (outcome : Ended Reply) (talk : Talk) : Ended Reply × Talk :=
  let (ended, talk) := talk.perform 2 .leave
  let talk := match talk.closeFault? with
    | some f => talk.tell (.closeFault f)
    | none => talk
  match outcome, ended with
  | .never, _ => (.never, talk)
  | _, .failure f => (.failure f, talk)
  | outcome, _ => (outcome, talk)

end Talk

def exchange (payload : Bytes) (dest : Text) (limit : Option Int) (s : Session) :
    Ended Reply × Talk :=
  let talk : Talk := { session := s }
  let (outcome, talk) := match s.connection with
    | .stream _ => talk.overStream payload limit
    | _ => talk.overRelay payload (.text dest) limit
  talk.leave outcome

end Socks5.Client
