import Socks5.Dial.Handshake
import Socks5.Stream

/-!
# Lines

A line is a byte stream together with the clock and with what the other side will still do. An
operation on a line takes time: it ends when it can be completed, when its time limit runs out or
when its caller is cancelled, whichever comes first, and a completion comes before anything else at
the same moment. A limit that is not positive runs out before the operation is begun.
-/

namespace Socks5

/-- How an operation that takes time ends, if it ever does. -/
inductive Ended (α : Type) where
  | value (a : α)
  | failure (f : Failure)
  | never

/-! ### Limits -/

/-- The stricter of two time limits. -/
def stricter : Option Int → Option Int → Option Int
  | some a, some b => some (min a b)
  | some a, none => some a
  | none, b => b

/-- Whether a limit leaves no time at all. -/
def runOut (limit : Option Int) : Bool := limit.any (· ≤ 0)

/-- When and how an operation under a limit is broken off. -/
def breakOff (now : Nat) (limit : Option Int) (cancelAt : Option Nat) : Option (Nat × Failure) :=
  match limit, cancelAt with
  | none, none => none
  | some l, none => some (now + l.toNat, .fault .timeout)
  | none, some c => some (c, .cancelled)
  | some l, some c =>
    if c < now + l.toNat then some (c, .cancelled) else some (now + l.toNat, .fault .timeout)

/-- Waits for something that takes so many ticks; gives the time at which the waiting ends. -/
def pass (now ticks : Nat) (limit : Option Int) (cancelAt : Option Nat) : Ended Unit × Nat :=
  match breakOff now limit cancelAt with
  | some (time, f) =>
    if time < now + ticks then (.failure f, max now time) else (.value (), now + ticks)
  | none => (.value (), now + ticks)

/-! ### Lines -/

/-- A byte stream in time. -/
structure Line where
  now : Nat
  cancelAt : Option Nat := none
  stream : Stream
  arrivals : List (Nat × Arrival) := []
  notes : List Note := []

namespace Line

/-- Takes in what has arrived by now. -/
def catchUp (l : Line) : Line :=
  { l with
    stream := (l.arrivals.takeWhile (·.1 ≤ l.now)).foldl (fun s a => s.feed a.2) l.stream
    arrivals := l.arrivals.dropWhile (·.1 ≤ l.now) }

def tell (n : Note) (l : Line) : Line := { l with notes := l.notes ++ [n] }

/-- Waits with a read for what arrives, until the read is done or broken off. -/
def await (stop : Option (Nat × Failure)) :
    Reading → (now : Nat) → Stream → List (Nat × Arrival) → Ended Bytes × Nat × Stream ×
      List (Nat × Arrival)
  | r, now, s, [] => match s.attempt r with
    | (.done (.ok bs), s) => (.value bs, now, s, [])
    | (.done (.error f), s) => (.failure f, now, s, [])
    | (.waits _, s) => match stop with
      | some (time, f) => (.failure f, max now time, s, [])
      | none => (.never, now, s, [])
  | r, now, s, (time, a) :: rest =>
    if time ≤ now then await stop r now (s.feed a) rest
    else match s.attempt r with
      | (.done (.ok bs), s) => (.value bs, now, s, (time, a) :: rest)
      | (.done (.error f), s) => (.failure f, now, s, (time, a) :: rest)
      | (.waits r, s) => match stop with
        | some (brk, f) =>
          if brk < time then (.failure f, max now brk, s, (time, a) :: rest)
          else await stop r time (s.feed a) rest
        | none => await stop r time (s.feed a) rest

def read (limit : Option Int) (r : Reading) (l : Line) : Ended Bytes × Line :=
  if runOut limit then (.failure (.fault .timeout), l)
  else
    let (ended, now, stream, arrivals) :=
      await (breakOff l.now limit l.cancelAt) r l.now l.stream l.arrivals
    (ended, { l with now, stream, arrivals })

def write (limit : Option Int) (bs : Bytes) (l : Line) : Ended Unit × Line :=
  if runOut limit then (.failure (.fault .timeout), l)
  else match l.stream.write bs with
    | (.error f, stream) => (.failure (.fault f), { l with stream })
    | (.ok (delay, fault), stream) =>
      let l := { l with stream }
      match pass l.now delay limit l.cancelAt with
      | (.value (), now) => match fault with
        | some f => (.failure (.fault f), { l with now })
        | none => (.value (), { l with now })
      | (ended, now) => (ended, { l with now })

end Line

/-! ### Carrying out a handshake -/

namespace Handshake

/-- What becomes of a failed request: faults of the system are errors of the transport. -/
def sendFailure (request : Request) : Failure → Failure
  | .fault f => if f.isSystem then .error (.sending request f) else .fault f
  | f => f

/-- What becomes of a failed read: an early end is a short reply. -/
def receiveFailure (part : Part) : Failure → Failure
  | .incomplete _ _ => .error (.short part)
  | .fault f => if f.isSystem then .error (.receiving part f) else .fault f
  | f => f

/-- The limit for the next step: the step limit, and what is left until the deadline. -/
def limitAt (step : Option Int) (deadline : Option Int) (now : Nat) : Option Int :=
  stricter step (deadline.map fun d => max 0 (d - now))

/-- Carries out a handshake on a line, every read and write under the limit of its moment. -/
def run {α : Type} (step deadline : Option Int) : Handshake α → Line → Ended α × Line
  | .done a, l => (.value a, l)
  | .fail e, l => (.failure (.error e), l)
  | .note n next, l => run step deadline next (l.tell n)
  | .send request bs next, l =>
    match l.write (limitAt step deadline l.now) bs with
    | (.value (), l) => run step deadline next l
    | (.failure f, l) => (.failure (sendFailure request f), l)
    | (.never, l) => (.never, l)
  | .receive part count next, l =>
    match l.read (limitAt step deadline l.now) (.exactly count) with
    | (.value bs, l) => run step deadline (next bs) l
    | (.failure f, l) => (.failure (receiveFailure part f), l)
    | (.never, l) => (.never, l)

end Handshake

end Socks5
