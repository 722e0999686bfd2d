import Socks5.Error

/-!
# Byte streams

One side of a connection that carries bytes both ways. What arrives is kept in a buffer until
somebody reads it; after the end of the input the buffer can still be read, while after a failure
every read fails. At most one read waits at a time. What is written is recorded in order.
-/

namespace Socks5

/-- The number under which a caller waits for a result. -/
abbrev Ticket := Nat

/-- A result under the number of the caller that waited for it. -/
abbrev Completion (α : Type) := Ticket × Except Failure α

/-- What a caller waited for: bytes, or nothing but the end. -/
inductive Outcome where
  | bytes (bs : Bytes)
  | ended
  deriving DecidableEq, Repr

/-- Completions with bytes as completions in general. -/
def received (cs : List (Completion Bytes)) : List (Completion Outcome) :=
  cs.map fun (t, r) => (t, r.map .bytes)

/-- What the other side of a stream does. -/
inductive Arrival where
  | data (bs : Bytes)
  | ended
  | failed (f : Fault)
  deriving DecidableEq, Repr

/-- How a write goes. -/
structure WritePlan where
  fault : Option Fault := none
  delay : Nat := 0
  /-- The fault that comes up after the bytes were recorded. -/
  lateFault : Option Fault := none
  deriving DecidableEq, Repr

/-- A read that somebody wants. -/
inductive Reading where
  /-- At least one octet and at most so many, or none at the end. -/
  | upTo (n : Nat)
  | exactly (n : Nat)
  /-- Everything up to the end, of which some has been collected. -/
  | toEnd (collected : Bytes)
  deriving DecidableEq, Repr

/-- How far a read gets with what is there. -/
inductive Progress where
  | done (result : Except Failure Bytes)
  | waits (r : Reading)

/-- One side of a connection. -/
structure Stream where
  buffer : Bytes := []
  ended : Bool := false
  failure : Option Fault := none
  waiting : Option (Ticket × Reading) := none
  closed : Bool := false
  written : Bytes := []
  /-- How the next writes go; after these, writes simply work. -/
  plans : List WritePlan := []
  info : List (String × Value) := []
  /-- The fault that comes up when somebody waits for the end of the connection. -/
  closeFault : Option Fault := none

namespace Stream

/-! ### Arrivals -/

/-- Takes in what the other side does. -/
def feed (a : Arrival) (s : Stream) : Stream :=
  match a with
  | .data bs => { s with buffer := s.buffer ++ bs }
  | .ended => { s with ended := true }
  | .failed f => { s with failure := some f }

/-- Whether the input has ended and all of it was read. -/
def atEnd (s : Stream) : Bool := s.ended && s.buffer.isEmpty

/-! ### Reading -/

/-- Takes a read as far as it gets without waiting. -/
def attempt (r : Reading) (s : Stream) : Progress × Stream :=
  match s.failure with
  | some f => (.done (.error (.fault f)), s)
  | none => match r with
    | .upTo n =>
      if n ≠ 0 ∧ s.buffer.isEmpty ∧ !s.ended then (.waits r, s)
      else (.done (.ok (s.buffer.take n)), { s with buffer := s.buffer.drop n })
    | .exactly n =>
      -- Octets that are there are given out even after the end of the input.
      if n ≤ s.buffer.length then
        (.done (.ok (s.buffer.take n)), { s with buffer := s.buffer.drop n })
      else if s.ended then
        (.done (.error (.incomplete s.buffer n)), { s with buffer := [] })
      else (.waits r, s)
    | .toEnd collected =>
      let collected := collected ++ s.buffer
      let s := { s with buffer := [] }
      if s.ended then (.done (.ok collected), s) else (.waits (.toEnd collected), s)

/-- Takes the waiting read as far as it gets. -/
def serve (s : Stream) : List (Completion Bytes) × Stream :=
  match s.waiting with
  | none => ([], s)
  | some (t, r) => match s.attempt r with
    | (.done result, s) => ([(t, result)], { s with waiting := none })
    | (.waits r, s) => ([], { s with waiting := some (t, r) })

/-- Starts a read, which fails if it would have to wait beside another one. -/
def startRead (t : Ticket) (r : Reading) (s : Stream) : List (Completion Bytes) × Stream :=
  match s.attempt r with
  | (.done result, s) => ([(t, result)], s)
  -- A refused read has been attempted, so one up to the end has already taken the buffer.
  | (.waits r, s) => match s.waiting with
    | some _ => ([(t, .error (.fault ⟨.state, "another read is waiting"⟩))], s)
    | none => ([], { s with waiting := some (t, r) })

/-- The read of up to `n` octets; a negative number asks for everything up to the end. -/
def readingOf (n : Int) : Reading := if n < 0 then .toEnd [] else .upTo n.toNat

/-- Starts a read of exactly `n` octets. -/
def startReadExactly (t : Ticket) (n : Int) (s : Stream) : List (Completion Bytes) × Stream :=
  if n < 0 then
    ([(t, .error (.fault ⟨.value, "readexactly size can not be less than zero"⟩))], s)
  else s.startRead t (.exactly n.toNat)

/-- Gives up the waiting read of a caller, if it is the one that waits. -/
def abandon? (t : Ticket) (s : Stream) : Option Stream :=
  match s.waiting with
  | some (t', _) => if t' = t then some { s with waiting := none } else none
  | none => none

/-! ### Writing -/

/-- Writes bytes, and tells how long they take to leave and what fault comes up then. -/
def write (bs : Bytes) (s : Stream) : Except Fault (Nat × Option Fault) × Stream :=
  if s.closed then (.error ⟨.reset, "writer closed"⟩, s)
  else
    let plan := s.plans.headD {}
    let s := { s with plans := s.plans.tail }
    match plan.fault with
    | some f => (.error f, s)
    | none => (.ok (plan.delay, plan.lateFault), { s with written := s.written ++ bs })

/-! ### Closing -/

def close (s : Stream) : Stream := { s with closed := true }

/-- Waits for the end of the connection; faults of the system are of no interest then. -/
def waitClosed (s : Stream) : Except Failure Unit :=
  match s.closeFault with
  | some f => if f.isSystem then .ok () else .error (.fault f)
  | none => .ok ()

/-- What is known about the connection under a name. -/
def info? (name : String) (s : Stream) : Option Value :=
  (s.info.find? (·.1 = name)).map (·.2)

end Stream

end Socks5
