import Socks5.Proofs.Dial.Steps
import Socks5.Proofs.Loop.Routine

/-!
# Dials turn by turn

On an event loop a dial has a turn whenever something has come that it waited for, and asks for the
time and for its dialer then. By itself it does what it does in one piece: each operation is shown
to run to the same end, at the time at which it ends there.
-/

namespace Socks5

variable {α β σ τ : Type} {d : Dialer}

namespace Routine

/-- Goes on from the value of a routine, as from a value that is there. -/
def andThen (fail : Failure → Failure) (leave : σ → τ) (next : α → σ → Routine (Ended β × τ))
    (r : Routine (Ended α × σ)) : Routine (Ended β × τ) :=
  r.bind fun
    | (.value a, s) => next a s
    | (.failure f, s) => .done (.failure (fail f), leave s)
    | (.never, s) => .done (.never, leave s)

lemma Runs.andThen {now time : Nat} {r : Routine (Ended α × σ)} {x : Ended α × σ}
    {fail : Failure → Failure} {leave : σ → τ} {next : α → σ → Routine (Ended β × τ)}
    {next' : α → σ → Ended β × τ} (clock : τ → Nat) (h : Runs d now r x time)
    (hleave : clock (leave x.2) = time)
    (hnext : ∀ a, Runs d time (next a x.2) (next' a x.2) (clock (next' a x.2).2)) :
    Runs d now (r.andThen fail leave next) (Ended.andThen fail leave next' x)
      (clock (Ended.andThen fail leave next' x).2) := by
  obtain ⟨ended, s⟩ := x
  refine h.bind ?_
  cases ended with
  | value a => exact hnext a
  | failure f =>
    subst hleave
    exact .done _
  | never =>
    subst hleave
    exact .done _

end Routine

open Routine (Runs)

/-! ### Waiting -/

/-- Waits for something that takes so many ticks, or until the waiting is broken off. -/
def passing (now ticks : Nat) (limit : Option Int) (cancelAt : Option Nat) :
    Routine (Ended Unit × Nat) :=
  match breakOff now limit cancelAt with
  | some (time, f) =>
    if time < now + ticks then .turn time fun _ now => .done (.failure f, now)
    else .turn (now + ticks) fun _ now => .done (.value (), now)
  | none => .turn (now + ticks) fun _ now => .done (.value (), now)

lemma passing_runs (now ticks : Nat) (limit : Option Int) (cancelAt : Option Nat) :
    Runs d now (passing now ticks limit cancelAt) (pass now ticks limit cancelAt)
      (pass now ticks limit cancelAt).2 := by
  have hpassed : max now (now + ticks) = now + ticks := by omega
  unfold passing pass
  rcases breakOff now limit cancelAt with _ | ⟨time, f⟩
  · exact .turn hpassed (.done _)
  · simp only
    split_ifs
    · exact .turn rfl (.done _)
    · exact .turn hpassed (.done _)

namespace Line

/-- Waits with a read for what arrives, a turn for every arrival. -/
def awaiting (stop : Option (Nat × Failure)) :
    Reading → (now : Nat) → Stream → List (Nat × Arrival) →
      Routine (Ended Bytes × Nat × Stream × List (Nat × Arrival))
  | r, now, s, [] => match s.attempt r with
    | (.done (.ok bs), s) => .done (.value bs, now, s, [])
    | (.done (.error f), s) => .done (.failure f, now, s, [])
    | (.waits _, s) => match stop with
      | some (time, f) => .turn time fun _ now => .done (.failure f, now, s, [])
      | none => .done (.never, now, s, [])
  | r, now, s, (time, a) :: rest =>
    if time ≤ now then awaiting stop r now (s.feed a) rest
    else match s.attempt r with
      | (.done (.ok bs), s) => .done (.value bs, now, s, (time, a) :: rest)
      | (.done (.error f), s) => .done (.failure f, now, s, (time, a) :: rest)
      | (.waits r, s) => match stop with
        | some (brk, f) =>
          if brk < time then .turn brk fun _ now => .done (.failure f, now, s, (time, a) :: rest)
          else .turn time fun _ now => awaiting stop r now (s.feed a) rest
        | none => .turn time fun _ now => awaiting stop r now (s.feed a) rest

lemma awaiting_runs (stop : Option (Nat × Failure)) (arrivals : List (Nat × Arrival)) :
    ∀ (r : Reading) (now : Nat) (s : Stream), Runs d now (awaiting stop r now s arrivals)
      (await stop r now s arrivals) (await stop r now s arrivals).2.1 := by
  induction arrivals with
  | nil =>
    intro r now s
    unfold awaiting await
    rcases s.attempt r with ⟨⟨f | bs⟩ | r', s'⟩
    · exact .done _
    · exact .done _
    · cases stop with
      | none => exact .done _
      | some stop => exact .turn rfl (.done _)
  | cons event rest ih =>
    intro r now s
    obtain ⟨time, a⟩ := event
    unfold awaiting await
    split_ifs with htime
    · exact ih r now _
    have hlater : max now time = time := by omega
    rcases s.attempt r with ⟨⟨f | bs⟩ | r', s'⟩
    · exact .done _
    · exact .done _
    · cases stop with
      | none => exact .turn hlater (ih r' time _)
      | some stop =>
        simp only
        split_ifs
        · exact .turn rfl (.done _)
        · exact .turn hlater (ih r' time _)

/-- Reads under the limits of a handshake. -/
def reading (deadline : Option Int) (r : Reading) (l : Line) : Routine (Ended Bytes × Line) :=
  .turn 0 fun d now =>
    let limit := Handshake.limitAt d.stepLimit deadline now
    if runOut limit then .done (.failure (.fault .timeout), { l with now })
    else (awaiting (breakOff now limit l.cancelAt) r now l.stream l.arrivals).map
      fun (ended, now, stream, arrivals) => (ended, { l with now, stream, arrivals })

lemma reading_runs (deadline : Option Int) (r : Reading) (l : Line) :
    Runs d l.now (l.reading deadline r)
      (l.read (Handshake.limitAt d.stepLimit deadline l.now) r)
      (l.read (Handshake.limitAt d.stepLimit deadline l.now) r).2.now := by
  refine .turn (Nat.max_zero _) ?_
  unfold read
  simp only
  split_ifs
  · exact .done _
  · exact (awaiting_runs _ l.arrivals r l.now l.stream).map _

/-- Writes under the limits of a handshake. -/
def writing (deadline : Option Int) (out : Bytes) (l : Line) : Routine (Ended Unit × Line) :=
  .turn 0 fun d now =>
    let limit := Handshake.limitAt d.stepLimit deadline now
    if runOut limit then .done (.failure (.fault .timeout), { l with now })
    else match l.stream.write out with
      | (.error f, stream) => .done (.failure (.fault f), { l with now, stream })
      | (.ok (delay, fault), stream) =>
        (passing now delay limit l.cancelAt).map
          fun (ended, now) => (landing fault ended, { l with now, stream })

lemma writing_runs (deadline : Option Int) (out : Bytes) (l : Line) :
    Runs d l.now (l.writing deadline out)
      (l.write (Handshake.limitAt d.stepLimit deadline l.now) out)
      (l.write (Handshake.limitAt d.stepLimit deadline l.now) out).2.now := by
  refine .turn (Nat.max_zero _) ?_
  simp only
  split_ifs with hlimit
  · rw [write_of_runOut hlimit]
    exact .done _
  · rcases hwrite : l.stream.write out with ⟨f | ⟨delay, fault⟩, stream⟩
    · rw [write_of_error hlimit hwrite]
      exact .done _
    · rw [write_of_ok hlimit hwrite]
      exact (passing_runs l.now delay _ l.cancelAt).map _

end Line

/-! ### The handshake -/

namespace Handshake

/-- Carries out a handshake on a line, turn by turn. -/
def routine (deadline : Option Int) : Handshake α → Line → Routine (Ended α × Line)
  | .done a, l => .done (.value a, l)
  | .fail e, l => .done (.failure (.error e), l)
  | .note n next, l => next.routine deadline (l.tell n)
  | .send request out next, l =>
    (l.writing deadline out).andThen (sendFailure request) id fun _ l => next.routine deadline l
  | .receive part count next, l =>
    (l.reading deadline (.exactly count)).andThen (receiveFailure part) id
      fun bs l => (next bs).routine deadline l

lemma routine_runs (deadline : Option Int) (h : Handshake α) :
    ∀ l : Line, Runs d l.now (h.routine deadline l) (h.run d.stepLimit deadline l)
      (h.run d.stepLimit deadline l).2.now := by
  induction h with
  | done a => exact fun l => .done _
  | fail e => exact fun l => .done _
  | note n next ih => exact fun l => ih (l.tell n)
  | send request out next ih =>
    intro l
    rw [run_send]
    exact (l.writing_runs deadline out).andThen Line.now rfl fun _ => ih _
  | receive part count next ih =>
    intro l
    rw [run_receive]
    exact (l.reading_runs deadline (.exactly count)).andThen Line.now rfl fun bs => ih bs _

end Handshake

/-! ### The dial -/

namespace Dialer

/-- The time at which a dial stands after a part of it. -/
def Reach.now (r : Reach) : Nat := r.2.2.now

/-- Opens the endpoint towards the relay, turn by turn. -/
def relayRoutine (script : EndpointScript) (deadline : Option Int) (bound target : Address)
    (l : Line) : Routine (Ended Session × Reach) :=
  .turn 0 fun d now =>
    let l := { l with now }
    let limit := Handshake.limitAt d.stepLimit deadline now
    if runOut limit then
      .done (.failure (relayFailure bound (.fault .timeout)), [], none,
        l.tell (.openingRelay (d.relayHost bound) bound.port))
    else if runOut d.openLimit then
      .done (.failure (relayFailure bound (.fault .timeout)), [], none, d.openingLine bound l)
    else
      (passing now script.delay (stricter limit d.openLimit) l.cancelAt).andThen
        (relayFailure bound)
        (fun now => ([(d.relayHost bound, bound.port)], none, { d.openingLine bound l with now }))
        fun _ _ => .turn 0 fun d now => .done (d.openedRelay script bound target
          (Line.catchUp { d.openingLine bound l with now }))

lemma openedRelay_now (script : EndpointScript) (bound target : Address) (l : Line) :
    Reach.now (d.openedRelay script bound target l).2 = l.now := by
  unfold openedRelay
  cases script.fault with
  | some f => rfl
  | none => exact d.checkHandle_now script _ bound target l

lemma relayRoutine_runs (script : EndpointScript) (deadline : Option Int) (bound target : Address)
    (l : Line) :
    Runs d l.now (relayRoutine script deadline bound target l)
      (d.openRelay script deadline bound target l)
      (Reach.now (d.openRelay script deadline bound target l).2) := by
  refine .turn (Nat.max_zero _) ?_
  rw [openRelay_eq]
  simp only
  split_ifs
  · exact .done _
  · exact .done _
  · refine (passing_runs _ _ _ _).andThen Reach.now rfl fun _ => .turn (Nat.max_zero _) ?_
    rw [openedRelay_now]
    exact .done _

/-- What a dial does once the proxy has agreed, turn by turn. -/
def establishing (script : Script) (network : Network) (target : Address) (deadline : Option Int)
    (bound : Address) (l : Line) : Routine (Ended Session × Reach) :=
  match network with
  | .tcp => .turn 0 fun d now =>
    let l := { l with now }
    .done (.value (streamSession l), [], none, l.tell (.connected target d.proxy))
  | .udp => relayRoutine script.endpoint deadline bound target l

lemma establishing_runs (script : Script) (network : Network) (target : Address)
    (deadline : Option Int) (bound : Address) (l : Line) :
    Runs d l.now (establishing script network target deadline bound l)
      (d.established script network target deadline bound l)
      (Reach.now (d.established script network target deadline bound l).2) := by
  cases network with
  | tcp => exact .turn (Nat.max_zero _) (.done _)
  | udp => exact relayRoutine_runs script.endpoint deadline bound target l

/-- What happens on an open line, turn by turn. -/
def conversing (script : Script) (network : Network) (target : Address) (deadline : Option Int)
    (l : Line) : Routine (Ended Session × Reach) :=
  ((Handshake.negotiate network target).routine deadline l).andThen id (fun l => ([], none, l))
    (establishing script network target deadline)

lemma conversing_runs (script : Script) (network : Network) (target : Address)
    (deadline : Option Int) (l : Line) :
    Runs d l.now (conversing script network target deadline l)
      (d.converse script network target deadline l)
      (Reach.now (d.converse script network target deadline l).2) := by
  rw [converse_eq]
  exact ((Handshake.negotiate network target).routine_runs deadline l).andThen Reach.now rfl
    fun bound => establishing_runs script network target deadline bound _

/-- What becomes of an opening of the stream that has come to its end, turn by turn. -/
def openedRoutine (script : Script) (network : Network) (target : Address)
    (deadline : Option Int) : Routine (Ended Session × Trace) :=
  .turn 0 fun d now => match script.stream.fault with
    | some f => .done (.failure (openFailure (.fault f)),
        traceAt d.openingNotes [d.proxy.toPair] now)
    | none =>
      (conversing script network target deadline (openedLine script now d.openingNotes)).bind
        fun (outcome, reach) => .turn 0 fun d _ => .done (outcome, d.conclude target outcome reach)

lemma openedRoutine_runs (script : Script) (network : Network) (target : Address)
    (deadline : Option Int) (now : Nat) :
    Runs d now (openedRoutine script network target deadline)
      (d.openedDial script network target deadline d.openingNotes now)
      (d.openedDial script network target deadline d.openingNotes now).2.now := by
  refine .turn (Nat.max_zero _) ?_
  unfold openedDial
  cases script.stream.fault with
  | some f => exact .done _
  | none =>
    have hrun := conversing_runs (d := d) script network target deadline
      (openedLine script now d.openingNotes)
    refine hrun.bind (.turn (Nat.max_zero _) ?_)
    have hnow := d.abandonLine_now target
      (d.converse script network target deadline (openedLine script now d.openingNotes)).1
      (d.converse script network target deadline (openedLine script now d.openingNotes)).2.2.2
    unfold Reach.now
    rw [← hnow]
    exact .done _

/-- Dials a target that was read, turn by turn. -/
def targetRoutine (script : Script) (network : Network) (target : Address) (limit : Option Int) :
    Routine (Ended Session × Trace) :=
  .turn 0 fun d now =>
    let deadline := limit.map ((now : Int) + ·)
    let limit := deadline.map fun x : Int => max 0 (x - now)
    if runOut limit then
      .done (.failure (openFailure (.fault .timeout)), traceAt [.connecting d.proxy] [] now)
    else if runOut d.openLimit then
      .done (.failure (openFailure (.fault .timeout)), traceAt d.openingNotes [] now)
    else
      (passing now script.stream.delay (stricter limit d.openLimit) script.cancelAt).andThen
        openFailure (traceAt d.openingNotes [d.proxy.toPair])
        fun _ _ => openedRoutine script network target deadline

lemma targetRoutine_runs (script : Script) (network : Network) (target : Address)
    (limit : Option Int) :
    Runs d 0 (targetRoutine script network target limit)
      ((d.dialTarget script network target limit).outcome,
        (d.dialTarget script network target limit).trace)
      (d.dialTarget script network target limit).trace.now := by
  have hdial := d.dialTarget_eq script network target limit
  have htime : (d.dialTarget script network target limit).trace.now = _ :=
    congrArg (Trace.now ∘ Prod.snd) hdial
  -- A limit is the time until the deadline, as long as no time has passed.
  have hdeadline : limit.map (((0 : Nat) : Int) + ·) = limit := by simp
  have hlimit : (limit.map fun x => max 0 (x - ((0 : Nat) : Int))) = limit.map (max 0) := by simp
  rw [hdial, htime]
  refine .turn (Nat.max_zero 0) ?_
  simp only [hdeadline, hlimit, Function.comp_apply]
  split_ifs
  · exact .done _
  · exact .done _
  · exact (passing_runs _ _ _ _).andThen Trace.now rfl
      fun _ => openedRoutine_runs script network target limit _

/-- Dials, turn by turn. -/
def dialRoutine (script : Script) (network address : Text) (limit : Option Int) :
    Routine Dialled :=
  .turn 0 fun _ now => match Network.ofName? network with
    | none => .done ⟨.failure (.error (.network network)), { now }⟩
    | some network => match Address.parse address with
      | .ok target => (targetRoutine script network target limit).map
          fun (outcome, trace) => ⟨outcome, trace⟩
      | .error f => .done ⟨.failure (.ofTarget f), { now }⟩

/-- By itself a dial does turn by turn what it does in one piece, in the same time. -/
theorem dialRoutine_runs (d : Dialer) (script : Script) (network address : Text)
    (limit : Option Int) :
    Runs d 0 (dialRoutine script network address limit) (d.dial script network address limit)
      (d.dial script network address limit).trace.now := by
  refine .turn (Nat.max_zero 0) ?_
  unfold dial
  cases Network.ofName? network with
  | none => exact .done _
  | some network =>
    cases Address.parse address with
    | error f => exact .done _
    | ok target => exact (targetRoutine_runs script network target limit).map _

end Dialer

end Socks5
