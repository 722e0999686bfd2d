import Mathlib.Tactic.Common
import Mathlib.Order.MinMax
import Mathlib.Data.Nat.Basic
import Socks5.Proofs.Dial.Reading

/-!
# The steps of a dial

A dial is put together from operations that take time: each goes on from the value of the one
before it, and ends at once if that one fails. `Ended.andThen` is this way of going on; handshakes,
the opening of a relay and the whole dial are shown to follow it. No step goes back in time, changes
when the caller is cancelled, or closes the stream.
-/

namespace Socks5

variable {α β σ τ : Type}

/-! ### Going on from a value -/

/-- Goes on from a value; a failure ends everything, under the name and in the state given here. -/
def Ended.andThen (fail : Failure → Failure) (leave : σ → τ) (next : α → σ → Ended β × τ) :
    Ended α × σ → Ended β × τ
  | (.value a, s) => next a s
  | (.failure f, s) => (.failure (fail f), leave s)
  | (.never, s) => (.never, leave s)

lemma Ended.andThen_induct {fail : Failure → Failure} {leave : σ → τ}
    {next : α → σ → Ended β × τ} {P : Ended β × τ → Prop} {r : Ended α × σ}
    (hvalue : ∀ a, r.1 = .value a → P (next a r.2))
    (hfailure : ∀ f, r.1 = .failure f → P (.failure (fail f), leave r.2))
    (hnever : r.1 = .never → P (.never, leave r.2)) : P (andThen fail leave next r) := by
  obtain ⟨ended, s⟩ := r
  cases ended with
  | value a => exact hvalue a rfl
  | failure f => exact hfailure f rfl
  | never => exact hnever rfl

/-! ### What breaks off a step -/

section

variable {now c time : Nat} {x : Int} {limit : Option Int} {cancelAt : Option Nat} {f : Failure}

lemma breakOff_of_lt (h : c < now + x.toNat) :
    breakOff now (some x) (some c) = some (c, .cancelled) :=
  if_pos h

lemma breakOff_of_le (h : ∀ c ∈ cancelAt, now + x.toNat ≤ c) :
    breakOff now (some x) cancelAt = some (now + x.toNat, .fault .timeout) := by
  cases cancelAt with
  | none => rfl
  | some c => exact if_neg (Nat.not_lt.mpr (h c rfl))

lemma breakOff_eq_some (h : breakOff now limit cancelAt = some (time, f)) :
    (∃ x ∈ limit, time = now + x.toNat ∧ f = .fault .timeout) ∨
      time ∈ cancelAt ∧ f = .cancelled := by
  cases limit <;> cases cancelAt <;> grind [breakOff]

end

/-! ### What a step leaves alone -/

/-- The reads of a stream fail with a fault, or will once all this has arrived. -/
def Stream.Fails (f : Fault) (arrivals : List (Nat × Arrival)) (s : Stream) : Prop :=
  s.failure = some f ∨ ∃ time, (time, .failed f) ∈ arrivals

namespace Stream

variable {f : Fault} {s : Stream} {rest : List (Nat × Arrival)}

lemma Fails.of_failure {s' : Stream} (h : s'.Fails f rest) (hfailure : s'.failure = s.failure) :
    s.Fails f rest := h.imp_left hfailure.symm.trans

lemma Fails.of_feed {time : Nat} {a : Arrival} (h : (s.feed a).Fails f rest) :
    s.Fails f ((time, a) :: rest) := by
  obtain hfailure | ⟨time', hmem⟩ := h
  · cases a with
    | data bs => exact .inl hfailure
    | ended => exact .inl hfailure
    | failed f' =>
      obtain rfl : f' = f := Option.some.inj hfailure
      exact .inr ⟨time, List.mem_cons_self⟩
  · exact .inr ⟨time', List.mem_cons_of_mem _ hmem⟩

lemma Fails.of_foldl_feed (arrivals : List (Nat × Arrival)) :
    ∀ s : Stream, (arrivals.foldl (fun s a => s.feed a.2) s).Fails f rest →
      s.Fails f (arrivals ++ rest) := by
  induction arrivals with
  | nil => exact fun s h => h
  | cons event more ih => exact fun s h => (ih (s.feed event.2) h).of_feed

end Stream

/-- A line after some step, as far as the step leaves it alone. -/
structure Line.Follows (l l' : Line) : Prop where
  cancelAt : l'.cancelAt = l.cancelAt
  now : l.now ≤ l'.now
  closed : l'.stream.closed = l.stream.closed
  faults : ∀ f, l'.stream.Fails f l'.arrivals → l.stream.Fails f l.arrivals

namespace Line.Follows

variable {l l' l'' : Line}

lemma refl (l : Line) : l.Follows l := ⟨rfl, le_rfl, rfl, fun _ h => h⟩

lemma trans (h : l.Follows l') (h' : l'.Follows l'') : l.Follows l'' :=
  ⟨h'.cancelAt.trans h.cancelAt, h.now.trans h'.now, h'.closed.trans h.closed,
    fun f hf => h.faults f (h'.faults f hf)⟩

lemma tell (h : l.Follows l') (n : Note) : l.Follows (l'.tell n) :=
  ⟨h.cancelAt, h.now, h.closed, h.faults⟩

lemma catchUp (h : l.Follows l') : l.Follows l'.catchUp where
  cancelAt := h.cancelAt
  now := h.now
  closed := (Stream.foldl_feed_closed _ _).trans h.closed
  faults := fun f hf => by
    have hall : l'.stream.Fails f (l'.arrivals.takeWhile (·.1 ≤ l'.now) ++
        l'.arrivals.dropWhile (·.1 ≤ l'.now)) := Stream.Fails.of_foldl_feed _ _ hf
    exact h.faults f (by rwa [List.takeWhile_append_dropWhile] at hall)

lemma later (h : l.Follows l') {now : Nat} (hnow : l'.now ≤ now) : l.Follows { l' with now } :=
  ⟨h.cancelAt, h.now.trans hnow, h.closed, h.faults⟩

end Line.Follows

/-! ### Waiting, reading and writing -/

lemma le_pass (now ticks : Nat) (limit : Option Int) (cancelAt : Option Nat) :
    now ≤ (pass now ticks limit cancelAt).2 := by
  unfold pass
  split
  · split_ifs
    · exact le_max_left _ _
    · exact Nat.le_add_right _ _
  · exact Nat.le_add_right _ _

/-- Trying a read neither closes the stream nor changes its fault. -/
lemma Stream.attempt_frame (s : Stream) (r : Reading) :
    (s.attempt r).2.closed = s.closed ∧ (s.attempt r).2.failure = s.failure := by
  unfold attempt
  split
  · exact ⟨rfl, rfl⟩
  · cases r with
    | upTo n =>
      simp only
      split_ifs <;> exact ⟨rfl, rfl⟩
    | exactly n =>
      simp only
      split_ifs <;> exact ⟨rfl, rfl⟩
    | toEnd collected =>
      simp only
      split_ifs <;> exact ⟨rfl, rfl⟩

lemma Stream.write_frame (s : Stream) (out : Bytes) :
    (s.write out).2.closed = s.closed ∧ (s.write out).2.failure = s.failure := by
  unfold write
  split_ifs
  · exact ⟨rfl, rfl⟩
  · simp only
    split <;> exact ⟨rfl, rfl⟩

namespace Line

/-- Waiting with a read never goes back in time, never closes the stream and brings no fault that
did not arrive. -/
lemma await_frame (stop : Option (Nat × Failure)) (arrivals : List (Nat × Arrival)) :
    ∀ (r : Reading) (now : Nat) (s : Stream), now ≤ (await stop r now s arrivals).2.1 ∧
      (await stop r now s arrivals).2.2.1.closed = s.closed ∧
      ∀ f, (await stop r now s arrivals).2.2.1.Fails f (await stop r now s arrivals).2.2.2 →
        s.Fails f arrivals := by
  induction arrivals with
  | nil =>
    intro r now s
    obtain ⟨hclosed, hfailure⟩ := s.attempt_frame r
    unfold await
    rcases hattempt : s.attempt r with ⟨⟨f | bs⟩ | r', s'⟩ <;> rw [hattempt] at hclosed hfailure
    · exact ⟨le_rfl, hclosed, fun _ hf => hf.of_failure hfailure⟩
    · exact ⟨le_rfl, hclosed, fun _ hf => hf.of_failure hfailure⟩
    · cases stop with
      | none => exact ⟨le_rfl, hclosed, fun _ hf => hf.of_failure hfailure⟩
      | some stop => exact ⟨le_max_left _ _, hclosed, fun _ hf => hf.of_failure hfailure⟩
  | cons event rest ih =>
    intro r now s
    obtain ⟨time, a⟩ := event
    obtain ⟨hclosed, hfailure⟩ := s.attempt_frame r
    unfold await
    split_ifs with htime
    · obtain ⟨hle, hrest, hfaults⟩ := ih r now (s.feed a)
      exact ⟨hle, hrest.trans (s.feed_closed a), fun f hf => (hfaults f hf).of_feed⟩
    rcases hattempt : s.attempt r with ⟨⟨f | bs⟩ | r', s'⟩ <;> rw [hattempt] at hclosed hfailure
    · exact ⟨le_rfl, hclosed, fun _ hf => hf.of_failure hfailure⟩
    · exact ⟨le_rfl, hclosed, fun _ hf => hf.of_failure hfailure⟩
    · obtain ⟨hle, hrest, hfaults⟩ := ih r' time (s'.feed a)
      have hlater : now ≤ (await stop r' time (s'.feed a) rest).2.1 ∧
          (await stop r' time (s'.feed a) rest).2.2.1.closed = s.closed ∧
          ∀ f, (await stop r' time (s'.feed a) rest).2.2.1.Fails f
            (await stop r' time (s'.feed a) rest).2.2.2 → s.Fails f ((time, a) :: rest) :=
        ⟨(Nat.le_of_not_le htime).trans hle, (hrest.trans (s'.feed_closed a)).trans hclosed,
          fun f hf => (hfaults f hf).of_feed.of_failure hfailure⟩
      cases stop with
      | none => exact hlater
      | some stop =>
        simp only
        split_ifs
        · exact ⟨le_max_left _ _, hclosed, fun _ hf => hf.of_failure hfailure⟩
        · exact hlater

lemma read_follows (limit : Option Int) (r : Reading) (l : Line) :
    l.Follows (l.read limit r).2 := by
  unfold read
  split_ifs
  · exact .refl l
  · obtain ⟨hle, hclosed, hfaults⟩ := await_frame (breakOff l.now limit l.cancelAt) l.arrivals r
      l.now l.stream
    exact ⟨rfl, hle, hclosed, hfaults⟩

/-- How a write ends whose octets have left, or have not. -/
def landing (fault : Option Fault) : Ended Unit → Ended Unit
  | .value () => match fault with
    | some f => .failure (.fault f)
    | none => .value ()
  | ended => ended

lemma landing_eq_never {fault : Option Fault} {ended : Ended Unit} :
    landing fault ended = .never ↔ ended = .never := by
  cases ended <;> cases fault <;> simp [landing]

lemma write_of_runOut {limit : Option Int} (hlimit : runOut limit) (out : Bytes) (l : Line) :
    l.write limit out = (.failure (.fault .timeout), l) := if_pos hlimit

lemma write_of_error {limit : Option Int} (hlimit : ¬ runOut limit) {out : Bytes} {l : Line}
    {f : Fault} {stream : Stream} (h : l.stream.write out = (.error f, stream)) :
    l.write limit out = (.failure (.fault f), { l with stream }) := by
  simp only [write, if_neg hlimit, h]

lemma write_of_ok {limit : Option Int} (hlimit : ¬ runOut limit) {out : Bytes} {l : Line}
    {delay : Nat} {fault : Option Fault} {stream : Stream}
    (h : l.stream.write out = (.ok (delay, fault), stream)) :
    l.write limit out = (landing fault (pass l.now delay limit l.cancelAt).1,
      { l with stream, now := (pass l.now delay limit l.cancelAt).2 }) := by
  simp only [write, if_neg hlimit, h]
  obtain ⟨ended, now⟩ := pass l.now delay limit l.cancelAt
  cases ended with
  | value => cases fault <;> rfl
  | failure f => rfl
  | never => rfl

lemma write_follows (limit : Option Int) (out : Bytes) (l : Line) :
    l.Follows (l.write limit out).2 := by
  by_cases hlimit : runOut limit
  · rw [write_of_runOut hlimit]
    exact .refl l
  obtain ⟨hclosed, hfailure⟩ := l.stream.write_frame out
  rcases h : l.stream.write out with ⟨f | ⟨delay, fault⟩, stream⟩ <;> rw [h] at hclosed hfailure
  · rw [write_of_error hlimit h]
    exact ⟨rfl, le_rfl, hclosed, fun _ hf => hf.of_failure hfailure⟩
  · rw [write_of_ok hlimit h]
    exact ⟨rfl, le_pass _ _ _ _, hclosed, fun _ hf => hf.of_failure hfailure⟩

end Line

/-! ### The handshake -/

namespace Handshake

variable (step deadline : Option Int)

lemma run_send (request : Request) (out : Bytes) (next : Handshake α) (l : Line) :
    (send request out next).run step deadline l =
      (l.write (limitAt step deadline l.now) out |> Ended.andThen (sendFailure request) id
        fun _ l => next.run step deadline l) := by
  simp only [run]
  rcases l.write (limitAt step deadline l.now) out with ⟨_ | _ | _, l⟩ <;> rfl

lemma run_receive (part : Part) (count : Nat) (next : Bytes → Handshake α) (l : Line) :
    (receive part count next).run step deadline l =
      (l.read (limitAt step deadline l.now) (.exactly count) |> Ended.andThen (receiveFailure part)
        id fun bs l => (next bs).run step deadline l) := by
  simp only [run]
  rcases l.read (limitAt step deadline l.now) (.exactly count) with ⟨_ | _ | _, l⟩ <;> rfl

lemma run_follows (h : Handshake α) : ∀ l : Line, l.Follows (h.run step deadline l).2 := by
  induction h with
  | done a => exact fun l => .refl l
  | fail e => exact fun l => .refl l
  | note n next ih => exact fun l => ((Line.Follows.refl l).tell n).trans (ih (l.tell n))
  | send request out next ih =>
    intro l
    have hwrite := l.write_follows (limitAt step deadline l.now) out
    rw [run_send]
    exact Ended.andThen_induct (P := fun r => l.Follows r.2) (fun _ _ => hwrite.trans (ih _))
      (fun _ _ => hwrite) fun _ => hwrite
  | receive part count next ih =>
    intro l
    have hread := l.read_follows (limitAt step deadline l.now) (.exactly count)
    rw [run_receive]
    exact Ended.andThen_induct (P := fun r => l.Follows r.2) (fun bs _ => hread.trans (ih bs _))
      (fun _ _ => hread) fun _ => hread

end Handshake

/-! ### The relay -/

namespace Dialer

/-- How far the opening of a relay got: the attempts, what was opened, and the line. -/
abbrev Reach := List (Text × UInt16) × Option Handle × Line

variable (d : Dialer)

lemma checkHandle_ends (script : EndpointScript) (host : Text) (bound target : Address)
    (l : Line) : (d.checkHandle script host bound target l).1 ≠ .never := by
  unfold checkHandle
  cases script.kind with
  | endpoint socket =>
    simp only
    split_ifs <;> exact nofun
  | unmade => exact nofun
  | foreign closable => exact nofun

lemma checkHandle_now (script : EndpointScript) (host : Text) (bound target : Address)
    (l : Line) : (d.checkHandle script host bound target l).2.2.now = l.now := by
  unfold checkHandle
  cases script.kind with
  | endpoint socket =>
    simp only
    split_ifs <;> rfl
  | unmade => rfl
  | foreign closable => rfl

lemma checkHandle_follows (script : EndpointScript) (host : Text) (bound target : Address)
    (l : Line) : l.Follows (d.checkHandle script host bound target l).2.2 := by
  unfold checkHandle
  cases script.kind with
  | endpoint socket =>
    simp only
    split_ifs
    · exact (Line.Follows.refl l).tell _
    · exact .refl l
  | unmade => exact .refl l
  | foreign closable => exact .refl l

/-- What becomes of an opening of the relay that has come to its end. -/
def openedRelay (script : EndpointScript) (bound target : Address) (l : Line) :
    Ended Session × Reach :=
  match script.fault with
  | some f => (.failure (relayFailure bound (.fault f)), [(d.relayHost bound, bound.port)], none, l)
  | none =>
    let (ended, handle, l) := d.checkHandle script (d.relayHost bound) bound target l
    (ended, [(d.relayHost bound, bound.port)], some handle, l)

lemma openedRelay_follows (script : EndpointScript) (bound target : Address) (l : Line) :
    l.Follows (d.openedRelay script bound target l).2.2.2 := by
  unfold openedRelay
  cases script.fault with
  | some f => exact .refl l
  | none => exact d.checkHandle_follows script _ bound target l

/-- The line on which the relay is about to be opened. -/
def openingLine (bound : Address) (l : Line) : Line :=
  (l.tell (.openingRelay (d.relayHost bound) bound.port)).tell
    (.openingEndpoint (d.relayHost bound) bound.port)

/-- Opening a relay takes its time, unless the limits leave none. -/
lemma openRelay_eq (script : EndpointScript) (deadline : Option Int) (bound target : Address)
    (l : Line) :
    d.openRelay script deadline bound target l =
      if runOut (Handshake.limitAt d.stepLimit deadline l.now) then
        (.failure (relayFailure bound (.fault .timeout)), [], none,
          l.tell (.openingRelay (d.relayHost bound) bound.port))
      else if runOut d.openLimit then
        (.failure (relayFailure bound (.fault .timeout)), [], none, d.openingLine bound l)
      else
        (pass l.now script.delay
          (stricter (Handshake.limitAt d.stepLimit deadline l.now) d.openLimit) l.cancelAt |>
        Ended.andThen (relayFailure bound)
          (fun now => ([(d.relayHost bound, bound.port)], none, { d.openingLine bound l with now }))
          fun _ now => d.openedRelay script bound target
            (Line.catchUp { d.openingLine bound l with now })) := by
  unfold openRelay
  simp only [openingLine]
  split_ifs
  · rfl
  · rfl
  · simp only [Line.tell]
    rcases pass _ _ _ _ with ⟨_ | _ | _, now⟩
    · unfold Ended.andThen openedRelay
      cases script.fault <;> rfl
    · rfl
    · rfl

lemma openRelay_follows (script : EndpointScript) (deadline : Option Int) (bound target : Address)
    (l : Line) : l.Follows (d.openRelay script deadline bound target l).2.2.2 := by
  have hopening : l.Follows (d.openingLine bound l) := ((Line.Follows.refl l).tell _).tell _
  rw [openRelay_eq]
  split_ifs
  · exact (Line.Follows.refl l).tell _
  · exact hopening
  · have hlate := hopening.later (le_pass l.now script.delay
      (stricter (Handshake.limitAt d.stepLimit deadline l.now) d.openLimit) l.cancelAt)
    exact Ended.andThen_induct (P := fun r : Ended Session × Reach => l.Follows r.2.2.2)
      (fun _ _ => hlate.catchUp.trans (d.openedRelay_follows script bound target _))
      (fun _ _ => hlate) fun _ => hlate

/-! ### The dial -/

/-- What a dial does once the proxy has agreed. -/
def established (script : Script) (network : Network) (target : Address) (deadline : Option Int)
    (bound : Address) (l : Line) : Ended Session × Reach :=
  match network with
  | .tcp => (.value (streamSession l), [], none, l.tell (.connected target d.proxy))
  | .udp => d.openRelay script.endpoint deadline bound target l

lemma established_follows (script : Script) (network : Network) (target : Address)
    (deadline : Option Int) (bound : Address) (l : Line) :
    l.Follows (d.established script network target deadline bound l).2.2.2 := by
  cases network with
  | tcp => exact (Line.Follows.refl l).tell _
  | udp => exact d.openRelay_follows script.endpoint deadline bound target l

lemma converse_eq (script : Script) (network : Network) (target : Address)
    (deadline : Option Int) (l : Line) :
    d.converse script network target deadline l =
      ((Handshake.negotiate network target).run d.stepLimit deadline l |>
        Ended.andThen id (fun l => ([], none, l))
          (d.established script network target deadline)) := by
  unfold converse
  rcases (Handshake.negotiate network target).run d.stepLimit deadline l with ⟨_ | _ | _, l⟩
  · cases network <;> rfl
  · rfl
  · rfl

lemma converse_follows (script : Script) (network : Network) (target : Address)
    (deadline : Option Int) (l : Line) :
    l.Follows (d.converse script network target deadline l).2.2.2 := by
  have hrun := (Handshake.negotiate network target).run_follows d.stepLimit deadline l
  rw [converse_eq]
  exact Ended.andThen_induct (P := fun r : Ended Session × Reach => l.Follows r.2.2.2)
    (fun bound _ => hrun.trans (d.established_follows script network target deadline bound _))
    (fun _ _ => hrun) fun _ => hrun

/-- Where a dial stands after a part of it. -/
def traceAt (notes : List Note) (streamCalls : List (Text × UInt16)) (now : Nat) : Trace :=
  { streamCalls, now, notes }

/-- The trace of a dial that had an open line; the line is closed unless there is a session. -/
def conclude (target : Address) (outcome : Ended Session) : Reach → Trace
  | (endpointCalls, handle, l) =>
    { streamCalls := [d.proxy.toPair], endpointCalls
      stream := some (d.abandonLine target outcome l).stream, handle
      now := (d.abandonLine target outcome l).now
      notes := (d.abandonLine target outcome l).notes }

/-- What a dial comes to on an open line. -/
def dialOn (script : Script) (network : Network) (target : Address) (deadline : Option Int)
    (l : Line) : Ended Session × Trace :=
  ((d.converse script network target deadline l).1,
    d.conclude target (d.converse script network target deadline l).1
      (d.converse script network target deadline l).2)

/-- What becomes of an opening of the stream that has come to its end. -/
def openedDial (script : Script) (network : Network) (target : Address) (deadline : Option Int)
    (notes : List Note) (now : Nat) : Ended Session × Trace :=
  match script.stream.fault with
  | some f => (.failure (openFailure (.fault f)), traceAt notes [d.proxy.toPair] now)
  | none => d.dialOn script network target deadline (openedLine script now notes)

/-- What is told before the stream is opened. -/
def openingNotes : List Note :=
  [.connecting d.proxy, .openingStream d.proxy.toPair.1 d.proxy.toPair.2]

@[simp] lemma abandonLine_now (target : Address) (outcome : Ended Session) (l : Line) :
    (d.abandonLine target outcome l).now = l.now := by
  rcases outcome with _ | f | _
  · rfl
  · cases f <;> rfl
  · rfl

lemma le_openedDial (script : Script) (network : Network) (target : Address)
    (deadline : Option Int) (notes : List Note) (now : Nat) :
    now ≤ (d.openedDial script network target deadline notes now).2.now := by
  unfold openedDial
  cases script.stream.fault with
  | some f => exact le_rfl
  | none =>
    have hline := d.converse_follows script network target deadline (openedLine script now notes)
    exact hline.now.trans (d.abandonLine_now target _ _).ge

/-- Opening the stream takes its time, unless the limits leave none. -/
lemma dialTarget_eq (script : Script) (network : Network) (target : Address)
    (limit : Option Int) :
    ((d.dialTarget script network target limit).outcome,
      (d.dialTarget script network target limit).trace) =
      if runOut (limit.map (max 0)) then
        (.failure (openFailure (.fault .timeout)), traceAt [.connecting d.proxy] [] 0)
      else if runOut d.openLimit then
        (.failure (openFailure (.fault .timeout)), traceAt d.openingNotes [] 0)
      else
        (pass 0 script.stream.delay (stricter (limit.map (max 0)) d.openLimit) script.cancelAt |>
        Ended.andThen openFailure (traceAt d.openingNotes [d.proxy.toPair])
          fun _ now => d.openedDial script network target limit d.openingNotes now) := by
  unfold dialTarget
  simp only
  split_ifs
  · rfl
  · rfl
  · rcases pass _ _ _ _ with ⟨_ | _ | _, now⟩
    · unfold Ended.andThen openedDial
      cases script.stream.fault <;> rfl
    · rfl
    · rfl

/-- A dial fails before anything is opened, or dials a target; the dialer, the script and the limit
have no part in which of both it is. -/
lemma dial_cases (network address : Text) :
    (∃ f, ∀ (d : Dialer) script limit, d.dial script network address limit = ⟨.failure f, {}⟩) ∨
      ∃ n target, Network.ofName? network = some n ∧ ∀ (d : Dialer) script limit,
        d.dial script network address limit = d.dialTarget script n target limit := by
  unfold dial
  cases Network.ofName? network with
  | none => exact .inl ⟨_, fun _ _ _ => rfl⟩
  | some n =>
    cases Address.parse address with
    | error f => exact .inl ⟨_, fun _ _ _ => rfl⟩
    | ok target => exact .inr ⟨n, target, rfl, fun _ _ _ => rfl⟩

end Dialer

end Socks5
