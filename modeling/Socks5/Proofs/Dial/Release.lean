import Socks5.Proofs.Dial.Cancellation

/-!
# What a dial leaves open

A dial that ends without a session has closed everything that it had opened: the stream, and what
was opened towards the relay as far as that can be closed. A dial that ends with a session has
closed neither. This holds whatever the network does and whenever the dial is cancelled.
-/

namespace Socks5

/-- What was opened towards the relay is closed: an endpoint that has a socket, and anything else
that can be closed. -/
def Handle.Closed (kind : HandleKind) : Handle → Prop
  | .endpoint e => kind = .unmade ∨ e.port = .closed
  | .foreign closed => kind = .foreign false ∨ closed = true

/-- Everything that a dial has opened is closed. -/
structure Trace.Released (kind : HandleKind) (t : Trace) : Prop where
  stream : ∀ s ∈ t.stream, s.closed = true
  handle : ∀ h ∈ t.handle, h.Closed kind

/-- A session is about what a dial has opened, and this is still open. -/
structure Trace.Holds (s : Session) (t : Trace) : Prop where
  stream : ∃ c, t.stream = some c ∧ s.control? = some c ∧ c.closed = false
  handle : t.handle = s.endpoint?.map .endpoint
  endpoint : ∀ e ∈ s.endpoint?, e.port = .opened

/-- An outcome of something that was cancelled, or whose time ran out; `fail` names faults. -/
def Ended.BrokenOff {α : Type} (fail : Failure → Failure) (ended : Ended α) : Prop :=
  ended = .failure .cancelled ∨ ended = .failure (fail (.fault .timeout))

/-- The trace tells of everything that was opened: an opening of which it tells nothing was not
begun, has failed or was broken off. -/
structure Dialled.Accounts (script : Script) (r : Dialled) : Prop where
  stream : r.trace.stream = none →
    r.trace.streamCalls = [] ∨ script.stream.fault.isSome ∨ r.trace.now < script.stream.delay
  handle : r.trace.handle = none →
    r.trace.endpointCalls = [] ∨ script.endpoint.fault.isSome ∨
      ∃ bound, r.outcome.BrokenOff (Dialer.relayFailure bound)

/-! ### Waiting -/

/-- A wait comes to its end, or is broken off before. -/
lemma pass_ends (now ticks : Nat) (limit : Option Int) (cancelAt : Option Nat) :
    pass now ticks limit cancelAt = (.value (), now + ticks) ∨
      ∃ time f, pass now ticks limit cancelAt = (.failure f, max now time) ∧ time < now + ticks ∧
        (f = .cancelled ∨ f = .fault .timeout) := by
  unfold pass
  cases hstop : breakOff now limit cancelAt with
  | none => exact .inl rfl
  | some stop =>
    obtain ⟨time, f⟩ := stop
    simp only
    split_ifs with htime
    · obtain ⟨-, -, -, hf⟩ | ⟨-, hf⟩ := breakOff_eq_some hstop
      · exact .inr ⟨time, f, rfl, htime, .inr hf⟩
      · exact .inr ⟨time, f, rfl, htime, .inl hf⟩
    · exact .inl rfl

namespace Dialer

variable (d : Dialer)

/-! ### The relay -/

/-- How the opening of a relay may end: with a session that holds what was opened, or with that
closed. -/
structure Reach.Sound (script : EndpointScript) (ended : Ended Session) (r : Reach) : Prop where
  held : ∀ s, ended = .value s → s.control? = some r.2.2.stream ∧
    r.2.1 = s.endpoint?.map .endpoint ∧ ∀ e ∈ s.endpoint?, e.port = .opened
  released : ∀ f, ended = .failure f → ∀ h ∈ r.2.1, h.Closed script.kind
  known : r.2.1 = none → r.1 = [] ∨ script.fault.isSome ∨
    ∃ bound, ended.BrokenOff (relayFailure bound)

/-- Nothing was opened, and it is known why. -/
lemma Reach.sound_of_failure {script : EndpointScript} {f : Failure}
    {calls : List (Text × UInt16)} {l : Line} (h : calls = [] ∨ script.fault.isSome ∨
      ∃ bound, Ended.BrokenOff (relayFailure bound) (.failure f : Ended Session)) :
    Reach.Sound script (.failure f) (calls, none, l) :=
  ⟨fun _ hs => (nomatch hs), fun _ _ _ hh => (nomatch hh), fun _ => h⟩

lemma checkHandle_sound (script : EndpointScript) (host : Text) (bound target : Address)
    (calls : List (Text × UInt16)) (l : Line) :
    Reach.Sound script (d.checkHandle script host bound target l).1
      (calls, some (d.checkHandle script host bound target l).2.1,
        (d.checkHandle script host bound target l).2.2) := by
  unfold checkHandle
  cases hkind : script.kind with
  | endpoint socket =>
    simp only
    split_ifs
    · refine ⟨fun s hs => ?_, fun _ hf => (nomatch hf), fun hh => nomatch hh⟩
      cases hs
      exact ⟨rfl, rfl, fun e he => by cases he; rfl⟩
    · refine ⟨fun _ hs => (nomatch hs), fun f _ h hh => ?_, fun hh => nomatch hh⟩
      cases hh
      exact .inr rfl
  | unmade =>
    refine ⟨fun _ hs => (nomatch hs), fun f _ h hh => ?_, fun hh => nomatch hh⟩
    obtain rfl := Option.some.inj hh
    simp only [openedHandle, hkind]
    exact .inl rfl
  | foreign closable =>
    refine ⟨fun _ hs => (nomatch hs), fun f _ h hh => ?_, fun hh => nomatch hh⟩
    cases hh
    cases closable with
    | true => exact .inr rfl
    | false => exact .inl hkind

lemma openRelay_sound (script : EndpointScript) (deadline : Option Int) (bound target : Address)
    (l : Line) :
    Reach.Sound script (d.openRelay script deadline bound target l).1
      (d.openRelay script deadline bound target l).2 := by
  rw [openRelay_eq]
  split_ifs
  · exact Reach.sound_of_failure (.inl rfl)
  · exact Reach.sound_of_failure (.inl rfl)
  obtain hpass | ⟨time, f, hpass, -, hf⟩ := pass_ends l.now script.delay
    (stricter (Handshake.limitAt d.stepLimit deadline l.now) d.openLimit) l.cancelAt
  · rw [hpass]
    simp only [Ended.andThen, openedRelay]
    cases hfault : script.fault with
    | some f => exact Reach.sound_of_failure (.inr (.inl (by rw [hfault]; rfl)))
    | none => exact d.checkHandle_sound script _ bound target _ _
  · rw [hpass]
    refine Reach.sound_of_failure (.inr (.inr ⟨bound, ?_⟩))
    obtain rfl | rfl := hf
    · exact .inl rfl
    · exact .inr rfl

lemma converse_sound (script : Script) (network : Network) (target : Address)
    (deadline : Option Int) (l : Line) :
    Reach.Sound script.endpoint (d.converse script network target deadline l).1
      (d.converse script network target deadline l).2 := by
  rw [converse_eq]
  rcases (Handshake.negotiate network target).run d.stepLimit deadline l with ⟨bound | f | _, l⟩
  · cases network with
    | tcp =>
      refine ⟨fun s hs => ?_, fun _ hf => (nomatch hf), fun _ => .inl rfl⟩
      cases hs
      exact ⟨rfl, rfl, fun _ he => nomatch he⟩
    | udp => exact d.openRelay_sound script.endpoint deadline bound target l
  · exact Reach.sound_of_failure (.inl rfl)
  · exact ⟨fun _ hs => (nomatch hs), fun _ hf => (nomatch hf), fun _ => .inl rfl⟩

/-! ### The dial -/

lemma abandonLine_failure_closed (target : Address) (f : Failure) (l : Line) :
    (d.abandonLine target (.failure f) l).stream.closed = true := by
  cases f <;> rfl

/-- How a dial may end: everything that was opened is told, and held by the session or closed. -/
structure Sound (script : Script) (r : Dialled) : Prop where
  accounts : r.Accounts script
  released : ∀ f, r.outcome = .failure f → r.trace.Released script.endpoint.kind
  holds : ∀ s, r.outcome = .value s → r.trace.Holds s

/-- A dial that has not opened a stream. -/
lemma sound_of_failure {script : Script} {f : Failure} {notes : List Note}
    {calls : List (Text × UInt16)} {now : Nat}
    (h : calls = [] ∨ script.stream.fault.isSome ∨ now < script.stream.delay) :
    Sound script ⟨.failure f, traceAt notes calls now⟩ where
  accounts := ⟨fun _ => h, fun _ => .inl rfl⟩
  released := fun _ _ => ⟨fun _ hs => (nomatch hs), fun _ hh => (nomatch hh)⟩
  holds := fun _ hs => (nomatch hs)

lemma dialOn_sound (script : Script) (network : Network) (target : Address)
    (deadline : Option Int) {l : Line} (hl : l.stream.closed = false) :
    Sound script ⟨(d.dialOn script network target deadline l).1,
      (d.dialOn script network target deadline l).2⟩ := by
  have hfollows := d.converse_follows script network target deadline l
  have hsound := d.converse_sound script network target deadline l
  unfold dialOn
  rcases hconverse : d.converse script network target deadline l with ⟨ended, calls, handle, l'⟩
  rw [hconverse] at hfollows hsound
  refine ⟨⟨fun hstream => (nomatch hstream), hsound.known⟩, fun f hf => ?_, fun s hs => ?_⟩
  · obtain rfl : ended = .failure f := hf
    refine ⟨fun c hc => ?_, hsound.released f rfl⟩
    cases hc
    exact d.abandonLine_failure_closed target f l'
  · obtain rfl : ended = .value s := hs
    obtain ⟨hcontrol, hhandle, hopen⟩ := hsound.held s rfl
    exact ⟨⟨l'.stream, rfl, hcontrol, hfollows.closed.trans hl⟩, hhandle, hopen⟩

lemma openedLine_closed (script : Script) (now : Nat) (notes : List Note) :
    (openedLine script now notes).stream.closed = false :=
  Stream.foldl_feed_closed _ _

lemma dialTarget_sound (script : Script) (network : Network) (target : Address)
    (limit : Option Int) : Sound script (d.dialTarget script network target limit) := by
  have hdial := d.dialTarget_eq script network target limit
  generalize d.dialTarget script network target limit = r at hdial ⊢
  obtain ⟨outcome, trace⟩ := r
  split_ifs at hdial
  · cases hdial
    exact sound_of_failure (.inl rfl)
  · cases hdial
    exact sound_of_failure (.inl rfl)
  obtain hpass | ⟨time, f, hpass, hearly, -⟩ := pass_ends 0 script.stream.delay
    (stricter (limit.map (max 0)) d.openLimit) script.cancelAt
  · rw [hpass] at hdial
    simp only [Ended.andThen, openedDial] at hdial
    cases hfault : script.stream.fault with
    | some f =>
      simp only [hfault] at hdial
      cases hdial
      exact sound_of_failure (.inr (.inl (by rw [hfault]; rfl)))
    | none =>
      simp only [hfault] at hdial
      cases hdial
      exact d.dialOn_sound script network target limit (openedLine_closed script _ _)
  · rw [hpass] at hdial
    cases hdial
    exact sound_of_failure (.inr (.inr (by omega)))

lemma dial_sound (script : Script) (network address : Text) (limit : Option Int) :
    Sound script (d.dial script network address limit) := by
  unfold dial
  cases Network.ofName? network with
  | none => exact sound_of_failure (.inl rfl)
  | some network =>
    cases Address.parse address with
    | error f => exact sound_of_failure (.inl rfl)
    | ok target => exact d.dialTarget_sound script network target limit

/-- Whatever the network does and whenever the dial is cancelled, everything that was opened is
told: a dial without a session has closed it, and a dial with a session holds it open. A cancelled
dial is the undisturbed one if that has ended by then, and otherwise it ends at that moment, as
cancelled. -/
theorem dial_leaks_nothing (d : Dialer) (script : Script) (network address : Text)
    (limit : Option Int) :
    let r := d.dial script network address limit
    r.Accounts script ∧
      (∀ f, r.outcome = .failure f → r.trace.Released script.endpoint.kind) ∧
      (∀ s, r.outcome = .value s → r.trace.Holds s) ∧
      ∀ c, script.cancelAt = some c →
        let whole := d.dial { script with cancelAt := none } network address limit
        (whole.outcome ≠ .never ∧ whole.trace.now ≤ c ∧ r = whole) ∨
          ((whole.outcome = .never ∨ c < whole.trace.now) ∧ r.outcome = .failure .cancelled ∧
            r.trace.now = c) := by
  intro r
  have hsound := d.dial_sound script network address limit
  refine ⟨hsound.accounts, hsound.released, hsound.holds, fun c hcancel => ?_⟩
  have hcuts := d.dial_cuts { script with cancelAt := none } limit network address rfl (c := c)
  rw [← hcancel] at hcuts
  obtain ⟨hends, hearly, heq⟩ | hcut := hcuts
  · obtain ⟨houtcome, htrace⟩ := Prod.mk.inj heq
    exact .inl ⟨hends, hearly, congrArg₂ Dialled.mk houtcome htrace⟩
  · exact .inr hcut

/-- A dial that is cancelled while it opens the relay closes the stream; left alone it would have
opened an endpoint, found that this is none for datagrams, and closed both. -/
theorem dial_leaks_nothing_when_cancelled :
    let d : Dialer := { proxy := ⟨.ipv4 ⟨10, 0, 0, 1⟩, 1080⟩ }
    let script : Script :=
      { stream := { arrivals := [(1, .data [5, 0]), (2, .data [5, 0, 0, 1, 10, 0, 0, 1, 4, 56])] }
        endpoint := { delay := 10, kind := .endpoint none }
        cancelAt := some 5 }
    let r := d.dial script "udp" "192.0.2.1:53" none
    let whole := d.dial { script with cancelAt := none } "udp" "192.0.2.1:53" none
    whole.trace.now = 12 ∧ whole.trace.Released (.endpoint none) ∧
      r.outcome = .failure .cancelled ∧ r.trace.now = 5 ∧ r.trace.Released (.endpoint none) := by
  intro d script r whole
  have hnow : whole.trace.now = 12 := by decide
  have hfailure : whole.outcome = .failure (.error .notUdp) := rfl
  obtain ⟨-, hwhole, -, -⟩ :=
    dial_leaks_nothing d { script with cancelAt := none } "udp" "192.0.2.1:53" none
  obtain ⟨-, hreleased, -, hcuts⟩ := dial_leaks_nothing d script "udp" "192.0.2.1:53" none
  obtain ⟨-, hearly, -⟩ | ⟨-, hcancelled, htime⟩ := hcuts 5 rfl
  · exact absurd (hnow.ge.trans hearly) (by decide)
  · exact ⟨hnow, hwhole _ hfailure, hcancelled, htime, hreleased _ hcancelled⟩

end Dialer

end Socks5
