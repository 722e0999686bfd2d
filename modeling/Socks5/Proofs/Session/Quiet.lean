import Socks5.Proofs.Session.Sending

/-!
# What does not depend on the octets of a control connection

The octets on the control connection of a relay say nothing. `Session.quiet` is a session without
them, and with nothing to come. An operation does the `Same` there if it gives the same results and
leaves the same session but for such octets. Until time passes all operations do so, if only they
see the end of the control connection either way.
-/

namespace Socks5

/-! ### Sameness -/

section

variable {σ τ : Type} {quiet : σ → σ} {f g : σ → List τ × σ} {s s' : σ}

/-- An operation does the same in a state that was made quiet. -/
def Same (quiet : σ → σ) (f : σ → List τ × σ) (s : σ) : Prop :=
  (f (quiet s)).1 = (f s).1 ∧ quiet (f (quiet s)).2 = quiet (f s).2

lemma Same.eq (h : Same quiet f s) (h' : Same quiet f s') (hquiet : quiet s = quiet s') :
    (f s).1 = (f s').1 ∧ quiet (f s).2 = quiet (f s').2 := by
  obtain ⟨hdone, hleft⟩ := h
  obtain ⟨hdone', hleft'⟩ := h'
  rw [hquiet] at hdone hleft
  exact ⟨hdone.symm.trans hdone', hleft.symm.trans hleft'⟩

/-- One operation after the other. -/
lemma Same.andThen (hf : Same quiet f s) (hg : ∀ s, Same quiet g s) :
    Same quiet (fun s => ((f s).1 ++ (g (f s).2).1, (g (f s).2).2)) s := by
  obtain ⟨hdone, hleft⟩ := hf
  obtain ⟨hdone', hleft'⟩ := (hg (f (quiet s)).2).eq (hg (f s).2) hleft
  exact ⟨congrArg₂ _ hdone hdone', hleft'⟩

end

/-! ### Relays -/

/-- Whether octets arrive. -/
def Arrival.isData : Arrival → Bool
  | data _ => true
  | _ => false

/-- The stream with nothing to be read. -/
def Stream.quiet (s : Stream) : Stream := { s with buffer := [] }

namespace Relay

variable {r r' : Relay}

/-- The relay with nothing to be read on the control connection. -/
def quiet (r : Relay) : Relay := { r with control := r.control.quiet }

@[simp] lemma quiet_quiet (r : Relay) : r.quiet.quiet = r.quiet := rfl

/-- Made quiet, the control connection looks as it did to those who use the relay. -/
def Heard (r : Relay) : Prop := r.quiet.checkControl = r.checkControl

lemma same_watch (r : Relay) : Same quiet watch r := by
  obtain ⟨⟨buffer, ended, failure, _, _, _, _, _, _⟩, endpoint, fixed, watching, leaving⟩ := r
  cases watching with
  | false => exact ⟨rfl, rfl⟩
  | true =>
    cases failure with
    | some f => cases hf : f.isSystem <;> simp [Same, watch, quiet, Stream.quiet, hf]
    | none => cases ended <;> exact ⟨rfl, rfl⟩

lemma same_release (r : Relay) : Same quiet release r := by
  obtain ⟨control, endpoint, fixed, watching, leaving⟩ := r
  cases watching <;> exact ⟨rfl, rfl⟩

lemma same_settle (r : Relay) : Same quiet settle r := r.same_watch.andThen same_release

lemma same_feed (a : Arrival) (r : Relay) : Same quiet (·.feed a) r := by
  have hquiet : quiet { r.quiet with control := r.quiet.control.feed a } =
      quiet { r with control := r.control.feed a } := by
    cases a <;> rfl
  exact (same_settle { r.quiet with control := r.quiet.control.feed a }).eq (same_settle _) hquiet

lemma same_onEndpoint (f : DatagramEndpoint → List (Completion Bytes) × DatagramEndpoint)
    (r : Relay) : Same quiet (·.onEndpoint f) r := ⟨rfl, rfl⟩

lemma same_waitClosed (t : Ticket) (r : Relay) : Same quiet (·.waitClosed t) r :=
  same_release { r with leaving := r.leaving ++ [t] }

lemma same_receive (t : Ticket) (h : r.Heard) : Same quiet (·.receive t) r := by
  unfold Same receive
  simp only [show r.quiet.checkControl = r.checkControl from h]
  cases r.checkControl with
  | error f => exact ⟨rfl, rfl⟩
  | ok _ => exact r.same_onEndpoint _

lemma quiet_sendTo (payload : Bytes) (dest : Option Value) (h : r.Heard) :
    r.quiet.sendTo payload dest = (r.sendTo payload dest).map fun (n, r) => (n, r.quiet) := by
  have hresolve : r.quiet.resolve dest = r.resolve dest := rfl
  have hendpoint : r.quiet.endpoint = r.endpoint := rfl
  unfold sendTo
  rw [show r.quiet.checkControl = r.checkControl from h, hresolve, hendpoint]
  cases r.resolve dest with
  | error f => rfl
  | ok target =>
    cases r.checkControl with
    | error f => rfl
    | ok _ => cases hsend : r.endpoint.send (Frame.datagram target payload) <;>
        simp only [bind, Except.bind, hsend] <;> rfl

/-- Giving up has no effect in both cases, or the same one. -/
lemma abandon?_quiet (t : Ticket) (r : Relay) :
    r.quiet.abandon? t = none ∧ r.abandon? t = none ∨
      ∃ done r₁ r₂, r.quiet.abandon? t = some (done, r₁) ∧ r.abandon? t = some (done, r₂) ∧
        r₁.quiet = r₂.quiet := by
  have hleaving : r.quiet.leaving = r.leaving := rfl
  have hendpoint : r.quiet.endpoint = r.endpoint := rfl
  unfold abandon?
  rw [hleaving, hendpoint]
  split_ifs
  · exact .inr ⟨_, _, _, rfl, rfl, rfl⟩
  · cases r.endpoint.abandon? t with
    | none => exact .inl ⟨rfl, rfl⟩
    | some e => exact .inr ⟨_, _, _, rfl, rfl, rfl⟩

end Relay

/-! ### Sessions -/

namespace Session

variable {s : Session} {r : Relay}

/-- The session with nothing to be read on the control connection of its relay, and with nothing to
come there. -/
def quiet (s : Session) : Session :=
  { s with
    connection := match s.connection with
      | .relay r => .relay r.quiet
      | c => c
    arrivals := [] }

lemma quiet_connection (h : s.connection = .relay r) : s.quiet.connection = .relay r.quiet := by
  simp only [quiet, h]

lemma quiet_of_relay (h : s.connection = .relay r) :
    s.quiet = { s with connection := .relay r.quiet, arrivals := [] } := by simp only [quiet, h]

@[simp] lemma quiet_quiet (s : Session) : s.quiet.quiet = s.quiet := by
  obtain ⟨_, connection, _, _, _, _, _, _⟩ := s
  cases connection <;> rfl

lemma same_finish (done : List (Completion Outcome)) (s : Session) :
    Same quiet (finish done) s := by
  obtain ⟨_, connection, _, _, _, _, _, _⟩ := s
  cases connection <;> exact ⟨rfl, rfl⟩

lemma same_onRelay {f : Relay → List (Completion Outcome) × Relay}
    (hf : ∀ r, s.connection = .relay r → Same Relay.quiet f r) : Same quiet (onRelay f) s := by
  obtain ⟨_, connection, _, _, _, _, _, _⟩ := s
  cases connection with
  | stream c => exact ⟨rfl, rfl⟩
  | endpoint e => exact ⟨rfl, rfl⟩
  | relay r =>
    obtain ⟨hdone, hleft⟩ := hf r rfl
    simp only [Same, onRelay, quiet, finish, hdone, hleft, and_self]

lemma same_onEndpoint (f : DatagramEndpoint → List (Completion Bytes) × DatagramEndpoint)
    (s : Session) : Same quiet (onEndpoint f) s := by
  obtain ⟨_, connection, _, _, _, _, _, _⟩ := s
  cases connection <;> exact ⟨rfl, rfl⟩

lemma same_onControl (a : Arrival) (s : Session) : Same quiet (onControl a) s := by
  obtain ⟨_, connection, _, _, _, _, _, _⟩ := s
  cases connection with
  | stream c => exact ⟨rfl, rfl⟩
  | endpoint e => exact ⟨rfl, rfl⟩
  | relay r =>
    obtain ⟨hdone, hleft⟩ := r.same_feed a
    simp only at hdone hleft
    simp only [Same, onControl, quiet, finish, hdone, hleft, and_self]

lemma same_drained (d : Draining) (s : Session) : Same quiet (drained d) s := s.same_finish _

lemma same_abandon (t : Ticket) (f : Failure) (s : Session) : Same quiet (abandon t f) s := by
  obtain ⟨_, connection, _, _, _, draining, _, _⟩ := s
  unfold Same abandon
  by_cases hdrains : draining.any (·.ticket = t)
  · cases connection <;> simp [hdrains, quiet, finish]
  cases connection with
  | stream c =>
    simp only [quiet, hdrains]
    cases c.abandon? t <;> exact ⟨rfl, rfl⟩
  | endpoint e =>
    simp only [quiet, hdrains]
    cases e.abandon? t <;> exact ⟨rfl, rfl⟩
  | relay r =>
    obtain ⟨h, h'⟩ | ⟨done, r₁, r₂, h, h', hquiet⟩ := r.abandon?_quiet t
    · simp [quiet, hdrains, h, h']
    · simp [quiet, hdrains, h, h', finish, hquiet]

lemma same_inTurn {α : Type} {f : α → Session → List (Ticket × Result) × Session}
    (hf : ∀ a s, Same quiet (f a) s) (l : List α) : ∀ s, Same quiet (inTurn f l) s := by
  induction l with
  | nil => exact fun s => ⟨rfl, s.quiet_quiet⟩
  | cons a rest ih => exact fun s => (hf a s).andThen ih

/-! ### Steps -/

lemma same_start {f : Session → List (Ticket × Result) × Session}
    (hf : ∀ pending, Same quiet f { s with pending }) (t : Ticket) (shape : Shape)
    (deadline : Option Nat) : Same quiet (start t shape deadline f) s :=
  have h := hf (s.pending ++ [(⟨t, shape, deadline⟩ : Pending)])
  h

lemma same_instantly (t : Ticket) (r : Result) (s : Session) : Same quiet (instantly t r) s :=
  ⟨rfl, s.quiet_quiet⟩

lemma same_startWithin {f : Session → List (Ticket × Result) × Session}
    (hf : ∀ pending, Same quiet f { s with pending }) (t : Ticket) (shape : Shape)
    (limit : Option Int) : Same quiet (startWithin t shape limit f) s := by
  cases limit with
  | none => exact same_start hf t shape none
  | some l =>
    unfold Same startWithin
    by_cases hl : l ≤ 0
    · simp only [hl, if_true]
      exact s.same_instantly t _
    · simp only [hl, if_false]
      exact same_start hf t shape (some (s.now + l.toNat))

lemma same_close (s : Session) : Same quiet close s := by
  obtain ⟨_, connection, _, _, _, _, _, _⟩ := s
  cases connection <;> exact ⟨rfl, rfl⟩

lemma same_waitClosed (t : Ticket) (shape : Shape) (s : Session) :
    Same quiet (waitClosed t shape) s := by
  obtain ⟨_, connection, _, _, _, _, _, _⟩ := s
  cases connection with
  | stream c => exact ⟨rfl, rfl⟩
  | endpoint e => exact ⟨rfl, rfl⟩
  | relay r => exact same_start (fun _ => same_onRelay fun r _ => r.same_waitClosed t) t shape none

lemma same_sendTo (hrelay : s.connection = .relay r) (hheard : r.Heard) (t : Ticket)
    (payload : Bytes) (dest : Option Value) : Same quiet (sendTo t payload dest) s := by
  have hquiet := r.quiet_sendTo payload dest hheard
  rw [Same, quiet_of_relay hrelay]
  simp only [sendTo, hrelay, hquiet]
  cases r.sendTo payload dest with
  | error f => simp [Except.map, instantly, quiet, hrelay]
  | ok p => simp [Except.map, instantly, quiet]

lemma same_receiveFrom (hrelay : s.connection = .relay r) (hheard : r.Heard) (t : Ticket)
    (shape : Shape) (limit : Option Int) : Same quiet (receiveFrom t shape limit) s := by
  refine same_startWithin (fun pending => same_onRelay fun r' hr' => ?_) t shape limit
  cases hrelay.symm.trans hr'
  exact Relay.same_receive t hheard

lemma same_outside {f : Session → List (Ticket × Result) × Session} (hf : Same quiet f s)
    (t : Ticket) : Same quiet (fun s => outside t (f s)) s :=
  ⟨congrArg (· ++ [((t, .ok .nothing) : Ticket × Result)]) hf.1, hf.2⟩

/-- A step that lets no time pass does the same when there is nothing to be read on the control
connection, but for looking whether all of it was read. -/
lemma same_perform (hrelay : s.connection = .relay r) (hheard : r.Heard) (t : Ticket) {step : Step}
    (hadvance : ∀ ticks, step ≠ .advance ticks) (hend : step ≠ .atEnd) :
    Same quiet (perform t step) s := by
  cases step with
  | advance ticks => exact absurd rfl (hadvance ticks)
  | cancel u =>
    obtain ⟨hdone, hleft⟩ := s.same_abandon u .cancelled
    exact ⟨congrArg (· ++ _) hdone, hleft⟩
  | isClosing =>
    have hclosing : s.quiet.isClosing = s.isClosing := by
      simp only [isClosing, quiet_connection hrelay, hrelay]
      rfl
    simp only [Same, perform, hclosing]
    exact s.same_instantly t _
  | close => exact same_outside s.same_close t
  | waitClosed => exact s.same_waitClosed t .nothing
  | leave => exact (s.same_close).andThen (same_waitClosed t .left)
  | atEnd => exact absurd rfl hend
  | names =>
    have hnames : s.quiet.names = s.names := by
      simp only [names, quiet_connection hrelay, hrelay]
      rfl
    simp only [Same, perform, hnames]
    exact s.same_instantly t _
  | read n limit =>
    simp only [Same, perform, quiet_connection hrelay, hrelay]
    exact same_receiveFrom hrelay hheard t .payload limit
  | readExactly n =>
    simp only [Same, perform, quiet_connection hrelay, hrelay]
    exact s.same_instantly t _
  | write bs =>
    simp only [Same, perform, quiet_connection hrelay, hrelay]
    exact same_sendTo hrelay hheard t bs none
  | sendTo bs dest => exact same_sendTo hrelay hheard t bs dest
  | receiveFrom limit => exact same_receiveFrom hrelay hheard t .message limit
  | send bs =>
    have hendpoint : s.quiet.endpoint? = s.endpoint? := by
      simp only [endpoint?, quiet_connection hrelay, hrelay]
      rfl
    simp only [Same, perform, send, hendpoint]
    split
    · split
      · next e _ => exact ⟨rfl, (s.same_onEndpoint fun _ => ([], e)).2⟩
      · exact s.same_instantly t _
    · exact s.same_instantly t _
  | receive => exact same_start (fun _ => same_onEndpoint _ _) t .bytes none
  | closeEndpoint reason => exact same_outside (s.same_onEndpoint _) t
  | info name default =>
    have hendpoint : s.quiet.endpoint? = s.endpoint? := by
      simp only [endpoint?, quiet_connection hrelay, hrelay]
      rfl
    simp only [Same, perform, hendpoint]
    exact s.same_instantly t _
  | make info => exact same_outside (s.same_onEndpoint _) t
  | arrive batch => exact same_outside (s.same_onEndpoint _) t
  | report f => exact same_outside (s.same_onEndpoint _) t
  | lose f => exact same_outside (s.same_onEndpoint _) t
  | control a => exact same_outside (s.same_onControl a) t
  | closeControl =>
    simp only [Same, perform, quiet_connection hrelay, hrelay, outside]
    exact ⟨trivial, rfl⟩

/-! ### Reports -/

variable {s' : Session}

/-- What is shown but for whether all input was read. -/
def View.withoutEnd (v : View) : View := { v with atEnd := none }

/-- The report with such a view. -/
def Report.withoutEnd (r : Report) : Report := { r with view := r.view.withoutEnd }

lemma same_view (s : Session) : s.quiet.view.1.withoutEnd = s.view.1.withoutEnd ∧
    s.quiet.view.2.quiet = s.view.2.quiet := by
  obtain ⟨_, connection, _, _, _, _, _, _⟩ := s
  cases connection <;> exact ⟨rfl, rfl⟩

lemma view_eq (hquiet : s.quiet = s'.quiet) :
    s.view.1.withoutEnd = s'.view.1.withoutEnd ∧ s.view.2.quiet = s'.view.2.quiet := by
  obtain ⟨hview, hleft⟩ := s.same_view
  obtain ⟨hview', hleft'⟩ := s'.same_view
  rw [hquiet] at hview hleft
  exact ⟨hview.symm.trans hview', hleft.symm.trans hleft'⟩

/-- What is reported of a step depends on its results and on the session made quiet. -/
lemma report_eq {t : Ticket} {step : Step} (hdone : (s.perform t step).1 = (s'.perform t step).1)
    (hquiet : (s.perform t step).2.quiet = (s'.perform t step).2.quiet) :
    (s.report t step).1.withoutEnd = (s'.report t step).1.withoutEnd ∧
      (s.report t step).2.quiet = (s'.report t step).2.quiet := by
  obtain ⟨hview, hleft⟩ := view_eq hquiet
  refine ⟨?_, hleft⟩
  unfold Report.withoutEnd report
  simp only [hdone, hview]

end Session

end Socks5
