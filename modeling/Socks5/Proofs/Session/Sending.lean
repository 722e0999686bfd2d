import Socks5.Proofs.Relay.Sending
import Socks5.Proofs.Session.Clock
import Socks5.Proofs.Session.ControlLoss

/-!
# What a relay sends in the course of a run

A payload that is sent through a relay is put on the wire as one datagram, or nothing at all
happens. The fixed destination of a relay never changes, and besides sending nothing puts anything
on the wire; so every relayed datagram of a run carries its payload to the fixed destination.
-/

namespace Socks5

namespace Session

variable {t : Ticket} {s : Session} {r r' : Relay} {step : Step}

/-! ### What keeps a relay silent -/

/-- The session is about a relay that has sent nothing more, and its destination is fixed as
before. -/
def Retains (r : Relay) (s : Session) : Prop := ∃ r', s.connection = .relay r' ∧ r.Keeps r'

namespace Retains

lemma onRelay {f : Relay → List (Completion Outcome) × Relay} (hf : ∀ r : Relay, r.Keeps (f r).2)
    (h : s.Retains r) : (s.onRelay f).2.Retains r := by
  obtain ⟨r', hr', hkeeps⟩ := h
  simp only [Session.onRelay, hr']
  exact ⟨_, rfl, hkeeps.trans (hf r')⟩

lemma onEndpoint {f : DatagramEndpoint → List (Completion Bytes) × DatagramEndpoint}
    (hf : ∀ e, (f e).2.sent = e.sent) (h : s.Retains r) : (s.onEndpoint f).2.Retains r := by
  obtain ⟨r', hr', hkeeps⟩ := h
  simp only [Session.onEndpoint, hr']
  exact ⟨_, rfl, hkeeps.trans (.onEndpoint (hf r'.endpoint))⟩

lemma onControl (a : Arrival) (h : s.Retains r) : (s.onControl a).2.Retains r := by
  obtain ⟨r', hr', hkeeps⟩ := h
  simp only [Session.onControl, hr']
  exact ⟨_, rfl, hkeeps.trans (.feed a r')⟩

lemma abandon (t : Ticket) (f : Failure) (h : s.Retains r) : (s.abandon t f).2.Retains r := by
  obtain ⟨r', hr', hkeeps⟩ := h
  unfold Session.abandon
  split_ifs
  · exact ⟨r', hr', hkeeps⟩
  · simp only [hr']
    cases habandon : r'.abandon? t with
    | none => exact ⟨r', hr', hkeeps⟩
    | some pair => exact ⟨pair.2, rfl, hkeeps.trans (.abandon habandon)⟩

/-- Nothing is sent just because time passes. -/
lemma lasting (r : Relay) : Lasting fun _ _ _ s => s.Retains r where
  rests _ h := h
  moves _ h := h
  control h := h.onControl _
  signal g h := h.onEndpoint fun e => e.signal_sent g
  drained _ h := h
  ages _ h := h
  expires h := h.abandon _ _

lemma advance (ticks : Nat) (h : s.Retains r) : (s.advance ticks).2.Retains r :=
  @Lasting.advance _ [] s (lasting r) ticks h

lemma close (h : s.Retains r) : s.close.2.Retains r := by
  obtain ⟨r', hr', -⟩ := id h
  simp only [Session.close, hr']
  exact h.onRelay Relay.Keeps.close

lemma waitClosed (t : Ticket) (shape : Shape) (h : s.Retains r) :
    (s.waitClosed t shape).2.Retains r := by
  obtain ⟨r', hr', -⟩ := id h
  simp only [Session.waitClosed, hr']
  exact onRelay (Relay.Keeps.waitClosed t) h

lemma receiveFrom (t : Ticket) (shape : Shape) (limit : Option Int) (h : s.Retains r) :
    (s.receiveFrom t shape limit).2.Retains r := by
  unfold Session.receiveFrom startWithin
  cases limit with
  | none => exact onRelay (Relay.Keeps.receive t) h
  | some l =>
    simp only
    split_ifs
    · exact h
    · exact onRelay (Relay.Keeps.receive t) h

end Retains

/-- A step that is no sending leaves a relay as silent as it was. -/
lemma Retains.perform (h : s.Retains r) (t : Ticket)
    (hstep : ∀ payload dest, step ≠ .write payload ∧ step ≠ .sendTo payload dest ∧
      step ≠ .send payload) : (s.perform t step).2.Retains r := by
  obtain ⟨r', hr', -⟩ := id h
  cases step with
  | advance ticks => exact h.advance ticks
  | cancel u => exact h.abandon u .cancelled
  | isClosing => exact h
  | close => exact h.close
  | waitClosed => exact h.waitClosed t .nothing
  | leave => exact h.close.waitClosed t .left
  | atEnd => exact h
  | names => exact h
  | read n limit =>
    simp only [Session.perform, hr']
    exact h.receiveFrom t .payload limit
  | readExactly n =>
    simp only [Session.perform, hr']
    exact h
  | write payload => exact absurd rfl (hstep payload none).1
  | sendTo payload dest => exact absurd rfl (hstep payload dest).2.1
  | receiveFrom limit => exact h.receiveFrom t .message limit
  | send payload => exact absurd rfl (hstep payload none).2.2
  | receive => exact Retains.onEndpoint (fun e => e.receive_sent t) h
  | closeEndpoint reason => exact h.onEndpoint fun e => e.close_sent reason
  | info name default => exact h
  | make info => exact h.onEndpoint fun _ => rfl
  | arrive batch => exact h.onEndpoint fun e => e.arrive_sent batch
  | report f => exact h.onEndpoint fun e => e.report_sent f
  | lose f => exact h.onEndpoint fun e => e.lose_sent f
  | control a => exact h.onControl a
  | closeControl =>
    obtain ⟨r', hr', hkeeps⟩ := h
    simp only [Session.perform, outside, hr']
    exact ⟨_, rfl, hkeeps.trans ⟨rfl, rfl⟩⟩

/-! ### Sending -/

/-- A payload goes out as one datagram and its length is returned, or it is refused and nothing
happens. -/
lemma perform_sendTo (hrelay : s.connection = .relay r) (t : Ticket) (payload : Bytes)
    (dest : Option Value) :
    (∃ target, r.Admits payload dest target ∧ s.perform t (.sendTo payload dest) =
      ([(t, .ok (.count payload.length))],
        { s with connection := .relay { r with endpoint := { r.endpoint with
            sent := r.endpoint.sent ++ [[0, 0, 0] ++ target.pack ++ payload] } } })) ∨
    ∃ f, r.Refuses payload dest f ∧ s.perform t (.sendTo payload dest) = ([(t, .error f)], s) := by
  obtain ⟨target, hadmits, hsend⟩ | ⟨f, hrefuses, hsend⟩ := r.sendTo_cases payload dest
  · refine .inl ⟨target, hadmits, ?_⟩
    simp only [Session.perform, Session.sendTo, hrelay, hsend, instantly]
  · refine .inr ⟨f, hrefuses, ?_⟩
    simp only [Session.perform, Session.sendTo, hrelay, hsend, instantly]

/-- To write to a relay is to send to its fixed destination. -/
lemma perform_write (hrelay : s.connection = .relay r) (t : Ticket) (payload : Bytes) :
    s.perform t (.write payload) = s.perform t (.sendTo payload none) := by
  simp only [Session.perform, hrelay]

/-- What a step may put on the wire when the destination is fixed: a relayed datagram carries its
payload there, and a bare one is sent as it is. -/
def Posts (d : Address) : Step → List Bytes → Prop
  | .write payload, out | .sendTo payload _, out =>
    out = [] ∨ ∃ bs, out = [bs] ∧ bs.length ≤ 65535 ∧
      Frame.parseDatagram bs = .ok (payload, d.withoutZone)
  | .send bs, out => out = [] ∨ out = [bs]
  | _, out => out = []

/-- The session is about a relay with this fixed destination that has sent just these datagrams. -/
def HasSent (d : Address) (sent : List Bytes) (s : Session) : Prop :=
  ∃ r, s.connection = .relay r ∧ r.fixed = some d ∧ r.endpoint.sent = sent

variable {d : Address} {sent : List Bytes}

lemma Retains.hasSent (h : s.Retains r) (hfixed : r.fixed = some d) :
    s.HasSent d r.endpoint.sent := by
  obtain ⟨r', hr', hkeeps⟩ := h
  exact ⟨r', hr', hkeeps.fixed.trans hfixed, hkeeps.sent⟩

lemma parseDatagram_relayed (target : Address) (payload : Bytes) :
    Frame.parseDatagram ([0, 0, 0] ++ target.pack ++ payload) =
      .ok (payload, target.withoutZone) :=
  Frame.parseDatagram_eq_ok_iff.mpr ⟨_, rfl, target.unpack_pack_append payload⟩

lemma HasSent.sendTo (h : s.HasSent d sent) (t : Ticket) (payload : Bytes) (dest : Option Value) :
    ∃ out, (s.perform t (.sendTo payload dest)).2.HasSent d (sent ++ out) ∧
      Posts d (.sendTo payload dest) out := by
  obtain ⟨r, hr, hfixed, rfl⟩ := h
  obtain ⟨target, hadmits, hperform⟩ | ⟨f, -, hperform⟩ := perform_sendTo hr t payload dest
  · obtain rfl : target = d := (hfixed ▸ hadmits.resolves).eq_fixed
    refine ⟨[[0, 0, 0] ++ target.pack ++ payload], ?_, .inr ⟨_, rfl, hadmits.fits, ?_⟩⟩
    · rw [hperform]
      exact ⟨_, rfl, hfixed, rfl⟩
    · exact parseDatagram_relayed target payload
  · refine ⟨[], ?_, .inl rfl⟩
    rw [hperform, List.append_nil]
    exact ⟨r, hr, hfixed, rfl⟩

/-- One step of a run: it puts on the wire what it may, and the destination stays fixed. -/
lemma HasSent.perform (h : s.HasSent d sent) (t : Ticket) (step : Step) :
    ∃ out, (s.perform t step).2.HasSent d (sent ++ out) ∧ Posts d step out := by
  obtain ⟨r, hr, hfixed, rfl⟩ := id h
  have hsilent (hstep : ∀ payload dest, step ≠ .write payload ∧ step ≠ .sendTo payload dest ∧
      step ≠ .send payload) : (s.perform t step).2.HasSent d (r.endpoint.sent ++ []) := by
    rw [List.append_nil]
    exact (Retains.perform ⟨r, hr, .refl r⟩ t hstep).hasSent hfixed
  cases step with
  | write payload =>
    rw [perform_write hr]
    exact h.sendTo t payload none
  | sendTo payload dest => exact h.sendTo t payload dest
  | send bs =>
    obtain ⟨-, hsend⟩ | ⟨-, -, hsend⟩ | ⟨-, -, hsend⟩ := r.endpoint.send_cases bs
    · refine ⟨[], ?_, .inl rfl⟩
      simp only [Session.perform, Session.send, endpoint?, hr, hsend, instantly, List.append_nil]
      exact h
    · refine ⟨[], ?_, .inl rfl⟩
      simp only [Session.perform, Session.send, endpoint?, hr, hsend, instantly, List.append_nil]
      exact h
    · refine ⟨[bs], ?_, .inr rfl⟩
      simp only [Session.perform, Session.send, endpoint?, hr, hsend, instantly, Session.onEndpoint]
      exact ⟨_, rfl, hfixed, rfl⟩
  | _ => exact ⟨[], hsilent (by simp), rfl⟩

/-- The whole of a run: every step puts on the wire what it may. -/
lemma HasSent.after (steps : List Step) : ∀ {t s sent}, HasSent d sent s →
    ∃ outs, (s.after t steps).HasSent d (sent ++ outs.flatten) ∧
      List.Forall₂ (Posts d) steps outs := by
  induction steps with
  | nil =>
    intro t s sent h
    exact ⟨[], by simpa using h, .nil⟩
  | cons step rest ih =>
    intro t s sent h
    obtain ⟨out, hout, hposts⟩ := h.perform t step
    have hview : (s.report t step).2.HasSent d (sent ++ out) := hout
    obtain ⟨outs, houts, hall⟩ := ih (t := t + 1) hview
    refine ⟨out :: outs, ?_, .cons hposts hall⟩
    rwa [List.flatten_cons, ← List.append_assoc]

/-- Sending through a relay either puts exactly one datagram on the wire, with the header for the
target in front of the payload, and returns the length of the payload; or it fails for the first
reason there is and changes nothing. Only one of both is possible. In every run of a relay with a
fixed destination, every datagram that is relayed has at most 65535 octets and reads as its payload
for that destination; nothing else is sent but what a caller sends through the bare endpoint. -/
theorem sending_is_atomic_and_pinned (hrelay : s.connection = .relay r) :
    (∀ t payload dest,
      (∃ target, r.Admits payload dest target ∧ (¬ ∃ f, r.Refuses payload dest f) ∧
        s.perform t (.sendTo payload dest) = ([(t, .ok (.count payload.length))],
          { s with connection := .relay { r with endpoint := { r.endpoint with
              sent := r.endpoint.sent ++ [[0, 0, 0] ++ target.pack ++ payload] } } })) ∨
      ∃ f, r.Refuses payload dest f ∧ (¬ ∃ target, r.Admits payload dest target) ∧
        s.perform t (.sendTo payload dest) = ([(t, .error f)], s)) ∧
    (∀ t payload, s.perform t (.write payload) = s.perform t (.sendTo payload none)) ∧
    ∀ d, r.fixed = some d → ∀ t steps, ∃ r' outs, (s.after t steps).connection = .relay r' ∧
      r'.fixed = some d ∧ r'.endpoint.sent = r.endpoint.sent ++ outs.flatten ∧
      List.Forall₂ (Posts d) steps outs := by
  refine ⟨?_, perform_write hrelay, ?_⟩
  · intro t payload dest
    obtain ⟨target, hadmits, hperform⟩ | ⟨f, hrefuses, hperform⟩ :=
      perform_sendTo hrelay t payload dest
    · refine .inl ⟨target, hadmits, ?_, hperform⟩
      rintro ⟨f, hrefuses⟩
      exact hadmits.not_refuses hrefuses
    · refine .inr ⟨f, hrefuses, ?_, hperform⟩
      rintro ⟨target, hadmits⟩
      exact hadmits.not_refuses hrefuses
  · intro d hfixed t steps
    obtain ⟨outs, ⟨r', hr', hfixed', hsent⟩, hall⟩ :=
      HasSent.after steps (t := t) ⟨r, hrelay, hfixed, rfl⟩
    exact ⟨r', outs, hr', hfixed', hsent, hall⟩

/-- Of three payloads only the first goes out: the second is for another destination, and the third
comes after the proxy has ended the control connection. -/
theorem sending_is_atomic_and_pinned_once :
    let d : Address := ⟨.ipv4 ⟨192, 0, 2, 1⟩, 53⟩
    let r : Relay := { control := {}, endpoint := { port := .opened }, fixed := some d }
    let s : Session := { connection := .relay r }
    let elsewhere : Value := .text "192.0.2.2:53"
    let steps : List Step := [.write [7], .sendTo [8] (some elsewhere), .control .ended, .write [9]]
    (∃ f, r.Refuses [8] (some elsewhere) f ∧
      s.perform 1 (.sendTo [8] (some elsewhere)) = ([(1, .error f)], s)) ∧
    (s.after 0 steps).sent = some [[0, 0, 0, 1, 192, 0, 2, 1, 0, 53, 7]] ∧
    ∃ outs, List.Forall₂ (Posts d) steps outs ∧
      outs.flatten = [[0, 0, 0, 1, 192, 0, 2, 1, 0, 53, 7]] := by
  intro d r s elsewhere steps
  have hsent : (s.after 0 steps).sent = some [[0, 0, 0, 1, 192, 0, 2, 1, 0, 53, 7]] := by decide
  obtain ⟨hatomic, -, hpinned⟩ := sending_is_atomic_and_pinned (s := s) (r := r) rfl
  refine ⟨?_, hsent, ?_⟩
  · obtain ⟨target, hadmits, -, -⟩ | ⟨f, hf, -, hperform⟩ := hatomic 1 [8] (some elsewhere)
    · have hother : destination elsewhere = .ok ⟨.ipv4 ⟨192, 0, 2, 2⟩, 53⟩ := rfl
      obtain _ | ⟨htarget, hfixed⟩ := hadmits.resolves
      rw [hother] at htarget
      cases htarget
      exact absurd (hfixed d rfl) (by decide)
    · exact ⟨f, hf, hperform⟩
  · obtain ⟨r', outs, hr', -, hout, hall⟩ := hpinned d rfl 0 steps
    refine ⟨outs, hall, ?_⟩
    rw [Session.sent, endpoint?, hr', Option.map_some, hout] at hsent
    exact Option.some.inj hsent

end Session

end Socks5
