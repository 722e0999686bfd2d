import Mathlib.Tactic.Common
import Socks5.Proofs.Address.RoundTrip
import Socks5.Proofs.Endpoint.Ending
import Socks5.Relay

/-!
# Sending through a relay

A datagram goes out if its destination stands for an address that the relay may send to, if the
control connection is there, if the endpoint is open and if the datagram is not too large. The first
of these that fails says why nothing is sent. No other operation of a relay sends anything.
-/

namespace Socks5

/-! ### What sends nothing -/

namespace DatagramEndpoint

variable (e : DatagramEndpoint)

@[simp] lemma arrive_sent (batch : List Bytes) : (e.arrive batch).2.sent = e.sent := by
  rw [arrive, serve_sent, foldl_enqueue_frame]

@[simp] lemma report_sent (f : Fault) : (e.report f).2.sent = e.sent := by
  rw [report, serve_sent]
  rfl

@[simp] lemma lose_sent (f : Option Fault) : (e.lose f).2.sent = e.sent := by
  obtain ⟨nextTag, hframe⟩ := e.endNotice_frame f
  have hlose : e.lose f = serve
      (((e.endNotice f).2.ended (e.endNotice f).1).enqueueNotice (e.endNotice f).1) := rfl
  rw [hlose, serve_sent, hframe]
  rfl

@[simp] lemma close_sent (reason : Option Fault) : (e.close reason).2.sent = e.sent := by
  unfold close
  split_ifs
  · cases reason <;> simp [freshNotice]
  · rfl

@[simp] lemma receive_sent (t : Ticket) : (e.receive t).2.sent = e.sent := by
  rw [receive, serve_sent]

@[simp] lemma signal_sent (g : Signal) : (e.signal g).2.sent = e.sent := by
  unfold signal
  split
  · exact e.arrive_sent _
  · split_ifs
    · exact e.report_sent _
    · rfl
  · split_ifs
    · exact e.lose_sent _
    · rfl

lemma abandon_sent {t : Ticket} {e e' : DatagramEndpoint} (h : e.abandon? t = some e') :
    e'.sent = e.sent := by
  unfold abandon? at h
  split_ifs at h
  cases h
  rfl

/-- A datagram is sent, or refused because the endpoint is not open or else because of its size. -/
lemma send_cases (bs : Bytes) :
    e.port ≠ .opened ∧ e.send bs = .error (.fault closedFault) ∨
    (e.port = .opened ∧ 65535 < bs.length ∧ e.send bs = .error (.fault ⟨.value,
      "datagram too large: " ++ String.ofList (Nat.toDigits 10 bs.length) ++ " bytes"⟩)) ∨
    (e.port = .opened ∧ bs.length ≤ 65535 ∧ e.send bs = .ok { e with sent := e.sent ++ [bs] }) := by
  unfold send
  split_ifs with hclosing hsize
  · exact .inl ⟨of_decide_eq_true hclosing, rfl⟩
  · have hport : e.port = .opened := by simpa [isClosing] using hclosing
    exact .inr (.inl ⟨hport, hsize, rfl⟩)
  · have hport : e.port = .opened := by simpa [isClosing] using hclosing
    exact .inr (.inr ⟨hport, Nat.le_of_not_lt hsize, rfl⟩)

end DatagramEndpoint

namespace Relay

variable {r r' : Relay}

/-- Nothing was sent, and the destination is as fixed as before. -/
structure Keeps (r r' : Relay) : Prop where
  fixed : r'.fixed = r.fixed
  sent : r'.endpoint.sent = r.endpoint.sent

namespace Keeps

lemma refl (r : Relay) : r.Keeps r := ⟨rfl, rfl⟩

lemma trans {r'' : Relay} (h : r.Keeps r') (h' : r'.Keeps r'') : r.Keeps r'' :=
  ⟨h'.fixed.trans h.fixed, h'.sent.trans h.sent⟩

lemma onEndpoint {f : DatagramEndpoint → List (Completion Bytes) × DatagramEndpoint}
    (hf : (f r.endpoint).2.sent = r.endpoint.sent) : r.Keeps (r.onEndpoint f).2 := ⟨rfl, hf⟩

lemma release (r : Relay) : r.Keeps r.release.2 := by
  unfold Relay.release
  split_ifs <;> exact ⟨rfl, rfl⟩

lemma watch (r : Relay) : r.Keeps r.watch.2 := by
  unfold Relay.watch
  split_ifs
  · cases r.control.failure with
    | some f =>
      simp only
      split_ifs
      · exact ⟨rfl, r.endpoint.close_sent _⟩
      · exact ⟨rfl, rfl⟩
    | none =>
      simp only
      split_ifs
      · exact ⟨rfl, r.endpoint.close_sent _⟩
      · exact ⟨rfl, rfl⟩
  · exact .refl r

lemma settle (r : Relay) : r.Keeps r.settle.2 := (watch r).trans (release _)

lemma feed (a : Arrival) (r : Relay) : r.Keeps (r.feed a).2 := by
  have hfed : r.Keeps { r with control := r.control.feed a } := ⟨rfl, rfl⟩
  exact hfed.trans (settle _)

lemma receive (t : Ticket) (r : Relay) : r.Keeps (r.receive t).2 := by
  unfold Relay.receive
  cases r.checkControl with
  | error e => exact .refl r
  | ok _ => exact onEndpoint (r.endpoint.receive_sent t)

lemma close (r : Relay) : r.Keeps r.close.2 := by
  have hclosed : r.Keeps { r with
      endpoint := (r.endpoint.close none).2, control := r.control.close, watching := false } :=
    ⟨rfl, r.endpoint.close_sent none⟩
  exact hclosed.trans (release _)

lemma waitClosed (t : Ticket) (r : Relay) : r.Keeps (r.waitClosed t).2 := by
  have hwaits : r.Keeps { r with leaving := r.leaving ++ [t] } := ⟨rfl, rfl⟩
  exact hwaits.trans (release _)

lemma abandon {t : Ticket} {done : List (Completion Outcome)}
    (h : r.abandon? t = some (done, r')) : r.Keeps r' := by
  unfold Relay.abandon? at h
  split_ifs at h
  · have hgone : r.Keeps { r with leaving := r.leaving.filter (· ≠ t), watching := false } :=
      ⟨rfl, rfl⟩
    cases h
    exact hgone.trans (release _)
  · obtain ⟨e, he, heq⟩ := Option.map_eq_some_iff.mp h
    cases heq
    exact ⟨rfl, DatagramEndpoint.abandon_sent he⟩

end Keeps

/-! ### When a datagram goes out -/

/-- A destination stands for this address, and a relay with this fixed destination, if any, may send
there. -/
inductive Resolves (fixed : Option Address) : Option Value → Address → Prop
  | omitted {target : Address} (hfixed : fixed = some target) : Resolves fixed none target
  | given {v : Value} {target : Address} (hv : destination v = .ok target)
      (hfixed : ∀ d ∈ fixed, target = d) : Resolves fixed (some v) target

/-- Neither has this side closed the control connection nor was it read up to its end. -/
def ControlThere (r : Relay) : Prop :=
  r.control.closed = false ∧ ¬ (r.control.ended = true ∧ r.control.buffer = [])

/-- The payload goes out to a target. -/
structure Admits (r : Relay) (payload : Bytes) (dest : Option Value) (target : Address) :
    Prop where
  resolves : Resolves r.fixed dest target
  control : r.ControlThere
  opened : r.endpoint.port = .opened
  fits : ([0, 0, 0] ++ target.pack ++ payload).length ≤ 65535

/-- Why a payload does not go out: the first thing that is wrong. -/
inductive Refuses (r : Relay) (payload : Bytes) : Option Value → Failure → Prop
  | missing (hfixed : r.fixed = none) : Refuses r payload none (.error .destinationMissing)
  | invalid {v : Value} {f : Failure} (hv : destination v = .error f) : Refuses r payload (some v) f
  | mismatch {v : Value} {target d : Address} (hv : destination v = .ok target)
      (hfixed : r.fixed = some d) (hne : target ≠ d) :
      Refuses r payload (some v) (.error (.destinationMismatch target d))
  | control {dest : Option Value} {target : Address} (hresolves : Resolves r.fixed dest target)
      (hgone : ¬ r.ControlThere) : Refuses r payload dest (.fault controlFault)
  | closed {dest : Option Value} {target : Address} (hresolves : Resolves r.fixed dest target)
      (hcontrol : r.ControlThere) (hport : r.endpoint.port ≠ .opened) :
      Refuses r payload dest (.fault DatagramEndpoint.closedFault)
  | tooLarge {dest : Option Value} {target : Address} {size : Nat}
      (hresolves : Resolves r.fixed dest target) (hcontrol : r.ControlThere)
      (hport : r.endpoint.port = .opened)
      (hlength : ([0, 0, 0] ++ target.pack ++ payload).length = size) (hsize : 65535 < size) :
      Refuses r payload dest (.fault ⟨.value,
        "datagram too large: " ++ String.ofList (Nat.toDigits 10 size) ++ " bytes"⟩)

lemma Resolves.target_eq {fixed : Option Address} {dest : Option Value} {target target' : Address}
    (h : Resolves fixed dest target) (h' : Resolves fixed dest target') : target = target' := by
  cases h with
  | omitted hfixed =>
    obtain ⟨hfixed'⟩ := h'
    exact Option.some.inj (hfixed.symm.trans hfixed')
  | given hv _ =>
    obtain _ | ⟨hv', _⟩ := h'
    exact Except.ok.inj (hv.symm.trans hv')

lemma Resolves.eq_fixed {d : Address} {dest : Option Value} {target : Address}
    (h : Resolves (some d) dest target) : target = d := by
  cases h with
  | omitted hfixed => exact (Option.some.inj hfixed).symm
  | given _ hfixed => exact hfixed d rfl

/-- What goes out is not refused. -/
lemma Admits.not_refuses {payload : Bytes} {dest : Option Value} {target : Address} {f : Failure}
    (h : r.Admits payload dest target) : ¬ r.Refuses payload dest f := by
  intro hrefuses
  obtain ⟨hresolves, hcontrol, hopened, hfits⟩ := h
  cases hrefuses with
  | missing hfixed =>
    obtain ⟨hfixed'⟩ := hresolves
    rw [hfixed] at hfixed'
    cases hfixed'
  | invalid hv =>
    obtain _ | ⟨hv', _⟩ := hresolves
    rw [hv] at hv'
    cases hv'
  | mismatch hv hfixed hne =>
    obtain _ | ⟨hv', hfixed'⟩ := hresolves
    rw [hv] at hv'
    exact hne (Except.ok.inj hv' ▸ hfixed' _ hfixed)
  | control _ hgone => exact hgone hcontrol
  | closed _ _ hport => exact hport hopened
  | tooLarge hresolves' _ _ hlength hsize =>
    obtain rfl := hresolves.target_eq hresolves'
    omega

lemma checkControl_cases (r : Relay) :
    r.ControlThere ∧ r.checkControl = .ok () ∨
      ¬ r.ControlThere ∧ r.checkControl = .error (.fault controlFault) := by
  unfold checkControl ControlThere Stream.atEnd
  cases r.control.closed <;> cases r.control.ended <;> cases r.control.buffer <;> simp

lemma resolve_cases (dest : Option Value) (r : Relay) (payload : Bytes) :
    (∃ target, Resolves r.fixed dest target ∧ r.resolve dest = .ok target) ∨
      ∃ f, r.Refuses payload dest f ∧ r.resolve dest = .error f := by
  unfold resolve
  cases dest with
  | none =>
    cases hfixed : r.fixed with
    | none => exact .inr ⟨_, .missing hfixed, rfl⟩
    | some d => exact .inl ⟨d, .omitted rfl, rfl⟩
  | some v =>
    cases hv : destination v with
    | error f =>
      refine .inr ⟨f, .invalid hv, ?_⟩
      cases r.fixed <;> simp [hv, bind, Except.bind]
    | ok target =>
      cases hfixed : r.fixed with
      | none => exact .inl ⟨target, .given hv nofun, by simp [hv]⟩
      | some d =>
        by_cases htarget : target = d
        · refine .inl ⟨target, .given hv fun d' hd' => ?_, by simp [hv, htarget, bind, Except.bind]⟩
          rw [htarget, Option.some.inj hd']
        · exact .inr ⟨_, .mismatch hv hfixed htarget, by simp [hv, htarget, bind, Except.bind]⟩

/-- A payload goes out to one target as one datagram, or is refused. -/
lemma sendTo_cases (payload : Bytes) (dest : Option Value) (r : Relay) :
    (∃ target, r.Admits payload dest target ∧ r.sendTo payload dest = .ok (payload.length,
      { r with endpoint := { r.endpoint with
          sent := r.endpoint.sent ++ [[0, 0, 0] ++ target.pack ++ payload] } })) ∨
    ∃ f, r.Refuses payload dest f ∧ r.sendTo payload dest = .error f := by
  obtain ⟨target, hresolves, hresolve⟩ | ⟨f, hf, hresolve⟩ := r.resolve_cases dest payload
  · obtain ⟨hcontrol, hcheck⟩ | ⟨hgone, hcheck⟩ := r.checkControl_cases
    · have hframe : Frame.datagram target payload = [0, 0, 0] ++ target.pack ++ payload := rfl
      obtain ⟨hport, hsend⟩ | ⟨hport, hsize, hsend⟩ | ⟨hport, hsize, hsend⟩ :=
        r.endpoint.send_cases ([0, 0, 0] ++ target.pack ++ payload)
      · refine .inr ⟨_, .closed hresolves hcontrol hport, ?_⟩
        simp only [sendTo, hresolve, hcheck, hframe, hsend, bind, Except.bind]
      · refine .inr ⟨_, .tooLarge hresolves hcontrol hport rfl hsize, ?_⟩
        simp only [sendTo, hresolve, hcheck, hframe, hsend, bind, Except.bind]
      · refine .inl ⟨target, ⟨hresolves, hcontrol, hport, hsize⟩, ?_⟩
        simp only [sendTo, hresolve, hcheck, hframe, hsend, bind, Except.bind, pure, Except.pure]
    · refine .inr ⟨_, .control hresolves hgone, ?_⟩
      simp only [sendTo, hresolve, hcheck, bind, Except.bind]
  · refine .inr ⟨f, hf, ?_⟩
    simp only [sendTo, hresolve, bind, Except.bind]

end Relay

end Socks5
