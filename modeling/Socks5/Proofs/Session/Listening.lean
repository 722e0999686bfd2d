import Socks5.Dial.Run
import Socks5.Proofs.Relay.Contents
import Socks5.Proofs.Session.Clock

/-!
# What comes up at a relay in use

As time passes at a relay with receivers, these get payloads of datagrams that have arrived, errors
of the protocol and faults of the system, and nothing else. When the relay is left, it is closed at
once.
-/

namespace Socks5

open DatagramEndpoint (Gets)

/-- A failure that is not due to the interrupt key. -/
def Failure.Calm (f : Failure) : Prop := ∀ g, f = .fault g → g.kind ≠ .keyboard

namespace Failure

lemma calm_error (e : Error) : (error e).Calm := by rintro _ ⟨⟩

lemma calm_fault {kind : Fault.Kind} (h : kind ≠ .keyboard) (text : Text) :
    (fault ⟨kind, text⟩).Calm := by
  rintro _ ⟨⟩
  exact h

lemma calm_of_isSystem {f : Fault} (h : f.isSystem = true) : (fault f).Calm := by
  refine calm_fault (fun hkeyboard => ?_) f.text
  rw [Fault.isSystem, hkeyboard] at h
  cases h

lemma calm_ofAddress (f : AddressFailure) : (ofAddress f).Calm := by
  cases f with
  | invalid reason => exact calm_error _
  | digits count => exact calm_fault (by decide) _
  | encoding e => exact calm_fault (by decide) _

lemma calm_ofTarget (f : AddressFailure) : (ofTarget f).Calm := by
  cases f with
  | invalid reason => exact calm_error _
  | digits count => exact calm_fault (by decide) _
  | encoding e => exact calm_fault (by decide) _

end Failure

namespace Session

variable {arrived : List Bytes} {next t : Ticket} {s : Session} {r : Relay}

/-- A session about a relay with receivers, at which these datagrams arrive, and faults of the
system. -/
structure Listens (arrived : List Bytes) (next : Ticket) (s : Session) (r : Relay) : Prop where
  connection : s.connection = .relay r
  relay : r.Stocks arrived next
  incoming : ∀ g ∈ s.incoming, g.2.Comes arrived
  draining : s.draining = []

/-- What comes up there, with messages only from the datagrams. -/
structure Heard (arrived : List Bytes) (c : Ticket × Result) : Prop where
  failure : ∀ f, c.2 = .error f → f.Calm
  message : ∀ payload source, c.2 = .ok (.message payload source) →
    ∃ bs ∈ arrived, Frame.parseDatagram bs = .ok (payload, source)

/-- The session goes on like this, and only such results come up. -/
def Hears (arrived : List Bytes) (next : Ticket) (done : List (Ticket × Result)) (s : Session) :
    Prop := (∃ r, s.Listens arrived next r) ∧ ∀ c ∈ done, Heard arrived c

lemma Listens.hears (h : s.Listens arrived next r) : s.Hears arrived next [] :=
  ⟨⟨r, h⟩, by simp⟩

/-- One thing after the other. -/
lemma Hears.andThen {done : List (Ticket × Result)}
    {f : Session → List (Ticket × Result) × Session} (h : s.Hears arrived next done)
    (hf : ∀ r, s.Listens arrived next r → (f s).2.Hears arrived next (f s).1) :
    (f s).2.Hears arrived next (done ++ (f s).1) := by
  obtain ⟨⟨r, hr⟩, hdone⟩ := h
  obtain ⟨hnext, hmore⟩ := hf r hr
  exact ⟨hnext, List.forall_mem_append.mpr ⟨hdone, hmore⟩⟩

/-! ### Results -/

lemma Heard.error {f : Failure} (h : f.Calm) : Heard arrived (t, .error f) where
  failure _ hg := Except.error.inj hg ▸ h
  message _ _ h := nomatch h

lemma Heard.bytes (bs : Bytes) : Heard arrived (t, .ok (.bytes bs)) where
  failure _ h := nomatch h
  message _ _ h := nomatch h

/-- Only a receiving operation looks into a datagram. -/
lemma shaped_cases (shape : Shape) (bs : Bytes) :
    (∃ out, shaped shape (.bytes bs) = .ok (.bytes out)) ∨
    (∃ e, shaped shape (.bytes bs) = .error (.error e)) ∨
    ∃ payload source, Frame.parseDatagram bs = .ok (payload, source) ∧
      shaped shape (.bytes bs) = .ok (.message payload source) := by
  cases hparse : Frame.parseDatagram bs with
  | error e =>
    have hdecode : Relay.decode bs = .error (.error (.datagram e)) := by
      rw [Relay.decode, hparse]
      rfl
    cases shape with
    | payload | message => exact .inr (.inl ⟨.datagram e, by simp only [shaped, hdecode]; rfl⟩)
    | _ => exact .inl ⟨bs, rfl⟩
  | ok m =>
    have hdecode : Relay.decode bs = .ok m := by
      rw [Relay.decode, hparse]
      rfl
    cases shape with
    | payload => exact .inl ⟨m.1, by simp only [shaped, hdecode]; rfl⟩
    | message => exact .inr (.inr ⟨m.1, m.2, rfl, by simp only [shaped, hdecode]; rfl⟩)
    | _ => exact .inl ⟨bs, rfl⟩

/-- What a receiver gets is an answer to his operation. -/
lemma heard_of_gets {c : Completion Bytes} (h : Gets arrived next c) (pending : List Pending) :
    Heard arrived (resultOf pending (c.1, c.2.map .bytes)) := by
  obtain ⟨t, result⟩ := c
  obtain ⟨-, item, hitem, rfl⟩ := h
  obtain ⟨shape, hshape⟩ : ∃ shape, resultOf pending (t, item.result.map .bytes) =
      (t, (item.result.map .bytes).bind (shaped shape)) := ⟨_, rfl⟩
  rw [hshape]
  cases item with
  | notice n => exact .error (Failure.calm_of_isSystem hitem)
  | datagram bs =>
    have hresult : ((Endpoint.Item.datagram bs).result.map .bytes).bind (shaped shape) =
        shaped shape (.bytes bs) := rfl
    rw [hresult]
    obtain ⟨out, hout⟩ | ⟨e, he⟩ | ⟨payload, source, hparse, hout⟩ := shaped_cases shape bs
    · rw [hout]
      exact .bytes out
    · rw [he]
      exact .error (Failure.calm_error e)
    · rw [hout]
      constructor
      · rintro _ ⟨⟩
      · rintro _ _ ⟨⟩
        exact ⟨bs, hitem, hparse⟩

lemma Listens.finish (h : s.Listens arrived next r) {x : List (Completion Outcome) × Relay}
    (hx : Relay.Deals arrived next x) :
    (finish x.1 { s with connection := .relay x.2 }).2.Hears arrived next
      (finish x.1 { s with connection := .relay x.2 }).1 := by
  obtain ⟨hstocks, done, hdone, hgets⟩ := hx
  refine ⟨⟨x.2, rfl, hstocks, h.incoming, h.draining⟩, fun c hc => ?_⟩
  obtain ⟨c', hc', rfl⟩ := List.mem_map.mp hc
  rw [hdone] at hc'
  obtain ⟨c'', hc'', rfl⟩ := List.mem_map.mp hc'
  exact heard_of_gets (hgets c'' hc'') _

/-! ### While time passes -/

lemma Listens.onControl (h : s.Listens arrived next r) (a : Arrival) :
    (s.onControl a).2.Hears arrived next (s.onControl a).1 := by
  simp only [Session.onControl, h.connection]
  exact h.finish (h.relay.feed a)

lemma Listens.onEndpoint (h : s.Listens arrived next r) {g : Signal} (hg : g.Comes arrived) :
    (s.onEndpoint (·.signal g)).2.Hears arrived next (s.onEndpoint (·.signal g)).1 := by
  simp only [Session.onEndpoint, h.connection]
  exact h.finish (h.relay.onEndpoint (h.relay.endpoint.signal hg))

lemma Listens.expire (h : s.Listens arrived next r) (t : Ticket) :
    (s.abandon t (.fault .timeout)).2.Hears arrived next (s.abandon t (.fault .timeout)).1 := by
  unfold Session.abandon
  simp only [h.draining, h.connection, List.any_nil, Bool.false_eq_true, if_false]
  cases habandon : r.abandon? t with
  | none => exact h.hears
  | some x =>
    obtain ⟨hstocks, done, hdone, hgets⟩ := h.relay.abandon habandon
    obtain ⟨hlistens, hresults⟩ := h.finish (x := x) ⟨hstocks, done, hdone, hgets⟩
    obtain ⟨done', r'⟩ := x
    refine ⟨⟨r', rfl, hstocks, h.incoming, rfl⟩, List.forall_mem_cons.mpr ⟨?_, hresults⟩⟩
    exact .error (Failure.calm_of_isSystem rfl)

lemma Listens.tick (h : s.Listens arrived next r) (time : Nat) :
    (s.tick time).2.Hears arrived next (s.tick time).1 := by
  apply tick_induct (P := fun done s => s.Hears arrived next done)
  · refine Listens.hears (r := r) ⟨h.connection, h.relay, ?_, ?_⟩
    · exact fun d hd => h.incoming d (List.mem_filter.mp hd).1
    · simp [h.draining]
  · exact fun a _ _ _ hs => hs.andThen fun _ hr => hr.onControl a.2
  · exact fun d hd _ _ hs => hs.andThen fun _ hr => hr.onEndpoint (h.incoming d hd)
  · simp [h.draining]
  · exact fun p _ _ hs => hs.andThen fun _ hr => hr.expire p.ticket

/-- The watcher begins its work. -/
lemma Listens.begin (h : s.Listens arrived next r) : ∃ r', s.begin.Listens arrived next r' := by
  obtain ⟨⟨r', h'⟩, -⟩ := h.tick s.now
  obtain ⟨hlistens, -⟩ := h'.finish h'.relay.settle
  simp only [Session.begin, Session.onRelay, h'.connection]
  exact hlistens

/-! ### Steps -/

lemma Listens.receiveFrom (h : s.Listens arrived next r) (ht : t < next) (limit : Option Int) :
    (s.perform t (.receiveFrom limit)).2.Hears arrived next
      (s.perform t (.receiveFrom limit)).1 := by
  have hstart (deadline : Option Nat) :
      (s.start t .message deadline (Session.onRelay (·.receive t))).2.Hears arrived next
        (s.start t .message deadline (Session.onRelay (·.receive t))).1 := by
    have hpending : Listens arrived next
        { s with pending := s.pending ++ [⟨t, .message, deadline⟩] } r :=
      ⟨h.connection, h.relay, h.incoming, h.draining⟩
    simp only [Session.start, Session.onRelay, h.connection]
    exact hpending.finish (h.relay.receive ht)
  simp only [Session.perform, Session.receiveFrom, startWithin]
  cases limit with
  | none => exact hstart none
  | some l =>
    simp only
    split_ifs
    · exact ⟨⟨r, h⟩, List.forall_mem_singleton.mpr (.error (Failure.calm_of_isSystem rfl))⟩
    · exact hstart _

/-- What has come to its end is told so, and gives no octets. -/
lemma resultOf_ended (pending : List Pending) (t : Ticket) :
    ∃ a, resultOf pending (t, .ok .ended) = (t, .ok a) ∧ ∀ bs, a ≠ .bytes bs := by
  obtain ⟨shape, hshape⟩ : ∃ shape, resultOf pending (t, .ok .ended) = (t, shaped shape .ended) :=
    ⟨_, rfl⟩
  by_cases hleft : shape = .left
  · exact ⟨.left, by rw [hshape, shaped, if_pos hleft], fun _ h => nomatch h⟩
  · exact ⟨.nothing, by rw [hshape, shaped, if_neg hleft], fun _ h => nomatch h⟩

/-- What a session for a network is about is closed. -/
def Closed (s : Session) : Network → Prop
  | .tcp => ∃ c, s.connection = .stream c ∧ c.closed = true
  | .udp => ∃ r, s.connection = .relay r ∧ r.Closed

/-- Leaving closes everything, and comes to its end at once. -/
lemma Listens.leave (h : s.Listens arrived t r) :
    (∃ a, ((s.perform t .leave).1.find? (·.1 = t)).map (·.2) = some (.ok a)) ∧
      (s.perform t .leave).2.Closed .udp := by
  obtain ⟨⟨hstocks, done, hdone, hgets⟩, hclosed, hwatching⟩ := h.relay.close
  have hwait := hstocks.waitClosed hwatching t
  have hothers : (s.close.1.find? (·.1 = t)) = none := by
    simp only [Session.close, Session.onRelay, h.connection, Session.finish, hdone]
    refine List.find?_eq_none.mpr fun c hc hticket => ?_
    obtain ⟨c', hc', rfl⟩ := List.mem_map.mp hc
    obtain ⟨c'', hc'', rfl⟩ := List.mem_map.mp hc'
    exact Nat.ne_of_lt (hgets c'' hc'').1 (of_decide_eq_true hticket)
  have hconnection : s.close.2.connection = .relay r.close.2 := by
    simp only [Session.close, Session.onRelay, h.connection]
    rfl
  have hleave : s.perform t .leave = (s.close.1 ++ (s.close.2.waitClosed t .left).1,
      (s.close.2.waitClosed t .left).2) := rfl
  have hended : s.close.2.waitClosed t .left = Session.finish [(t, .ok .ended)] { s.close.2 with
      pending := s.close.2.pending ++ [⟨t, .left, none⟩] } := by
    simp only [Session.waitClosed, Session.start, Session.onRelay, hconnection, hwait]
  rw [hleave, hended, List.find?_append, hothers]
  constructor
  · obtain ⟨a, ha, -⟩ := resultOf_ended (s.close.2.pending ++ [⟨t, .left, none⟩]) t
    exact ⟨a, by simp [Session.finish, ha]⟩
  · exact ⟨_, hconnection, hclosed⟩

end Session

end Socks5
