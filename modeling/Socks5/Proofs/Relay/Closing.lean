import Socks5.Proofs.Endpoint.Closed
import Socks5.Proofs.Relay.Sending
import Socks5.Proofs.Relay.Watcher

/-!
# Closing a relay

To close a relay ends its watcher, its endpoint and its control connection, in whatever state they
are. Whoever waits for a datagram is told that the endpoint is closed. A relay that is `Shut` stays
so whatever comes, sends nothing more, and has nothing left to close.
-/

namespace Socks5

open Endpoint

/-! ### The endpoint -/

namespace DatagramEndpoint

variable {e : DatagramEndpoint}

lemma close_of_closed (h : e.port ≠ .opened) (reason : Option Fault) : e.close reason = ([], e) :=
  if_neg h

lemma close_port (e : DatagramEndpoint) (reason : Option Fault) :
    (e.close reason).2.port ≠ .opened := by
  have hlose (e' : DatagramEndpoint) : (e'.lose none).2.port ≠ .opened :=
    (moves_lose (e := e') trivial rfl rfl none).2
  unfold close
  split_ifs with hport
  · cases reason <;> exact hlose _
  · exact hport

/-- When nothing is left, everybody gets the notice of the end. -/
lemma EndedWith.serveAll_of_nil {n : Notice} (h : e.EndedWith n []) (ts : List Ticket) :
    (DatagramEndpoint.serveAll ts e).1 = ts.map (·, .error (.fault n.fault)) := by
  rw [(h.serveAll ts).1]
  induction ts with
  | nil => rfl
  | cons t ts ih => exact congrArg ((t, .error (.fault n.fault)) :: ·) ih

/-- Whoever waits at an endpoint that is closed is told so, and nothing else is. -/
lemma Orderly.close_done (h : e.Orderly) :
    (e.close none).1 = e.waiting.map (·, .error (.fault closedFault)) := by
  obtain ⟨hmoves, -⟩ := moves_close h trivial none
  cases hwaiting : e.waiting with
  | nil =>
    have htickets := hmoves.tickets
    rw [hwaiting] at htickets
    exact List.map_eq_nil_iff.mp (List.append_eq_nil_iff.mp htickets).1
  | cons t ts =>
    have hne : e.waiting ≠ [] := by simp [hwaiting]
    have hport : e.port = .opened := not_not.mp fun hclosed => hne (h.waiting_eq_nil hclosed)
    have hqueue : e.queue = [] := h.idle hne
    -- The notice of the end is all there is in the queue.
    let n : Notice := ⟨e.nextTag, closedFault⟩
    let e' : DatagramEndpoint :=
      { e with port := .closed, reason := none, nextTag := e.nextTag + 1 }
    have hended : ((e'.ended n).enqueueNotice n).EndedWith n [] := by
      have hnone : (makeRoom e'.capacity e'.queue).2 = [] := by simp [e', hqueue, makeRoom]
      rw [← hnone]
      exact endedWith_enqueueNotice e' (by simp [e', hqueue])
    have hclose : e.close none = serveAll e.waiting ((e'.ended n).enqueueNotice n) := by
      unfold close
      rw [if_pos hport]
      rfl
    rw [hclose, hended.serveAll_of_nil, hwaiting]

/-! What happens to an endpoint without a socket gives it none. -/

lemma arrive_port (e : DatagramEndpoint) (batch : List Bytes) :
    (e.arrive batch).2.port = e.port := by
  rw [arrive, serve_port, foldl_enqueue_frame]

lemma report_port (e : DatagramEndpoint) (f : Fault) : (e.report f).2.port = e.port := by
  rw [report, serve_port]
  rfl

lemma receive_port (e : DatagramEndpoint) (t : Ticket) : (e.receive t).2.port = e.port := by
  rw [receive, serve_port]

lemma lose_port (e : DatagramEndpoint) (f : Option Fault) : (e.lose f).2.port ≠ .opened :=
  (moves_lose (e := e) trivial rfl rfl f).2

lemma signal_port {e : DatagramEndpoint} (h : e.port ≠ .opened) (g : Signal) :
    (e.signal g).2.port ≠ .opened := by
  cases g with
  | datagram bs => exact (e.arrive_port [bs]).trans_ne h
  | fault f =>
    rw [signal, if_neg h]
    exact h
  | lost f =>
    rw [signal, if_neg h]
    exact h

end DatagramEndpoint

/-! ### The relay -/

namespace Relay

variable {sent : List Bytes} {r r' : Relay}

/-- A relay that has been closed after it has sent these datagrams. -/
structure Shut (sent : List Bytes) (r : Relay) : Prop where
  control : r.control.closed = true
  endpoint : r.endpoint.port ≠ .opened
  watching : r.watching = false
  leaving : r.leaving = []
  sent : r.endpoint.sent = sent

/-- Whoever waits for a datagram is told that the endpoint is closed, and whoever waits for the end
is done. -/
lemma close_done (h : r.endpoint.Orderly) :
    r.close.1 = r.endpoint.waiting.map (·, .error (.fault DatagramEndpoint.closedFault)) ++
      r.leaving.map fun t => (t, r.control.close.waitClosed.map fun _ => .ended) := by
  have hclose : r.close.1 = received (r.endpoint.close none).1 ++
      r.leaving.map fun t => (t, r.control.close.waitClosed.map fun _ => .ended) := rfl
  rw [hclose, h.close_done]
  simp [received, Except.map]

lemma tidy_close (h : r.endpoint.Orderly) (hnodup : (r.endpoint.waiting ++ r.leaving).Nodup) :
    r.close.2.Tidy r.endpoint.waiting r.leaving r.close.1 := by
  have hclosed := tidy_endpoint hnodup (DatagramEndpoint.moves_close h trivial none).1
    r.control.close false
  exact hclosed.trans (tidy_release hclosed.orderly (hclosed.answers.nodup hnodup))

lemma shut_close (r : Relay) : r.close.2.Shut r.endpoint.sent :=
  ⟨rfl, r.endpoint.close_port none, rfl, rfl, r.endpoint.close_sent none⟩

namespace Shut

lemma release (h : r.Shut sent) : r.release = ([], r) := by
  obtain ⟨control, endpoint, fixed, watching, leaving⟩ := r
  obtain rfl : watching = false := h.watching
  obtain rfl : leaving = [] := h.leaving
  rfl

/-- There is nothing left to close. -/
lemma close (h : r.Shut sent) : r.close = ([], r) := by
  have hcontrol : r.control.close = r.control := by
    rw [Stream.close, ← h.control]
  have hsame : { r with
      endpoint := r.endpoint, control := r.control.close, watching := false } = r := by
    rw [hcontrol, ← h.watching]
  simp only [Relay.close, DatagramEndpoint.close_of_closed h.endpoint none, hsame, h.release]
  rfl

lemma settle (h : r.Shut sent) : r.settle = ([], r) := by
  have hwatch : r.watch = ([], r) := if_neg (by simp [h.watching])
  simp only [Relay.settle, hwatch, h.release, List.append_nil]

lemma feed (h : r.Shut sent) (a : Arrival) : (r.feed a).2.Shut sent := by
  have hfed : Shut sent { r with control := r.control.feed a } := by
    refine ⟨?_, h.endpoint, h.watching, h.leaving, h.sent⟩
    cases a <;> exact h.control
  rw [Relay.feed, hfed.settle]
  exact hfed

lemma onEndpoint (h : r.Shut sent)
    {f : DatagramEndpoint → List (Completion Bytes) × DatagramEndpoint}
    (hport : (f r.endpoint).2.port ≠ .opened)
    (hsent : (f r.endpoint).2.sent = r.endpoint.sent) : (r.onEndpoint f).2.Shut sent :=
  ⟨h.control, hport, h.watching, h.leaving, hsent.trans h.sent⟩

lemma abandon {t : Ticket} {done : List (Completion Outcome)} (h : r.Shut sent)
    (habandon : r.abandon? t = some (done, r')) : r'.Shut sent := by
  simp only [Relay.abandon?, h.leaving, List.not_mem_nil, if_false] at habandon
  obtain ⟨e, he, heq⟩ := Option.map_eq_some_iff.mp habandon
  obtain ⟨-, rfl⟩ := Prod.mk.inj heq
  unfold DatagramEndpoint.abandon? at he
  split_ifs at he
  obtain rfl := Option.some.inj he
  exact ⟨h.control, h.endpoint, h.watching, rfl, h.sent⟩

/-- Whoever comes to wait for the end is done at once. -/
lemma waitClosed (h : r.Shut sent) (t : Ticket) :
    r.waitClosed t = ([(t, r.control.waitClosed.map fun _ => .ended)], r) := by
  obtain ⟨control, endpoint, fixed, watching, leaving⟩ := r
  obtain rfl : watching = false := h.watching
  obtain rfl : leaving = [] := h.leaving
  rfl

lemma checkControl (h : r.Shut sent) : r.checkControl = .error (.fault controlFault) := by
  rw [Relay.checkControl, h.control]
  rfl

lemma receive (h : r.Shut sent) (t : Ticket) :
    r.receive t = ([(t, .error (.fault controlFault))], r) := by
  rw [Relay.receive, h.checkControl]

lemma sendTo (h : r.Shut sent) (payload : Bytes) {dest : Option Value} {target : Address}
    (hresolve : r.resolve dest = .ok target) :
    r.sendTo payload dest = .error (.fault controlFault) := by
  simp only [Relay.sendTo, hresolve, h.checkControl, bind, Except.bind]

lemma sendTo_error (h : r.Shut sent) (payload : Bytes) (dest : Option Value) :
    ∃ f, r.sendTo payload dest = .error f := by
  cases hresolve : r.resolve dest with
  | ok target => exact ⟨_, h.sendTo payload hresolve⟩
  | error f => exact ⟨f, by simp only [Relay.sendTo, hresolve, bind, Except.bind]⟩

end Shut

end Relay

end Socks5
