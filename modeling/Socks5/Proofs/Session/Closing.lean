import Socks5.Proofs.Relay.Closing
import Socks5.Proofs.Session.Clock
import Socks5.Proofs.Session.ControlLoss

/-!
# Closing a relay in use

Whatever has become of a relay, closing it ends everything that is going on: the watcher, the
endpoint, the control connection, and every operation without a result. `AtRest` is what holds of a
relay between two operations, however its control connection and its endpoint are, and `Shut` is
what holds of a closed relay ever after.
-/

namespace Socks5

namespace Session

variable {t next next' : Ticket} {s s' : Session} {r r' : Relay} {step : Step}
  {waiting leaving : List Ticket}

/-! ### Between two operations -/

/-- A session about a relay in order, at which these callers wait. -/
structure Attends (next : Ticket) (s : Session) (r : Relay) (waiting leaving : List Ticket) :
    Prop where
  connection : s.connection = .relay r
  orderly : r.endpoint.Orderly
  ledger : Ledger next s.pending waiting leaving
  draining : s.draining = []

/-- A session about a relay, with all ready work done. -/
def AtRest (next : Ticket) (s : Session) : Prop :=
  ∃ r, s.Attends next r r.endpoint.waiting r.leaving

lemma Attends.mono (h : s.Attends next r waiting leaving) (hnext : next ≤ next') :
    s.Attends next' r waiting leaving :=
  ⟨h.connection, h.orderly, h.ledger.mono hnext, h.draining⟩

lemma AtRest.mono (h : s.AtRest next) (hnext : next ≤ next') : s.AtRest next' := by
  obtain ⟨r, hr⟩ := h
  exact ⟨r, hr.mono hnext⟩

/-! ### Events -/

lemma Attends.finish (h : s.Attends next r waiting leaving) {done : List (Completion Outcome)}
    (htidy : r'.Tidy waiting leaving done) :
    (finish done { s with connection := .relay r' }).2.Attends next r' r'.endpoint.waiting
      r'.leaving where
  connection := rfl
  orderly := htidy.orderly
  ledger := by
    rw [htidy.answers.waiting, htidy.answers.leaving]
    exact h.ledger.finish done
  draining := h.draining

lemma Attends.onRelay (h : s.Attends next r waiting leaving)
    {f : Relay → List (Completion Outcome) × Relay}
    (htidy : (f r).2.Tidy waiting leaving (f r).1) :
    (s.onRelay f).2.Attends next (f r).2 (f r).2.endpoint.waiting (f r).2.leaving := by
  simp only [Session.onRelay, h.connection]
  exact h.finish htidy

lemma Attends.onEndpoint {lost : Prop} (h : s.Attends next r waiting r.leaving)
    {f : DatagramEndpoint → List (Completion Bytes) × DatagramEndpoint}
    (hf : r.endpoint.Moves lost waiting (f r.endpoint).1 (f r.endpoint).2) :
    (s.onEndpoint f).2.AtRest next := by
  simp only [Session.onEndpoint, h.connection]
  exact ⟨_, h.finish (Relay.tidy_endpoint h.ledger.nodup hf r.control r.watching)⟩

namespace AtRest

lemma onControl (h : s.AtRest next) (a : Arrival) : (s.onControl a).2.AtRest next := by
  obtain ⟨r, hr⟩ := h
  have htidy : (r.feed a).2.Tidy r.endpoint.waiting r.leaving (r.feed a).1 :=
    Relay.tidy_settle (r := { r with control := r.control.feed a }) hr.orderly hr.ledger.nodup
  simp only [Session.onControl, hr.connection]
  exact ⟨_, hr.finish htidy⟩

lemma arrive (h : s.AtRest next) (batch : List Bytes) :
    (s.onEndpoint (·.arrive batch)).2.AtRest next := by
  obtain ⟨r, hr⟩ := h
  have hmoves : r.endpoint.Moves False _ _ _ := DatagramEndpoint.moves_arrive hr.orderly batch
  exact hr.onEndpoint hmoves

lemma signal (h : s.AtRest next) (g : Signal) : (s.onEndpoint (·.signal g)).2.AtRest next := by
  obtain ⟨r, hr⟩ := h
  have hmoves : r.endpoint.Moves True _ (r.endpoint.signal g).1 (r.endpoint.signal g).2 :=
    DatagramEndpoint.moves_signal hr.orderly fun _ _ => trivial
  exact hr.onEndpoint hmoves

lemma abandon (h : s.AtRest next) (t : Ticket) (f : Failure) : (s.abandon t f).2.AtRest next := by
  obtain ⟨r, hr⟩ := h
  have hnone : s.draining.any (·.ticket = t) = false := by rw [hr.draining, List.any_nil]
  simp only [Session.abandon, hnone, hr.connection, Bool.false_eq_true, if_false]
  cases habandon : r.abandon? t with
  | none => exact ⟨r, hr⟩
  | some pair =>
    exact ⟨pair.2, hr.finish (Relay.tidy_abandon hr.orderly hr.ledger.nodup habandon f)⟩

lemma tick (h : s.AtRest next) (time : Nat) : (s.tick time).2.AtRest next := by
  obtain ⟨r, hr⟩ := h
  apply tick_induct (P := fun _ s => s.AtRest next)
  · exact ⟨r, hr.connection, hr.orderly, hr.ledger, by simp [hr.draining]⟩
  · exact fun a _ _ _ h => h.onControl a.2
  · exact fun g _ _ _ h => h.signal g.2
  · simp [hr.draining]
  · exact fun p _ _ h => h.abandon p.ticket (.fault .timeout)

lemma advance (h : s.AtRest next) (ticks : Nat) : (s.advance ticks).2.AtRest next := by
  have hrests : ∀ {s : Session} now, s.AtRest next → AtRest next { s with now } := by
    rintro s now ⟨r, hr⟩
    exact ⟨r, hr.connection, hr.orderly, hr.ledger, hr.draining⟩
  exact @runUntil_induct (fun _ s => s.AtRest next) (hrests ·) (fun t h => h.tick t) _ _ [] s h

lemma begin (h : s.AtRest next) : s.begin.AtRest next := by
  obtain ⟨r, hr⟩ := h.tick s.now
  exact ⟨_, hr.onRelay (Relay.tidy_settle hr.orderly hr.ledger.nodup)⟩

end AtRest

/-! ### Operations -/

lemma Attends.start_receiving (h : s.Attends t r r.endpoint.waiting r.leaving) {shape : Shape}
    (hshape : shape ≠ .nothing) (deadline : Option Nat) :
    Attends (t + 1) { s with pending := s.pending ++ [⟨t, shape, deadline⟩] } r
      (r.endpoint.waiting ++ [t]) r.leaving :=
  ⟨h.connection, h.orderly, h.ledger.receive hshape deadline, h.draining⟩

namespace AtRest

lemma receiveFrom (h : s.AtRest t) {shape : Shape} (hshape : shape ≠ .nothing)
    (limit : Option Int) : (s.receiveFrom t shape limit).2.AtRest (t + 1) := by
  have hstart (deadline : Option Nat) :
      (start t shape deadline (onRelay (·.receive t)) s).2.AtRest (t + 1) := by
    obtain ⟨r, hr⟩ := h
    have hstarted := hr.start_receiving hshape deadline
    exact ⟨_, hstarted.onRelay (Relay.tidy_receive hr.orderly hstarted.ledger.nodup)⟩
  unfold Session.receiveFrom startWithin
  split
  · split_ifs
    · exact h.mono (Nat.le_succ t)
    · exact hstart _
  · exact hstart none

lemma receive (h : s.AtRest t) :
    (start t .bytes none (Session.onEndpoint (·.receive t)) s).2.AtRest (t + 1) := by
  obtain ⟨r, hr⟩ := h
  have hmoves : r.endpoint.Moves False _ _ _ := DatagramEndpoint.moves_receive hr.orderly t
  exact (hr.start_receiving (by simp) none).onEndpoint hmoves

lemma waitClosed (h : s.AtRest t) : (s.waitClosed t .nothing).2.AtRest (t + 1) := by
  obtain ⟨r, hr⟩ := h
  have hledger := hr.ledger.leave
  have hstarted : Attends (t + 1) { s with pending := s.pending ++ [⟨t, .nothing, none⟩] } r
      r.endpoint.waiting (r.leaving ++ [t]) := ⟨hr.connection, hr.orderly, hledger, hr.draining⟩
  simp only [Session.waitClosed, hr.connection]
  exact ⟨_, hstarted.onRelay (Relay.tidy_waitClosed hr.orderly hledger.nodup)⟩

lemma sendTo (h : s.AtRest next) (t : Ticket) (payload : Bytes) (dest : Option Value) :
    (s.sendTo t payload dest).2.AtRest next := by
  obtain ⟨r, hr⟩ := h
  simp only [Session.sendTo, hr.connection]
  cases hsend : r.sendTo payload dest with
  | error f => exact ⟨r, hr⟩
  | ok pair =>
    obtain ⟨n, r'⟩ := pair
    obtain ⟨bs, e, he, rfl⟩ := Relay.sendTo_ok hsend
    have hmoves : r.endpoint.Moves False _ [] e := DatagramEndpoint.moves_send hr.orderly he
    have htickets : e.waiting = r.endpoint.waiting := hmoves.tickets
    exact ⟨_, rfl, hmoves.orderly, htickets ▸ hr.ledger, hr.draining⟩

lemma send (h : s.AtRest next) (t : Ticket) (bs : Bytes) : (s.send t bs).2.AtRest next := by
  obtain ⟨r, hr⟩ := h
  simp only [Session.send, Session.endpoint?, hr.connection]
  cases hsend : r.endpoint.send bs with
  | error f => exact ⟨r, hr⟩
  | ok e =>
    have hmoves : r.endpoint.Moves False _ [] e := DatagramEndpoint.moves_send hr.orderly hsend
    exact hr.onEndpoint hmoves

end AtRest

/-! ### Closing -/

lemma close_of_relay (h : s.connection = .relay r) : s.close = s.onRelay (·.close) := by
  simp only [Session.close, h]

lemma Attends.close (h : s.Attends next r r.endpoint.waiting r.leaving) :
    s.close.2.Attends next r.close.2 r.close.2.endpoint.waiting r.close.2.leaving := by
  rw [close_of_relay h.connection]
  exact h.onRelay (Relay.tidy_close h.orderly h.ledger.nodup)

/-- A closed relay, which has sent these datagrams. -/
def Shut (sent : List Bytes) (s : Session) : Prop := ∃ r, s.connection = .relay r ∧ r.Shut sent

variable {sent : List Bytes}

/-- Waiting for the end of a closed relay is over at once. -/
lemma waitClosed_of_shut (hrelay : s.connection = .relay r) (h : r.Shut sent)
    (hfresh : ∀ p ∈ s.pending, p.ticket ≠ t) (shape : Shape) :
    (s.waitClosed t shape).2 = s := by
  have hpending : (s.pending ++ [Pending.mk t shape none]).filter (fun p => t ≠ p.ticket) =
      s.pending := by
    rw [List.filter_append, List.filter_eq_self.mpr, List.filter_eq_nil_iff.mpr, List.append_nil]
    · simp
    · intro p hp
      exact decide_eq_true (hfresh p hp).symm
  obtain ⟨now, connection, arrivals, incoming, pending, draining, written, shown⟩ := s
  obtain rfl : connection = .relay r := hrelay
  simpa [Session.waitClosed, start, Session.onRelay, h.waitClosed, Session.finish] using hpending

namespace AtRest

lemma close (h : s.AtRest next) : s.close.2.AtRest next := by
  obtain ⟨r, hr⟩ := h
  exact ⟨_, hr.close⟩

lemma leave (h : s.AtRest t) : (s.perform t .leave).2.AtRest t := by
  obtain ⟨r, hr⟩ := h
  have hclose := hr.close
  have hwait : (s.close.2.waitClosed t .left).2 = s.close.2 :=
    waitClosed_of_shut hclose.connection r.shut_close
      (fun p hp => Nat.ne_of_lt (hclose.ledger.fresh p hp)) .left
  have hleave : (s.perform t .leave).2 = (s.close.2.waitClosed t .left).2 := rfl
  rw [hleave, hwait]
  exact ⟨_, hclose⟩

lemma closeControl (h : s.AtRest next) : (s.perform t .closeControl).2.AtRest next := by
  obtain ⟨r, hr⟩ := h
  simp only [Session.perform, outside, hr.connection]
  exact ⟨_, rfl, hr.orderly, hr.ledger, hr.draining⟩

lemma lose (h : s.AtRest next) (f : Option Fault) : (s.onEndpoint (·.lose f)).2.AtRest next := by
  obtain ⟨r, hr⟩ := h
  exact hr.onEndpoint (DatagramEndpoint.moves_lose trivial rfl rfl f).1

lemma closeEndpoint (h : s.AtRest next) (reason : Option Fault) :
    (s.onEndpoint (·.close reason)).2.AtRest next := by
  obtain ⟨r, hr⟩ := h
  exact hr.onEndpoint (DatagramEndpoint.moves_close hr.orderly trivial reason).1

lemma report (h : s.AtRest next) (hopened : s.Opened) (f : Fault) :
    (s.onEndpoint (·.report f)).2.AtRest next := by
  obtain ⟨r, hr⟩ := h
  obtain ⟨r', hr', hport⟩ := hopened
  rw [hr.connection] at hr'
  cases hr'
  have hmoves : r.endpoint.Moves False _ _ _ := DatagramEndpoint.moves_report hport f
  exact hr.onEndpoint hmoves

end AtRest

/-! ### Steps -/

/-- The endpoint keeps to the one socket that it has, which reports nothing once it is gone. -/
def Sole (s : Session) : Step → Prop
  | .make _ => False
  | .report _ => s.Opened
  | _ => True

lemma AtRest.perform (h : s.AtRest t) (hsole : s.Sole step) :
    (s.perform t step).2.AtRest (t + 1) := by
  have hlast : t ≤ t + 1 := Nat.le_succ t
  obtain ⟨r, hr⟩ := id h
  cases step with
  | advance ticks => exact (h.advance ticks).mono hlast
  | cancel u => exact (h.abandon u .cancelled).mono hlast
  | isClosing => exact h.mono hlast
  | close => exact h.close.mono hlast
  | waitClosed => exact h.waitClosed
  | leave => exact h.leave.mono hlast
  | atEnd => exact h.mono hlast
  | names => exact h.mono hlast
  | read n limit =>
    simp only [Session.perform, hr.connection]
    exact h.receiveFrom (by simp) limit
  | readExactly n =>
    simp only [Session.perform, hr.connection]
    exact h.mono hlast
  | write payload =>
    simp only [Session.perform, hr.connection]
    exact (h.sendTo t payload none).mono hlast
  | sendTo payload dest => exact (h.sendTo t payload dest).mono hlast
  | receiveFrom limit => exact h.receiveFrom (by simp) limit
  | send bs => exact (h.send t bs).mono hlast
  | receive => exact h.receive
  | closeEndpoint reason => exact (h.closeEndpoint reason).mono hlast
  | info name default => exact h.mono hlast
  | make info => exact hsole.elim
  | arrive batch => exact (h.arrive batch).mono hlast
  | report f => exact (h.report hsole f).mono hlast
  | lose f => exact (h.lose f).mono hlast
  | control a => exact (h.onControl a).mono hlast
  | closeControl => exact h.closeControl.mono hlast

lemma AtRest.after (steps : List Step) : ∀ {t s}, AtRest t s → s.Throughout Sole t steps →
    (s.after t steps).AtRest (t + steps.length) := by
  induction steps with
  | nil => exact fun h _ => h
  | cons step rest ih =>
    intro t s h hsole
    obtain ⟨r, hr⟩ := h.perform hsole.1
    have hreport : (s.report t step).2.AtRest (t + 1) :=
      ⟨r, hr.connection, hr.orderly, hr.ledger, hr.draining⟩
    exact (ih hreport hsole.2).mono (Nat.le_of_eq (numbers_split t [] rest step))

/-! ### After the end -/

namespace Shut

lemma onRelay {f : Relay → List (Completion Outcome) × Relay}
    (hf : ∀ r : Relay, r.Shut sent → (f r).2.Shut sent) (h : s.Shut sent) :
    (s.onRelay f).2.Shut sent := by
  obtain ⟨r, hr, hshut⟩ := h
  simp only [Session.onRelay, hr]
  exact ⟨_, rfl, hf r hshut⟩

lemma onEndpoint {f : DatagramEndpoint → List (Completion Bytes) × DatagramEndpoint}
    (hport : ∀ e : DatagramEndpoint, e.port ≠ .opened → (f e).2.port ≠ .opened)
    (hsent : ∀ e, (f e).2.sent = e.sent) (h : s.Shut sent) : (s.onEndpoint f).2.Shut sent := by
  obtain ⟨r, hr, hshut⟩ := h
  simp only [Session.onEndpoint, hr]
  exact ⟨_, rfl, hshut.onEndpoint (hport _ hshut.endpoint) (hsent _)⟩

lemma onControl (h : s.Shut sent) (a : Arrival) : (s.onControl a).2.Shut sent := by
  obtain ⟨r, hr, hshut⟩ := h
  simp only [Session.onControl, hr]
  exact ⟨_, rfl, hshut.feed a⟩

lemma arrive (h : s.Shut sent) (batch : List Bytes) :
    (s.onEndpoint (·.arrive batch)).2.Shut sent :=
  h.onEndpoint (fun e => (e.arrive_port batch).trans_ne) fun e => e.arrive_sent batch

lemma abandon (h : s.Shut sent) (t : Ticket) (f : Failure) : (s.abandon t f).2.Shut sent := by
  obtain ⟨r, hr, hshut⟩ := h
  unfold Session.abandon
  split_ifs
  · exact ⟨r, hr, hshut⟩
  · simp only [hr]
    cases habandon : r.abandon? t with
    | none => exact ⟨r, hr, hshut⟩
    | some pair => exact ⟨pair.2, rfl, hshut.abandon habandon⟩

lemma lasting (sent : List Bytes) : Lasting fun _ _ _ s => s.Shut sent where
  rests _ h := h
  moves _ h := h
  control h := h.onControl _
  signal g h := h.onEndpoint (fun _ hport => DatagramEndpoint.signal_port hport g)
    fun e => e.signal_sent g
  drained _ h := h
  ages _ h := h
  expires h := h.abandon _ _

lemma waitClosed (h : s.Shut sent) (t : Ticket) (shape : Shape) :
    (s.waitClosed t shape).2.Shut sent := by
  obtain ⟨r, hr, -⟩ := id h
  have hwait : ∀ r : Relay, r.Shut sent → (r.waitClosed t).2.Shut sent := fun r hshut => by
    rw [hshut.waitClosed]
    exact hshut
  simp only [Session.waitClosed, hr]
  exact onRelay hwait h

lemma receiveFrom (h : s.Shut sent) (t : Ticket) (shape : Shape) (limit : Option Int) :
    (s.receiveFrom t shape limit).2.Shut sent := by
  have hreceive : ∀ r : Relay, r.Shut sent → (r.receive t).2.Shut sent := fun r hshut => by
    rw [hshut.receive]
    exact hshut
  unfold Session.receiveFrom startWithin
  cases limit with
  | none => exact onRelay hreceive h
  | some l =>
    simp only
    split_ifs
    · exact h
    · exact onRelay hreceive h

/-- There is nothing left to close. -/
lemma close (h : s.Shut sent) : s.close = ([], s) := by
  obtain ⟨r, hr, hshut⟩ := h
  obtain ⟨now, connection, arrivals, incoming, pending, draining, written, shown⟩ := s
  obtain rfl : connection = .relay r := hr
  simp [Session.close, Session.onRelay, hshut.close, Session.finish]

lemma sendTo (h : s.Shut sent) (t : Ticket) (payload : Bytes) (dest : Option Value) :
    (s.sendTo t payload dest).2 = s := by
  obtain ⟨r, hr, hshut⟩ := h
  obtain ⟨f, hf⟩ := hshut.sendTo_error payload dest
  simp only [Session.sendTo, hr, hf, instantly]

lemma send (h : s.Shut sent) (t : Ticket) (bs : Bytes) : (s.send t bs).2 = s := by
  obtain ⟨r, hr, hshut⟩ := h
  have hclosing : r.endpoint.isClosing = true := decide_eq_true hshut.endpoint
  simp only [Session.send, endpoint?, hr, DatagramEndpoint.send, hclosing, if_true, instantly]

/-- Only a new socket could open the endpoint again. -/
lemma perform (h : s.Shut sent) (t : Ticket) (hstep : ∀ info, step ≠ .make info) :
    (s.perform t step).2.Shut sent := by
  obtain ⟨r, hr, hshut⟩ := id h
  cases step with
  | advance ticks => exact @Lasting.advance _ [] s (lasting sent) ticks h
  | cancel u => exact h.abandon u .cancelled
  | isClosing => exact h
  | close =>
    rw [Session.perform, h.close]
    exact h
  | waitClosed => exact h.waitClosed t .nothing
  | leave =>
    have hleave : (s.perform t .leave).2 = (s.close.2.waitClosed t .left).2 := rfl
    rw [hleave, h.close]
    exact h.waitClosed t .left
  | atEnd => exact h
  | names => exact h
  | read n limit =>
    simp only [Session.perform, hr]
    exact h.receiveFrom t .payload limit
  | readExactly n =>
    simp only [Session.perform, hr]
    exact h
  | write payload =>
    simp only [Session.perform, hr]
    rw [h.sendTo]
    exact h
  | sendTo payload dest =>
    rw [Session.perform, h.sendTo]
    exact h
  | receiveFrom limit => exact h.receiveFrom t .message limit
  | send bs =>
    rw [Session.perform, h.send]
    exact h
  | receive =>
    exact onEndpoint (fun e => (e.receive_port t).trans_ne) (fun e => e.receive_sent t) h
  | closeEndpoint reason =>
    exact h.onEndpoint (fun e _ => e.close_port reason) fun e => e.close_sent reason
  | info name default => exact h
  | make info => exact absurd rfl (hstep info)
  | arrive batch => exact h.arrive batch
  | report f =>
    exact h.onEndpoint (fun e => (e.report_port f).trans_ne) fun e => e.report_sent f
  | lose f =>
    exact h.onEndpoint (fun e _ => e.lose_port f) fun e => e.lose_sent f
  | control a => exact h.onControl a
  | closeControl =>
    simp only [Session.perform, outside, hr]
    exact ⟨_, rfl, rfl, hshut.endpoint, hshut.watching, hshut.leaving, hshut.sent⟩

lemma after (steps : List Step) : ∀ {t s}, Shut sent s → (∀ info, .make info ∉ steps) →
    (s.after t steps).Shut sent := by
  induction steps with
  | nil => exact fun h _ => h
  | cons step rest ih =>
    intro t s h hsteps
    have hperform : (s.perform t step).2.Shut sent :=
      h.perform t fun info hstep => hsteps info (hstep ▸ List.mem_cons_self)
    exact ih (s := (s.report t step).2) hperform fun info hmem =>
      hsteps info (List.mem_cons_of_mem step hmem)

end Shut

/-! ### What closing gives -/

open DatagramEndpoint (closedFault)

lemma close_results (h : s.connection = .relay r) :
    s.close.1 = r.close.1.map (resultOf s.pending) := by
  simp only [close_of_relay h, Session.onRelay, h, Session.finish]

namespace Attends

/-- Only callers from before get something. -/
lemma close_ticket_ne (h : s.Attends t r r.endpoint.waiting r.leaving) {c : Ticket × Result}
    (hc : c ∈ s.close.1) : c.1 ≠ t := by
  rw [close_results h.connection, Relay.close_done h.orderly] at hc
  obtain ⟨d, hd, rfl⟩ := List.mem_map.mp hc
  have hmem : d.1 ∈ r.endpoint.waiting ++ r.leaving := by
    obtain hd | hd := List.mem_append.mp hd
    · obtain ⟨u, hu, rfl⟩ := List.mem_map.mp hd
      exact List.mem_append_left _ hu
    · obtain ⟨u, hu, rfl⟩ := List.mem_map.mp hd
      exact List.mem_append_right _ hu
  intro ht
  have hfresh := (List.nodup_cons.mp h.ledger.nodup_cons).1
  rw [← ht] at hfresh
  exact hfresh hmem

/-- Whoever waits for a datagram is told once that the endpoint is closed. -/
lemma close_tells (h : s.Attends t r r.endpoint.waiting r.leaving) {p : Pending}
    (hp : p ∈ s.pending) (hshape : p.shape ≠ .nothing) (result : Result) :
    (p.ticket, result) ∈ s.close.1 ↔ result = .error (.fault closedFault) := by
  have hwaiting : p.ticket ∈ r.endpoint.waiting :=
    (h.ledger.receivers p.ticket).mpr ⟨p, hp, rfl, hshape⟩
  rw [close_results h.connection, Relay.close_done h.orderly]
  constructor
  · intro hmem
    obtain ⟨d, hd, heq⟩ := List.mem_map.mp hmem
    obtain hd | hd := List.mem_append.mp hd
    · obtain ⟨u, -, rfl⟩ := List.mem_map.mp hd
      exact (congrArg Prod.snd heq).symm
    · -- Nobody waits both for a datagram and for the end.
      obtain ⟨u, hu, rfl⟩ := List.mem_map.mp hd
      obtain rfl : u = p.ticket := congrArg Prod.fst heq
      exact absurd rfl ((List.nodup_append.mp h.ledger.nodup).2.2 _ hwaiting _ hu)
  · rintro rfl
    exact List.mem_map.mpr ⟨(p.ticket, .error (.fault closedFault)),
      List.mem_append_left _ (List.mem_map.mpr ⟨p.ticket, hwaiting, rfl⟩), rfl⟩

lemma close_pending (h : s.Attends t r r.endpoint.waiting r.leaving) : s.close.2.pending = [] := by
  have hclosed := h.close
  have hwaiting : r.close.2.endpoint.waiting = [] :=
    hclosed.orderly.waiting_eq_nil r.shut_close.endpoint
  refine List.eq_nil_iff_forall_not_mem.mpr fun p hp => ?_
  by_cases hshape : p.shape = .nothing
  · have hmem := (hclosed.ledger.leavers p.ticket).mpr ⟨p, hp, rfl, hshape⟩
    rw [r.shut_close.leaving] at hmem
    cases hmem
  · have hmem := (hclosed.ledger.receivers p.ticket).mpr ⟨p, hp, rfl, hshape⟩
    rw [hwaiting] at hmem
    cases hmem

end Attends

/-- Closing gives its own result at once, and to others what it gives them. -/
lemma Attends.report_close (h : s.Attends t r r.endpoint.waiting r.leaving) :
    (s.report t .close).1.result = some (.ok .nothing) ∧
      ∀ c, c ∈ (s.report t .close).1.late ↔ c ∈ s.close.1 := by
  have hresult : (s.report t .close).1.result =
      ((s.perform t .close).1.find? (·.1 = t)).map (·.2) := rfl
  have hlate : (s.report t .close).1.late =
      ((s.perform t .close).1.filter (·.1 ≠ t)).mergeSort fun a b => a.1 ≤ b.1 := rfl
  have hperform : (s.perform t .close).1 = s.close.1 ++ [(t, .ok .nothing)] := rfl
  have hothers : s.close.1.find? (·.1 = t) = none :=
    List.find?_eq_none.mpr fun c hc => by simpa using h.close_ticket_ne hc
  have hsame : (s.perform t .close).1.filter (·.1 ≠ t) = s.close.1 := by
    rw [hperform, List.filter_append, List.filter_eq_self.mpr, List.filter_eq_nil_iff.mpr,
      List.append_nil]
    · simp
    · exact fun c hc => decide_eq_true (h.close_ticket_ne hc)
  constructor
  · rw [hresult, hperform, List.find?_append, hothers]
    simp
  · intro c
    rw [hlate, hsame]
    exact (List.mergeSort_perm _ _).mem_iff

/-! ### What is left of a closed relay -/

/-- The relay may send to this destination. -/
def Accepts (s : Session) (dest : Option Value) : Prop :=
  ∃ r target, s.connection = .relay r ∧ r.resolve dest = .ok target

namespace Shut

lemma perform_receiveFrom (h : s.Shut sent) (u : Ticket) (shape : Shape) {limit : Option Int}
    (hlimit : ∀ l ∈ limit, 0 < l) :
    (s.receiveFrom u shape limit).1 = [(u, .error (.fault Relay.controlFault))] := by
  obtain ⟨r, hr, hshut⟩ := h
  have hstart (deadline : Option Nat) :
      (start u shape deadline (Session.onRelay (·.receive u)) s).1 =
        [(u, .error (.fault Relay.controlFault))] := by
    simp only [start, Session.onRelay, hr, hshut.receive, Session.finish, List.map_cons,
      List.map_nil]
    rfl
  unfold Session.receiveFrom startWithin
  cases limit with
  | none => exact hstart none
  | some l =>
    simp only
    rw [if_neg (Int.not_le.mpr (hlimit l rfl)), hstart]

lemma perform_sendTo (h : s.Shut sent) (u : Ticket) (payload : Bytes) {dest : Option Value}
    (hdest : s.Accepts dest) :
    s.sendTo u payload dest = ([(u, .error (.fault Relay.controlFault))], s) := by
  obtain ⟨r, hr, hshut⟩ := h
  obtain ⟨r', target, hr', hresolve⟩ := hdest
  rw [hr] at hr'
  cases hr'
  simp only [Session.sendTo, hr, hshut.sendTo payload hresolve, instantly]

end Shut

/-! ### The whole course -/

/-- A relay at which nobody has done anything yet. Whatever stands in the queue, if the socket of
the endpoint is gone then the queue tells so. -/
structure Fresh (s : Session) (r : Relay) : Prop where
  connection : s.connection = .relay r
  pending : s.pending = []
  draining : s.draining = []
  waiting : r.endpoint.waiting = []
  leaving : r.leaving = []
  tells : r.endpoint.port ≠ .opened → r.endpoint.TellsEnd

lemma Fresh.atRest (h : s.Fresh r) : s.AtRest 0 := by
  refine ⟨r, h.connection, ⟨fun hwaiting => absurd h.waiting hwaiting, h.tells⟩, ?_, h.draining⟩
  rw [h.pending, h.waiting, h.leaving]
  exact .nil 0

/-- Closing a relay ends everything, whatever was done to it before. It has its own result at once,
leaves nothing pending, and whoever waits for a datagram gets one result, that the endpoint is
closed. From then on, as long as there is no new socket, the control connection and the endpoint are
closed, the watcher has ended and nothing is sent; who wants to receive, or to send to a destination
that the relay accepts, is told that the control connection is gone, and to close again changes
nothing. -/
theorem closing_is_complete (hfresh : s.Fresh r) (before later : List Step)
    (hsole : s.begin.Throughout Sole 0 before) (hlater : ∀ info, .make info ∉ later) :
    let used := s.begin.after 0 before
    let closing := used.report before.length .close
    let closed := closing.2.after (before.length + 1) later
    (closing.1.result = some (.ok .nothing) ∧ closing.2.pending = [] ∧
      ∀ p ∈ used.pending, p.shape ≠ .nothing → ∀ result,
        (p.ticket, result) ∈ closing.1.late ↔ result = .error (.fault closedFault)) ∧
    (∃ r', closed.connection = .relay r' ∧ r'.control.closed = true ∧
      r'.endpoint.isClosing = true ∧ r'.watching = false) ∧
    closed.sent = used.sent ∧
    (∀ u limit, (∀ l ∈ limit, 0 < l) →
      (closed.perform u (.receiveFrom limit)).1 = [(u, .error (.fault Relay.controlFault))] ∧
      ∀ n, (closed.perform u (.read n limit)).1 = [(u, .error (.fault Relay.controlFault))]) ∧
    (∀ u payload dest, closed.Accepts dest → closed.perform u (.sendTo payload dest) =
      ([(u, .error (.fault Relay.controlFault))], closed)) ∧
    ∀ u, closed.perform u .close = ([(u, .ok .nothing)], closed) := by
  intro used closing closed
  obtain ⟨r₁, h₁⟩ := hfresh.atRest.begin.after before hsole
  rw [Nat.zero_add] at h₁
  have hshut : used.close.2.Shut r₁.endpoint.sent := ⟨_, h₁.close.connection, r₁.shut_close⟩
  have hclosed : closed.Shut r₁.endpoint.sent := Shut.after later (s := closing.2) hshut hlater
  obtain ⟨hresult, hlate⟩ := h₁.report_close
  obtain ⟨r', hr', hshut'⟩ := id hclosed
  refine ⟨⟨hresult, h₁.close_pending, fun p hp hshape result => ?_⟩, ?_, ?_, ?_, ?_, ?_⟩
  · rw [hlate]
    exact h₁.close_tells hp hshape result
  · exact ⟨r', hr', hshut'.control, decide_eq_true hshut'.endpoint, hshut'.watching⟩
  · rw [sent, sent, endpoint?, endpoint?, hr', h₁.connection]
    exact congrArg some hshut'.sent
  · intro u limit hlimit
    refine ⟨hclosed.perform_receiveFrom u .message hlimit, fun n => ?_⟩
    rw [← hclosed.perform_receiveFrom u .payload hlimit]
    simp only [Session.perform, hr']
  · exact fun u payload dest hdest => hclosed.perform_sendTo u payload hdest
  · intro u
    rw [Session.perform, hclosed.close]
    rfl

end Session

namespace Dialer

lemma dial_fresh {d : Dialer} {script : Script} {network address : Text} {limit : Option Int}
    {s : Session} {r : Relay} (hdial : (d.dial script network address limit).outcome = .value s)
    (hrelay : s.connection = .relay r) : s.Fresh r := by
  obtain ⟨l, fixed, rfl, -⟩ := dial_relay hdial hrelay
  cases hrelay
  exact ⟨rfl, rfl, rfl, rfl, rfl, fun hport => absurd rfl hport⟩

end Dialer

namespace Session

open DatagramEndpoint (closedFault)

/-- The watcher of a relay was taken away, and so a receiver goes on waiting when the proxy has
ended the control connection. Closing the relay tells him all the same. -/
theorem closing_is_complete_without_watcher :
    let d : Dialer := { proxy := ⟨.ipv4 ⟨10, 0, 0, 1⟩, 1080⟩ }
    let script : Script :=
      { stream := { arrivals := [(1, .data [5, 0]), (2, .data [5, 0, 0, 1, 10, 0, 0, 1, 4, 56])] } }
    let r : Relay :=
      { control := { written := [5, 1, 0, 5, 3, 0, 1, 192, 0, 2, 1, 0, 53] }
        endpoint := { port := .opened }
        fixed := some ⟨.ipv4 ⟨192, 0, 2, 1⟩, 53⟩ }
    let s : Session := { now := 2, connection := .relay r, shownWritten := 13 }
    let before : List Step := [.waitClosed, .cancel 0, .receiveFrom none, .control .ended]
    let closing := (s.begin.after 0 before).report 4 .close
    let closed := closing.2.after 5 [.lose none, .report ⟨.refused, "refused"⟩]
    (d.dial script "udp" "192.0.2.1:53" none).outcome = .value s ∧
      s.begin.Throughout Sole 0 before ∧ (s.begin.after 0 before).pending ≠ [] ∧
      (2, .error (.fault closedFault)) ∈ closing.1.late ∧ closing.2.pending = [] ∧
      closed.perform 7 (.write [1]) = ([(7, .error (.fault Relay.controlFault))], closed) ∧
      closed.perform 8 .close = ([(8, .ok .nothing)], closed) := by
  intro d script r s before closing closed
  have hdial : (d.dial script "udp" "192.0.2.1:53" none).outcome = .value s := rfl
  have hsole : s.begin.Throughout Sole 0 before := ⟨trivial, trivial, trivial, trivial, trivial⟩
  obtain ⟨⟨-, hnone, htold⟩, -, -, -, hsend, hclose⟩ :=
    closing_is_complete (Dialer.dial_fresh hdial rfl) before
      [.lose none, .report ⟨.refused, "refused"⟩] hsole (by simp)
  refine ⟨hdial, hsole, ?_, ?_, hnone, ?_, hclose 8⟩
  · exact List.cons_ne_nil _ _
  · exact (htold ⟨2, .message, none⟩ List.mem_cons_self (by simp) _).mpr rfl
  · exact hsend 7 [1] none ⟨_, _, rfl, rfl⟩

end Session

end Socks5
