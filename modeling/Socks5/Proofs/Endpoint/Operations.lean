import Socks5.Proofs.Endpoint.Turns

/-!
# The operations of an endpoint in turns

The operations of an endpoint serve everybody at once. Each of them is a run of events: what happens
from outside, and then the turns of those that it has woken, the first woken first. `Turns.Shows`
relates a state in which nobody is woken to the endpoint that looks the same from outside.
-/

namespace Socks5

open Endpoint

/-! ### Serving everybody in turn -/

namespace Turns

/-- Exactly those are woken for whom there is something to take. -/
structure Ready (s : Turns) : Prop where
  enough : s.woken.length ≤ s.endpoint.queue.length
  all : s.endpoint.waiting ≠ [] → s.endpoint.queue.length = s.woken.length

/-- Nobody is woken, and nobody sleeps beside something to take. -/
structure Settled (s : Turns) : Prop where
  woken : s.woken = []
  idle : s.endpoint.waiting ≠ [] → s.endpoint.queue = []

variable {s : Turns}

lemma Settled.ready (h : s.Settled) : s.Ready where
  enough := by simp [h.woken]
  all := fun hwaiting => by simp [h.woken, h.idle hwaiting]

lemma Ready.settled (h : s.Ready) (hwoken : s.woken = []) : s.Settled where
  woken := hwoken
  idle := fun hwaiting => List.eq_nil_of_length_eq_zero (by rw [h.all hwaiting, hwoken]; rfl)

/-- Putting one thing more into the queue wakes one receiver more. -/
lemma Ready.wake (h : s.Ready) {e : DatagramEndpoint} (hwaiting : e.waiting = s.endpoint.waiting)
    (hqueue : e.queue.length = s.endpoint.queue.length + 1) (arrived : List Item) :
    (Turns.wake { s with endpoint := e, arrived }).Ready := by
  obtain ⟨henough, hall⟩ := h
  cases hsleep : s.endpoint.waiting with
  | nil =>
    refine ⟨?_, fun htail => ?_⟩
    · simp only [Turns.wake, hwaiting, hsleep, hqueue, List.take_nil, List.append_nil]
      omega
    · simp [Turns.wake, hwaiting, hsleep] at htail
  | cons u w =>
    have hlength := hall (by rw [hsleep]; exact List.cons_ne_nil u w)
    refine ⟨?_, fun _ => ?_⟩
    · simp [Turns.wake, hwaiting, hsleep, hqueue, hlength]
    · simp [Turns.wake, hwaiting, hsleep, hqueue, hlength]

lemma turn_resume {t : Ticket} {ts : List Ticket} (hwoken : s.woken = t :: ts) :
    s.turn (.resume t) = takeTurn t { s with woken := ts } := by
  simp [turn, hwoken]

/-- When a woken receiver has its turn there is something to take, and the others stay ready. -/
lemma Ready.takeTurn {item : Item} {rest : List Item} {t : Ticket} {ts : List Ticket}
    (h : s.Ready) (hwoken : s.woken = t :: ts) (hqueue : s.endpoint.queue = item :: rest) :
    (Turns.takeTurn t { s with woken := ts }).Ready := by
  obtain ⟨henough, hall⟩ := h
  rw [hwoken, hqueue] at henough hall
  simp only [List.length_cons] at henough hall
  rw [takeTurn_cons (s := { s with woken := ts }) hqueue]
  by_cases hback : s.endpoint.putsBack item
  · simp only [hback, if_true]
    cases hsleep : s.endpoint.waiting with
    | nil =>
      refine ⟨?_, fun htail => ?_⟩
      · simp [Turns.wake, DatagramEndpoint.without, hback, hsleep]
        omega
      · simp [Turns.wake, DatagramEndpoint.without, hsleep] at htail
    | cons u w =>
      have hlength := hall (by rw [hsleep]; exact List.cons_ne_nil u w)
      refine ⟨?_, fun _ => ?_⟩
      · simp [Turns.wake, DatagramEndpoint.without, hback, hsleep, hlength]
      · simp [Turns.wake, DatagramEndpoint.without, hback, hsleep, hlength]
  · simp only [hback]
    refine ⟨?_, fun hwaiting => ?_⟩
    · simp [DatagramEndpoint.without, hback]
      omega
    · have hlength := hall hwaiting
      simp [DatagramEndpoint.without, hback]
      omega

/-- Giving the woken receivers their turns, the first woken first, is serving everybody. -/
lemma Ready.exists_settled (h : s.Ready) :
    ∃ events, (run events s).Settled ∧
      (run events s).endpoint = (DatagramEndpoint.serveAll s.pending s.endpoint).2 ∧
      (run events s).receipts.map Receipt.completion =
        s.receipts.map Receipt.completion ++
          (DatagramEndpoint.serveAll s.pending s.endpoint).1 := by
  generalize hpending : s.pending = ts
  induction ts generalizing s with
  | nil =>
    obtain ⟨hwoken, hwaiting⟩ := List.append_eq_nil_iff.mp hpending
    refine ⟨[], h.settled hwoken, ?_, (List.append_nil _).symm⟩
    simp only [run_nil, DatagramEndpoint.serveAll, ← hwaiting]
  | cons t rest ih =>
    cases hwoken : s.woken with
    | nil =>
      have hwaiting : s.endpoint.waiting = t :: rest := by simpa [pending, hwoken] using hpending
      have hqueue := (h.settled hwoken).idle (by simp [hwaiting])
      refine ⟨[], h.settled hwoken, ?_, ?_⟩
      · rw [DatagramEndpoint.serveAll_nil_queue _ hqueue, ← hwaiting]
        rfl
      · rw [DatagramEndpoint.serveAll_nil_queue _ hqueue, List.append_nil]
        rfl
    | cons u us =>
      obtain ⟨rfl, hrest⟩ : u = t ∧ us ++ s.endpoint.waiting = rest := by
        simpa [pending, hwoken] using hpending
      obtain ⟨item, queue, hqueue⟩ : ∃ item queue, s.endpoint.queue = item :: queue := by
        refine List.exists_cons_of_ne_nil (List.ne_nil_of_length_pos ?_)
        exact Nat.lt_of_lt_of_le (by simp [hwoken]) h.enough
      have hnext := h.takeTurn hwoken hqueue
      obtain ⟨events, hsettled, hendpoint, hreceipts⟩ := ih hnext
        ((takeTurn_pending (s := { s with woken := us }) hqueue u).trans hrest)
      rw [takeTurn_endpoint (s := { s with woken := us }) hqueue,
        DatagramEndpoint.serveAll_waiting] at hendpoint hreceipts
      refine ⟨.resume u :: events, ?_, ?_, ?_⟩
      · rwa [run_cons, turn_resume hwoken]
      · rw [run_cons, turn_resume hwoken, hendpoint, DatagramEndpoint.serveAll_cons _ hqueue]
      · rw [run_cons, turn_resume hwoken, hreceipts, DatagramEndpoint.serveAll_cons _ hqueue,
          takeTurn_receipts (s := { s with woken := us }) hqueue, List.map_append,
          List.append_assoc]
        rfl

end Turns

/-! ### The operations of an endpoint -/

/-- What is done with an endpoint, or happens to it; everybody is served at once. -/
inductive Operation where
  /-- Datagrams arrive together. -/
  | arrive (batch : List Bytes)
  /-- The socket reports a fault. -/
  | report (f : Fault)
  /-- The socket is gone. -/
  | lose (f : Option Fault)
  /-- The owner closes the endpoint. -/
  | close (reason : Option Fault)
  /-- A receiver comes, unless it is waiting already. -/
  | receive (t : Ticket)
  /-- A receiver gives up. -/
  | abandon (t : Ticket)

namespace Operation

/-- Carries out an operation. -/
def perform (e : DatagramEndpoint) : Operation → List (Completion Bytes) × DatagramEndpoint
  | .arrive batch => e.arrive batch
  | .report f => e.report f
  | .lose f => e.lose f
  | .close reason => e.close reason
  | .receive t => if t ∈ e.waiting then ([], e) else e.receive t
  | .abandon t => ([], (e.abandon? t).getD e)

/-- Carries out operations one after the other. -/
def performAll : List Operation → DatagramEndpoint → List (Completion Bytes) × DatagramEndpoint
  | [], e => ([], e)
  | op :: rest, e =>
    ((op.perform e).1 ++ (performAll rest (op.perform e).2).1, (performAll rest (op.perform e).2).2)

end Operation

namespace Turns

variable {s : Turns} {e : DatagramEndpoint} {done : List (Completion Bytes)}

/-- Nobody is woken, the endpoint is this one, and its receivers have got what was taken. -/
structure Shows (s : Turns) (e : DatagramEndpoint) (done : List (Completion Bytes)) : Prop where
  settled : s.Settled
  endpoint : s.endpoint = e
  receipts : s.receipts.map Receipt.completion = done
  tags : ∀ n ∈ e.reason, n.tag < e.nextTag

/-- What is left to do before an endpoint is shown again is to serve its receivers. -/
lemma Ready.exists_shows (h : s.Ready) (hpending : s.pending = e.waiting)
    (hendpoint : s.endpoint = { e with waiting := s.endpoint.waiting })
    (hreceipts : s.receipts.map Receipt.completion = done)
    (htags : ∀ n ∈ e.reason, n.tag < e.nextTag) :
    ∃ events, (run events s).Shows e.serve.2 (done ++ e.serve.1) := by
  obtain ⟨events, hsettled, hend, hgot⟩ := h.exists_settled
  have hserve : DatagramEndpoint.serveAll s.pending s.endpoint = e.serve := by
    rw [DatagramEndpoint.serve, hpending, hendpoint, DatagramEndpoint.serveAll_waiting]
  rw [hserve] at hend hgot
  refine ⟨events, hsettled, hend, hgot.trans (congrArg (· ++ _) hreceipts), ?_⟩
  rw [DatagramEndpoint.serve, e.serveAll_frame]
  exact htags

/-! ### One operation -/

lemma Ready.arrive_one (h : s.Ready) (bs : Bytes) :
    (s.turn (.arrive bs)).Ready ∧ (s.turn (.arrive bs)).pending = s.pending ∧
      (s.turn (.arrive bs)).receipts = s.receipts ∧
      (s.turn (.arrive bs)).endpoint = { s.endpoint.enqueue bs with
        waiting := (s.turn (.arrive bs)).endpoint.waiting } := by
  by_cases hfull : isFull s.endpoint.capacity s.endpoint.queue.length
  · rw [turn_arrive_of_full hfull, DatagramEndpoint.enqueue, if_pos hfull]
    exact ⟨⟨h.enough, h.all⟩, rfl, rfl, rfl⟩
  · rw [turn_arrive_of_room hfull, DatagramEndpoint.enqueue, if_neg hfull]
    refine ⟨h.wake ?_ ?_ _, wake_pending _, rfl, rfl⟩
    · rfl
    · exact List.length_append

/-- Datagrams that arrive one after the other wake receivers as they are needed. -/
lemma Ready.arrive (h : s.Ready) (batch : List Bytes) :
    (run (batch.map .arrive) s).Ready ∧ (run (batch.map .arrive) s).pending = s.pending ∧
      (run (batch.map .arrive) s).receipts = s.receipts ∧
      (run (batch.map .arrive) s).endpoint = { batch.foldl DatagramEndpoint.enqueue s.endpoint with
        waiting := (run (batch.map .arrive) s).endpoint.waiting } := by
  induction batch generalizing s with
  | nil => exact ⟨h, rfl, rfl, rfl⟩
  | cons bs rest ih =>
    obtain ⟨hready, hpending, hreceipts, hendpoint⟩ := h.arrive_one bs
    obtain ⟨hready', hpending', hreceipts', hendpoint'⟩ := ih hready
    refine ⟨hready', hpending'.trans hpending, hreceipts'.trans hreceipts, ?_⟩
    rw [hendpoint, DatagramEndpoint.foldl_enqueue_waiting] at hendpoint'
    exact hendpoint'

/-- A notice that comes while nobody is woken wakes one receiver. -/
lemma Settled.notice (h : s.Settled) {e : DatagramEndpoint}
    (hwaiting : e.waiting = s.endpoint.waiting) (hqueue : e.queue = s.endpoint.queue) (n : Notice)
    (arrived : List Item) :
    (Turns.wake { s with endpoint := e.enqueueNotice n, arrived }).Ready := by
  cases hsleep : s.endpoint.waiting with
  | nil =>
    refine ⟨?_, fun htail => ?_⟩
    · simp [Turns.wake, DatagramEndpoint.enqueueNotice, hwaiting, hsleep, h.woken]
    · simp [Turns.wake, DatagramEndpoint.enqueueNotice, hwaiting, hsleep] at htail
  | cons u w =>
    have hnone : e.queue = [] := hqueue.trans (h.idle (by simp [hsleep]))
    refine ⟨?_, fun _ => ?_⟩
    · simp [Turns.wake, DatagramEndpoint.enqueueNotice, hwaiting, hsleep, h.woken]
    · simp [Turns.wake, DatagramEndpoint.enqueueNotice, hwaiting, hsleep, h.woken, hnone, makeRoom]

/-- A notice that comes while nobody is woken is served like any other. -/
lemma Settled.exists_shows (h : s.Settled) {e : DatagramEndpoint} (n : Notice)
    (hwaiting : e.waiting = s.endpoint.waiting) (hqueue : e.queue = s.endpoint.queue)
    (hreceipts : s.receipts.map Receipt.completion = done)
    (htags : ∀ n ∈ e.reason, n.tag < e.nextTag) :
    ∃ events, (run events (Turns.wake { s with
        endpoint := e.enqueueNotice n, arrived := s.arrived ++ [.notice n] })).Shows
      (e.enqueueNotice n).serve.2 (done ++ (e.enqueueNotice n).serve.1) := by
  refine (h.notice hwaiting hqueue n _).exists_shows ?_ rfl hreceipts htags
  rw [wake_pending, pending, h.woken]
  rfl

lemma tagged_tags (e : DatagramEndpoint) (n : Notice) (htags : ∀ m ∈ e.reason, m.tag < e.nextTag) :
    ∀ m ∈ (e.tagged n).reason, m.tag < (e.tagged n).nextTag :=
  fun m hm => Nat.lt_of_lt_of_le (htags m hm) (Nat.le_max_left _ _)

lemma Shows.report (h : s.Shows e done) (f : Fault) :
    ∃ events, (run events s).Shows (e.report f).2 (done ++ (e.report f).1) := by
  obtain ⟨hsettled, rfl, hreceipts, htags⟩ := h
  obtain ⟨events, hshows⟩ := hsettled.exists_shows (e := s.endpoint.tagged ⟨s.endpoint.nextTag, f⟩)
    ⟨s.endpoint.nextTag, f⟩ rfl rfl hreceipts (tagged_tags _ _ htags)
  refine ⟨.report ⟨s.endpoint.nextTag, f⟩ :: events, ?_⟩
  simp only [DatagramEndpoint.report, DatagramEndpoint.freshNotice_eq]
  exact hshows

lemma Shows.lose (h : s.Shows e done) (f : Option Fault) :
    ∃ events, (run events s).Shows (e.lose f).2 (done ++ (e.lose f).1) := by
  obtain ⟨hsettled, rfl, hreceipts, htags⟩ := h
  obtain ⟨n, hn⟩ := s.endpoint.endNotice_eq htags f
  obtain ⟨events, hshows⟩ := hsettled.exists_shows (e := (s.endpoint.tagged n).ended n) n rfl rfl
    hreceipts (tagged_tags _ _ htags)
  refine ⟨.lose n :: events, ?_⟩
  simp only [DatagramEndpoint.lose, hn]
  exact hshows

lemma Shows.close (h : s.Shows e done) (reason : Option Fault) :
    ∃ events, (run events s).Shows (e.close reason).2 (done ++ (e.close reason).1) := by
  by_cases hport : e.port = .opened
  · obtain ⟨hsettled, rfl, hreceipts, htags⟩ := h
    cases reason with
    | none =>
      have hclose : s.turn (.close none) =
          { s with endpoint := { s.endpoint with port := .closed, reason := none } } := if_pos hport
      have hshows : (s.turn (.close none)).Shows
          { s.endpoint with port := .closed, reason := none } done := by
        rw [hclose]
        exact ⟨⟨hsettled.woken, hsettled.idle⟩, rfl, hreceipts, fun _ hm => nomatch hm⟩
      obtain ⟨events, hlost⟩ := hshows.lose none
      refine ⟨.close none :: events, ?_⟩
      rw [show s.endpoint.close none = _ from if_pos hport]
      exact hlost
    | some f =>
      have hclose : s.turn (.close (some ⟨s.endpoint.nextTag, f⟩)) = { s with
          endpoint := { s.endpoint.tagged ⟨s.endpoint.nextTag, f⟩ with
            port := .closed, reason := some ⟨s.endpoint.nextTag, f⟩ } } := if_pos hport
      have hshows : (s.turn (.close (some ⟨s.endpoint.nextTag, f⟩))).Shows
          { s.endpoint.tagged ⟨s.endpoint.nextTag, f⟩ with
            port := .closed, reason := some ⟨s.endpoint.nextTag, f⟩ } done := by
        rw [hclose]
        refine ⟨⟨hsettled.woken, hsettled.idle⟩, rfl, hreceipts, fun m hm => ?_⟩
        obtain rfl := Option.some.inj hm
        exact Nat.le_max_right _ _
      obtain ⟨events, hlost⟩ := hshows.lose none
      refine ⟨.close (some ⟨s.endpoint.nextTag, f⟩) :: events, ?_⟩
      rw [show s.endpoint.close (some f) = _ from if_pos hport]
      simp only [DatagramEndpoint.freshNotice_eq]
      exact hlost
  · refine ⟨[], ?_⟩
    rw [show e.close reason = ([], e) from if_neg hport, List.append_nil]
    exact h

lemma Shows.arrive (h : s.Shows e done) (batch : List Bytes) :
    ∃ events, (run events s).Shows (e.arrive batch).2 (done ++ (e.arrive batch).1) := by
  obtain ⟨hsettled, rfl, hreceipts, htags⟩ := h
  have hframe := s.endpoint.foldl_enqueue_frame batch
  obtain ⟨hready, hpending, hsame, hendpoint⟩ := hsettled.ready.arrive batch
  have hwaiting : s.pending = (batch.foldl DatagramEndpoint.enqueue s.endpoint).waiting := by
    rw [hframe, pending, hsettled.woken]
    rfl
  obtain ⟨events, hshows⟩ := hready.exists_shows (hpending.trans hwaiting) hendpoint
    ((congrArg _ hsame).trans hreceipts) (by rw [hframe]; exact htags)
  refine ⟨batch.map .arrive ++ events, ?_⟩
  rw [run_append]
  exact hshows

lemma Shows.receive (h : s.Shows e done) {t : Ticket} (ht : t ∉ e.waiting) :
    ∃ events, (run events s).Shows (e.receive t).2 (done ++ (e.receive t).1) := by
  obtain ⟨hsettled, rfl, hreceipts, htags⟩ := h
  have hturn : s.turn (.receive t) = s.takeTurn t := by simp [turn, ht, hsettled.woken]
  refine ⟨[.receive t], ?_⟩
  rw [run_cons, run_nil, hturn, DatagramEndpoint.receive, DatagramEndpoint.serve,
    DatagramEndpoint.serveAll_waiting]
  by_cases hqueue : s.endpoint.queue = []
  · rw [takeTurn_nil hqueue, DatagramEndpoint.serveAll_nil_queue _ hqueue, List.append_nil]
    exact ⟨⟨hsettled.woken, fun _ => hqueue⟩, rfl, hreceipts, htags⟩
  · have hwaiting : s.endpoint.waiting = [] := by_contra fun hne => hqueue (hsettled.idle hne)
    obtain ⟨item, rest, hitem⟩ := List.exists_cons_of_ne_nil hqueue
    -- Nobody slept, so nobody is woken or sleeps afterwards.
    have hpending : (s.takeTurn t).pending = [] := by
      rw [takeTurn_pending hitem, pending, hsettled.woken, hwaiting]
      rfl
    obtain ⟨hwoken, hnobody⟩ := List.append_eq_nil_iff.mp hpending
    simp only [hwaiting, List.nil_append, DatagramEndpoint.serveAll_cons _ hitem]
    refine ⟨⟨hwoken, fun hne => absurd hnobody hne⟩, ?_, ?_, htags⟩
    · rw [takeTurn_endpoint hitem, hnobody]
      rfl
    · rw [takeTurn_receipts hitem, List.map_append, hreceipts]
      rfl

lemma Shows.abandon (h : s.Shows e done) (t : Ticket) :
    ∃ events, (run events s).Shows ((e.abandon? t).getD e) done := by
  obtain ⟨hsettled, rfl, hreceipts, htags⟩ := h
  by_cases ht : t ∈ s.endpoint.waiting
  · have habandon : s.endpoint.abandon? t =
        some { s.endpoint with waiting := s.endpoint.waiting.filter (· ≠ t) } := if_pos ht
    refine ⟨[.cancel t], ?_⟩
    rw [run_cons, run_nil, turn_cancel_of_asleep ht, habandon]
    exact ⟨⟨hsettled.woken, fun _ => hsettled.idle (List.ne_nil_of_mem ht)⟩, rfl, hreceipts, htags⟩
  · have habandon : s.endpoint.abandon? t = none := if_neg ht
    refine ⟨[], ?_⟩
    rw [habandon]
    exact ⟨hsettled, rfl, hreceipts, htags⟩

/-- Every operation is a run of events. -/
lemma Shows.perform (h : s.Shows e done) (op : Operation) :
    ∃ events, (run events s).Shows (op.perform e).2 (done ++ (op.perform e).1) := by
  cases op with
  | arrive batch => exact h.arrive batch
  | report f => exact h.report f
  | lose f => exact h.lose f
  | close reason => exact h.close reason
  | receive t =>
    by_cases ht : t ∈ e.waiting
    · refine ⟨[], ?_⟩
      simp only [Operation.perform, if_pos ht, List.append_nil]
      exact h
    · simp only [Operation.perform, if_neg ht]
      exact h.receive ht
  | abandon t =>
    obtain ⟨events, hshows⟩ := h.abandon t
    exact ⟨events, by simpa only [Operation.perform, List.append_nil] using hshows⟩

/-- The operations of an endpoint are runs of events, after which nobody is woken. -/
theorem Shows.performAll (h : s.Shows e done) (ops : List Operation) :
    ∃ events, (run events s).Shows (Operation.performAll ops e).2
      (done ++ (Operation.performAll ops e).1) := by
  induction ops generalizing s e done with
  | nil => exact ⟨[], by simpa only [run_nil, Operation.performAll, List.append_nil] using h⟩
  | cons op rest ih =>
    obtain ⟨events, hop⟩ := h.perform op
    obtain ⟨events', hrest⟩ := ih hop
    refine ⟨events ++ events', ?_⟩
    rw [run_append, Operation.performAll, ← List.append_assoc]
    exact hrest

end Turns

end Socks5
