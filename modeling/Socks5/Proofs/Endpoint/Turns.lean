import Socks5.Proofs.Endpoint.Serving

/-!
# Receivers in turn

A receiver that finds nothing in the queue sleeps. Whatever is put into the queue wakes the one that
has slept longest, but this one takes an item only when its turn comes, and until then others may
come, go, or take the item first. `Turns` is an endpoint together with the receivers that were woken
and have not had their turn, and with a record of everything that arrived and was taken; `turn`
carries out one event at a time, in any order. The operations of an endpoint, which serve everybody
at once, are shown to be runs of such events.
-/

namespace Socks5

open Endpoint

/-! ### Turns -/

/-- What a receiver took. -/
structure Receipt where
  /-- The receiver. -/
  ticket : Ticket
  /-- The item. -/
  item : Item
  /-- Whether the item went back to the queue. -/
  back : Bool

/-- What the receiver got. -/
def Receipt.completion (r : Receipt) : Completion Bytes := (r.ticket, r.item.result)

/-- An endpoint between two events. The receivers that wait there are asleep. -/
structure Turns where
  /-- The endpoint. -/
  endpoint : DatagramEndpoint
  /-- The receivers that were woken, in this order. -/
  woken : List Ticket := []
  /-- Everything that has arrived, in order. -/
  arrived : List Item := []
  /-- Everything that was taken, in order. -/
  receipts : List Receipt := []

/-- What can happen next. -/
inductive Event where
  /-- A datagram arrives. -/
  | arrive (bs : Bytes)
  /-- The socket reports a fault. -/
  | report (n : Notice)
  /-- The owner closes the endpoint, with a reason for receivers. -/
  | close (reason : Option Notice)
  /-- The socket is gone. -/
  | lose (n : Notice)
  /-- A new receiver comes. -/
  | receive (t : Ticket)
  /-- A receiver that was woken has its turn. -/
  | resume (t : Ticket)
  /-- A receiver gives up. -/
  | cancel (t : Ticket)

/-- The item that arrives with an event. -/
def Event.item? : Event → Option Item
  | .arrive bs => some (.datagram bs)
  | .report n | .lose n => some (.notice n)
  | _ => none

/-- Everything that arrives, in order. -/
def arrivals (events : List Event) : List Item := events.filterMap Event.item?

namespace Turns

/-- Wakes the receiver that has slept longest. -/
def wake (s : Turns) : Turns :=
  { s with
    endpoint := { s.endpoint with waiting := s.endpoint.waiting.tail }
    woken := s.woken ++ s.endpoint.waiting.take 1 }

/-- A receiver takes the oldest item, or goes to sleep; an item that goes back wakes the next
one. -/
def takeTurn (t : Ticket) (s : Turns) : Turns :=
  match s.endpoint.queue with
  | [] => { s with endpoint := { s.endpoint with waiting := s.endpoint.waiting ++ [t] } }
  | item :: rest =>
    let back := s.endpoint.putsBack item
    let s := { s with
      endpoint := s.endpoint.without item rest, receipts := s.receipts ++ [⟨t, item, back⟩] }
    if back then s.wake else s

/-- Carries out an event; one that makes no sense changes nothing. -/
def turn (s : Turns) : Event → Turns
  | .arrive bs =>
    let s' := { s with endpoint := s.endpoint.enqueue bs, arrived := s.arrived ++ [.datagram bs] }
    if isFull s.endpoint.capacity s.endpoint.queue.length then s' else s'.wake
  | .report n =>
    wake { s with
      endpoint := (s.endpoint.tagged n).enqueueNotice n, arrived := s.arrived ++ [.notice n] }
  | .close reason =>
    if s.endpoint.port = .opened then
      { s with
        endpoint := { reason.elim s.endpoint s.endpoint.tagged with port := .closed, reason } }
    else s
  | .lose n =>
    wake { s with
      endpoint := ((s.endpoint.tagged n).ended n).enqueueNotice n
      arrived := s.arrived ++ [.notice n] }
  | .receive t => if t ∈ s.endpoint.waiting ∨ t ∈ s.woken then s else s.takeTurn t
  | .resume t => if t ∈ s.woken then takeTurn t { s with woken := s.woken.erase t } else s
  | .cancel t => match s.endpoint.abandon? t with
    | some e => { s with endpoint := e }
    | none =>
      -- A receiver that was woken passes its place on if there is something to take.
      if t ∈ s.woken then
        let s := { s with woken := s.woken.erase t }
        if s.endpoint.queue.isEmpty then s else s.wake
      else s

/-- Carries out events one after the other. -/
def run (events : List Event) (s : Turns) : Turns := events.foldl turn s

@[simp] lemma run_nil (s : Turns) : run [] s = s := rfl

@[simp] lemma run_cons (event : Event) (events : List Event) (s : Turns) :
    run (event :: events) s = run events (s.turn event) := rfl

@[simp] lemma run_append (events events' : List Event) (s : Turns) :
    run (events ++ events') s = run events' (run events s) :=
  List.foldl_append

/-! ### What waking changes -/

variable (s : Turns)

/-- Everybody who has come and has neither got anything nor given up, in order. -/
def pending : List Ticket := s.woken ++ s.endpoint.waiting

@[simp] lemma wake_pending : s.wake.pending = s.pending := by
  simp only [wake, pending, List.append_assoc]
  cases s.endpoint.waiting <;> rfl

/-! ### Taking a turn -/

variable {s}

lemma takeTurn_nil (h : s.endpoint.queue = []) (t : Ticket) : s.takeTurn t =
    { s with endpoint := { s.endpoint with waiting := s.endpoint.waiting ++ [t] } } := by
  simp only [Turns.takeTurn, h]

lemma takeTurn_cons {item : Item} {rest : List Item} (h : s.endpoint.queue = item :: rest)
    (t : Ticket) : s.takeTurn t =
      let s' := { s with
        endpoint := s.endpoint.without item rest
        receipts := s.receipts ++ [⟨t, item, s.endpoint.putsBack item⟩] }
      if s.endpoint.putsBack item then s'.wake else s' := by
  simp only [Turns.takeTurn, h]

section

variable {item : Item} {rest : List Item} (h : s.endpoint.queue = item :: rest) (t : Ticket)
include h

lemma takeTurn_pending : (s.takeTurn t).pending = s.pending := by
  rw [takeTurn_cons h]
  simp only
  split_ifs
  · exact wake_pending _
  · rfl

lemma takeTurn_endpoint : (s.takeTurn t).endpoint =
    { s.endpoint.without item rest with waiting := (s.takeTurn t).endpoint.waiting } := by
  rw [takeTurn_cons h]
  simp only
  split_ifs <;> rfl

lemma takeTurn_receipts :
    (s.takeTurn t).receipts = s.receipts ++ [⟨t, item, s.endpoint.putsBack item⟩] := by
  rw [takeTurn_cons h]
  simp only
  split_ifs <;> rfl

end

/-! ### Arriving -/

lemma turn_arrive_of_full {bs : Bytes}
    (hfull : isFull s.endpoint.capacity s.endpoint.queue.length) :
    s.turn (.arrive bs) = { s with
      endpoint := { s.endpoint with dropped := s.endpoint.dropped + 1 }
      arrived := s.arrived ++ [.datagram bs] } := by
  simp only [turn, DatagramEndpoint.enqueue, if_pos hfull]

lemma turn_arrive_of_room {bs : Bytes}
    (hroom : ¬ isFull s.endpoint.capacity s.endpoint.queue.length) :
    s.turn (.arrive bs) = Turns.wake { s with
      endpoint := { s.endpoint with queue := s.endpoint.queue ++ [.datagram bs] }
      arrived := s.arrived ++ [.datagram bs] } := by
  simp only [turn, DatagramEndpoint.enqueue, if_neg hroom]

/-! ### Giving up -/

lemma mem_pending {t : Ticket} : t ∈ s.pending ↔ t ∈ s.woken ∨ t ∈ s.endpoint.waiting :=
  List.mem_append

lemma turn_cancel_of_asleep {t : Ticket} (ht : t ∈ s.endpoint.waiting) :
    s.turn (.cancel t) = { s with
      endpoint := { s.endpoint with waiting := s.endpoint.waiting.filter (· ≠ t) } } := by
  simp only [turn, DatagramEndpoint.abandon?, if_pos ht]

/-- A receiver that was woken and gives up passes its place on. -/
lemma turn_cancel_of_woken {t : Ticket} (hwaiting : t ∉ s.endpoint.waiting) (ht : t ∈ s.woken) :
    s.turn (.cancel t) =
      let s' := { s with woken := s.woken.erase t }
      if s.endpoint.queue.isEmpty then s' else s'.wake := by
  simp only [turn, DatagramEndpoint.abandon?, if_neg hwaiting, if_pos ht]

lemma turn_cancel_of_absent {t : Ticket} (ht : t ∉ s.pending) : s.turn (.cancel t) = s := by
  rw [mem_pending, not_or] at ht
  simp only [turn, DatagramEndpoint.abandon?, if_neg ht.1, if_neg ht.2]

/-- Giving up changes nothing but who waits and who is awake. -/
lemma turn_cancel_frame (t : Ticket) : ∃ waiting woken, s.turn (.cancel t) =
    { s with endpoint := { s.endpoint with waiting }, woken } := by
  by_cases hwaiting : t ∈ s.endpoint.waiting
  · exact ⟨_, _, turn_cancel_of_asleep hwaiting⟩
  by_cases hwoken : t ∈ s.woken
  · rw [turn_cancel_of_woken hwaiting hwoken]
    simp only
    split_ifs
    · exact ⟨_, _, rfl⟩
    · exact ⟨_, _, rfl⟩
  · rw [turn_cancel_of_absent (mt mem_pending.mp (not_or.mpr ⟨hwoken, hwaiting⟩))]
    exact ⟨_, _, rfl⟩

lemma turn_cancel_pending (t : Ticket) : (s.turn (.cancel t)).pending.Sublist s.pending := by
  by_cases hwaiting : t ∈ s.endpoint.waiting
  · rw [turn_cancel_of_asleep hwaiting]
    exact List.filter_sublist.append_left _
  by_cases hwoken : t ∈ s.woken
  · rw [turn_cancel_of_woken hwaiting hwoken]
    simp only
    split_ifs
    · exact List.erase_sublist.append_right _
    · rw [wake_pending]
      exact List.erase_sublist.append_right _
  · have habsent : t ∉ s.pending := mt mem_pending.mp (not_or.mpr ⟨hwoken, hwaiting⟩)
    exact (turn_cancel_of_absent habsent).symm ▸ List.Sublist.refl _

end Turns

end Socks5
