import Socks5.Proofs.Endpoint.Eviction

/-!
# Queueing a notice in attempts

A notice is queued in attempts: one that finds no room evicts the oldest item, and the next one
follows. Nothing in this bounds the number of attempts, or keeps an attempt from looking for an
item in an empty queue. `DatagramEndpoint.Attempts` is what a finite number of attempts comes to;
there is exactly one such outcome for every queue, and it is that of `enqueueNotice`. In every state
that is reached the queue is within its capacity, so that one eviction is enough.
-/

namespace Socks5

open Endpoint

namespace DatagramEndpoint

/-! ### One attempt -/

/-- How an attempt to queue a notice ends. -/
inductive Attempt where
  /-- There was room, and the notice is queued. -/
  | queued (e : DatagramEndpoint)
  /-- There was no room, and the oldest item is evicted. -/
  | evicted (item : Item) (e : DatagramEndpoint)
  /-- There was no room, and no item that could be evicted. -/
  | starved

/-- Attempts to queue a notice, and evicts the oldest item when there is no room. -/
def attempt (n : Notice) (e : DatagramEndpoint) : Attempt :=
  if isFull e.capacity e.queue.length then
    match e.queue with
    | [] => .starved
    | item :: rest => .evicted item { e with queue := rest, dropped := e.dropped + 1 }
  else .queued { e with queue := e.queue ++ [.notice n] }

/-- Attempts follow each other as long as they evict something. These are the items that they evict,
and the endpoint afterwards, unless the last attempt was starved. -/
inductive Attempts (n : Notice) : DatagramEndpoint → List Item → Option DatagramEndpoint → Prop
  | queued {e e' : DatagramEndpoint} (h : e.attempt n = .queued e') : Attempts n e [] (some e')
  | starved {e : DatagramEndpoint} (h : e.attempt n = .starved) : Attempts n e [] none
  | evicted {e e' : DatagramEndpoint} {item : Item} {items : List Item}
      {outcome : Option DatagramEndpoint} (h : e.attempt n = .evicted item e')
      (later : Attempts n e' items outcome) : Attempts n e (item :: items) outcome

variable {n : Notice} {e : DatagramEndpoint} {item : Item} {rest items items' : List Item}
  {outcome outcome' : Option DatagramEndpoint}

lemma attempt_of_room (hroom : ¬ isFull e.capacity e.queue.length) :
    e.attempt n = .queued { e with queue := e.queue ++ [.notice n] } :=
  if_neg hroom

lemma attempt_of_full (hfull : isFull e.capacity e.queue.length) (hqueue : e.queue = item :: rest) :
    e.attempt n = .evicted item { e with queue := rest, dropped := e.dropped + 1 } := by
  rw [hqueue] at hfull
  simp only [attempt, hqueue, if_pos hfull]

/-- A queue that is full holds something. -/
lemma exists_cons_of_isFull (hfull : isFull e.capacity e.queue.length) :
    ∃ item rest, e.queue = item :: rest := by
  refine List.exists_cons_of_ne_nil fun hnil => ?_
  rw [hnil, isFull_iff, List.length_nil] at hfull
  omega

/-! ### All attempts -/

lemma enqueueNotice_of_room (hroom : ¬ isFull e.capacity e.queue.length) :
    e.enqueueNotice n = { e with queue := e.queue ++ [.notice n] } := by
  simp only [enqueueNotice, makeRoom_of_room hroom]
  rfl

/-- Evicting the oldest item of a full queue is a part of queueing a notice. -/
lemma enqueueNotice_of_full (hfull : isFull e.capacity e.queue.length)
    (hqueue : e.queue = item :: rest) :
    enqueueNotice n { e with queue := rest, dropped := e.dropped + 1 } = e.enqueueNotice n := by
  rw [hqueue, List.length_cons] at hfull
  simp only [enqueueNotice, hqueue, makeRoom_cons, if_pos hfull]
  congr 1
  omega

/-- There are no two ways in which attempts can go. -/
lemma Attempts.unique (h : e.Attempts n items outcome) (h' : e.Attempts n items' outcome') :
    items = items' ∧ outcome = outcome' := by
  induction h generalizing items' outcome' with
  | queued h =>
    cases h' with
    | queued h' => simpa using h.symm.trans h'
    | starved h' => cases h.symm.trans h'
    | evicted h' => cases h.symm.trans h'
  | starved h =>
    cases h' with
    | queued h' => cases h.symm.trans h'
    | starved h' => exact ⟨rfl, rfl⟩
    | evicted h' => cases h.symm.trans h'
  | evicted h _ ih =>
    cases h' with
    | queued h' => cases h.symm.trans h'
    | starved h' => cases h.symm.trans h'
    | evicted h' hlater =>
      cases h.symm.trans h'
      obtain ⟨rfl, rfl⟩ := ih hlater
      exact ⟨rfl, rfl⟩

lemma attempts_of_room (hroom : ¬ isFull e.capacity e.queue.length) :
    e.Attempts n [] (some (e.enqueueNotice n)) := by
  rw [enqueueNotice_of_room hroom]
  exact .queued (attempt_of_room hroom)

/-- Attempts come to an end, as each one that finds no room leaves a shorter queue; and then the
notice is queued. -/
lemma attempts_enqueueNotice (n : Notice) (e : DatagramEndpoint) :
    e.Attempts n (e.queue.take (makeRoom e.capacity e.queue).1) (some (e.enqueueNotice n)) := by
  induction hqueue : e.queue generalizing e with
  | nil =>
    refine attempts_of_room fun hfull => ?_
    obtain ⟨item, rest, hcons⟩ := exists_cons_of_isFull hfull
    cases hqueue.symm.trans hcons
  | cons item rest ih =>
    by_cases hfull : isFull e.capacity e.queue.length
    · -- The attempts that follow are those on the rest of the queue, and they come to the same.
      have hlater := ih { e with queue := rest, dropped := e.dropped + 1 } rfl
      rw [enqueueNotice_of_full hfull hqueue] at hlater
      rw [makeRoom_cons, if_pos (by rwa [hqueue] at hfull), List.take_succ_cons]
      exact .evicted (attempt_of_full hfull hqueue) hlater
    · rw [← hqueue, makeRoom_of_room hfull]
      exact attempts_of_room hfull

lemma attempts_iff : e.Attempts n items outcome ↔
    items = e.queue.take (makeRoom e.capacity e.queue).1 ∧ outcome = some (e.enqueueNotice n) := by
  constructor
  · exact fun h => h.unique (attempts_enqueueNotice n e)
  · rintro ⟨rfl, rfl⟩
    exact attempts_enqueueNotice n e

/-! ### Queues within their capacity -/

/-- How an endpoint queues a notice: with these items evicted, and these left in front of it. -/
structure Queues (n : Notice) (e : DatagramEndpoint) (evicted left : List Item) : Prop where
  /-- The attempts come to an end, in one way only, and none of them is starved. -/
  ends : ∀ items outcome, e.Attempts n items outcome ↔
    items = evicted ∧ outcome = some (e.enqueueNotice n)
  /-- At most one item is evicted. -/
  once : evicted.length ≤ 1
  /-- One is evicted just if there is a limit and it is reached. -/
  full : evicted ≠ [] ↔ 0 < e.capacity ∧ e.capacity ≤ e.queue.length
  /-- What is evicted was the oldest. -/
  oldest : evicted ++ left = e.queue
  /-- The notice comes last, what is evicted is counted, and nothing else changes. -/
  result : e.enqueueNotice n =
    { e with queue := left ++ [.notice n], dropped := e.dropped + evicted.length }

/-- A queue within its capacity gives up its oldest item at most, as there is room without it. -/
lemma exists_queues (n : Notice) (hbounded : 0 < e.capacity → (e.queue.length : Int) ≤ e.capacity) :
    ∃ evicted left, e.Queues n evicted left := by
  by_cases hfull : isFull e.capacity e.queue.length
  · obtain ⟨item, rest, hqueue⟩ := exists_cons_of_isFull hfull
    have hone : makeRoom e.capacity (item :: rest) = (1, rest) := by
      rw [← hqueue, makeRoom_of_full hbounded hfull, hqueue, List.tail_cons]
    refine ⟨[item], rest, fun items outcome => ?_, Nat.le_refl 1, ?_, hqueue.symm, ?_⟩
    · rw [attempts_iff, hqueue, hone]
      rfl
    · simpa [isFull_iff] using hfull
    · simp only [enqueueNotice, hqueue, hone]
      rfl
  · refine ⟨[], e.queue, fun items outcome => ?_, Nat.zero_le 1, ?_, rfl,
      enqueueNotice_of_room hfull⟩
    · rw [attempts_iff, makeRoom_of_room hfull]
      rfl
    · simpa [isFull_iff] using hfull

end DatagramEndpoint

/-! ### Every state that is reached -/

namespace Turns

/-- The states that an endpoint with a capacity comes to, whatever happens in whatever order; it may
get a new socket at any time. -/
inductive Reached (capacity : Int) : Turns → Prop
  | start (port : Port) (info : List (String × Value)) :
      Reached capacity (start capacity port info)
  | turn {s : Turns} (h : Reached capacity s) (event : Event) : Reached capacity (s.turn event)
  | make {s : Turns} (h : Reached capacity s) (info : List (String × Value)) :
      Reached capacity { s with endpoint := s.endpoint.make info }

variable {capacity : Int} {s : Turns}

lemma Reached.run (h : Reached capacity s) (events : List Event) :
    Reached capacity (Turns.run events s) := by
  induction events generalizing s with
  | nil => exact h
  | cons event later ih => exact ih (h.turn event)

lemma Reached.sound (h : Reached capacity s) : s.Sound := by
  induction h with
  | start port info => exact start_sound capacity port info
  | turn _ event ih => exact ih.turn event
  | make _ _ ih => exact ⟨ih.balanced, ih.awake, ih.nodup⟩

lemma Reached.capacity_eq (h : Reached capacity s) : s.endpoint.capacity = capacity := by
  induction h with
  | start => rfl
  | @turn s _ event ih => exact (s.turn_frame event).2.trans ih
  | make _ _ ih => exact ih

lemma Shows.make {e : DatagramEndpoint} {done : List (Completion Bytes)} (h : s.Shows e done)
    (info : List (String × Value)) :
    Turns.Shows { s with endpoint := s.endpoint.make info } (e.make info) done := by
  obtain ⟨hsettled, rfl, hreceipts, htags⟩ := h
  exact ⟨⟨hsettled.woken, hsettled.idle⟩, rfl, hreceipts, htags⟩

/-- Queueing a notice comes to an end in every state that is reached. No attempt looks for an item
in an empty queue, at most one item is evicted, which is the oldest and is counted, and the notice
comes last. Events of the socket queue their notices in this way, and operations, which serve
everybody at once, lead from what is reached to what is reached. -/
theorem notices_queued_within_two_attempts (h : Reached capacity s) (n : Notice) :
    (∀ e : DatagramEndpoint, e.capacity = capacity → e.queue = s.endpoint.queue →
      ∃ evicted left, e.Queues n evicted left) ∧
    (∀ event, event.item? = some (.notice n) → ∃ e : DatagramEndpoint,
      e.capacity = capacity ∧ e.queue = s.endpoint.queue ∧ e.dropped = s.endpoint.dropped ∧
      (s.turn event).endpoint =
        { e.enqueueNotice n with waiting := s.endpoint.waiting.tail }) ∧
    ∀ e done, s.Shows e done →
      (∀ op : Operation, ∃ s', Reached capacity s' ∧
        s'.Shows (op.perform e).2 (done ++ (op.perform e).1)) ∧
      ∀ info, ∃ s', Reached capacity s' ∧ s'.Shows (e.make info) done := by
  refine ⟨?_, ?_, ?_⟩
  · intro e hcapacity hqueue
    have hbounded := h.sound.balanced.bounded
    rw [h.capacity_eq, ← hcapacity, ← hqueue] at hbounded
    exact DatagramEndpoint.exists_queues n hbounded
  · intro event hitem
    cases event with
    | report m =>
      cases hitem
      exact ⟨s.endpoint.tagged n, h.capacity_eq, rfl, rfl, rfl⟩
    | lose m =>
      cases hitem
      exact ⟨(s.endpoint.tagged n).ended n, h.capacity_eq, rfl, rfl, rfl⟩
    | _ => cases hitem
  · intro e done hshows
    refine ⟨fun op => ?_, fun info => ⟨_, h.make info, hshows.make info⟩⟩
    obtain ⟨events, hperform⟩ := hshows.perform op
    exact ⟨Turns.run events s, h.run events, hperform⟩

/-- The notice of the end stands in a full queue again after somebody has taken it, and a late one
evicts it; a queue without a limit keeps everything. -/
theorem notices_queued_within_two_attempts_after_end :
    let closing : Notice := ⟨0, DatagramEndpoint.closedFault⟩
    let late : Notice := ⟨1, ⟨.system, "late"⟩⟩
    let limited := Turns.run [.lose closing, .receive 7] (start 1 .opened [])
    let unlimited := Turns.run [.arrive [97], .lose closing] (start (-1) .opened [])
    (Reached 1 limited ∧ limited.endpoint.queue = [.notice closing] ∧
      limited.endpoint.Queues late [.notice closing] [] ∧
      (∃ e : DatagramEndpoint, e.queue = [.notice closing] ∧ e.dropped = 0 ∧
        (limited.turn (.report late)).endpoint = { e.enqueueNotice late with waiting := [] }) ∧
      ∃ s, Reached 1 s ∧ s.endpoint = (limited.endpoint.report late.fault).2) ∧
    Reached (-1) unlimited ∧
      unlimited.endpoint.Queues late [] [.datagram [97], .notice closing] := by
  intro closing late limited unlimited
  have hlimited : Reached 1 limited := (Reached.start .opened []).run _
  have hunlimited : Reached (-1) unlimited := (Reached.start .opened []).run _
  have hshows : limited.Shows limited.endpoint _ :=
    ⟨⟨rfl, fun hne => absurd rfl hne⟩, rfl, rfl, fun _ hm => nomatch hm⟩
  obtain ⟨hqueues, hevents, hoperations⟩ := notices_queued_within_two_attempts hlimited late
  obtain ⟨hqueues', -, -⟩ := notices_queued_within_two_attempts hunlimited late
  refine ⟨⟨hlimited, rfl, ?_, ?_, ?_⟩, hunlimited, ?_⟩
  · obtain ⟨evicted, left, h⟩ := hqueues limited.endpoint rfl rfl
    obtain ⟨item, rest, rfl⟩ := List.exists_cons_of_ne_nil (h.full.mpr (by decide))
    obtain ⟨rfl, hnil⟩ := List.cons.inj h.oldest
    obtain ⟨rfl, rfl⟩ := List.append_eq_nil_iff.mp hnil
    exact h
  · obtain ⟨e, -, hqueue, hdropped, hturn⟩ := hevents (.report late) rfl
    exact ⟨e, hqueue, hdropped, hturn⟩
  · obtain ⟨s, hs, hreport⟩ := (hoperations limited.endpoint _ hshows).1 (.report late.fault)
    exact ⟨s, hs, hreport.endpoint⟩
  · obtain ⟨evicted, left, h⟩ := hqueues' unlimited.endpoint rfl rfl
    have hnone : evicted = [] := by
      by_contra hsome
      exact absurd (h.full.mp hsome).1 (by decide)
    obtain rfl := hnone
    obtain rfl : left = _ := h.oldest
    exact h

end Turns

end Socks5
