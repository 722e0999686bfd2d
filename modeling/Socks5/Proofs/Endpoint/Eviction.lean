import Mathlib.Data.List.Perm.Basic
import Socks5.Proofs.Endpoint.Delivery

/-!
# What a full queue gives up

A notice that finds the queue full evicts the oldest item, whatever that is: a datagram, or a notice
that nobody has received yet. `Turns.evictions` collects what a run evicts. Every notice that has
arrived was raised by a receiver, was evicted, or is still queued, and a run evicts no notice if and
only if a datagram is the oldest item whenever a notice finds the queue full.
-/

namespace Socks5

open Endpoint

/-! ### Notices among items -/

namespace Endpoint

/-- The notice that an item is. -/
def Item.notice? : Item → Option Notice
  | .datagram _ => none
  | .notice n => some n

/-- Whether an item is a datagram. -/
def Item.isDatagram (item : Item) : Bool := item.datagram?.isSome

/-- The notices among some items. -/
def notices (items : List Item) : List Notice := items.filterMap Item.notice?

/-- The notices that receivers have raised for good. -/
def raised (receipts : List Receipt) : List Notice :=
  notices ((receipts.filter (!·.back)).map (·.item))

@[simp] lemma notices_append (items items' : List Item) :
    notices (items ++ items') = notices items ++ notices items' := List.filterMap_append

@[simp] lemma notices_datagram (bs : Bytes) : notices [.datagram bs] = [] := rfl

@[simp] lemma notices_notice (n : Notice) : notices [.notice n] = [n] := rfl

lemma mem_notices {n : Notice} {items : List Item} : n ∈ notices items ↔ .notice n ∈ items := by
  rw [notices, List.mem_filterMap]
  constructor
  · rintro ⟨item, hitem, hn⟩
    cases item with
    | datagram bs => cases hn
    | notice m =>
      cases hn
      exact hitem
  · intro h
    exact ⟨_, h, rfl⟩

@[simp] lemma raised_append_back (receipts : List Receipt) (t : Ticket) (item : Item) :
    raised (receipts ++ [⟨t, item, true⟩]) = raised receipts := by
  simp [raised]

@[simp] lemma raised_append (receipts : List Receipt) (t : Ticket) (item : Item) :
    raised (receipts ++ [⟨t, item, false⟩]) = raised receipts ++ notices [item] := by
  simp [raised]

/-! ### Making room -/

variable {capacity : Int}

lemma makeRoom_of_room {queue : List Item} (hroom : ¬ isFull capacity queue.length) :
    makeRoom capacity queue = (0, queue) := by
  cases queue with
  | nil => rfl
  | cons item rest =>
    rw [List.length_cons] at hroom
    rw [makeRoom_cons, if_neg hroom]

/-- A queue within its capacity has room as soon as its oldest item is evicted. -/
lemma makeRoom_of_full {queue : List Item} (hbounded : 0 < capacity → queue.length ≤ capacity)
    (hfull : isFull capacity queue.length) : makeRoom capacity queue = (1, queue.tail) := by
  rw [isFull_iff] at hfull
  cases queue with
  | nil =>
    rw [List.length_nil] at hfull
    omega
  | cons item rest =>
    rw [List.length_cons] at hfull hbounded
    have hroom : ¬ isFull capacity rest.length := by
      rw [isFull_iff]
      omega
    rw [makeRoom_cons, if_pos ((isFull_iff capacity).mpr hfull), makeRoom_of_room hroom]
    rfl

/-- What is evicted comes before what is left. -/
lemma take_makeRoom_append (capacity : Int) (queue : List Item) :
    queue.take (makeRoom capacity queue).1 ++ (makeRoom capacity queue).2 = queue := by
  have hleft := List.suffix_iff_eq_drop.mp (makeRoom_suffix capacity queue)
  have hlength := makeRoom_length capacity queue
  have hcount :
      queue.length - (makeRoom capacity queue).2.length = (makeRoom capacity queue).1 := by
    omega
  rw [hcount] at hleft
  rw [hleft]
  exact List.take_append_drop _ _

/-- The oldest datagram comes off the front just where a datagram is at the front. -/
lemma tail_eq_eraseP_iff {queue : List Item} (hdatagram : ∃ bs, .datagram bs ∈ queue) :
    queue.tail = queue.eraseP Item.isDatagram ↔ ∃ bs, queue.head? = some (.datagram bs) := by
  obtain ⟨bs, hmem⟩ := hdatagram
  cases queue with
  | nil => cases hmem
  | cons item rest =>
    cases item with
    | datagram bs' => exact ⟨fun _ => ⟨bs', rfl⟩, fun _ => rfl⟩
    | notice n =>
      constructor
      · intro htail
        have hrest : .datagram bs ∈ rest := by simpa using hmem
        -- One of both lists holds a datagram less than the other.
        obtain ⟨oldest, before, after, -, holdest, hsplit, herase⟩ :=
          List.exists_of_eraseP hrest (p := Item.isDatagram) rfl
        rw [List.tail_cons, List.eraseP_cons_of_neg Bool.false_ne_true, herase, hsplit] at htail
        have hcount := congrArg (List.countP Item.isDatagram) htail
        have hnotice : (Item.notice n).isDatagram = false := rfl
        simp [holdest, hnotice] at hcount
      · rintro ⟨bs', hhead⟩
        cases hhead

end Endpoint

namespace Turns

variable {s : Turns} {evicted : List Item}

/-! ### What an event evicts -/

/-- The items that an event evicts: those that make room for a notice. -/
def evicts (s : Turns) : Event → List Item
  | .report _ | .lose _ =>
    s.endpoint.queue.take (makeRoom s.endpoint.capacity s.endpoint.queue).1
  | _ => []

/-- The items that a run evicts, in order. -/
def evictions : List Event → Turns → List Item
  | [], _ => []
  | event :: later, s => s.evicts event ++ evictions later (s.turn event)

/-- A notice that finds a full queue evicts the oldest item, and nothing else makes room. -/
lemma Sound.turn_notice_of_full (h : s.Sound) {event : Event} {n : Notice}
    (hitem : event.item? = some (.notice n))
    (hfull : isFull s.endpoint.capacity s.endpoint.queue.length) :
    s.evicts event = s.endpoint.queue.take 1 ∧
      (s.turn event).endpoint.queue = s.endpoint.queue.tail ++ [.notice n] ∧
      (s.turn event).endpoint.dropped = s.endpoint.dropped + 1 := by
  have hroom := makeRoom_of_full h.balanced.bounded hfull
  cases event with
  | report m =>
    cases hitem
    simp [evicts, Turns.turn, wake, DatagramEndpoint.enqueueNotice, DatagramEndpoint.tagged, hroom]
  | lose m =>
    cases hitem
    simp [evicts, Turns.turn, wake, DatagramEndpoint.enqueueNotice, DatagramEndpoint.tagged,
      DatagramEndpoint.ended, hroom]
  | _ => cases hitem

lemma evicts_of_room {event : Event}
    (hroom : ¬ isFull s.endpoint.capacity s.endpoint.queue.length) : s.evicts event = [] := by
  cases event <;> simp [evicts, makeRoom_of_room hroom]

lemma evicts_eq_nil {event : Event} (hitem : ∀ n, event.item? ≠ some (.notice n)) :
    s.evicts event = [] := by
  cases event with
  | report n => exact absurd rfl (hitem n)
  | lose n => exact absurd rfl (hitem n)
  | _ => rfl

/-- No notice is evicted by an event if the queue has room or a datagram is its oldest item. -/
lemma Sound.notices_evicts_eq_nil_iff (h : s.Sound) (event : Event) :
    notices (s.evicts event) = [] ↔ ∀ n, event.item? = some (.notice n) →
      isFull s.endpoint.capacity s.endpoint.queue.length →
      ∃ bs, s.endpoint.queue.head? = some (.datagram bs) := by
  by_cases hitem : ∃ n, event.item? = some (.notice n)
  · obtain ⟨n, hitem⟩ := hitem
    by_cases hfull : isFull s.endpoint.capacity s.endpoint.queue.length
    · obtain ⟨hevicts, -, -⟩ := h.turn_notice_of_full hitem hfull
      rw [hevicts]
      constructor
      · intro hnone _ _ _
        cases hqueue : s.endpoint.queue with
        | nil =>
          rw [hqueue, List.length_nil, isFull_iff] at hfull
          omega
        | cons item rest =>
          cases item with
          | datagram bs => exact ⟨bs, rfl⟩
          | notice m => simp [hqueue] at hnone
      · intro holdest
        obtain ⟨bs, hhead⟩ := holdest n hitem hfull
        obtain ⟨rest, hqueue⟩ := List.head?_eq_some_iff.mp hhead
        rw [hqueue]
        rfl
    · simp [evicts_of_room hfull, hfull, notices]
  · rw [not_exists] at hitem
    simp [evicts_eq_nil hitem, hitem, notices]

/-! ### Every notice is accounted for -/

/-- Every notice that has arrived was raised, was evicted, or is in the queue. -/
def Accounted (s : Turns) (evicted : List Item) : Prop :=
  (notices s.arrived).Perm (raised s.receipts ++ notices evicted ++ notices s.endpoint.queue)

lemma Accounted.takeTurn (h : s.Accounted evicted) (t : Ticket) :
    (s.takeTurn t).Accounted evicted := by
  by_cases hqueue : s.endpoint.queue = []
  · rw [takeTurn_nil hqueue]
    exact h
  obtain ⟨item, rest, hitem⟩ := List.exists_cons_of_ne_nil hqueue
  have hnotices : notices (item :: rest) = notices [item] ++ notices rest :=
    notices_append [item] rest
  rw [Accounted, hitem, hnotices] at h
  rw [Accounted, takeTurn_receipts hitem, takeTurn_endpoint hitem, (takeTurn_frame t).1]
  refine h.trans (List.perm_iff_count.mpr ?_)
  intro n
  cases hback : s.endpoint.putsBack item with
  | true =>
    simp [DatagramEndpoint.without, hback]
    omega
  | false =>
    simp [DatagramEndpoint.without, hback]
    omega

lemma Accounted.notice (h : s.Accounted evicted) {e : DatagramEndpoint} (n : Notice)
    (hcapacity : e.capacity = s.endpoint.capacity) (hqueue : e.queue = s.endpoint.queue) :
    (wake { s with
      endpoint := e.enqueueNotice n, arrived := s.arrived ++ [.notice n] }).Accounted
      (evicted ++ s.endpoint.queue.take (makeRoom s.endpoint.capacity s.endpoint.queue).1) := by
  have hnotices := congrArg notices (take_makeRoom_append s.endpoint.capacity s.endpoint.queue)
  rw [notices_append] at hnotices
  rw [Accounted, ← hnotices] at h
  simp only [Accounted, wake, DatagramEndpoint.enqueueNotice, hcapacity, hqueue, notices_append]
  simpa [List.append_assoc] using h.append_right [n]

/-- Every event keeps the account. -/
lemma Accounted.turn (h : s.Accounted evicted) (event : Event) :
    (s.turn event).Accounted (evicted ++ s.evicts event) := by
  cases event with
  | report n => exact h.notice n rfl rfl
  | lose n => exact h.notice n rfl rfl
  | arrive bs =>
    simp only [evicts, List.append_nil]
    by_cases hfull : isFull s.endpoint.capacity s.endpoint.queue.length
    · rw [turn_arrive_of_full hfull]
      simpa [Accounted] using h
    · rw [turn_arrive_of_room hfull]
      simpa [Accounted, wake] using h
  | close reason =>
    simp only [evicts, List.append_nil, Turns.turn]
    split_ifs
    · cases reason <;> exact h
    · exact h
  | receive t =>
    simp only [evicts, List.append_nil, Turns.turn]
    split_ifs
    · exact h
    · exact h.takeTurn t
  | resume t =>
    simp only [evicts, List.append_nil, Turns.turn]
    split_ifs
    · exact Accounted.takeTurn (s := { s with woken := s.woken.erase t }) h t
    · exact h
  | cancel t =>
    obtain ⟨waiting, woken, heq⟩ := turn_cancel_frame (s := s) t
    simp only [evicts, List.append_nil, heq]
    exact h

lemma Accounted.run (h : s.Accounted evicted) (events : List Event) :
    (Turns.run events s).Accounted (evicted ++ evictions events s) := by
  induction events generalizing s evicted with
  | nil => simpa [evictions] using h
  | cons event later ih =>
    rw [evictions, ← List.append_assoc]
    exact ih (h.turn event)

/-! ### Which notices get lost -/

/-- A run evicts no notice if and only if a datagram is the oldest item whenever a notice finds the
queue full. -/
lemma Sound.notices_evictions_eq_nil_iff (h : s.Sound) (events : List Event) :
    notices (evictions events s) = [] ↔ ∀ past event later n, events = past ++ event :: later →
      event.item? = some (.notice n) →
      isFull (Turns.run past s).endpoint.capacity (Turns.run past s).endpoint.queue.length →
      ∃ bs, (Turns.run past s).endpoint.queue.head? = some (.datagram bs) := by
  induction events generalizing s with
  | nil => simp [evictions, notices]
  | cons event rest ih =>
    rw [evictions, notices_append, List.append_eq_nil_iff, ih (h.turn event),
      h.notices_evicts_eq_nil_iff event]
    constructor
    · rintro ⟨hfirst, hrest⟩ past event' later n hevents
      cases past with
      | nil =>
        obtain ⟨rfl, rfl⟩ := List.cons.inj hevents
        exact hfirst n
      | cons event'' past =>
        obtain ⟨rfl, rfl⟩ := List.cons.inj hevents
        exact hrest past event' later n rfl
    · intro hall
      constructor
      · intro n
        exact hall [] event rest n rfl
      · intro past event' later n hevents
        exact hall (event :: past) event' later n (by rw [hevents]; rfl)

/-- What becomes of notices, in every run. A notice that finds the queue full evicts the oldest
item alone; where the queue holds datagrams this is the oldest datagram if and only if no notice is
older. Every notice that has arrived was raised, was evicted or is queued, and none was evicted if
and only if a datagram was the oldest item whenever a notice found the queue full. -/
theorem notices_kept_iff (capacity : Int) (port : Port) (info : List (String × Value))
    (events : List Event) :
    let queueAt (past : List Event) := (run past (start capacity port info)).endpoint.queue
    let s := run events (start capacity port info)
    let evicted := evictions events (start capacity port info)
    (∀ event n, event.item? = some (.notice n) → isFull capacity (queueAt events).length →
      queueAt (events ++ [event]) = (queueAt events).tail ++ [.notice n] ∧
      (s.turn event).endpoint.dropped = s.endpoint.dropped + 1 ∧
      ((∃ bs, .datagram bs ∈ queueAt events) →
        (queueAt (events ++ [event]) =
            (queueAt events).eraseP Item.isDatagram ++ [.notice n] ↔
          ∃ bs, (queueAt events).head? = some (.datagram bs)))) ∧
    (notices (arrivals events)).Perm
      (raised s.receipts ++ notices evicted ++ notices (queueAt events)) ∧
    (notices evicted = [] ↔ ∀ past event later n, events = past ++ event :: later →
      event.item? = some (.notice n) → isFull capacity (queueAt past).length →
      ∃ bs, (queueAt past).head? = some (.datagram bs)) := by
  intro queueAt s evicted
  have hsound := start_sound capacity port info
  have hcapacity (past : List Event) :
      (run past (start capacity port info)).endpoint.capacity = capacity :=
    ((start capacity port info).run_frame past).2
  refine ⟨?_, ?_, ?_⟩
  · intro event n hitem hfull
    rw [← hcapacity events] at hfull
    obtain ⟨-, hqueue, hdropped⟩ := (hsound.run events).turn_notice_of_full hitem hfull
    have hnext : queueAt (events ++ [event]) = (queueAt events).tail ++ [.notice n] := by
      simpa [queueAt] using hqueue
    refine ⟨hnext, hdropped, ?_⟩
    intro hdatagram
    rw [hnext, List.append_cancel_right_eq]
    exact tail_eq_eraseP_iff hdatagram
  · have haccount : (start capacity port info).Accounted [] := List.Perm.refl _
    have hrun := haccount.run events
    rwa [Accounted, ((start capacity port info).run_frame events).1] at hrun
  · have hiff := hsound.notices_evictions_eq_nil_iff events
    simpa only [hcapacity] using hiff

/-- A notice that nobody has raised is evicted for a newer one, and the datagram behind it stays. -/
theorem notices_kept_iff_none_is_older :
    let older : Notice := ⟨0, ⟨.refused, "refused"⟩⟩
    let newer : Notice := ⟨1, ⟨.system, "no route"⟩⟩
    let past : List Event := [.report older, .arrive [97]]
    let queueAt (past : List Event) := (run past (start 2 .opened [])).endpoint.queue
    queueAt past = [.notice older, .datagram [97]] ∧
      queueAt (past ++ [.report newer]) = [.datagram [97], .notice newer] ∧
      queueAt (past ++ [.report newer]) ≠
        (queueAt past).eraseP Item.isDatagram ++ [.notice newer] ∧
      notices (evictions (past ++ [.report newer]) (start 2 .opened [])) ≠ [] := by
  intro older newer past queueAt
  have hpast : queueAt past = [.notice older, .datagram [97]] := rfl
  have hfull : isFull 2 (queueAt past).length := rfl
  have hhead : ¬ ∃ bs, (queueAt past).head? = some (.datagram bs) := by simp [hpast]
  obtain ⟨hnotice, -, -⟩ := notices_kept_iff 2 .opened [] past
  obtain ⟨-, -, hnone⟩ := notices_kept_iff 2 .opened [] (past ++ [.report newer])
  obtain ⟨hqueue, -, holdest⟩ := hnotice (.report newer) newer rfl hfull
  refine ⟨hpast, hqueue, ?_, ?_⟩
  · intro herased
    exact hhead ((holdest ⟨[97], by decide⟩).mp herased)
  · intro hkept
    exact hhead (hnone.mp hkept past (.report newer) [] newer rfl rfl hfull)

end Turns

end Socks5
