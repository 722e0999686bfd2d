import Socks5.Proofs.Endpoint.Operations

/-!
# What receivers get

Every datagram that arrives is received once, is dropped, or is still in the queue, and receivers
get them in the order of their arrival. The invariant has three parts: `Balanced` relates what has
arrived to what was taken and what is queued, enough receivers are awake for what is in the queue,
and nobody is waiting twice. Every event is shown to keep all three, in whatever order events come.
-/

namespace Socks5

open Endpoint

/-! ### Accounts -/

/-- The datagram that an item is. -/
def Endpoint.Item.datagram? : Item → Option Bytes
  | .datagram bs => some bs
  | .notice _ => none

/-- The datagrams among some items. -/
def Endpoint.datagrams (items : List Item) : List Bytes := items.filterMap Item.datagram?

/-- The datagrams that receivers have got, in the order in which they got them. -/
def Endpoint.delivered (receipts : List Receipt) : List Bytes :=
  receipts.filterMap fun r => r.completion.2.toOption

/-- How many items were taken for good. -/
def Endpoint.takenForGood (receipts : List Receipt) : Nat := receipts.countP (!·.back)

namespace Endpoint

variable (items items' : List Item) (receipts : List Receipt) (t : Ticket) (item : Item)

lemma datagrams_append : datagrams (items ++ items') = datagrams items ++ datagrams items' :=
  List.filterMap_append

lemma datagrams_cons : datagrams (item :: items) = item.datagram?.toList ++ datagrams items := by
  cases item <;> rfl

/-- What a receiver has got is the datagram that it took, if it took one. -/
lemma delivered_append (back : Bool) : delivered (receipts ++ [⟨t, item, back⟩]) =
    delivered receipts ++ item.datagram?.toList := by
  rw [delivered, List.filterMap_append]
  cases item <;> rfl

lemma takenForGood_append (back : Bool) : takenForGood (receipts ++ [⟨t, item, back⟩]) =
    takenForGood receipts + (!back).toNat := by
  rw [takenForGood, List.countP_append]
  cases back <;> rfl

end Endpoint

/-- What has arrived is what was taken, dropped or queued, in order and within the capacity. -/
structure Balanced (capacity : Int) (arrived queue : List Item) (dropped : Nat)
    (receipts : List Receipt) : Prop where
  bounded : 0 < capacity → (queue.length : Int) ≤ capacity
  ordered : (delivered receipts ++ datagrams queue).Sublist (datagrams arrived)
  counted : arrived.length = takenForGood receipts + dropped + queue.length

namespace Balanced

variable {capacity : Int} {arrived queue : List Item} {dropped : Nat} {receipts : List Receipt}

/-- An item that finds no room is dropped. -/
lemma lost (h : Balanced capacity arrived queue dropped receipts) (item : Item) :
    Balanced capacity (arrived ++ [item]) queue (dropped + 1) receipts where
  bounded := h.bounded
  ordered := by
    rw [datagrams_append]
    exact h.ordered.trans (List.sublist_append_left _ _)
  counted := by
    have := h.counted
    rw [List.length_append, List.length_singleton]
    omega

/-- An item for which the oldest ones make room is queued. -/
lemma queued (h : Balanced capacity arrived queue dropped receipts) {left : List Item}
    {evicted : Nat} (hsuffix : left <:+ queue) (hcount : evicted + left.length = queue.length)
    (hroom : ¬ isFull capacity left.length) (item : Item) :
    Balanced capacity (arrived ++ [item]) (left ++ [item]) (dropped + evicted) receipts where
  bounded := fun hpositive => by
    rw [isFull_iff] at hroom
    rw [List.length_append, List.length_singleton]
    omega
  ordered := by
    have hleft : (datagrams left).Sublist (datagrams queue) := hsuffix.sublist.filterMap _
    rw [datagrams_append, datagrams_append, ← List.append_assoc]
    exact ((hleft.append_left _).trans h.ordered).append_right _
  counted := by
    have := h.counted
    rw [List.length_append, List.length_append, List.length_singleton]
    omega

/-- An item is taken for good. -/
lemma took {item : Item} {rest : List Item}
    (h : Balanced capacity arrived (item :: rest) dropped receipts) (t : Ticket) :
    Balanced capacity arrived rest dropped (receipts ++ [⟨t, item, false⟩]) where
  bounded := fun hpositive => by
    have := h.bounded hpositive
    rw [List.length_cons] at this
    omega
  ordered := by
    rw [delivered_append, List.append_assoc, ← datagrams_cons]
    exact h.ordered
  counted := by
    have := h.counted
    rw [takenForGood_append, Bool.not_false, Bool.toNat_true]
    rw [List.length_cons] at this
    omega

/-- A notice is taken and goes back to the queue. -/
lemma put_back {n : Notice} {rest : List Item}
    (h : Balanced capacity arrived (.notice n :: rest) dropped receipts) (t : Ticket) :
    Balanced capacity arrived (rest ++ [.notice n]) dropped (receipts ++ [⟨t, .notice n, true⟩])
    where
  bounded := by simpa using h.bounded
  ordered := by
    have hsame : datagrams (rest ++ [.notice n]) = datagrams (.notice n :: rest) := by
      rw [datagrams_append, datagrams_cons]
      exact List.append_nil _
    rw [delivered_append, hsame, Item.datagram?, Option.toList_none, List.append_nil]
    exact h.ordered
  counted := by
    rw [takenForGood_append, List.length_append]
    exact h.counted

end Balanced

/-! ### One event -/

lemma exists_cons_of_tail_ne_nil {ts : List Ticket} (h : ts.tail ≠ []) : ∃ t r, ts = t :: r :=
  List.exists_cons_of_ne_nil fun hnil => h (by rw [hnil, List.tail_nil])

namespace Turns

/-- The invariant: the accounts are balanced, enough receivers are awake for what is in the queue,
and nobody is waiting twice. -/
structure Sound (s : Turns) : Prop where
  balanced : Balanced s.endpoint.capacity s.arrived s.endpoint.queue s.endpoint.dropped s.receipts
  awake : s.endpoint.waiting ≠ [] → s.endpoint.queue.length ≤ s.woken.length
  nodup : s.pending.Nodup

variable {s : Turns}

/-- Something is put into the queue, and a receiver is woken. -/
lemma Sound.put (h : s.Sound) {e : DatagramEndpoint} {arrived : List Item}
    (hwaiting : e.waiting = s.endpoint.waiting)
    (hqueue : e.queue.length ≤ s.endpoint.queue.length + 1)
    (hbalanced : Balanced e.capacity arrived e.queue e.dropped s.receipts) :
    (wake { s with endpoint := e, arrived }).Sound where
  balanced := hbalanced
  awake := fun htail => by
    change e.waiting.tail ≠ [] at htail
    obtain ⟨u, w, hsleep⟩ := exists_cons_of_tail_ne_nil htail
    have hawake := h.awake (by rw [← hwaiting, hsleep]; exact List.cons_ne_nil u w)
    simp only [wake, hsleep, List.take_succ_cons, List.take_zero, List.length_append,
      List.length_singleton]
    omega
  nodup := by
    rw [wake_pending, pending, hwaiting]
    exact h.nodup

lemma Sound.notice (h : s.Sound) {e : DatagramEndpoint} (n : Notice)
    (hwaiting : e.waiting = s.endpoint.waiting) (hcapacity : e.capacity = s.endpoint.capacity)
    (hqueue : e.queue = s.endpoint.queue) (hdropped : e.dropped = s.endpoint.dropped) :
    (wake { s with
      endpoint := e.enqueueNotice n, arrived := s.arrived ++ [.notice n] }).Sound := by
  have hcount := makeRoom_length e.capacity e.queue
  refine h.put hwaiting ?_ ?_
  · rw [DatagramEndpoint.enqueueNotice]
    simp only [List.length_append, List.length_singleton, ← hqueue]
    omega
  · have hbalanced := h.balanced
    rw [← hcapacity, ← hqueue, ← hdropped] at hbalanced
    exact hbalanced.queued (makeRoom_suffix _ _) hcount (makeRoom_room _ _) (.notice n)

/-- A receiver that is not waiting elsewhere has its turn; it may have been woken for it. -/
lemma takeTurn_sound {t : Ticket}
    (hbalanced : Balanced s.endpoint.capacity s.arrived s.endpoint.queue s.endpoint.dropped
      s.receipts)
    (hawake : s.endpoint.waiting ≠ [] → s.endpoint.queue.length ≤ s.woken.length + 1)
    (hnodup : s.pending.Nodup) (ht : t ∉ s.pending) : (s.takeTurn t).Sound := by
  by_cases hqueue : s.endpoint.queue = []
  · rw [takeTurn_nil hqueue]
    refine ⟨hbalanced, fun _ => by simp [hqueue], ?_⟩
    rw [pending, ← List.append_assoc, List.nodup_append]
    exact ⟨hnodup, List.pairwise_singleton _ t, fun u hu v hv huv =>
      ht (List.mem_singleton.mp hv ▸ huv ▸ hu)⟩
  · obtain ⟨item, rest, hitem⟩ := List.exists_cons_of_ne_nil hqueue
    rw [hitem] at hbalanced hawake
    have hpending : (s.takeTurn t).pending.Nodup := by
      rw [takeTurn_pending hitem]
      exact hnodup
    rw [takeTurn_cons hitem] at hpending ⊢
    by_cases hback : s.endpoint.putsBack item
    · obtain ⟨n, rfl⟩ : ∃ n, item = .notice n := by
        cases item with
        | datagram bs => cases hback
        | notice n => exact ⟨n, rfl⟩
      simp only [DatagramEndpoint.without, hback, if_true] at hpending ⊢
      refine ⟨hbalanced.put_back t, fun htail => ?_, hpending⟩
      -- What went back woke the next one, who stands for the one whose turn it was.
      change s.endpoint.waiting.tail ≠ [] at htail
      obtain ⟨u, w, hsleep⟩ := exists_cons_of_tail_ne_nil htail
      simpa [wake, hsleep] using hawake (by rw [hsleep]; exact List.cons_ne_nil u w)
    · simp only [DatagramEndpoint.without, hback, Bool.false_eq_true, if_false] at hpending ⊢
      refine ⟨hbalanced.took t, fun hwaiting => ?_, hpending⟩
      have := hawake hwaiting
      rw [List.length_cons] at this
      exact Nat.le_of_succ_le_succ this

lemma Sound.arrive (h : s.Sound) (bs : Bytes) : (s.turn (.arrive bs)).Sound := by
  by_cases hfull : isFull s.endpoint.capacity s.endpoint.queue.length
  · rw [turn_arrive_of_full hfull]
    exact ⟨h.balanced.lost _, h.awake, h.nodup⟩
  · rw [turn_arrive_of_room hfull]
    refine h.put ?_ ?_ ?_
    · rfl
    · exact Nat.le_of_eq List.length_append
    · exact h.balanced.queued List.suffix_rfl (Nat.zero_add _) hfull _

lemma Sound.resume (h : s.Sound) {t : Ticket} (ht : t ∈ s.woken) :
    (takeTurn t { s with woken := s.woken.erase t }).Sound := by
  have hlength := List.length_erase_of_mem ht
  have hpositive := List.length_pos_of_mem ht
  obtain ⟨hwoken, hwaiting, hapart⟩ := List.nodup_append.mp h.nodup
  refine takeTurn_sound h.balanced (fun hne => ?_) ?_ ?_
  · have := h.awake hne
    simp only
    omega
  · exact h.nodup.sublist (List.erase_sublist.append_right _)
  · rw [pending, List.mem_append, not_or]
    exact ⟨hwoken.not_mem_erase, fun hmem => hapart t ht t hmem rfl⟩

lemma Sound.cancel (h : s.Sound) (t : Ticket) : (s.turn (.cancel t)).Sound := by
  have hnodup := h.nodup.sublist (turn_cancel_pending t)
  by_cases hwaiting : t ∈ s.endpoint.waiting
  · rw [turn_cancel_of_asleep hwaiting] at hnodup ⊢
    exact ⟨h.balanced, fun _ => h.awake (List.ne_nil_of_mem hwaiting), hnodup⟩
  by_cases hwoken : t ∈ s.woken
  · have hlength := List.length_erase_of_mem hwoken
    have hpositive := List.length_pos_of_mem hwoken
    rw [turn_cancel_of_woken hwaiting hwoken] at hnodup ⊢
    by_cases hqueue : s.endpoint.queue = []
    · simp only [hqueue, List.isEmpty_nil, if_true] at hnodup ⊢
      exact ⟨h.balanced, fun _ => by simp [hqueue], hnodup⟩
    · simp only [List.isEmpty_iff, hqueue, if_false] at hnodup ⊢
      refine ⟨h.balanced, fun htail => ?_, hnodup⟩
      change s.endpoint.waiting.tail ≠ [] at htail
      obtain ⟨u, w, hsleep⟩ := exists_cons_of_tail_ne_nil htail
      have := h.awake (by rw [hsleep]; exact List.cons_ne_nil u w)
      simp only [wake, hsleep, List.take_succ_cons, List.take_zero, List.length_append,
        List.length_singleton]
      omega
  · rw [turn_cancel_of_absent (mt mem_pending.mp (not_or.mpr ⟨hwoken, hwaiting⟩))]
    exact h

/-- Every event keeps the invariant. -/
lemma Sound.turn (h : s.Sound) (event : Event) : (s.turn event).Sound := by
  cases event with
  | arrive bs => exact h.arrive bs
  | report n => exact h.notice n rfl rfl rfl rfl
  | close reason =>
    simp only [Turns.turn]
    split_ifs
    · cases reason <;> exact ⟨h.balanced, h.awake, h.nodup⟩
    · exact h
  | lose n => exact h.notice n rfl rfl rfl rfl
  | receive t =>
    simp only [Turns.turn]
    split_ifs with ht
    · exact h
    · refine takeTurn_sound h.balanced (fun hne => Nat.le_succ_of_le (h.awake hne)) h.nodup ?_
      rwa [pending, List.mem_append, or_comm]
  | resume t =>
    simp only [Turns.turn]
    split_ifs with ht
    · exact h.resume ht
    · exact h
  | cancel t => exact h.cancel t

lemma Sound.run (h : s.Sound) (events : List Event) : (Turns.run events s).Sound := by
  induction events generalizing s with
  | nil => exact h
  | cons event rest ih => exact ih (h.turn event)

/-! ### Receivers that give up -/

/-- What a receiver has taken. -/
def takenBy (t : Ticket) (s : Turns) : List Receipt := s.receipts.filter (·.ticket = t)

lemma takeTurn_other {t u : Ticket} (htu : t ≠ u) (hu : u ∉ s.pending) :
    u ∉ (s.takeTurn t).pending ∧ (s.takeTurn t).takenBy u = s.takenBy u := by
  by_cases hqueue : s.endpoint.queue = []
  · rw [takeTurn_nil hqueue]
    refine ⟨?_, rfl⟩
    rw [pending, ← List.append_assoc, List.mem_append, not_or]
    exact ⟨hu, fun hmem => htu (List.mem_singleton.mp hmem).symm⟩
  · obtain ⟨item, rest, hitem⟩ := List.exists_cons_of_ne_nil hqueue
    rw [takenBy, takeTurn_pending hitem, takeTurn_receipts hitem, List.filter_append]
    exact ⟨hu, by simp [htu, takenBy]⟩

lemma turn_cancel_takes_nothing (t : Ticket) :
    (s.turn (.cancel t)).receipts = s.receipts ∧
      (s.turn (.cancel t)).endpoint.queue = s.endpoint.queue ∧
      (s.turn (.cancel t)).endpoint.dropped = s.endpoint.dropped := by
  obtain ⟨waiting, woken, heq⟩ := turn_cancel_frame (s := s) t
  rw [heq]
  exact ⟨rfl, rfl, rfl⟩

/-- Whoever gives up is not waiting any more. -/
lemma Sound.cancel_absent (h : s.Sound) (t : Ticket) : t ∉ (s.turn (.cancel t)).pending := by
  obtain ⟨hwoken, -, hapart⟩ := List.nodup_append.mp h.nodup
  by_cases hwaiting : t ∈ s.endpoint.waiting
  · rw [turn_cancel_of_asleep hwaiting, mem_pending, not_or]
    exact ⟨fun hmem => hapart t hmem t hwaiting rfl, by simp⟩
  by_cases ht : t ∈ s.woken
  · have habsent : t ∉ pending { s with woken := s.woken.erase t } := by
      rw [mem_pending, not_or]
      exact ⟨hwoken.not_mem_erase, hwaiting⟩
    rw [turn_cancel_of_woken hwaiting ht]
    simp only
    split_ifs
    · exact habsent
    · rwa [wake_pending]
  · have habsent := mt mem_pending.mp (not_or.mpr ⟨ht, hwaiting⟩)
    rwa [turn_cancel_of_absent habsent]

/-- Whoever is not waiting takes nothing as long as he does not come again. -/
lemma turn_absent {t : Ticket} {event : Event} (hevent : event ≠ .receive t) (ht : t ∉ s.pending) :
    t ∉ (s.turn event).pending ∧ (s.turn event).takenBy t = s.takenBy t := by
  cases event with
  | arrive bs =>
    by_cases hfull : isFull s.endpoint.capacity s.endpoint.queue.length
    · rw [turn_arrive_of_full hfull]
      exact ⟨ht, rfl⟩
    · rw [turn_arrive_of_room hfull, wake_pending]
      exact ⟨ht, rfl⟩
  | report n => exact ⟨by rw [Turns.turn, wake_pending]; exact ht, rfl⟩
  | close reason =>
    simp only [Turns.turn]
    split_ifs
    · cases reason <;> exact ⟨ht, rfl⟩
    · exact ⟨ht, rfl⟩
  | lose n => exact ⟨by rw [Turns.turn, wake_pending]; exact ht, rfl⟩
  | receive u =>
    simp only [Turns.turn]
    split_ifs
    · exact ⟨ht, rfl⟩
    · exact takeTurn_other (fun hut => hevent (hut ▸ rfl)) ht
  | resume u =>
    simp only [Turns.turn]
    split_ifs with hu
    · have hut : u ≠ t := fun hut => ht (mem_pending.mpr (.inl (hut ▸ hu)))
      refine takeTurn_other (s := { s with woken := s.woken.erase u }) hut fun hmem => ht ?_
      exact (List.erase_sublist.append_right _).subset hmem
    · exact ⟨ht, rfl⟩
  | cancel u =>
    refine ⟨fun hmem => ht ((turn_cancel_pending u).subset hmem), ?_⟩
    rw [takenBy, (turn_cancel_takes_nothing u).1]
    rfl

lemma run_absent {t : Ticket} {events : List Event} (hevents : .receive t ∉ events)
    (ht : t ∉ s.pending) : (Turns.run events s).takenBy t = s.takenBy t := by
  induction events generalizing s with
  | nil => rfl
  | cons event rest ih =>
    rw [List.mem_cons, not_or] at hevents
    obtain ⟨hpending, htaken⟩ := turn_absent (Ne.symm hevents.1) ht
    exact (ih hevents.2 hpending).trans htaken

/-! ### Everybody has a turn -/

/-- A measure of the turns that are still to come. -/
def effort (s : Turns) : Nat := 3 * s.woken.length + 2 * s.endpoint.waiting.length

/-- Turns come to an end: who takes something leaves, who finds nothing is not awake any more. -/
lemma effort_resume_lt {t : Ticket} (ht : t ∈ s.woken) :
    (s.turn (.resume t)).effort < s.effort := by
  have hlength := List.length_erase_of_mem ht
  have hpositive := List.length_pos_of_mem ht
  simp only [Turns.turn, if_pos ht]
  by_cases hqueue : s.endpoint.queue = []
  · rw [takeTurn_nil (s := { s with woken := s.woken.erase t }) hqueue]
    simp only [effort, List.length_append, List.length_singleton]
    omega
  · obtain ⟨item, rest, hitem⟩ := List.exists_cons_of_ne_nil hqueue
    rw [takeTurn_cons (s := { s with woken := s.woken.erase t }) hitem]
    simp only
    split_ifs
    · cases hsleep : s.endpoint.waiting with
      | nil =>
        simp only [effort, wake, DatagramEndpoint.without, hsleep]
        simp
        omega
      | cons u w =>
        simp only [effort, wake, DatagramEndpoint.without, hsleep]
        simp
        omega
    · simp only [effort, DatagramEndpoint.without]
      omega

lemma exists_woken_eq_nil (s : Turns) :
    ∃ ts : List Ticket, (Turns.run (ts.map .resume) s).woken = [] := by
  induction heffort : s.effort using Nat.strongRecOn generalizing s with
  | ind n ih =>
    cases hwoken : s.woken with
    | nil => exact ⟨[], hwoken⟩
    | cons t rest =>
      have hlt := effort_resume_lt (s := s) (t := t) (by simp [hwoken])
      obtain ⟨ts, hts⟩ := ih _ (heffort ▸ hlt) _ rfl
      exact ⟨t :: ts, hts⟩

/-! ### Every run -/

lemma takeTurn_frame (t : Ticket) : (s.takeTurn t).arrived = s.arrived ∧
    (s.takeTurn t).endpoint.capacity = s.endpoint.capacity := by
  by_cases hqueue : s.endpoint.queue = []
  · rw [takeTurn_nil hqueue]
    exact ⟨rfl, rfl⟩
  · obtain ⟨item, rest, hitem⟩ := List.exists_cons_of_ne_nil hqueue
    rw [takeTurn_cons hitem]
    simp only
    split_ifs <;> exact ⟨rfl, rfl⟩

/-- What arrives is recorded, and the capacity stays. -/
lemma turn_frame (event : Event) : (s.turn event).arrived = s.arrived ++ event.item?.toList ∧
    (s.turn event).endpoint.capacity = s.endpoint.capacity := by
  cases event with
  | arrive bs =>
    by_cases hfull : isFull s.endpoint.capacity s.endpoint.queue.length
    · rw [turn_arrive_of_full hfull]
      exact ⟨rfl, rfl⟩
    · rw [turn_arrive_of_room hfull]
      exact ⟨rfl, rfl⟩
  | report n => exact ⟨rfl, rfl⟩
  | close reason =>
    simp only [Turns.turn, Event.item?, Option.toList_none, List.append_nil]
    split_ifs
    · cases reason <;> exact ⟨rfl, rfl⟩
    · exact ⟨rfl, rfl⟩
  | lose n => exact ⟨rfl, rfl⟩
  | receive t =>
    simp only [Turns.turn, Event.item?, Option.toList_none, List.append_nil]
    split_ifs
    · exact ⟨rfl, rfl⟩
    · exact takeTurn_frame t
  | resume t =>
    simp only [Turns.turn, Event.item?, Option.toList_none, List.append_nil]
    split_ifs
    · exact takeTurn_frame (s := { s with woken := s.woken.erase t }) t
    · exact ⟨rfl, rfl⟩
  | cancel t =>
    obtain ⟨waiting, woken, heq⟩ := turn_cancel_frame (s := s) t
    rw [heq]
    exact ⟨(List.append_nil _).symm, rfl⟩

lemma run_frame (events : List Event) :
    (Turns.run events s).arrived = s.arrived ++ arrivals events ∧
      (Turns.run events s).endpoint.capacity = s.endpoint.capacity := by
  induction events generalizing s with
  | nil => exact ⟨(List.append_nil _).symm, rfl⟩
  | cons event rest ih =>
    obtain ⟨harrived, hcapacity⟩ := s.turn_frame event
    obtain ⟨harrived', hcapacity'⟩ := @ih (s.turn event)
    refine ⟨harrived'.trans ?_, hcapacity'.trans hcapacity⟩
    rw [harrived, List.append_assoc]
    cases hitem : event.item? <;> simp [arrivals, hitem]

/-- An endpoint on which nothing has happened so far. -/
def start (capacity : Int) (port : Port) (info : List (String × Value)) : Turns :=
  { endpoint := { capacity, port, info } }

lemma start_sound (capacity : Int) (port : Port) (info : List (String × Value)) :
    (start capacity port info).Sound where
  balanced :=
    { bounded := fun hpositive => Int.le_of_lt hpositive
      ordered := List.Sublist.refl _
      counted := rfl }
  awake := fun hne => absurd rfl hne
  nodup := List.nodup_nil

/-- What a run of events leads to. -/
structure Delivers (capacity : Int) (events : List Event) (s : Turns) : Prop where
  /-- The queue stays within its capacity. -/
  bounded : 0 < capacity → (s.endpoint.queue.length : Int) ≤ capacity
  /-- What receivers got, and then what is queued, is in the order of arrival and comes once. -/
  ordered : (delivered s.receipts ++ datagrams s.endpoint.queue).Sublist
    (datagrams (arrivals events))
  /-- Everything that has arrived was taken for good, dropped or is queued. -/
  counted : (arrivals events).length =
    takenForGood s.receipts + s.endpoint.dropped + s.endpoint.queue.length
  /-- Once nobody is awake, nobody sleeps beside something to take. -/
  idle : s.woken = [] → s.endpoint.waiting = [] ∨ s.endpoint.queue = []
  /-- That moment comes as soon as those that are awake have had their turns. -/
  settles : ∃ ts : List Ticket, (run (ts.map .resume) s).woken = []
  /-- Giving up takes nothing. -/
  harmless : ∀ t, (s.turn (.cancel t)).receipts = s.receipts ∧
    (s.turn (.cancel t)).endpoint.queue = s.endpoint.queue ∧
    (s.turn (.cancel t)).endpoint.dropped = s.endpoint.dropped
  /-- Whoever has given up takes nothing later, unless he comes again. -/
  spared : ∀ t later, .receive t ∉ later → (run (.cancel t :: later) s).takenBy t = s.takenBy t

/-- Datagrams are received at most once, in order and within the capacity, whatever happens in
whatever order; and serving everybody at once, as the operations of an endpoint do, is one of the
orders. -/
theorem run_delivers (capacity : Int) (port : Port) (info : List (String × Value)) :
    (∀ events, Delivers capacity events (run events (start capacity port info))) ∧
      ∀ ops, ∃ events, (run events (start capacity port info)).Shows
        (Operation.performAll ops (start capacity port info).endpoint).2
        (Operation.performAll ops (start capacity port info).endpoint).1 := by
  refine ⟨fun events => ?_, fun ops => ?_⟩
  · obtain ⟨harrived, hcapacity⟩ := (start capacity port info).run_frame events
    have hsound := (start_sound capacity port info).run events
    have hbalanced := hsound.balanced
    rw [harrived, hcapacity] at hbalanced
    refine ⟨hbalanced.bounded, hbalanced.ordered, hbalanced.counted, fun hwoken => ?_,
      exists_woken_eq_nil _, turn_cancel_takes_nothing, fun t later hlater => ?_⟩
    · by_contra hboth
      rw [not_or] at hboth
      have hlength := hsound.awake hboth.1
      rw [hwoken] at hlength
      exact hboth.2 (List.eq_nil_of_length_eq_zero (Nat.le_zero.mp hlength))
    · refine (run_absent hlater (hsound.cancel_absent t)).trans ?_
      rw [takenBy, (turn_cancel_takes_nothing t).1]
      rfl
  · have hstart : (start capacity port info).Shows (start capacity port info).endpoint [] :=
      ⟨⟨rfl, fun hne => absurd rfl hne⟩, rfl, rfl, fun _ hm => nomatch hm⟩
    exact hstart.performAll ops

end Turns

end Socks5
