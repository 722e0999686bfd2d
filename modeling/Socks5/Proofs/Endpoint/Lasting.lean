import Socks5.Proofs.Endpoint.Closed
import Socks5.Proofs.Endpoint.Eviction

/-!
# What a closed endpoint tells

Whatever happens in whatever order, a closed endpoint has the same answer for every receiver.
`Turns.Since` says what receivers have taken since the socket went, and is kept by every event that
brings nothing new. Before that the first reason for closing is the one that counts, and no notice
in the queue can be taken for the notice of the end.
-/

namespace Socks5

open Endpoint

namespace Turns

variable {n : Notice} {left : List Item} {s s' s'' : Turns}

/-! ### One receiver after the other -/

lemma takeTurn_endpoint_frame (t : Ticket) : ∃ queue waiting,
    (s.takeTurn t).endpoint = { s.endpoint with queue, waiting } := by
  by_cases hqueue : s.endpoint.queue = []
  · rw [takeTurn_nil hqueue]
    exact ⟨_, _, rfl⟩
  · obtain ⟨item, rest, hitem⟩ := List.exists_cons_of_ne_nil hqueue
    exact ⟨_, _, takeTurn_endpoint hitem t⟩

/-- A receiver that has its turn takes the first of what is left, or the notice. -/
lemma takeTurn_of_ended (h : s.endpoint.EndedWith n left) (t : Ticket) : ∃ back,
      (s.takeTurn t).receipts = s.receipts ++ [⟨t, left.headD (.notice n), back⟩] ∧
      (s.takeTurn t).endpoint.EndedWith n left.tail ∧ (s.takeTurn t).pending = s.pending := by
  obtain ⟨rest, hqueue, hnext⟩ := h.next
  refine ⟨_, takeTurn_receipts hqueue t, ?_, takeTurn_pending hqueue t⟩
  rw [takeTurn_endpoint hqueue]
  exact ⟨hnext.ending, hnext.closed, hnext.queue, hnext.same⟩

/-- Who gives up does so for himself alone. -/
lemma turn_cancel_keeps {t u : Ticket} (hut : u ≠ t) (hu : u ∈ s.pending) :
    u ∈ (s.turn (.cancel t)).pending := by
  by_cases hwaiting : t ∈ s.endpoint.waiting
  · rw [turn_cancel_of_asleep hwaiting, mem_pending]
    rw [mem_pending] at hu
    simpa [hut] using hu
  by_cases hwoken : t ∈ s.woken
  · have hkept : u ∈ pending { s with woken := s.woken.erase t } := by
      rw [mem_pending] at hu ⊢
      simpa [hut] using hu
    rw [turn_cancel_of_woken hwaiting hwoken]
    simp only
    split_ifs
    · exact hkept
    · rwa [wake_pending]
  · rwa [turn_cancel_of_absent (mt mem_pending.mp (not_or.mpr ⟨hwoken, hwaiting⟩))]

/-- What has happened since a state in which the endpoint had ended: receivers have taken the first
of what was left, and then the notice. Whoever was waiting goes on waiting, has taken something, or
has given up. -/
structure Since (n : Notice) (left : List Item) (s : Turns) (events : List Event) (s' : Turns)
    (since : List Receipt) : Prop where
  receipts : s'.receipts = s.receipts ++ since
  items : since.map (·.item) = left.takeD since.length (.notice n)
  ended : s'.endpoint.EndedWith n (left.drop since.length)
  waited : ∀ t ∈ s.pending, .cancel t ∉ events → t ∈ s'.pending ∨ t ∈ since.map (·.ticket)

variable {events events' : List Event} {since since' : List Receipt}

/-- Nothing was taken, and nobody has left. -/
lemma Since.none (hended : s'.endpoint.EndedWith n left) (hreceipts : s'.receipts = s.receipts)
    (hwaited : ∀ t ∈ s.pending, .cancel t ∉ events → t ∈ s'.pending) :
    Since n left s events s' [] where
  receipts := by simp [hreceipts]
  items := rfl
  ended := hended
  waited := fun t ht hcancel => .inl (hwaited t ht hcancel)

lemma Since.trans (h : Since n left s events s' since)
    (h' : Since n (left.drop since.length) s' events' s'' since') :
    Since n left s (events ++ events') s'' (since ++ since') where
  receipts := by rw [h'.receipts, h.receipts, List.append_assoc]
  items := by rw [List.map_append, h.items, h'.items, List.length_append, takeD_append]
  ended := by simpa using h'.ended
  waited := by
    intro t ht hcancel
    rw [List.mem_append, not_or] at hcancel
    rw [List.map_append, List.mem_append]
    rcases h.waited t ht hcancel.1 with hpending | htaken
    · rcases h'.waited t hpending hcancel.2 with hpending' | htaken'
      · exact .inl hpending'
      · exact .inr (.inr htaken')
    · exact .inr (.inl htaken)

/-- A receiver takes something; it may have been woken for it. -/
lemma Since.takeTurn (hended : s.endpoint.EndedWith n left) {t : Ticket}
    (hwaited : ∀ u ∈ s''.pending, u ∈ s.pending ∨ u = t) (hreceipts : s.receipts = s''.receipts) :
    ∃ since, Since n left s'' events (s.takeTurn t) since := by
  obtain ⟨back, htaken, hnext, hpending⟩ := takeTurn_of_ended hended t
  refine ⟨_, by rw [htaken, hreceipts], rfl, by simpa using hnext, ?_⟩
  intro u hu _
  rw [hpending]
  simpa using hwaited u hu

/-- Every event that brings nothing new keeps what is told. -/
lemma exists_since_turn (h : s.endpoint.EndedWith n left) {event : Event}
    (hquiet : event.item? = none) : ∃ since, Since n left s [event] (s.turn event) since := by
  cases event with
  | close reason =>
    have hclosed : s.turn (.close reason) = s := if_neg h.closed
    rw [hclosed]
    exact ⟨[], .none h rfl fun _ ht _ => ht⟩
  | receive t =>
    simp only [Turns.turn]
    split_ifs
    · exact ⟨[], .none h rfl fun _ ht _ => ht⟩
    · exact Since.takeTurn h (fun u hu => .inl hu) rfl
  | resume t =>
    simp only [Turns.turn]
    split_ifs
    · refine Since.takeTurn (s := { s with woken := s.woken.erase t }) h ?_ rfl
      intro u hu
      by_cases hut : u = t
      · exact .inr hut
      · rw [mem_pending] at hu ⊢
        exact .inl (hu.imp_left (List.mem_erase_of_ne hut).mpr)
    · exact ⟨[], .none h rfl fun _ ht _ => ht⟩
  | cancel t =>
    obtain ⟨waiting, woken, heq⟩ := turn_cancel_frame (s := s) t
    refine ⟨[], .none ?_ ?_ ?_⟩
    · rw [heq]
      exact ⟨h.ending, h.closed, h.queue, h.same⟩
    · rw [heq]
    · intro u hu hcancel
      have hut : u ≠ t := by simpa using hcancel
      exact turn_cancel_keeps hut hu
  | _ => cases hquiet

lemma exists_since_run (h : s.endpoint.EndedWith n left) {events : List Event}
    (hquiet : arrivals events = []) : ∃ since, Since n left s events (run events s) since := by
  induction events generalizing s left with
  | nil => exact ⟨[], .none h rfl fun _ ht _ => ht⟩
  | cons event rest ih =>
    obtain ⟨hevent, hrest⟩ : event.item? = none ∧ arrivals rest = [] := by
      simpa [arrivals] using hquiet
    obtain ⟨since, hturn⟩ := exists_since_turn h hevent
    obtain ⟨since', hrun⟩ := ih hturn.ended hrest
    exact ⟨since ++ since', hturn.trans hrun⟩

end Turns

/-! ### Before the end -/

/-- The reason that an event gives for closing, which may be none. -/
def Event.closing? : Event → Option (Option Notice)
  | .close reason => some reason
  | _ => none

/-- The notice that an event brings or gives as a reason. -/
def Event.named? : Event → Option Notice
  | .report n | .lose n => some n
  | .close reason => reason
  | _ => none

/-- The reasons that were given for closing, in order. -/
def closings (events : List Event) : List (Option Notice) := events.filterMap Event.closing?

namespace Turns

variable {s : Turns}

/-- The endpoint gets a socket. -/
def made (info : List (String × Value)) (s : Turns) : Turns :=
  { s with endpoint := s.endpoint.make info }

/-- An event that brings nothing and does not close an open endpoint is one of receivers. -/
lemma turn_receivers_frame {event : Event} (hitem : event.item? = none)
    (hclose : event.closing? = none ∨ s.endpoint.port ≠ .opened) :
    ∃ queue waiting, (s.turn event).endpoint = { s.endpoint with queue, waiting } := by
  cases event with
  | close reason =>
    have hclosed : s.turn (.close reason) = s := by
      rcases hclose with hnone | hport
      · cases hnone
      · exact if_neg hport
    rw [hclosed]
    exact ⟨_, _, rfl⟩
  | receive t =>
    simp only [Turns.turn]
    split_ifs
    · exact ⟨_, _, rfl⟩
    · exact takeTurn_endpoint_frame t
  | resume t =>
    simp only [Turns.turn]
    split_ifs
    · exact takeTurn_endpoint_frame (s := { s with woken := s.woken.erase t }) t
    · exact ⟨_, _, rfl⟩
  | cancel t =>
    obtain ⟨waiting, woken, heq⟩ := turn_cancel_frame (s := s) t
    rw [heq]
    exact ⟨_, _, rfl⟩
  | _ => cases hitem

/-- An event that neither closes an open endpoint nor takes its socket changes nothing of this. -/
lemma turn_keeps {event : Event} (hlose : ∀ n, event ≠ .lose n)
    (hclose : event.closing? = none ∨ s.endpoint.port ≠ .opened) :
    (s.turn event).endpoint.port = s.endpoint.port ∧
      (s.turn event).endpoint.ending = s.endpoint.ending ∧
      (s.turn event).endpoint.reason = s.endpoint.reason := by
  cases event with
  | arrive bs =>
    by_cases hfull : isFull s.endpoint.capacity s.endpoint.queue.length
    · rw [turn_arrive_of_full hfull]
      exact ⟨rfl, rfl, rfl⟩
    · rw [turn_arrive_of_room hfull]
      exact ⟨rfl, rfl, rfl⟩
  | report m => exact ⟨rfl, rfl, rfl⟩
  | lose m => exact absurd rfl (hlose m)
  | _ =>
    obtain ⟨queue, waiting, heq⟩ := turn_receivers_frame rfl hclose
    rw [heq]
    exact ⟨rfl, rfl, rfl⟩

/-- Nothing is known of an end before there is a socket. -/
structure Unmade (s : Turns) : Prop where
  port : s.endpoint.port ≠ .opened
  ending : s.endpoint.ending = none
  reason : s.endpoint.reason = none

lemma Unmade.run (h : s.Unmade) {events : List Event} (hlost : ∀ n, .lose n ∉ events) :
    (Turns.run events s).Unmade := by
  induction events generalizing s with
  | nil => exact h
  | cons event rest ih =>
    have hlose : ∀ n, event ≠ .lose n := fun n hn => hlost n (hn ▸ List.mem_cons_self)
    obtain ⟨hport, hending, hreason⟩ := turn_keeps hlose (.inr h.port)
    have hnext : (s.turn event).Unmade :=
      ⟨hport ▸ h.port, hending.trans h.ending, hreason.trans h.reason⟩
    exact ih hnext fun n hn => hlost n (List.mem_cons_of_mem event hn)

/-- The socket has not gone; the first of the reasons for closing is the one that counts. -/
structure Unlost (reasons : List (Option Notice)) (s : Turns) : Prop where
  port : s.endpoint.port = .opened ↔ reasons = []
  ending : s.endpoint.ending = none
  reason : s.endpoint.reason = reasons.head?.join

variable {reasons : List (Option Notice)}

lemma Unlost.turn (h : s.Unlost reasons) {event : Event} (hlose : ∀ n, event ≠ .lose n) :
    (s.turn event).Unlost (reasons ++ event.closing?.toList) := by
  cases hclosing : event.closing? with
  | none =>
    obtain ⟨hport, hending, hreason⟩ := turn_keeps hlose (.inl hclosing)
    rw [Option.toList_none, List.append_nil]
    exact ⟨by rw [hport, h.port], hending.trans h.ending, hreason.trans h.reason⟩
  | some reason =>
    by_cases hopened : s.endpoint.port = .opened
    · obtain rfl : event = .close reason := by
        cases event with
        | close reason' => exact congrArg Event.close (Option.some.inj hclosing)
        | _ => cases hclosing
      have hreasons := h.port.mp hopened
      simp only [Turns.turn, hopened, if_true, hreasons]
      cases reason <;> exact ⟨by simp, h.ending, rfl⟩
    · obtain ⟨hport, hending, hreason⟩ := turn_keeps hlose (.inr hopened)
      have hreasons : reasons ≠ [] := mt h.port.mpr hopened
      refine ⟨?_, hending.trans h.ending, ?_⟩
      · simp [hport, hopened]
      · rw [hreason, h.reason, List.head?_append_of_ne_nil _ hreasons]

lemma Unlost.run (h : s.Unlost reasons) {events : List Event} (hlost : ∀ n, .lose n ∉ events) :
    (Turns.run events s).Unlost (reasons ++ closings events) := by
  induction events generalizing s reasons with
  | nil => simpa [closings] using h
  | cons event rest ih =>
    have hlose : ∀ n, event ≠ .lose n := fun n hn => hlost n (hn ▸ List.mem_cons_self)
    have hrun := ih (h.turn hlose) fun n hn => hlost n (List.mem_cons_of_mem event hn)
    cases hclosing : event.closing? <;> simpa [closings, hclosing] using hrun

/-! ### Notices are told apart -/

/-- Every notice that has arrived has an old tag. -/
def Dated (s : Turns) : Prop := ∀ n ∈ notices s.arrived, n.tag < s.endpoint.nextTag

lemma turn_nextTag (event : Event) :
    s.endpoint.nextTag ≤ (s.turn event).endpoint.nextTag ∧
      ∀ n, event.item? = some (.notice n) → n.tag < (s.turn event).endpoint.nextTag := by
  cases hitem : event.item? with
  | none =>
    refine ⟨?_, nofun⟩
    by_cases hclose : event.closing? = none ∨ s.endpoint.port ≠ .opened
    · obtain ⟨queue, waiting, heq⟩ := turn_receivers_frame hitem hclose
      simp only [heq, Nat.le_refl]
    · rw [not_or, not_not] at hclose
      cases event with
      | close reason =>
        simp only [Turns.turn, hclose.2, if_true]
        cases reason with
        | none => exact Nat.le_refl _
        | some m => exact Nat.le_max_left _ _
      | _ => exact absurd rfl hclose.1
  | some item =>
    cases event with
    | arrive bs =>
      cases hitem
      constructor
      · by_cases hfull : isFull s.endpoint.capacity s.endpoint.queue.length
        · simp only [turn_arrive_of_full hfull, Nat.le_refl]
        · rw [turn_arrive_of_room hfull]
          exact Nat.le_refl _
      · intro n hn
        cases hn
    | report m =>
      cases hitem
      refine ⟨Nat.le_max_left _ _, ?_⟩
      intro n hn
      cases hn
      exact Nat.le_max_right _ _
    | lose m =>
      cases hitem
      refine ⟨Nat.le_max_left _ _, ?_⟩
      intro n hn
      cases hn
      exact Nat.le_max_right _ _
    | _ => cases hitem

lemma Dated.turn (h : s.Dated) (event : Event) : (s.turn event).Dated := by
  obtain ⟨hle, hnew⟩ := turn_nextTag (s := s) event
  intro n hn
  rw [(turn_frame event).1, notices_append, List.mem_append] at hn
  rcases hn with hold | hcame
  · exact Nat.lt_of_lt_of_le (h n hold) hle
  · rw [mem_notices, Option.mem_toList] at hcame
    exact hnew n hcame

lemma Dated.run (h : s.Dated) (events : List Event) : (Turns.run events s).Dated := by
  induction events generalizing s with
  | nil => exact h
  | cons event rest ih => exact ih (h.turn event)

/-- A tag stands for one exception, and no two of these notices share one. -/
def Identified (ns : List Notice) : Prop := ∀ m ∈ ns, ∀ m' ∈ ns, m.tag = m'.tag → m = m'

instance (ns : List Notice) : Decidable (Identified ns) :=
  inferInstanceAs (Decidable (∀ m ∈ ns, ∀ m' ∈ ns, m.tag = m'.tag → m = m'))

lemma mem_named_of_mem_arrivals {events : List Event} {n : Notice}
    (hn : n ∈ notices (arrivals events)) : n ∈ events.filterMap Event.named? := by
  rw [mem_notices, arrivals, List.mem_filterMap] at hn
  obtain ⟨event, hevent, hitem⟩ := hn
  refine List.mem_filterMap.mpr ⟨event, hevent, ?_⟩
  cases event with
  | report m =>
    cases hitem
    rfl
  | lose m =>
    cases hitem
    rfl
  | _ => cases hitem

lemma mem_named_of_closings {events : List Event} {n : Notice}
    (hn : (closings events).head?.join = some n) : n ∈ events.filterMap Event.named? := by
  have hmem : some n ∈ closings events := List.mem_of_head? (Option.join_eq_some_iff.mp hn)
  obtain ⟨event, hevent, hclosing⟩ := List.mem_filterMap.mp hmem
  refine List.mem_filterMap.mpr ⟨event, hevent, ?_⟩
  cases event with
  | close reason => exact Option.some.inj hclosing
  | _ => cases hclosing

/-! ### Everybody is answered -/

/-- Whoever comes to an endpoint or has his turn takes this item at once. -/
structure Serves (item : Item) (s : Turns) : Prop where
  /-- A receiver that comes takes it. -/
  receive : ∀ t ∉ s.pending, ∃ back,
    (s.turn (.receive t)).receipts = s.receipts ++ [⟨t, item, back⟩]
  /-- A receiver that was woken takes it when he has his turn. -/
  resume : ∀ t ∈ s.woken, ∃ back,
    (s.turn (.resume t)).receipts = s.receipts ++ [⟨t, item, back⟩]
  /-- Somebody is awake as long as somebody waits. -/
  awake : s.pending ≠ [] → s.woken ≠ []
  /-- Nobody waits once those that are awake have had their turns. -/
  settles : ∃ ts : List Ticket, (run (ts.map .resume) s).pending = []
  /-- An item that was taken could go back to the queue. -/
  room : ∀ item rest, s.endpoint.queue = item :: rest →
    ¬ isFull s.endpoint.capacity rest.length

lemma Sound.woken_ne_nil (h : s.Sound) (hended : s.endpoint.EndedWith n left)
    (hpending : s.pending ≠ []) : s.woken ≠ [] := by
  intro hwoken
  obtain ⟨rest, hqueue, -⟩ := hended.next
  have hwaiting : s.endpoint.waiting ≠ [] := by simpa [pending, hwoken] using hpending
  have hlength := h.awake hwaiting
  rw [hwoken, hqueue, List.length_cons, List.length_nil] at hlength
  omega

lemma Sound.serves (h : s.Sound) (hended : s.endpoint.EndedWith n left) :
    s.Serves (left.headD (.notice n)) where
  receive := by
    intro t ht
    obtain ⟨back, htaken, -⟩ := takeTurn_of_ended hended t
    rw [mem_pending, or_comm] at ht
    exact ⟨back, by simpa only [Turns.turn, if_neg ht] using htaken⟩
  resume := by
    intro t ht
    obtain ⟨back, htaken, -⟩ :=
      takeTurn_of_ended (s := { s with woken := s.woken.erase t }) hended t
    exact ⟨back, by simpa only [Turns.turn, if_pos ht] using htaken⟩
  awake := h.woken_ne_nil hended
  settles := by
    obtain ⟨ts, hwoken⟩ := exists_woken_eq_nil s
    have hquiet : arrivals (ts.map .resume) = [] := by
      simp [arrivals, List.filterMap_map, Function.comp_def, Event.item?]
    obtain ⟨since, hsince⟩ := exists_since_run hended hquiet
    refine ⟨ts, ?_⟩
    by_contra hpending
    exact (h.run _).woken_ne_nil hsince.ended hpending hwoken
  room := by
    intro item rest hqueue
    have hbounded := h.balanced.bounded
    rw [hqueue, List.length_cons] at hbounded
    rw [isFull_iff]
    omega

/-! ### Every closed endpoint -/

/-- What a run has come to as long as the socket has not gone. -/
structure Standing (events : List Event) (reasons : List (Option Notice)) (s : Turns) : Prop where
  sound : s.Sound
  unlost : s.Unlost reasons
  dated : s.Dated
  arrived : s.arrived = arrivals events
  queued : ∀ n, .notice n ∈ s.endpoint.queue → n ∈ notices s.arrived

lemma standing (capacity : Int) (info : List (String × Value)) {early before : List Event}
    (hlost : ∀ n, .lose n ∉ early ++ before) :
    (run before ((run early (start capacity .unmade [])).made info)).Standing (early ++ before)
      (closings before) := by
  simp only [List.mem_append, not_or] at hlost
  have hunmade : (start capacity .unmade []).Unmade := ⟨nofun, rfl, rfl⟩
  have hdated : (start capacity .unmade []).Dated := fun n hn => nomatch hn
  have haccount : (start capacity .unmade []).Accounted [] := List.Perm.refl _
  have hearly := hunmade.run fun n => (hlost n).1
  have hsound := (start_sound capacity .unmade []).run early
  -- Getting a socket touches nothing that the invariants are about, except the port.
  have hmade : ((run early (start capacity .unmade [])).made info).Unlost [] :=
    ⟨by simp [made, DatagramEndpoint.make], hearly.ending, hearly.reason⟩
  have hsound' : ((run early (start capacity .unmade [])).made info).Sound :=
    ⟨hsound.balanced, hsound.awake, hsound.nodup⟩
  have hdated' : ((run early (start capacity .unmade [])).made info).Dated := hdated.run early
  have haccount' : ((run early (start capacity .unmade [])).made info).Accounted _ :=
    haccount.run early
  refine ⟨hsound'.run before, hmade.run fun n => (hlost n).2, hdated'.run before, ?_, ?_⟩
  · rw [(run_frame before).1, made, (run_frame early).1, arrivals, arrivals, arrivals,
      List.filterMap_append]
    rfl
  · intro n hn
    exact (haccount'.run before).mem_iff.mpr (List.mem_append_right _ (mem_notices.mpr hn))

/-- No notice in the queue is taken for the notice of the end. -/
lemma Standing.eq_of_tag {events : List Event} (h : s.Standing events reasons)
    (hreasons : ∀ n, reasons.head?.join = some n → n ∈ events.filterMap Event.named?)
    {exc : Option Notice} (hnamed : Identified (events.filterMap Event.named? ++ exc.toList))
    {m : Notice} (hm : .notice m ∈ s.endpoint.queue)
    (htag : m.tag = (exc.getD (s.endpoint.endNotice none).1).tag) :
    m = exc.getD (s.endpoint.endNotice none).1 := by
  have harrived := h.queued m hm
  have hmem : m ∈ events.filterMap Event.named? :=
    mem_named_of_mem_arrivals (h.arrived ▸ harrived)
  cases exc with
  | some x => exact hnamed m (List.mem_append_left _ hmem) x (by simp) htag
  | none =>
    cases hreason : s.endpoint.reason with
    | some r =>
      have hr := hreasons r (h.unlost.reason ▸ hreason)
      simp only [DatagramEndpoint.endNotice, hreason, Option.getD_none] at htag ⊢
      exact hnamed m (List.mem_append_left _ hmem) r (List.mem_append_left _ hr) htag
    | none =>
      have hold := h.dated m harrived
      simp only [DatagramEndpoint.endNotice, hreason, Option.getD_none,
        DatagramEndpoint.freshNotice] at htag
      omega

/-- A closed endpoint stays closed for every receiver. The notice of the end is the exception that
came with the loss of the socket, else the reason that was given when the open endpoint was closed
first, else it says that the connection is closed. Receivers take what is left of the queue in
order and once each, and then this notice, whoever waits, comes or gives up and whatever is closed
once more. Nobody who has come goes on waiting, and there is always room for the notice to go back.
The operations of an endpoint answer every receiver likewise. -/
theorem closed_for_good (capacity : Int) (info : List (String × Value))
    (early before : List Event) (exc : Option Notice) (hlost : ∀ n, .lose n ∉ early ++ before)
    (hnamed : Identified ((early ++ before).filterMap Event.named? ++ exc.toList)) :
    let s := run before ((run early (start capacity .unmade [])).made info)
    let n := exc.getD (s.endpoint.endNotice none).1
    let closed := s.turn (.lose n)
    (∀ m, exc.or (closings before).head?.join = some m → n = m) ∧
      (exc.or (closings before).head?.join = none → n.fault = DatagramEndpoint.closedFault) ∧
    ∃ p, closed.endpoint.queue = p ++ [.notice n] ∧
      (∀ later, arrivals later = [] → ∃ since, Since n p closed later (run later closed) since ∧
        (run later closed).Serves (p.getD since.length (.notice n))) ∧
      ∀ f ops, (s.endpoint.endNotice f).1 = n → (∀ op ∈ ops, op.isQuiet) →
        let ts := s.endpoint.waiting ++ ops.filterMap Operation.receiver?
        (Operation.performAll (.lose f :: ops) s.endpoint).1 =
          ts.zip ((p.takeD ts.length (.notice n)).map Item.result) := by
  intro s n closed
  have hstanding := standing capacity info hlost
  have hreason : s.endpoint.reason = (closings before).head?.join := hstanding.unlost.reason
  have hsame : ∀ m, .notice m ∈ s.endpoint.queue → m.tag = n.tag → m = n := by
    intro m
    refine hstanding.eq_of_tag (fun r hr => ?_) hnamed
    rw [List.filterMap_append]
    exact List.mem_append_right _ (mem_named_of_closings hr)
  refine ⟨?_, ?_, (makeRoom s.endpoint.capacity s.endpoint.queue).2, rfl, ?_, ?_⟩
  · rw [← hreason]
    exact (s.endpoint.endNotice_of_reason exc).1
  · rw [← hreason]
    exact (s.endpoint.endNotice_of_reason exc).2
  · intro later hquiet
    have hended := DatagramEndpoint.endedWith_enqueueNotice (s.endpoint.tagged n) hsame
    obtain ⟨since, hsince⟩ := exists_since_run (s := closed)
      ⟨hended.ending, hended.closed, hended.queue, hended.same⟩ hquiet
    refine ⟨since, hsince, ?_⟩
    rw [← headD_drop]
    exact ((hstanding.sound.turn (.lose n)).run later).serves hsince.ended
  · intro f ops hn hquiet
    exact s.endpoint.performAll_lose hn hsame hquiet

/-- The first reason counts, a receiver that was waiting takes what is left, and two that come later
get the reason. -/
theorem closed_for_good_first_reason :
    let reason : Notice := ⟨0, ⟨.system, "going down"⟩⟩
    let other : Notice := ⟨1, ⟨.system, "again"⟩⟩
    let before : List Event :=
      [.receive 7, .arrive [97], .arrive [98], .close (some reason), .close (some other)]
    let closed := (run before ((run [] (start 2 .unmade [])).made [])).turn (.lose reason)
    let later : List Event := [.resume 7, .close (some other), .receive 8, .receive 9]
    Identified (([] ++ before).filterMap Event.named? ++ []) ∧
      closed.endpoint.queue = [.datagram [98]] ++ [.notice reason] ∧
      ∃ since, Since reason [.datagram [98]] closed later (run later closed) since ∧
        since.map (·.ticket) = [7, 8, 9] := by
  intro reason other before closed later
  have hlost : ∀ n, .lose n ∉ [] ++ before := by simp [before]
  have hnamed : Identified (([] ++ before).filterMap Event.named? ++ []) := by decide
  obtain ⟨hreason, -, p, hqueue, hlater, -⟩ := closed_for_good 2 [] [] before none hlost hnamed
  have hn := hreason reason rfl
  rw [hn] at hqueue hlater
  have hleft : p = [.datagram [98]] := (List.append_cancel_right hqueue).symm
  obtain ⟨since, hsince, -⟩ := hlater later rfl
  rw [hleft] at hsince
  refine ⟨hnamed, rfl, since, hsince, ?_⟩
  have htickets : (run later closed).receipts.map (·.ticket) =
      closed.receipts.map (·.ticket) ++ since.map (·.ticket) := by
    rw [hsince.receipts, List.map_append]
  have hrun : (run later closed).receipts.map (·.ticket) = [7, 8, 9] := by decide +kernel
  have hbefore : closed.receipts.map (·.ticket) = [] := by decide +kernel
  rw [hrun, hbefore] at htickets
  exact htickets.symm

end Turns

end Socks5
