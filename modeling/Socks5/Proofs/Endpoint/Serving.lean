import Mathlib.Tactic.Common
import Socks5.Endpoint

/-!
# Serving receivers

Making room in a queue removes the oldest items and nothing else. Serving receivers gives each of
them one item, the first come first, until one of both runs out; the notice of the end never does.
-/

namespace Socks5

open Endpoint

/-! ### Queues -/

/-- What a receiver gets from an item. -/
def Endpoint.Item.result : Item → Except Failure Bytes
  | .datagram bs => .ok bs
  | .notice n => .error (.fault n.fault)

namespace Endpoint

variable (capacity : Int)

lemma isFull_iff {n : Nat} : isFull capacity n ↔ 0 < capacity ∧ capacity ≤ n :=
  decide_eq_true_iff

lemma makeRoom_cons (item : Item) (rest : List Item) :
    makeRoom capacity (item :: rest) =
      if isFull capacity (rest.length + 1) then
        ((makeRoom capacity rest).1 + 1, (makeRoom capacity rest).2)
      else (0, item :: rest) := rfl

/-- Only the oldest items are removed. -/
lemma makeRoom_suffix (queue : List Item) : (makeRoom capacity queue).2 <:+ queue := by
  induction queue with
  | nil => exact List.suffix_rfl
  | cons item rest ih =>
    rw [makeRoom_cons]
    split_ifs
    · exact ih.trans (List.suffix_cons item rest)
    · exact List.suffix_rfl

/-- What is removed is counted. -/
lemma makeRoom_length (queue : List Item) :
    (makeRoom capacity queue).1 + (makeRoom capacity queue).2.length = queue.length := by
  induction queue with
  | nil => rfl
  | cons item rest ih =>
    rw [makeRoom_cons]
    split_ifs
    · simp only [List.length_cons]
      omega
    · exact Nat.zero_add _

/-- There is room afterwards. -/
lemma makeRoom_room (queue : List Item) : ¬ isFull capacity (makeRoom capacity queue).2.length := by
  induction queue with
  | nil =>
    rw [isFull_iff, makeRoom, List.length_nil]
    omega
  | cons item rest ih =>
    rw [makeRoom_cons]
    split_ifs with hfull
    · exact ih
    · exact hfull

end Endpoint

namespace DatagramEndpoint

variable (e : DatagramEndpoint)

/-! ### Arriving and ending -/

/-- The endpoint after the tag of a notice was used. -/
def tagged (n : Notice) : DatagramEndpoint := { e with nextTag := max e.nextTag (n.tag + 1) }

/-- The endpoint that its socket has left, with the notice of the end. -/
def ended (n : Notice) : DatagramEndpoint :=
  { e with port := if e.port = .opened then .closed else e.port, ending := some n }

lemma freshNotice_eq (f : Fault) : e.freshNotice f = (⟨e.nextTag, f⟩, e.tagged ⟨e.nextTag, f⟩) := by
  simp [freshNotice, tagged]

lemma enqueue_waiting (bs : Bytes) (waiting : List Ticket) :
    enqueue { e with waiting } bs = { e.enqueue bs with waiting } := by
  unfold enqueue
  split_ifs <;> rfl

lemma foldl_enqueue_waiting (batch : List Bytes) (waiting : List Ticket) :
    batch.foldl enqueue { e with waiting } = { batch.foldl enqueue e with waiting } := by
  induction batch generalizing e with
  | nil => rfl
  | cons bs rest ih => rw [List.foldl_cons, List.foldl_cons, enqueue_waiting, ih]

/-- Arrivals change nothing but the queue and how many were dropped. -/
lemma foldl_enqueue_frame (batch : List Bytes) : batch.foldl enqueue e =
    { e with queue := (batch.foldl enqueue e).queue
             dropped := (batch.foldl enqueue e).dropped } := by
  induction batch generalizing e with
  | nil => rfl
  | cons bs rest ih =>
    rw [List.foldl_cons, ih]
    unfold enqueue
    split_ifs <;> rfl

/-- The notice of the end is a fresh one, or the reason for closing, whose tag was used before. -/
lemma endNotice_eq (htags : ∀ n ∈ e.reason, n.tag < e.nextTag) (f : Option Fault) :
    ∃ n, e.endNotice f = (n, e.tagged n) := by
  cases f with
  | some f => exact ⟨_, e.freshNotice_eq f⟩
  | none =>
    cases hreason : e.reason with
    | none =>
      refine ⟨⟨e.nextTag, closedFault⟩, ?_⟩
      simp only [endNotice, hreason, freshNotice_eq]
    | some n =>
      have htag : max e.nextTag (n.tag + 1) = e.nextTag :=
        Nat.max_eq_left (htags n hreason)
      have hsame : e.tagged n = e := by simp only [tagged, htag]
      exact ⟨n, by simp only [endNotice, hreason, hsame]⟩

/-! ### Taking -/

/-- Whether an item goes back to the queue when it is taken: the notice of the end does. -/
def putsBack : Item → Bool
  | .datagram _ => false
  | .notice n => e.ending.map (·.tag) = some n.tag

/-- The endpoint without its oldest item. -/
def without (item : Item) (rest : List Item) : DatagramEndpoint :=
  { e with queue := if e.putsBack item then rest ++ [item] else rest }

lemma take?_nil (h : e.queue = []) : e.take? = none := by
  simp only [take?, h]

lemma take?_cons {item : Item} {rest : List Item} (h : e.queue = item :: rest) :
    e.take? = some (item.result, e.without item rest) := by
  cases item with
  | datagram bs => simp [take?, h, without, putsBack, Item.result]
  | notice n => simp [take?, h, without, putsBack, Item.result]

/-! ### Serving -/

lemma serveAll_nil_queue (h : e.queue = []) (ts : List Ticket) :
    serveAll ts e = ([], { e with waiting := ts }) := by
  cases ts with
  | nil => rfl
  | cons t rest => simp only [serveAll, e.take?_nil h]

lemma serveAll_cons {item : Item} {rest : List Item} (h : e.queue = item :: rest) (t : Ticket)
    (ts : List Ticket) : serveAll (t :: ts) e =
      ((t, item.result) :: (serveAll ts (e.without item rest)).1,
        (serveAll ts (e.without item rest)).2) := by
  simp only [serveAll, e.take?_cons h]

/-- Serving changes nothing but the queue and who waits. -/
lemma serveAll_frame (ts : List Ticket) : (serveAll ts e).2 =
    { e with queue := (serveAll ts e).2.queue, waiting := (serveAll ts e).2.waiting } := by
  induction ts generalizing e with
  | nil => rfl
  | cons t ts ih =>
    by_cases hqueue : e.queue = []
    · rw [e.serveAll_nil_queue hqueue]
    · obtain ⟨item, rest, hqueue⟩ := List.exists_cons_of_ne_nil hqueue
      rw [e.serveAll_cons hqueue]
      exact ih (e.without item rest)

/-- Serving does not look at who waits. -/
lemma serveAll_waiting (ts waiting : List Ticket) :
    serveAll ts { e with waiting } = serveAll ts e := by
  induction ts generalizing e waiting with
  | nil => rfl
  | cons t ts ih =>
    by_cases hqueue : e.queue = []
    · rw [serveAll_nil_queue { e with waiting } hqueue, e.serveAll_nil_queue hqueue]
    · obtain ⟨item, rest, hqueue⟩ := List.exists_cons_of_ne_nil hqueue
      have hrest : serveAll ts (without { e with waiting } item rest) = _ :=
        ih (e.without item rest) waiting
      rw [serveAll_cons { e with waiting } hqueue, e.serveAll_cons hqueue, hrest]

@[simp] lemma serve_port : e.serve.2.port = e.port := by rw [serve, serveAll_frame]

@[simp] lemma serve_sent : e.serve.2.sent = e.sent := by rw [serve, serveAll_frame]

/-- Those who get something are the first of those who wait, and the others go on waiting. -/
lemma serveAll_tickets (ts : List Ticket) :
    (serveAll ts e).1.map (·.1) ++ (serveAll ts e).2.waiting = ts := by
  induction ts generalizing e with
  | nil => rfl
  | cons t ts ih =>
    by_cases hqueue : e.queue = []
    · rw [e.serveAll_nil_queue hqueue]
      rfl
    · obtain ⟨item, rest, hqueue⟩ := List.exists_cons_of_ne_nil hqueue
      rw [e.serveAll_cons hqueue]
      exact congrArg (t :: ·) (ih (e.without item rest))

/-- Whoever goes on waiting does so because the queue is empty. -/
lemma serveAll_idle (ts : List Ticket) (h : (serveAll ts e).2.waiting ≠ []) :
    (serveAll ts e).2.queue = [] := by
  induction ts generalizing e with
  | nil => exact absurd rfl h
  | cons t ts ih =>
    by_cases hqueue : e.queue = []
    · rw [e.serveAll_nil_queue hqueue]
      exact hqueue
    · obtain ⟨item, rest, hqueue⟩ := List.exists_cons_of_ne_nil hqueue
      rw [e.serveAll_cons hqueue] at h ⊢
      exact ih (e.without item rest) h

/-! ### The notice of the end -/

/-- The notice of the end is in the queue. -/
def TellsEnd (e : DatagramEndpoint) : Prop :=
  ∃ n, e.ending.map (·.tag) = some n.tag ∧ .notice n ∈ e.queue

variable {e}

lemma TellsEnd.without {item : Item} {rest : List Item} (h : e.TellsEnd)
    (hqueue : e.queue = item :: rest) : (e.without item rest).TellsEnd := by
  obtain ⟨n, htag, hmem⟩ := h
  refine ⟨n, htag, ?_⟩
  rw [hqueue] at hmem
  by_cases hback : e.putsBack item
  · simp only [DatagramEndpoint.without, hback, if_true]
    exact List.mem_append.mpr ((List.mem_cons.mp hmem).symm.imp id List.mem_singleton.mpr)
  · simp only [DatagramEndpoint.without, hback]
    refine List.mem_of_ne_of_mem (fun hn => hback ?_) hmem
    rw [← hn]
    exact decide_eq_true htag

/-- However many are served, the notice of the end stays. -/
lemma TellsEnd.serveAll (h : e.TellsEnd) (ts : List Ticket) : (serveAll ts e).2.TellsEnd := by
  induction ts generalizing e with
  | nil => exact h
  | cons t ts ih =>
    by_cases hqueue : e.queue = []
    · rw [e.serveAll_nil_queue hqueue]
      exact h
    · obtain ⟨item, rest, hqueue⟩ := List.exists_cons_of_ne_nil hqueue
      rw [e.serveAll_cons hqueue]
      exact ih (h.without hqueue)

/-- Nobody waits beside something to take, and the end is told once there is no socket any more. -/
structure Orderly (e : DatagramEndpoint) : Prop where
  idle : e.waiting ≠ [] → e.queue = []
  tells : e.port ≠ .opened → e.TellsEnd

lemma Orderly.waiting_eq_nil (h : e.Orderly) (hport : e.port ≠ .opened) : e.waiting = [] := by
  by_contra hwaiting
  obtain ⟨n, -, hmem⟩ := h.tells hport
  rw [h.idle hwaiting] at hmem
  cases hmem

lemma orderly_serve (h : e.port ≠ .opened → e.TellsEnd) : e.serve.2.Orderly where
  idle := e.serveAll_idle e.waiting
  tells := fun hport => (h (by rwa [serve_port] at hport)).serveAll e.waiting

end DatagramEndpoint

end Socks5
