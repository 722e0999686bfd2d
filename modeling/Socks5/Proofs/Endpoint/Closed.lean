import Mathlib.Data.List.TakeDrop
import Socks5.Proofs.Endpoint.Ending
import Socks5.Proofs.Endpoint.Operations

/-!
# Endpoints that have ended

When its socket goes, a notice of the end stands behind what is queued in an endpoint. From then on
receivers take what is left, in order and once each, and then every one of them gets the notice,
which goes back to the queue each time. `DatagramEndpoint.EndedWith` describes such an endpoint.
-/

namespace Socks5

open Endpoint

namespace Endpoint

variable {α : Type*}

lemma takeD_append (k l : Nat) (xs : List α) (a : α) :
    xs.takeD (k + l) a = xs.takeD k a ++ (xs.drop k).takeD l a := by
  induction k generalizing xs with
  | zero => simp
  | succ k ih => simp [Nat.succ_add, ih]

lemma headD_drop (xs : List α) (k : Nat) (a : α) : (xs.drop k).headD a = xs.getD k a := by
  simp

end Endpoint

/-! ### An endpoint that has ended -/

namespace DatagramEndpoint

/-- The endpoint has ended: its queue holds what is left and then the notice of the end, which may
stand there more than once, and no other notice is taken for it. -/
structure EndedWith (n : Notice) (left : List Item) (e : DatagramEndpoint) : Prop where
  ending : e.ending = some n
  closed : e.port ≠ .opened
  queue : ∃ k, e.queue = left ++ List.replicate (k + 1) (.notice n)
  same : ∀ m, .notice m ∈ left → m.tag = n.tag → m = n

variable {n : Notice} {left : List Item} {e : DatagramEndpoint}

lemma EndedWith.eq_of_putsBack (h : e.EndedWith n left) {item : Item} (hitem : item ∈ left)
    (hback : e.putsBack item) : item = .notice n := by
  cases item with
  | datagram bs => cases hback
  | notice m =>
    have htag : n.tag = m.tag := by simpa [putsBack, h.ending] using hback
    rw [h.same m hitem htag.symm]

/-- The next receiver takes the first of what is left, or the notice. -/
lemma EndedWith.next (h : e.EndedWith n left) :
    ∃ rest, e.queue = left.headD (.notice n) :: rest ∧
      (e.without (left.headD (.notice n)) rest).EndedWith n left.tail := by
  obtain ⟨k, hqueue⟩ := h.queue
  cases left with
  | nil =>
    have hback : e.putsBack (.notice n) = true := by simp [putsBack, h.ending]
    refine ⟨List.replicate k (.notice n), hqueue, h.ending, h.closed, ⟨k, ?_⟩, h.same⟩
    simp [without, hback, List.replicate_succ']
  | cons item left =>
    refine ⟨left ++ List.replicate (k + 1) (.notice n), by simp [hqueue], h.ending, h.closed, ?_,
      ?_⟩
    · by_cases hback : e.putsBack item = true
      · obtain rfl := h.eq_of_putsBack List.mem_cons_self hback
        refine ⟨k + 1, ?_⟩
        simp [without, hback, List.replicate_succ' (n := k + 1)]
      · exact ⟨k, by simp [without, hback]⟩
    · intro m hm
      exact h.same m (List.mem_cons_of_mem item hm)

/-- The notice of the end takes its place, and no notice in the queue is taken for it. -/
lemma endedWith_enqueueNotice (e : DatagramEndpoint)
    (hsame : ∀ m, .notice m ∈ e.queue → m.tag = n.tag → m = n) :
    ((e.ended n).enqueueNotice n).EndedWith n (makeRoom e.capacity e.queue).2 where
  ending := rfl
  closed := ended_port n
  queue := ⟨0, rfl⟩
  same := by
    intro m hm
    exact hsame m ((makeRoom_suffix e.capacity e.queue).subset hm)

/-! ### Serving everybody at once -/

/-- Whoever waits at an endpoint that has ended is served. -/
lemma EndedWith.serveAll (h : e.EndedWith n left) (ts : List Ticket) :
    (serveAll ts e).1 = ts.zip ((left.takeD ts.length (.notice n)).map Item.result) ∧
      (DatagramEndpoint.serveAll ts e).2.EndedWith n (left.drop ts.length) ∧
      (DatagramEndpoint.serveAll ts e).2.waiting = [] := by
  induction ts generalizing e left with
  | nil => exact ⟨rfl, ⟨h.ending, h.closed, h.queue, h.same⟩, rfl⟩
  | cons t ts ih =>
    obtain ⟨rest, hqueue, hnext⟩ := h.next
    obtain ⟨hdone, hended, hwaiting⟩ := ih hnext
    rw [serveAll_cons e hqueue, hdone]
    refine ⟨?_, ?_, hwaiting⟩
    · simp
    · simpa using hended

end DatagramEndpoint

/-! ### Operations on an endpoint that has ended -/

namespace Operation

/-- Whether nothing arrives with an operation and the socket does not go. -/
def isQuiet : Operation → Bool
  | .close _ | .receive _ | .abandon _ => true
  | _ => false

/-- The receiver that comes. -/
def receiver? : Operation → Option Ticket
  | .receive t => some t
  | _ => none

end Operation

open DatagramEndpoint in
/-- Every receiver that comes to an endpoint that has ended is served at once. -/
lemma DatagramEndpoint.EndedWith.performAll {n : Notice} {left : List Item} {e : DatagramEndpoint}
    (h : e.EndedWith n left) (hwaiting : e.waiting = []) {ops : List Operation}
    (hquiet : ∀ op ∈ ops, op.isQuiet) :
    let ts := ops.filterMap Operation.receiver?
    (Operation.performAll ops e).1 =
      ts.zip ((left.takeD ts.length (.notice n)).map Item.result) := by
  induction ops generalizing e left with
  | nil => rfl
  | cons op ops ih =>
    have hop := hquiet op List.mem_cons_self
    have hrest := fun op' hop' => hquiet op' (List.mem_cons_of_mem op hop')
    cases op with
    | close reason =>
      have hclose : e.close reason = ([], e) := if_neg h.closed
      simpa [Operation.performAll, Operation.perform, hclose, List.filterMap_cons,
        Operation.receiver?] using ih h hwaiting hrest
    | abandon t =>
      have habandon : e.abandon? t = none := by simp [abandon?, hwaiting]
      simpa [Operation.performAll, Operation.perform, habandon, List.filterMap_cons,
        Operation.receiver?] using ih h hwaiting hrest
    | receive t =>
      obtain ⟨hdone, hended, hnobody⟩ := h.serveAll [t]
      have hreceive : e.receive t = DatagramEndpoint.serveAll [t] e := by
        simp [DatagramEndpoint.receive, serve, hwaiting, serveAll_waiting]
      simp only [Operation.performAll, Operation.perform, hwaiting, hreceive, hdone,
        List.not_mem_nil, if_false, ih hended hnobody hrest]
      simp [Operation.receiver?]
    | _ => cases hop

namespace DatagramEndpoint

variable {n : Notice}

/-- The notice of the end is the exception that came, else the reason for closing. -/
lemma endNotice_of_reason (e : DatagramEndpoint) (exc : Option Notice) :
    (∀ m, exc.or e.reason = some m → exc.getD (e.endNotice none).1 = m) ∧
      (exc.or e.reason = none → (exc.getD (e.endNotice none).1).fault = closedFault) := by
  cases exc with
  | some x => simp
  | none =>
    cases hreason : e.reason with
    | some r => simp [endNotice, hreason]
    | none => simp [endNotice, hreason, freshNotice]

/-- Whoever waits when the socket goes, or comes later, is served. -/
lemma performAll_lose (e : DatagramEndpoint) {f : Option Fault} (hn : (e.endNotice f).1 = n)
    (hsame : ∀ m, .notice m ∈ e.queue → m.tag = n.tag → m = n) {ops : List Operation}
    (hquiet : ∀ op ∈ ops, op.isQuiet) :
    let ts := e.waiting ++ ops.filterMap Operation.receiver?
    (Operation.performAll (.lose f :: ops) e).1 =
      ts.zip (((makeRoom e.capacity e.queue).2.takeD ts.length (.notice n)).map Item.result) := by
  intro ts
  obtain ⟨nextTag, hframe⟩ := e.endNotice_frame f
  have hlose : e.lose f =
      serveAll e.waiting (({ e with nextTag }.ended n).enqueueNotice n) := by
    rw [← hn, ← hframe]
    simp only [lose, hframe]
    rfl
  have hended := endedWith_enqueueNotice { e with nextTag } hsame
  obtain ⟨hdone, hlater, hnobody⟩ := hended.serveAll e.waiting
  simp only [Operation.performAll, Operation.perform, hlose, hdone,
    hlater.performAll hnobody hquiet]
  rw [← List.zip_append (by simp), ← List.map_append, ← takeD_append, ← List.length_append]

end DatagramEndpoint

end Socks5
