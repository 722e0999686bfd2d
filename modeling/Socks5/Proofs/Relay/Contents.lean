import Socks5.Proofs.Endpoint.Contents
import Socks5.Relay

/-!
# What receivers get from a relay

A relay gives its receivers what its endpoint has for them, or the fault of the system that the
control connection is gone. As long as nobody waits for the end of the relay, nothing else comes of
it; once it is closed, whoever waits for the end is done at once.
-/

namespace Socks5

open DatagramEndpoint (Gets)

namespace Relay

variable {arrived : List Bytes} {next : Ticket} {r : Relay}

/-- A relay whose endpoint has these datagrams. Nobody waits for its end, and only a fault of the
system comes up then. -/
structure Stocks (arrived : List Bytes) (next : Ticket) (r : Relay) : Prop where
  endpoint : r.endpoint.Stocks arrived next
  leaving : r.leaving = []
  closing : ∀ f ∈ r.control.closeFault, f.isSystem = true

/-- An operation keeps the stock, and gives receivers something of it. -/
def Deals (arrived : List Bytes) (next : Ticket) (x : List (Completion Outcome) × Relay) : Prop :=
  x.2.Stocks arrived next ∧ ∃ done, x.1 = received done ∧ ∀ c ∈ done, Gets arrived next c

lemma Stocks.deals (h : r.Stocks arrived next) : Deals arrived next ([], r) :=
  ⟨h, [], rfl, by simp⟩

lemma Stocks.onEndpoint {f : DatagramEndpoint → List (Completion Bytes) × DatagramEndpoint}
    (h : r.Stocks arrived next) (hf : DatagramEndpoint.Deals arrived next (f r.endpoint)) :
    Deals arrived next (r.onEndpoint f) := ⟨⟨hf.1, h.leaving, h.closing⟩, _, rfl, hf.2⟩

/-- Nobody waits for the end. -/
lemma Stocks.release (h : r.Stocks arrived next) : r.release = ([], r) := by
  unfold Relay.release
  split_ifs
  · rfl
  · simp only [h.leaving, List.map_nil]
    rw [← h.leaving]

lemma Stocks.watch (h : r.Stocks arrived next) : Deals arrived next r.watch := by
  obtain ⟨hdeals, -⟩ := h.endpoint.close (some controlFault) (by rintro _ ⟨⟩; rfl)
  unfold Relay.watch
  split_ifs
  · cases r.control.failure with
    | some f =>
      simp only
      split_ifs
      · exact ⟨⟨hdeals.1, h.leaving, h.closing⟩, _, rfl, hdeals.2⟩
      · exact Stocks.deals ⟨h.endpoint, h.leaving, h.closing⟩
    | none =>
      simp only
      split_ifs
      · exact ⟨⟨hdeals.1, h.leaving, h.closing⟩, _, rfl, hdeals.2⟩
      · exact Stocks.deals ⟨h.endpoint, h.leaving, h.closing⟩
  · exact h.deals

lemma Stocks.settle (h : r.Stocks arrived next) : Deals arrived next r.settle := by
  have hsettle : r.settle = (r.watch.1 ++ r.watch.2.release.1, r.watch.2.release.2) := rfl
  rw [hsettle, h.watch.1.release, List.append_nil]
  exact h.watch

lemma Stocks.feed (h : r.Stocks arrived next) (a : Arrival) : Deals arrived next (r.feed a) := by
  have hclosing : (r.control.feed a).closeFault = r.control.closeFault := by cases a <;> rfl
  refine Stocks.settle ⟨h.endpoint, h.leaving, ?_⟩
  rw [hclosing]
  exact h.closing

lemma Stocks.receive {t : Ticket} (h : r.Stocks arrived next) (ht : t < next) :
    Deals arrived next (r.receive t) := by
  unfold Relay.receive checkControl
  split_ifs
  · exact ⟨h, [(t, (Endpoint.Item.notice ⟨0, controlFault⟩).result)], rfl,
      List.forall_mem_singleton.mpr ⟨ht, .notice ⟨0, controlFault⟩, rfl, rfl⟩⟩
  · exact h.onEndpoint (h.endpoint.receive ht)

lemma Stocks.abandon {t : Ticket} {x : List (Completion Outcome) × Relay}
    (h : r.Stocks arrived next) (habandon : r.abandon? t = some x) : Deals arrived next x := by
  unfold Relay.abandon? at habandon
  simp only [h.leaving, List.not_mem_nil, if_false] at habandon
  obtain ⟨e, he, rfl⟩ := Option.map_eq_some_iff.mp habandon
  exact Stocks.deals ⟨h.endpoint.abandon he, rfl, h.closing⟩

/-- What was closed is closed. -/
structure Closed (r : Relay) : Prop where
  control : r.control.closed = true
  endpoint : r.endpoint.port = .closed

lemma Stocks.close (h : r.Stocks arrived next) : Deals arrived next r.close ∧ r.close.2.Closed ∧
    r.close.2.watching = false := by
  obtain ⟨hdeals, hport⟩ := h.endpoint.close none (by simp)
  let r' : Relay := { r with
    endpoint := (r.endpoint.close none).2, control := r.control.close, watching := false }
  have hclosed : r'.Stocks arrived next := ⟨hdeals.1, h.leaving, h.closing⟩
  have hclose : r.close = (received (r.endpoint.close none).1 ++ r'.release.1, r'.release.2) := rfl
  rw [hclose, hclosed.release, List.append_nil]
  exact ⟨⟨hclosed, _, rfl, hdeals.2⟩, ⟨rfl, hport⟩, rfl⟩

/-- Whoever waits for the end of a closed relay is done. -/
lemma Stocks.waitClosed (h : r.Stocks arrived next) (hwatching : r.watching = false) (t : Ticket) :
    r.waitClosed t = ([(t, .ok .ended)], r) := by
  have hend : r.control.waitClosed = .ok () := by
    unfold Stream.waitClosed
    cases hfault : r.control.closeFault with
    | none => rfl
    | some f => exact if_pos (h.closing f hfault)
  obtain ⟨control, endpoint, fixed, watching, leaving⟩ := r
  obtain rfl : leaving = [] := h.leaving
  obtain rfl : watching = false := hwatching
  simp only at hend
  simp only [Relay.waitClosed, Relay.release, hend]
  rfl

end Relay

end Socks5
