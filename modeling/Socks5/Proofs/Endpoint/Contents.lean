import Socks5.Proofs.Endpoint.Ending

/-!
# What is in the queue of an endpoint

The queue of an endpoint holds datagrams that have arrived, and notices of faults. As long as only
faults of the system are reported, or given as the reason for closing, a receiver gets a datagram
that has arrived or a fault of the system.
-/

namespace Socks5

open Endpoint

/-- What the network does are these datagrams, and faults of the system. -/
def Signal.Comes (arrived : List Bytes) : Signal → Prop
  | .datagram bs => bs ∈ arrived
  | .fault f => f.isSystem = true
  | .lost f => ∀ f' ∈ f, f'.isSystem = true

/-- One of the datagrams, or a notice of a fault of the system. -/
def Endpoint.Item.Comes (arrived : List Bytes) : Item → Prop
  | .datagram bs => bs ∈ arrived
  | .notice n => n.fault.isSystem = true

namespace DatagramEndpoint

variable {arrived : List Bytes} {next : Ticket} {e : DatagramEndpoint}

/-- An endpoint with these datagrams, which has had a socket; its receivers are numbered below
`next`. -/
structure Stocks (arrived : List Bytes) (next : Ticket) (e : DatagramEndpoint) : Prop where
  made : e.port ≠ .unmade
  queue : ∀ item ∈ e.queue, item.Comes arrived
  reason : ∀ n ∈ e.reason, n.fault.isSystem = true
  waiting : ∀ t ∈ e.waiting, t < next

/-- What one of these receivers may get from such an endpoint. -/
def Gets (arrived : List Bytes) (next : Ticket) (c : Completion Bytes) : Prop :=
  c.1 < next ∧ ∃ item : Item, item.Comes arrived ∧ c.2 = item.result

/-- An operation keeps the stock, and gives receivers something of it. -/
def Deals (arrived : List Bytes) (next : Ticket) (r : List (Completion Bytes) × DatagramEndpoint) :
    Prop := r.2.Stocks arrived next ∧ ∀ c ∈ r.1, Gets arrived next c

lemma Stocks.deals (h : e.Stocks arrived next) : Deals arrived next ([], e) :=
  ⟨h, fun _ hc => absurd hc List.not_mem_nil⟩

/-! ### Serving -/

lemma Stocks.without {item : Item} {rest : List Item} (h : e.Stocks arrived next)
    (hqueue : e.queue = item :: rest) : (e.without item rest).Stocks arrived next where
  made := h.made
  queue := by
    obtain ⟨hitem, hrest⟩ := List.forall_mem_cons.mp (hqueue ▸ h.queue)
    unfold DatagramEndpoint.without
    split_ifs
    · exact List.forall_mem_append.mpr ⟨hrest, List.forall_mem_singleton.mpr hitem⟩
    · exact hrest
  reason := h.reason
  waiting := h.waiting

lemma Stocks.serveAll (ts : List Ticket) : ∀ {e : DatagramEndpoint}, e.Stocks arrived next →
    (∀ t ∈ ts, t < next) → Deals arrived next (serveAll ts e) := by
  induction ts with
  | nil => exact fun h _ => Stocks.deals ⟨h.made, h.queue, h.reason, by simp⟩
  | cons t rest ih =>
    intro e h hts
    obtain ⟨ht, hrest⟩ := List.forall_mem_cons.mp hts
    by_cases hqueue : e.queue = []
    · rw [e.serveAll_nil_queue hqueue]
      exact Stocks.deals ⟨h.made, h.queue, h.reason, hts⟩
    · obtain ⟨item, items, hqueue⟩ := List.exists_cons_of_ne_nil hqueue
      obtain ⟨hitem, -⟩ := List.forall_mem_cons.mp (hqueue ▸ h.queue)
      obtain ⟨hstocks, hgets⟩ := ih (h.without hqueue) hrest
      rw [e.serveAll_cons hqueue]
      exact ⟨hstocks, List.forall_mem_cons.mpr ⟨⟨ht, item, hitem, rfl⟩, hgets⟩⟩

lemma Stocks.serve (h : e.Stocks arrived next) : Deals arrived next e.serve :=
  Stocks.serveAll _ h h.waiting

/-! ### Operations -/

lemma Stocks.arrive {bs : Bytes} (h : e.Stocks arrived next) (hbs : bs ∈ arrived) :
    Deals arrived next (e.arrive [bs]) := by
  refine Stocks.serve ?_
  simp only [List.foldl_cons, List.foldl_nil, enqueue]
  split_ifs
  · exact ⟨h.made, h.queue, h.reason, h.waiting⟩
  · exact ⟨h.made, List.forall_mem_append.mpr ⟨h.queue, List.forall_mem_singleton.mpr hbs⟩,
      h.reason, h.waiting⟩

lemma Stocks.notice {n : Notice} (h : e.Stocks arrived next)
    (hn : n.fault.isSystem = true) : (e.enqueueNotice n).Stocks arrived next where
  made := h.made
  queue := List.forall_mem_append.mpr
    ⟨fun item hitem => h.queue item ((makeRoom_suffix _ _).subset hitem),
      List.forall_mem_singleton.mpr hn⟩
  reason := h.reason
  waiting := h.waiting

lemma Stocks.report {f : Fault} (h : e.Stocks arrived next) (hf : f.isSystem = true) :
    Deals arrived next (e.report f) :=
  Stocks.serve (Stocks.notice ⟨h.made, h.queue, h.reason, h.waiting⟩ hf)

lemma Stocks.receive {t : Ticket} (h : e.Stocks arrived next) (ht : t < next) :
    Deals arrived next (e.receive t) :=
  Stocks.serve ⟨h.made, h.queue, h.reason,
    List.forall_mem_append.mpr ⟨h.waiting, List.forall_mem_singleton.mpr ht⟩⟩

lemma Stocks.abandon {t : Ticket} {e' : DatagramEndpoint} (h : e.Stocks arrived next)
    (habandon : e.abandon? t = some e') : e'.Stocks arrived next := by
  unfold abandon? at habandon
  split_ifs at habandon
  cases habandon
  exact ⟨h.made, h.queue, h.reason, fun u hu => h.waiting u (List.mem_filter.mp hu).1⟩

lemma Stocks.lose {f : Option Fault} (h : e.Stocks arrived next)
    (hf : ∀ f' ∈ f, f'.isSystem = true) : Deals arrived next (e.lose f) := by
  have hend : (e.endNotice f).1.fault.isSystem = true ∧
      (e.endNotice f).2.Stocks arrived next := by
    unfold endNotice
    cases f with
    | some f => exact ⟨hf f rfl, h.made, h.queue, h.reason, h.waiting⟩
    | none =>
      cases hreason : e.reason with
      | none => exact ⟨rfl, h.made, h.queue, h.reason, h.waiting⟩
      | some n => exact ⟨h.reason n hreason, h⟩
  obtain ⟨hsystem, hnotice⟩ := hend
  refine Stocks.serve (Stocks.notice ⟨?_, hnotice.queue, hnotice.reason, hnotice.waiting⟩
    hsystem)
  simp only
  split_ifs
  · simp
  · exact hnotice.made

lemma Stocks.signal {g : Signal} (h : e.Stocks arrived next) (hg : g.Comes arrived) :
    Deals arrived next (e.signal g) := by
  cases g with
  | datagram bs => exact h.arrive hg
  | fault f =>
    unfold DatagramEndpoint.signal
    split_ifs
    · exact h.report hg
    · exact h.deals
  | lost f =>
    unfold DatagramEndpoint.signal
    split_ifs
    · exact h.lose hg
    · exact h.deals

/-- Closing leaves no socket. -/
lemma Stocks.close (h : e.Stocks arrived next) (reason : Option Fault)
    (hreason : ∀ f ∈ reason, f.isSystem = true) :
    Deals arrived next (e.close reason) ∧ (e.close reason).2.port = .closed := by
  have hclosed {e' : DatagramEndpoint} (h' : e'.Stocks arrived next) (hport : e'.port = .closed) :
      Deals arrived next (e'.lose none) ∧ (e'.lose none).2.port = .closed := by
    refine ⟨h'.lose (by simp), ?_⟩
    obtain ⟨nextTag, hframe⟩ := e'.endNotice_frame none
    simp only [DatagramEndpoint.lose, serve_port, enqueueNotice, hframe, hport]
    rfl
  unfold DatagramEndpoint.close
  split_ifs with hport
  · cases reason with
    | none => exact hclosed ⟨by simp, h.queue, by simp, h.waiting⟩ rfl
    | some f =>
      refine hclosed ⟨by simp, h.queue, ?_, h.waiting⟩ rfl
      rintro n ⟨⟩
      exact hreason f rfl
  · refine ⟨h.deals, ?_⟩
    cases hcase : e.port with
    | unmade => exact absurd hcase h.made
    | opened => exact absurd hcase hport
    | closed => rfl

end DatagramEndpoint

end Socks5
