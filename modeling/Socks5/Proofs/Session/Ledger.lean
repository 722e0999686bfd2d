import Socks5.Session
import Socks5.Proofs.Relay.Watcher

/-!
# The pending operations of a relay

Everybody who waits at a relay has an operation pending in its session, and the other way round: who
waits for a datagram has a receiving operation, and who waits for the end of the relay has one
without a result. `Ledger` keeps the two sides together, and is kept by starting an operation and by
finishing some.
-/

namespace Socks5

namespace Session

/-- The pending operations are those of the callers who wait; all of them are numbered below
`next`. -/
structure Ledger (next : Ticket) (pending : List Pending) (waiting leaving : List Ticket) :
    Prop where
  nodup : (waiting ++ leaving).Nodup
  receivers : ∀ t, t ∈ waiting ↔ ∃ p ∈ pending, p.ticket = t ∧ p.shape ≠ .nothing
  leavers : ∀ t, t ∈ leaving ↔ ∃ p ∈ pending, p.ticket = t ∧ p.shape = .nothing
  fresh : ∀ p ∈ pending, p.ticket < next
  unlimited : ∀ p ∈ pending, p.shape = .nothing → p.deadline = none

namespace Ledger

variable {next next' : Ticket} {pending : List Pending} {waiting leaving : List Ticket}

lemma nil (next : Ticket) : Ledger next [] [] [] := by
  constructor <;> simp

lemma mono (h : Ledger next pending waiting leaving) (hnext : next ≤ next') :
    Ledger next' pending waiting leaving :=
  ⟨h.nodup, h.receivers, h.leavers, fun p hp => Nat.lt_of_lt_of_le (h.fresh p hp) hnext,
    h.unlimited⟩

/-! ### Starting -/

/-- The next number is nobody's. -/
lemma nodup_cons (h : Ledger next pending waiting leaving) :
    (next :: (waiting ++ leaving)).Nodup := by
  refine List.nodup_cons.mpr ⟨?_, h.nodup⟩
  intro hmem
  obtain ⟨p, hp, hticket⟩ : ∃ p ∈ pending, p.ticket = next := by
    rcases List.mem_append.mp hmem with hmem | hmem
    · obtain ⟨p, hp, hticket, -⟩ := (h.receivers next).mp hmem
      exact ⟨p, hp, hticket⟩
    · obtain ⟨p, hp, hticket, -⟩ := (h.leavers next).mp hmem
      exact ⟨p, hp, hticket⟩
  exact absurd hticket (Nat.ne_of_lt (h.fresh p hp))

lemma fresh_append (h : Ledger next pending waiting leaving) (shape : Shape)
    (deadline : Option Nat) : ∀ p ∈ pending ++ [⟨next, shape, deadline⟩], p.ticket < next + 1 := by
  intro p hp
  rcases List.mem_append.mp hp with hp | hp
  · exact Nat.lt_succ_of_lt (h.fresh p hp)
  · obtain rfl := List.mem_singleton.mp hp
    exact Nat.lt_succ_self next

lemma unlimited_append (h : Ledger next pending waiting leaving) {shape : Shape}
    {deadline : Option Nat} (hshape : shape = .nothing → deadline = none) :
    ∀ p ∈ pending ++ [⟨next, shape, deadline⟩], p.shape = .nothing → p.deadline = none := by
  intro p hp hnothing
  rcases List.mem_append.mp hp with hp | hp
  · exact h.unlimited p hp hnothing
  · obtain rfl := List.mem_singleton.mp hp
    exact hshape hnothing

/-- A new operation shows up only among the operations of its own kind. -/
lemma mem_append_iff {P : Shape → Prop} {shape : Shape} {deadline : Option Nat}
    {ts : List Ticket} (hts : ∀ t, t ∈ ts ↔ ∃ p ∈ pending, p.ticket = t ∧ P p.shape) (t : Ticket) :
    (t ∈ ts ∨ t = next ∧ P shape) ↔
      ∃ p ∈ pending ++ [⟨next, shape, deadline⟩], p.ticket = t ∧ P p.shape := by
  rw [hts]
  constructor
  · rintro (⟨p, hp, hticket, hshape⟩ | ⟨rfl, hshape⟩)
    · exact ⟨p, List.mem_append_left _ hp, hticket, hshape⟩
    · exact ⟨_, List.mem_append_right _ (List.mem_singleton_self _), rfl, hshape⟩
  · rintro ⟨p, hp, hticket, hshape⟩
    rcases List.mem_append.mp hp with hp | hp
    · exact Or.inl ⟨p, hp, hticket, hshape⟩
    · obtain rfl := List.mem_singleton.mp hp
      exact Or.inr ⟨hticket.symm, hshape⟩

/-- Somebody begins to wait for a datagram. -/
lemma receive (h : Ledger next pending waiting leaving) {shape : Shape} (hshape : shape ≠ .nothing)
    (deadline : Option Nat) :
    Ledger (next + 1) (pending ++ [⟨next, shape, deadline⟩]) (waiting ++ [next]) leaving where
  nodup := by
    refine (List.Perm.nodup_iff ?_).mp h.nodup_cons
    rw [List.append_assoc, List.singleton_append]
    exact List.perm_middle.symm
  receivers := by
    intro t
    rw [← mem_append_iff (P := (· ≠ .nothing)) h.receivers]
    simp [hshape]
  leavers := by
    intro t
    rw [← mem_append_iff (P := (· = .nothing)) h.leavers]
    simp [hshape]
  fresh := h.fresh_append shape deadline
  unlimited := h.unlimited_append fun hnothing => absurd hnothing hshape

/-- Somebody begins to wait for the end of the relay. -/
lemma leave (h : Ledger next pending waiting leaving) :
    Ledger (next + 1) (pending ++ [⟨next, .nothing, none⟩]) waiting (leaving ++ [next]) where
  nodup := by
    refine (List.Perm.nodup_iff ?_).mp h.nodup_cons
    rw [← List.append_assoc]
    exact (List.perm_append_singleton _ _).symm
  receivers := by
    intro t
    rw [← mem_append_iff (P := (· ≠ .nothing)) h.receivers]
    simp
  leavers := by
    intro t
    rw [← mem_append_iff (P := (· = .nothing)) h.leavers]
    simp
  fresh := h.fresh_append .nothing none
  unlimited := h.unlimited_append fun _ => rfl

/-! ### Finishing -/

/-- The operations that are left are those of the callers that got nothing. -/
lemma mem_unanswered_iff {P : Shape → Prop} {ts : List Ticket}
    (hts : ∀ t, t ∈ ts ↔ ∃ p ∈ pending, p.ticket = t ∧ P p.shape)
    (done : List (Completion Outcome)) (t : Ticket) :
    t ∈ unanswered done ts ↔
      ∃ p ∈ pending.filter (fun p => done.all (·.1 ≠ p.ticket)), p.ticket = t ∧ P p.shape := by
  rw [mem_unanswered, hts]
  constructor
  · rintro ⟨⟨p, hp, rfl, hshape⟩, hdone⟩
    refine ⟨p, List.mem_filter.mpr ⟨hp, ?_⟩, rfl, hshape⟩
    rw [List.all_eq_true]
    intro c hc
    exact decide_eq_true fun heq => hdone (List.mem_map.mpr ⟨c, hc, heq⟩)
  · rintro ⟨p, hp, rfl, hshape⟩
    obtain ⟨hp, hdone⟩ := List.mem_filter.mp hp
    refine ⟨⟨p, hp, rfl, hshape⟩, ?_⟩
    intro hmem
    obtain ⟨c, hc, heq⟩ := List.mem_map.mp hmem
    exact of_decide_eq_true (List.all_eq_true.mp hdone c hc) heq

lemma finish (h : Ledger next pending waiting leaving) (done : List (Completion Outcome)) :
    Ledger next (pending.filter fun p => done.all (·.1 ≠ p.ticket)) (unanswered done waiting)
      (unanswered done leaving) where
  nodup := h.nodup.sublist ((unanswered_sublist done _).append (unanswered_sublist done _))
  receivers := mem_unanswered_iff (P := (· ≠ .nothing)) h.receivers done
  leavers := mem_unanswered_iff (P := (· = .nothing)) h.leavers done
  fresh := fun p hp => h.fresh p (List.mem_filter.mp hp).1
  unlimited := fun p hp => h.unlimited p (List.mem_filter.mp hp).1

/-! ### Deadlines -/

/-- Who waits for the end of the relay never runs out of time. -/
lemma late_notMem_leaving (h : Ledger next pending waiting leaving) {p : Pending}
    (hp : p ∈ pending) {deadline : Nat} (hdeadline : p.deadline = some deadline) :
    p.ticket ∉ leaving := by
  intro hmem
  have hshape : p.shape ≠ .nothing := by
    intro hnothing
    rw [h.unlimited p hp hnothing] at hdeadline
    cases hdeadline
  have hwaiting := (h.receivers p.ticket).mpr ⟨p, hp, rfl, hshape⟩
  exact (List.nodup_append.mp h.nodup).2.2 _ hwaiting _ hmem rfl

end Ledger

end Session

end Socks5
