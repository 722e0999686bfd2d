import Mathlib.Tactic.Common
import Socks5.Proofs.Session.Clock
import Socks5.Proofs.Session.Ledger

/-!
# Relays in use

A session about a relay goes on being one, whatever callers and the network do to it as long as
nobody closes it. `Tends` is what holds of the session between two operations, and `Carries` says
that an operation keeps it, and how the relay follows the one before. The network may take the
socket away in the meantime, and `Weathers` says what becomes of the relay then.
-/

namespace Socks5

namespace Session

variable {lost disturbed : Prop} {next next' : Ticket} {s s' : Session} {r r' r'' : Relay}
  {waiting leaving : List Ticket}

/-! ### What holds between two operations -/

/-- A session about a relay at which these callers wait. -/
structure Serves (next : Ticket) (s : Session) (r : Relay) (waiting leaving : List Ticket) :
    Prop where
  connection : s.connection = .relay r
  sound : r.Sound
  ledger : Ledger next s.pending waiting leaving
  draining : s.draining = []
  system : ∀ a ∈ s.arrivals, ∀ f, a.2 = .failed f → f.isSystem = true

/-- A session about a relay, between two operations. -/
abbrev Tends (next : Ticket) (s : Session) (r : Relay) : Prop :=
  s.Serves next r r.endpoint.waiting r.leaving

/-- The session is now about a relay that follows the given one. -/
def Carries (lost disturbed : Prop) (next : Ticket) (r : Relay) (s : Session) : Prop :=
  ∃ r', s.Tends next r' ∧ r.Follows lost disturbed r'

lemma Tends.carries (h : s.Tends next r) : Carries lost disturbed next r s := ⟨r, h, .refl r⟩

lemma Tends.mono (h : s.Tends next r) (hnext : next ≤ next') : s.Tends next' r :=
  ⟨h.connection, h.sound, h.ledger.mono hnext, h.draining, h.system⟩

lemma Carries.mono (h : Carries lost disturbed next r s) (hnext : next ≤ next') :
    Carries lost disturbed next' r s := by
  obtain ⟨r', hs, hr⟩ := h
  exact ⟨r', Tends.mono hs hnext, hr⟩

lemma Carries.trans (h : Carries lost disturbed next r s)
    (h' : ∀ r', s.Tends next r' → Carries lost disturbed next r' s') :
    Carries lost disturbed next r s' := by
  obtain ⟨r', hs, hr⟩ := h
  obtain ⟨r'', hs', hr'⟩ := h' r' hs
  exact ⟨r'', hs', hr.trans hr'⟩

lemma Carries.weaken {lost' : Prop} (h : Carries lost disturbed next r s) (hlost : lost → lost') :
    Carries lost' disturbed next r s := by
  obtain ⟨r', hs, hr⟩ := h
  exact ⟨r', hs, hr.mono hlost id⟩

lemma Tends.unique (h : s.Tends next r) (h' : s.Tends next' r') : r = r' :=
  Connection.relay.inj (h.connection.symm.trans h'.connection)

/-- By then the network has taken the socket away. -/
def SocketTaken (s s' : Session) : Prop :=
  ∃ time f, (time, .lost f) ∈ s.incoming ∧ (time, .lost f) ∉ s'.incoming

/-- The session is now about a relay that follows the given one, and that has no socket any more if
the network has taken it away. -/
structure Weathers (lost disturbed : Prop) (next : Ticket) (s : Session) (r : Relay)
    (s' : Session) : Prop where
  incoming : s'.incoming ⊆ s.incoming
  carries : ∃ r', s'.Tends next r' ∧ r.Follows (lost ∨ s.SocketTaken s') disturbed r' ∧
    (s.SocketTaken s' → r'.endpoint.port ≠ .opened)

/-- As long as the network has the same in store it has not taken the socket. -/
lemma Carries.weathers (h : Carries lost disturbed next r s') (hsame : s'.incoming = s.incoming) :
    Weathers lost disturbed next s r s' := by
  obtain ⟨r', h', hfollows⟩ := h
  refine ⟨fun _ hmem => hsame ▸ hmem, r', h', hfollows.mono .inl id, ?_⟩
  rintro ⟨time, f, hmem, hnot⟩
  exact absurd (hsame ▸ hmem) hnot

lemma Weathers.mono (h : Weathers lost disturbed next s r s') (hnext : next ≤ next') :
    Weathers lost disturbed next' s r s' := by
  obtain ⟨hincoming, r', h', hfollows, hclosed⟩ := h
  exact ⟨hincoming, r', Tends.mono h' hnext, hfollows, hclosed⟩

lemma Weathers.weaken {lost' disturbed' : Prop} (h : Weathers lost disturbed next s r s')
    (hlost : lost → lost') (hdisturbed : disturbed → disturbed') :
    Weathers lost' disturbed' next s r s' := by
  obtain ⟨hincoming, r', h', hfollows, hclosed⟩ := h
  exact ⟨hincoming, r', h', hfollows.mono (Or.imp_left hlost) hdisturbed, hclosed⟩

lemma Weathers.trans {lost' disturbed' : Prop} {s'' : Session}
    (h : Weathers lost disturbed next s r s')
    (h' : ∀ r', s'.Tends next r' → Weathers lost' disturbed' next' s' r' s'') :
    Weathers (lost ∨ lost') (disturbed ∨ disturbed') next' s r s'' := by
  obtain ⟨hincoming, r', hr', hfollows, hclosed⟩ := h
  obtain ⟨hincoming', r'', hr'', hfollows', hclosed'⟩ := h' r' hr'
  have hfirst : s.SocketTaken s' → s.SocketTaken s'' := by
    rintro ⟨time, f, hmem, hnot⟩
    exact ⟨time, f, hmem, fun hmem' => hnot (hincoming' hmem')⟩
  have hsecond : s'.SocketTaken s'' → s.SocketTaken s'' := by
    rintro ⟨time, f, hmem, hnot⟩
    exact ⟨time, f, hincoming hmem, hnot⟩
  refine ⟨fun _ hmem => hincoming (hincoming' hmem), r'', hr'', ?_, ?_⟩
  · have hbefore : r.Follows ((lost ∨ lost') ∨ s.SocketTaken s'') (disturbed ∨ disturbed') r' :=
      hfollows.mono (Or.imp .inl hfirst) .inl
    exact hbefore.trans (hfollows'.mono (Or.imp .inr hsecond) .inr)
  · rintro ⟨time, f, hmem, hnot⟩
    by_cases hmem' : (time, .lost f) ∈ s'.incoming
    · exact hclosed' ⟨time, f, hmem', hnot⟩
    · exact (hfollows'.closed (hclosed ⟨time, f, hmem, hmem'⟩)).1

/-! ### Events -/

lemma Serves.finish (h : s.Serves next r waiting leaving) {done : List (Completion Outcome)}
    (hmoves : r.Moves lost disturbed waiting leaving done r') :
    (finish done { s with connection := .relay r' }).2.Tends next r' where
  connection := rfl
  sound := hmoves.sound
  ledger := by
    rw [hmoves.answers.waiting, hmoves.answers.leaving]
    exact h.ledger.finish done
  draining := h.draining
  system := h.system

lemma Serves.onRelay (h : s.Serves next r waiting leaving)
    {f : Relay → List (Completion Outcome) × Relay}
    (hmoves : r.Moves lost disturbed waiting leaving (f r).1 (f r).2) :
    Carries lost disturbed next r (s.onRelay f).2 := by
  simp only [Session.onRelay, h.connection]
  exact ⟨(f r).2, h.finish hmoves, hmoves.follows⟩

lemma Tends.onControl (h : s.Tends next r) {a : Arrival}
    (ha : ∀ f, a = .failed f → f.isSystem = true) :
    Carries lost disturbed next r (s.onControl a).2 := by
  have hmoves : r.Moves lost disturbed _ _ (r.feed a).1 (r.feed a).2 :=
    h.sound.feed h.ledger.nodup ha
  simp only [Session.onControl, h.connection]
  exact ⟨(r.feed a).2, h.finish hmoves, hmoves.follows⟩

lemma Tends.onEndpoint (h : s.Tends next r)
    {f : DatagramEndpoint → List (Completion Bytes) × DatagramEndpoint}
    (hf : r.endpoint.Moves lost r.endpoint.waiting (f r.endpoint).1 (f r.endpoint).2) :
    Carries lost disturbed next r (s.onEndpoint f).2 := by
  have hmoves : r.Moves lost disturbed _ _ (r.onEndpoint f).1 (r.onEndpoint f).2 :=
    h.sound.onEndpoint h.ledger.nodup hf
  simp only [Session.onEndpoint, h.connection]
  exact ⟨(r.onEndpoint f).2, h.finish hmoves, hmoves.follows⟩

/-- Giving up disturbs the watcher only if it was waiting for the end; nobody else begins to. -/
lemma Tends.abandon (h : s.Tends next r) {t : Ticket} (hdisturbed : t ∈ r.leaving → disturbed)
    (f : Failure) : ∃ r', (s.abandon t f).2.Tends next r' ∧ r.Follows lost disturbed r' ∧
      r'.leaving ⊆ r.leaving := by
  have hnone : s.draining.any (·.ticket = t) = false := by rw [h.draining, List.any_nil]
  cases habandon : r.abandon? t with
  | none =>
    refine ⟨r, ?_, .refl r, fun _ => id⟩
    simpa [Session.abandon, hnone, h.connection, habandon] using h
  | some pair =>
    obtain ⟨done, r'⟩ := pair
    have hmoves : r.Moves lost disturbed _ _ ((t, .error f) :: done) r' :=
      h.sound.abandon h.ledger.nodup hdisturbed habandon f
    refine ⟨r', ?_, hmoves.follows, ?_⟩
    · simpa [Session.abandon, hnone, h.connection, habandon] using h.finish hmoves
    · rw [hmoves.answers.leaving]
      exact (unanswered_sublist _ _).subset

/-! ### The clock -/

lemma inTurn_carries {α : Type} {f : α → Session → List (Ticket × Result) × Session} {l : List α}
    (hf : ∀ a ∈ l, ∀ s r, s.Tends next r → Carries lost disturbed next r (f a s).2) :
    ∀ {s r}, s.Tends next r → Carries lost disturbed next r (inTurn f l s).2 := by
  induction l with
  | nil => exact fun h => h.carries
  | cons a rest ih =>
    intro s r h
    apply (hf a List.mem_cons_self s r h).trans
    intro r' h'
    exact ih (fun b hb => hf b (List.mem_cons_of_mem a hb)) h'

/-- Operations that run out of time give up one after the other. -/
lemma expire_carries {late : List Pending} :
    ∀ {s r}, s.Tends next r → (∀ p ∈ late, p.ticket ∉ r.leaving) →
      Carries lost disturbed next r
        (inTurn (fun p => abandon p.ticket (.fault .timeout)) late s).2 := by
  induction late with
  | nil => exact fun h _ => h.carries
  | cons p rest ih =>
    intro s r h hlate
    obtain ⟨r', h', hfollows, hleaving⟩ : ∃ r', (s.abandon p.ticket (.fault .timeout)).2.Tends
        next r' ∧ r.Follows lost disturbed r' ∧ r'.leaving ⊆ r.leaving :=
      h.abandon (fun hmem => absurd hmem (hlate p List.mem_cons_self)) (.fault .timeout)
    obtain ⟨r'', h'', hfollows'⟩ := ih h' fun q hq hmem =>
      hlate q (List.mem_cons_of_mem p hq) (hleaving hmem)
    exact ⟨r'', h'', hfollows.trans hfollows'⟩

lemma arrivals_carries {l : List (Nat × Arrival)}
    (hl : ∀ a ∈ l, ∀ f, a.2 = .failed f → f.isSystem = true) (h : s.Tends next r) :
    Carries lost disturbed next r (inTurn (fun a => onControl a.2) l s).2 :=
  inTurn_carries (fun a ha _ _ h => h.onControl (hl a ha)) h

lemma signal_carries (h : s.Tends next r) (g : Signal) :
    Carries (∃ f, g = .lost f) disturbed next r (s.onEndpoint (·.signal g)).2 :=
  h.onEndpoint (DatagramEndpoint.moves_signal h.sound.orderly fun f hf => ⟨f, hf⟩)

lemma incoming_carries (l : List (Nat × Signal)) (h : s.Tends next r) :
    Carries (∃ time f, (time, .lost f) ∈ l) disturbed next r
      (inTurn (fun d => onEndpoint (·.signal d.2)) l s).2 := by
  refine inTurn_carries (fun d hd _ _ h => (signal_carries h d.2).weaken ?_) h
  rintro ⟨f, hf⟩
  exact ⟨d.1, f, hf ▸ hd⟩

/-- The socket that is taken away is gone. -/
lemma signal_lost (h : s.Tends next r) (f : Option Fault) :
    ∃ r', (s.onEndpoint (·.signal (.lost f))).2.Tends next r' ∧ r'.endpoint.port ≠ .opened := by
  obtain ⟨r', h', -⟩ : Carries True True next r (s.onEndpoint (·.signal (.lost f))).2 :=
    (signal_carries h (.lost f)).weaken fun _ => trivial
  have hconnection : (s.onEndpoint (·.signal (.lost f))).2.connection =
      .relay { r with endpoint := (r.endpoint.signal (.lost f)).2 } := by
    simp [Session.onEndpoint, h.connection, Session.finish, Relay.onEndpoint]
  rw [h'.connection] at hconnection
  cases hconnection
  refine ⟨_, h', ?_⟩
  simp only [DatagramEndpoint.signal]
  split_ifs with hport
  · exact (DatagramEndpoint.moves_lose trivial rfl rfl f).2
  · exact hport

/-- Whatever comes before it and after it, the loss of the socket closes the endpoint. -/
lemma port_of_lost {l : List (Nat × Signal)} (hlost : ∃ time f, (time, .lost f) ∈ l) :
    ∀ {s r}, s.Tends next r → ∃ r', (inTurn (fun d => onEndpoint (·.signal d.2)) l s).2.Tends
      next r' ∧ r'.endpoint.port ≠ .opened := by
  obtain ⟨time, f, hmem⟩ := hlost
  induction l with
  | nil => cases hmem
  | cons d rest ih =>
    intro s r h
    obtain rfl | hmem := List.mem_cons.mp hmem
    · obtain ⟨r₁, h₁, hport⟩ := signal_lost h f
      obtain ⟨r₂, h₂, hfollows⟩ : Carries _ True next r₁ _ := incoming_carries rest h₁
      exact ⟨r₂, h₂, (hfollows.closed hport).1⟩
    · obtain ⟨r₁, h₁, -⟩ : Carries _ True next r _ := signal_carries h d.2
      exact ih hmem h₁

/-- When the clock moves on, what arrives comes first, and then operations run out of time. -/
lemma Tends.tick (h : s.Tends next r) (t : Nat) :
    Weathers lost disturbed next s r (s.tick t).2 := by
  have hrest : (s.tick t).2.incoming = s.incoming.filter (t < ·.1) := (s.tick_sheds t).incoming
  have htaken : s.SocketTaken (s.tick t).2 ↔
      ∃ time f, (time, .lost f) ∈ s.incoming.filter (·.1 ≤ t) := by
    simp only [SocketTaken, hrest, List.mem_filter, decide_eq_true_eq]
    refine exists₂_congr fun time f => and_congr_right fun hmem => ?_
    simp [hmem]
  let later : Session := { s with
    now := t
    arrivals := s.arrivals.filter (t < ·.1)
    incoming := s.incoming.filter (t < ·.1)
    draining := [] }
  have hlater : later.Tends next r :=
    ⟨h.connection, h.sound, h.ledger, rfl, fun a ha => h.system a (List.mem_filter.mp ha).1⟩
  obtain ⟨r₁, h₁, hfollows₁⟩ : Carries (lost ∨ s.SocketTaken (s.tick t).2) disturbed next r
      (inTurn (fun a => Session.onControl a.2) (s.arrivals.filter (·.1 ≤ t)) later).2 :=
    arrivals_carries (fun a ha => h.system a (List.mem_filter.mp ha).1) hlater
  obtain ⟨r₂, h₂, hfollows₂⟩ : Carries (lost ∨ s.SocketTaken (s.tick t).2) disturbed next r₁ _ :=
    (incoming_carries (s.incoming.filter (·.1 ≤ t)) h₁).weaken fun hlost => .inr (htaken.mpr hlost)
  -- Only receivers have a deadline, so the watcher is not disturbed.
  obtain ⟨r₃, h₃, hfollows₃⟩ : Carries (lost ∨ s.SocketTaken (s.tick t).2) disturbed next r₂ _ :=
    expire_carries h₂ fun p hp => by
      obtain ⟨hpending, hlate⟩ := List.mem_filter.mp hp
      obtain ⟨deadline, hdeadline, -⟩ := (Option.any_eq_true _ _).mp hlate
      exact h₂.ledger.late_notMem_leaving hpending hdeadline
  refine ⟨hrest ▸ List.filter_sublist.subset, r₃, ?_,
    (hfollows₁.trans hfollows₂).trans hfollows₃, ?_⟩
  · simpa only [Session.tick, h.draining, List.filter_nil, inTurn] using h₃
  · intro hlost
    obtain ⟨r', h', hport⟩ := port_of_lost (htaken.mp hlost) h₁
    rw [← h₂.unique h'] at hport
    exact (hfollows₃.closed hport).1

lemma runUntil_weathers (fuel moment : Nat) : ∀ {s : Session} {r : Relay}, s.Tends next r →
    Weathers lost disturbed next s r (s.runUntil fuel moment).2 := by
  induction fuel with
  | zero =>
    intro s r h
    refine Carries.weathers (Tends.carries ?_) rfl
    exact ⟨h.connection, h.sound, h.ledger, h.draining, h.system⟩
  | succ fuel ih =>
    intro s r h
    have hrests : Weathers lost disturbed next s r { s with now := moment } := by
      refine Carries.weathers (Tends.carries ?_) rfl
      exact ⟨h.connection, h.sound, h.ledger, h.draining, h.system⟩
    unfold Session.runUntil
    split
    · next t _ =>
      split_ifs
      · have hboth : Weathers (lost ∨ lost) (disturbed ∨ disturbed) next s r
            ((s.tick t).2.runUntil fuel moment).2 := (h.tick t).trans fun r' h' => ih h'
        rwa [or_self, or_self] at hboth
      · exact hrests
    · exact hrests

lemma Tends.advance (h : s.Tends next r) (ticks : Nat) :
    Weathers lost disturbed next s r (s.advance ticks).2 := runUntil_weathers _ _ h

/-! ### Operations -/

lemma Tends.receiveFrom (h : s.Tends next r) {shape : Shape} (hshape : shape ≠ .nothing)
    (limit : Option Int) :
    Carries lost disturbed (next + 1) r (s.receiveFrom next shape limit).2 := by
  have hstart : ∀ deadline, Carries lost disturbed (next + 1) r
      (start next shape deadline (onRelay (·.receive next)) s).2 := fun deadline => by
    have hledger := h.ledger.receive hshape deadline
    have hserves : Serves (next + 1) { s with pending := s.pending ++ [⟨next, shape, deadline⟩] } r
        (r.endpoint.waiting ++ [next]) r.leaving :=
      ⟨h.connection, h.sound, hledger, h.draining, h.system⟩
    exact hserves.onRelay (h.sound.receive hledger.nodup)
  unfold Session.receiveFrom startWithin
  split
  · split_ifs
    · exact (h.mono (Nat.le_succ next)).carries
    · exact hstart _
  · exact hstart none

lemma Tends.waitClosed (h : s.Tends next r) :
    Carries lost disturbed (next + 1) r (s.waitClosed next .nothing).2 := by
  have hserves : Serves (next + 1) { s with pending := s.pending ++ [⟨next, .nothing, none⟩] } r
      r.endpoint.waiting (r.leaving ++ [next]) :=
    ⟨h.connection, h.sound, h.ledger.leave, h.draining, h.system⟩
  simp only [Session.waitClosed, h.connection]
  exact hserves.onRelay (h.sound.waitClosed h.ledger.leave.nodup)

lemma Tends.sendTo (h : s.Tends next r) (t : Ticket) (bs : Bytes) (dest : Option Value) :
    Carries lost disturbed next r (s.sendTo t bs dest).2 := by
  simp only [Session.sendTo, h.connection]
  split
  · rename_i n r' hsend
    have hmoves : r.Moves lost disturbed r.endpoint.waiting r.leaving [] r' :=
      h.sound.sendTo h.ledger.nodup hsend
    refine ⟨r', ⟨rfl, hmoves.sound, ?_, h.draining, h.system⟩, hmoves.follows⟩
    rw [hmoves.answers.waiting, hmoves.answers.leaving, unanswered_nil, unanswered_nil]
    exact h.ledger
  · exact h.carries

end Session

end Socks5
