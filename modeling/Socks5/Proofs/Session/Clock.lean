import Mathlib.Tactic.Common
import Socks5.Session

/-!
# While time passes

When the clock moves on, what arrives on the stream or control connection comes first, then what
the network does to the endpoint, then the writes whose bytes have left, and at last the operations
that run out of time.
`Lasting` is what a property of sessions has to survive for it to hold as long as time passes.
-/

namespace Socks5

namespace Session

variable {α : Type}

/-- A property of a session and of the results so far that nothing spoils while time passes. It may
speak of the arrivals that are due and not taken in, and of the operations that are late. -/
structure Lasting
    (P : List (Nat × Arrival) → List Pending → List (Ticket × Result) → Session → Prop) :
    Prop where
  rests : ∀ {done s} now, P [] [] done s → P [] [] done { s with now }
  moves : ∀ {done s} t, P [] [] done s → P (s.arrivals.filter (·.1 ≤ t)) [] done
    { s with
      now := t
      arrivals := s.arrivals.filter (t < ·.1)
      incoming := s.incoming.filter (t < ·.1)
      draining := s.draining.filter (t < ·.time) }
  control : ∀ {a due done s}, P (a :: due) [] done s →
    P due [] (done ++ (s.onControl a.2).1) (s.onControl a.2).2
  signal : ∀ {done s} g, P [] [] done s →
    P [] [] (done ++ (s.onEndpoint (·.signal g)).1) (s.onEndpoint (·.signal g)).2
  drained : ∀ {done s} d, P [] [] done s → P [] [] (done ++ (s.drained d).1) (s.drained d).2
  ages : ∀ {done s} t, P [] [] done s →
    P [] (s.pending.filter fun p => p.deadline.any (· ≤ t)) done s
  expires : ∀ {p late done s}, P [] (p :: late) done s →
    P [] late (done ++ (s.abandon p.ticket (.fault .timeout)).1)
      (s.abandon p.ticket (.fault .timeout)).2

lemma inTurn_cons (f : α → Session → List (Ticket × Result) × Session) (a : α) (l : List α)
    (s : Session) : inTurn f (a :: l) s =
      ((f a s).1 ++ (inTurn f l (f a s).2).1, (inTurn f l (f a s).2).2) := rfl

lemma inTurn_induct {f : α → Session → List (Ticket × Result) × Session}
    {P : List α → List (Ticket × Result) → Session → Prop}
    (hf : ∀ {a l done s}, P (a :: l) done s → P l (done ++ (f a s).1) (f a s).2) (l : List α) :
    ∀ {done s}, P l done s → P [] (done ++ (inTurn f l s).1) (inTurn f l s).2 := by
  induction l with
  | nil =>
    intro done s h
    simpa [inTurn] using h
  | cons a rest ih =>
    intro done s h
    simpa [inTurn, List.append_assoc] using ih (hf h)

/-- What holds once the clock has moved on, and is kept by each of the events that are due, holds of
the whole moment. -/
lemma tick_induct {P : List (Ticket × Result) → Session → Prop} {t : Nat} {s : Session}
    (hmoves : P [] { s with
      now := t
      arrivals := s.arrivals.filter (t < ·.1)
      incoming := s.incoming.filter (t < ·.1)
      draining := s.draining.filter (t < ·.time) })
    (hcontrol : ∀ a ∈ s.arrivals, ∀ {done s'}, P done s' →
      P (done ++ (s'.onControl a.2).1) (s'.onControl a.2).2)
    (hsignal : ∀ g ∈ s.incoming, ∀ {done s'}, P done s' →
      P (done ++ (s'.onEndpoint (·.signal g.2)).1) (s'.onEndpoint (·.signal g.2)).2)
    (hdrained : ∀ d ∈ s.draining, ∀ {done s'}, P done s' →
      P (done ++ (s'.drained d).1) (s'.drained d).2)
    (hexpires : ∀ (p : Pending) {done s'}, P done s' →
      P (done ++ (s'.abandon p.ticket (.fault .timeout)).1)
        (s'.abandon p.ticket (.fault .timeout)).2) : P (s.tick t).1 (s.tick t).2 := by
  have hturn {α : Type} {f : α → Session → List (Ticket × Result) × Session} {l : List α}
      (hf : ∀ a ∈ l, ∀ {done s'}, P done s' → P (done ++ (f a s').1) (f a s').2) {done s'}
      (h : P done s') : P (done ++ (inTurn f l s').1) (inTurn f l s').2 := by
    refine (inTurn_induct (P := fun due done s' => (∀ a ∈ due, a ∈ l) ∧ P done s') ?_ l
      ⟨fun _ => id, h⟩).2
    rintro a due done s' ⟨hdue, h⟩
    obtain ⟨ha, hrest⟩ := List.forall_mem_cons.mp hdue
    exact ⟨hrest, hf a ha h⟩
  have harrived := hturn (fun a ha => hcontrol a (List.mem_filter.mp ha).1)
    (l := s.arrivals.filter (·.1 ≤ t)) hmoves
  have hreceived := hturn (fun g hg => hsignal g (List.mem_filter.mp hg).1)
    (l := s.incoming.filter (·.1 ≤ t)) harrived
  have hwritten := hturn (fun d hd => hdrained d (List.mem_filter.mp hd).1)
    (l := s.draining.filter (·.time ≤ t)) hreceived
  have hexpired (late : List Pending) := hturn (fun p (_ : p ∈ late) => hexpires p) hwritten
  simpa [Session.tick, List.append_assoc] using hexpired _

/-- What is kept from one moment to the next, and does not depend on the time itself, holds as long
as time passes. -/
lemma runUntil_induct {P : List (Ticket × Result) → Session → Prop}
    (hrests : ∀ {done s} now, P done s → P done { s with now })
    (htick : ∀ {done s} t, P done s → P (done ++ (s.tick t).1) (s.tick t).2)
    (fuel moment : Nat) : ∀ {done s}, P done s →
      P (done ++ (s.runUntil fuel moment).1) (s.runUntil fuel moment).2 := by
  induction fuel with
  | zero =>
    intro done s h
    simpa [Session.runUntil] using hrests moment h
  | succ fuel ih =>
    intro done s h
    unfold Session.runUntil
    split
    · split_ifs
      · simpa [List.append_assoc] using ih (htick _ h)
      · simpa using hrests moment h
    · simpa using hrests moment h

namespace Lasting

variable {P : List (Nat × Arrival) → List Pending → List (Ticket × Result) → Session → Prop}
  {done : List (Ticket × Result)} {s : Session}

lemma tick (hP : Lasting P) (t : Nat) (h : P [] [] done s) :
    P [] [] (done ++ (s.tick t).1) (s.tick t).2 := by
  have hcontrol := inTurn_induct (P := fun due => P due []) hP.control _ (hP.moves t h)
  have hsignals := inTurn_induct (P := fun _ => P [] []) (fun {g _ _ _} h => hP.signal g.2 h)
    (s.incoming.filter (·.1 ≤ t)) hcontrol
  have hdrained := inTurn_induct (P := fun _ => P [] []) (fun {d _ _ _} h => hP.drained d h)
    (s.draining.filter (·.time ≤ t)) hsignals
  have hexpired := inTurn_induct (P := fun late => P [] late) hP.expires _ (hP.ages t hdrained)
  simpa [Session.tick, List.append_assoc] using hexpired

lemma runUntil (hP : Lasting P) (fuel moment : Nat) (h : P [] [] done s) :
    P [] [] (done ++ (s.runUntil fuel moment).1) (s.runUntil fuel moment).2 :=
  runUntil_induct (P := P [] []) hP.rests hP.tick fuel moment h

lemma advance (hP : Lasting P) (ticks : Nat) (h : P [] [] done s) :
    P [] [] (done ++ (s.advance ticks).1) (s.advance ticks).2 := hP.runUntil _ _ h

end Lasting

/-! ### What only time changes -/

/-- It is as late as before, and the network has the same in store. -/
structure Abides (s s' : Session) : Prop where
  now : s'.now = s.now
  arrivals : s'.arrivals = s.arrivals
  incoming : s'.incoming = s.incoming

namespace Abides

variable {s s' s'' : Session}

lemma refl (s : Session) : s.Abides s := ⟨rfl, rfl, rfl⟩

lemma trans (h : s.Abides s') (h' : s'.Abides s'') : s.Abides s'' :=
  ⟨h'.now.trans h.now, h'.arrivals.trans h.arrivals, h'.incoming.trans h.incoming⟩

/-- Finishing operations whatever has become of the connection. -/
lemma finish (done : List (Completion Outcome)) (s : Session) (connection : Connection) :
    s.Abides (finish done { s with connection }).2 := ⟨rfl, rfl, rfl⟩

lemma onControl (a : Arrival) (s : Session) : s.Abides (s.onControl a).2 := by
  unfold Session.onControl
  split
  · exact finish _ s _
  · exact finish _ s _
  · exact refl s

lemma onEndpoint (f : DatagramEndpoint → List (Completion Bytes) × DatagramEndpoint)
    (s : Session) : s.Abides (s.onEndpoint f).2 := by
  unfold Session.onEndpoint
  split
  · exact refl s
  · exact finish _ s _
  · exact finish _ s _

lemma onStream (f : Stream → List (Completion Bytes) × Stream) (s : Session) :
    s.Abides (s.onStream f).2 := by
  unfold Session.onStream
  split
  · exact finish _ s _
  · exact refl s

lemma onRelay (f : Relay → List (Completion Outcome) × Relay) (s : Session) :
    s.Abides (s.onRelay f).2 := by
  unfold Session.onRelay
  split
  · exact finish _ s _
  · exact refl s

lemma start {f : Session → List (Ticket × Result) × Session} (hf : ∀ s, Abides s (f s).2)
    (t : Ticket) (shape : Shape) (deadline : Option Nat) (s : Session) :
    s.Abides (s.start t shape deadline f).2 := by
  obtain ⟨hnow, harrivals, hincoming⟩ :=
    hf { s with pending := s.pending ++ [⟨t, shape, deadline⟩] }
  exact ⟨hnow, harrivals, hincoming⟩

lemma startWithin {f : Session → List (Ticket × Result) × Session} (hf : ∀ s, Abides s (f s).2)
    (t : Ticket) (shape : Shape) (limit : Option Int) (s : Session) :
    s.Abides (s.startWithin t shape limit f).2 := by
  unfold Session.startWithin
  cases limit with
  | none => exact start hf t shape none s
  | some l =>
    simp only
    split_ifs
    · exact refl s
    · exact start hf t shape _ s

lemma abandon (t : Ticket) (f : Failure) (s : Session) : s.Abides (s.abandon t f).2 := by
  unfold Session.abandon
  split_ifs
  · exact ⟨rfl, rfl, rfl⟩
  · split
    · split
      · exact finish _ s _
      · exact refl s
    · split
      · exact finish _ s _
      · exact refl s
    · split
      · exact finish _ s _
      · exact refl s

lemma close (s : Session) : s.Abides s.close.2 := by
  unfold Session.close
  split
  · exact ⟨rfl, rfl, rfl⟩
  · exact onRelay _ s
  · exact onEndpoint _ s

lemma waitClosed (t : Ticket) (shape : Shape) (s : Session) :
    s.Abides (s.waitClosed t shape).2 := by
  unfold Session.waitClosed
  split
  · exact start (fun s => finish _ s s.connection) t shape none s
  · exact start (onRelay _) t shape none s
  · exact refl s

lemma write (t : Ticket) (bs : Bytes) (s : Session) : s.Abides (s.write t bs).2 := by
  unfold Session.write
  split
  · split
    · exact ⟨rfl, rfl, rfl⟩
    · simp only
      split_ifs
      · exact ⟨rfl, rfl, rfl⟩
      · exact ⟨rfl, rfl, rfl⟩
  · exact refl s

lemma sendTo (t : Ticket) (bs : Bytes) (dest : Option Value) (s : Session) :
    s.Abides (s.sendTo t bs dest).2 := by
  unfold Session.sendTo
  split
  · split
    · exact ⟨rfl, rfl, rfl⟩
    · exact refl s
  · exact refl s

lemma send (t : Ticket) (bs : Bytes) (s : Session) : s.Abides (s.send t bs).2 := by
  unfold Session.send
  split
  · next e _ =>
    split
    · next e' _ => exact onEndpoint (fun _ => ([], e')) s
    · exact refl s
  · exact refl s

end Abides

/-- Time passes in no step but the one that lets it pass. -/
lemma perform_abides (t : Ticket) {step : Step} (hstep : ∀ ticks, step ≠ .advance ticks)
    (s : Session) : s.Abides (s.perform t step).2 := by
  cases step with
  | advance ticks => exact absurd rfl (hstep ticks)
  | cancel u => exact .abandon u .cancelled s
  | isClosing => exact .refl s
  | close => exact .close s
  | waitClosed => exact .waitClosed t .nothing s
  | leave => exact (Abides.close s).trans (.waitClosed t .left _)
  | atEnd => exact .refl s
  | names => exact .refl s
  | read n limit =>
    simp only [perform]
    split
    · exact .startWithin (.onStream _) t .bytes limit s
    · exact .startWithin (.onRelay _) t .payload limit s
    · exact .refl s
  | readExactly n =>
    simp only [perform]
    split
    · exact .start (.onStream _) t .bytes none s
    · exact .refl s
  | write bs =>
    simp only [perform]
    split
    · exact .write t bs s
    · exact .sendTo t bs none s
  | sendTo bs dest => exact .sendTo t bs dest s
  | receiveFrom limit => exact .startWithin (.onRelay _) t .message limit s
  | send bs => exact .send t bs s
  | receive => exact .start (.onEndpoint _) t .bytes none s
  | closeEndpoint reason => exact .onEndpoint _ s
  | info name default => exact .refl s
  | make info => exact .onEndpoint _ s
  | arrive batch => exact .onEndpoint _ s
  | report f => exact .onEndpoint _ s
  | lose f => exact .onEndpoint _ s
  | control a => exact .onControl a s
  | closeControl =>
    simp only [perform, outside]
    split
    · exact ⟨rfl, rfl, rfl⟩
    · exact ⟨rfl, rfl, rfl⟩
    · exact .refl s

/-! ### Running out of things to do -/

/-- Nobody waits who did not before. -/
structure Sheds (s s' : Session) : Prop extends s.Abides s' where
  draining : s'.draining.Sublist s.draining
  pending : s'.pending.Sublist s.pending

namespace Sheds

variable {s s' s'' : Session}

lemma refl (s : Session) : s.Sheds s := ⟨.refl s, .refl _, .refl _⟩

lemma trans (h : s.Sheds s') (h' : s'.Sheds s'') : s.Sheds s'' :=
  ⟨h.toAbides.trans h'.toAbides, h'.draining.trans h.draining, h'.pending.trans h.pending⟩

lemma timers_le (h : s.Sheds s') : s'.timers ≤ s.timers := by
  have hdraining := h.draining.length_le
  have hpending := h.pending.length_le
  unfold timers
  rw [h.arrivals, h.incoming]
  omega

/-- Finishing operations whatever has become of the connection. -/
lemma finish (done : List (Completion Outcome)) (s : Session) (connection : Connection) :
    s.Sheds (finish done { s with connection }).2 :=
  ⟨.finish done s connection, .refl _, List.filter_sublist⟩

lemma onControl (a : Arrival) (s : Session) : s.Sheds (s.onControl a).2 := by
  unfold Session.onControl
  split
  · exact finish _ s _
  · exact finish _ s _
  · exact refl s

lemma onEndpoint (f : DatagramEndpoint → List (Completion Bytes) × DatagramEndpoint)
    (s : Session) : s.Sheds (s.onEndpoint f).2 := by
  unfold Session.onEndpoint
  split
  · exact refl s
  · exact finish _ s _
  · exact finish _ s _

lemma drained (d : Draining) (s : Session) : s.Sheds (s.drained d).2 := finish _ s s.connection

lemma abandon (t : Ticket) (f : Failure) (s : Session) : s.Sheds (s.abandon t f).2 := by
  unfold Session.abandon
  split_ifs
  · exact ⟨⟨rfl, rfl, rfl⟩, List.filter_sublist, List.filter_sublist⟩
  · split
    · split
      · exact finish _ s _
      · exact refl s
    · split
      · exact finish _ s _
      · exact refl s
    · split
      · exact finish _ s _
      · exact refl s

lemma inTurn {f : α → Session → List (Ticket × Result) × Session}
    (hf : ∀ a s, Sheds s (f a s).2) (l : List α) : ∀ s, Sheds s (Session.inTurn f l s).2 := by
  induction l with
  | nil => exact refl
  | cons a rest ih => exact fun s => (hf a s).trans (ih _)

lemma expire (late : List Pending) (s : Session) :
    s.Sheds (Session.inTurn (fun p => Session.abandon p.ticket (.fault .timeout)) late s).2 :=
  inTurn (fun p : Pending => abandon p.ticket (.fault .timeout)) late s

end Sheds

/-- Whoever gives up is rid of his operation, or there was nothing to give up. -/
lemma abandon_cases (t : Ticket) (f : Failure) (s : Session) :
    s.abandon t f = ([], s) ∨ (s.abandon t f).1 ≠ [] ∧
      ∀ p ∈ s.pending, p.ticket = t → (s.abandon t f).2.timers < s.timers := by
  have hfinish (done : List (Completion Outcome)) (connection : Connection) :
      (finish ((t, .error f) :: done) { s with connection }).1 ≠ [] ∧
        ∀ p ∈ s.pending, p.ticket = t →
          (finish ((t, .error f) :: done) { s with connection }).2.timers < s.timers := by
    refine ⟨List.cons_ne_nil _ _, ?_⟩
    rintro p hp rfl
    apply Nat.add_lt_add_left
    exact List.length_filter_lt_length_iff_exists.mpr ⟨p, hp, by simp⟩
  unfold abandon
  split_ifs with hdrains
  · refine .inr ⟨List.cons_ne_nil _ _, ?_⟩
    intro p hp hticket
    have hless := (hfinish [] s.connection).2 p hp hticket
    have hdraining := List.length_filter_le (fun d : Draining => decide (d.ticket ≠ t)) s.draining
    simp only [timers, finish] at hless ⊢
    omega
  · split
    · split
      · exact .inr (hfinish _ _)
      · exact .inl rfl
    · split
      · exact .inr (hfinish _ _)
      · exact .inl rfl
    · split
      · exact .inr (hfinish _ _)
      · exact .inl rfl

lemma expire_cases {late : List Pending} : ∀ {s : Session}, (∀ p ∈ late, p ∈ s.pending) →
    inTurn (fun p => abandon p.ticket (.fault .timeout)) late s = ([], s) ∨
      (inTurn (fun p => abandon p.ticket (.fault .timeout)) late s).2.timers < s.timers := by
  induction late with
  | nil => exact fun _ => .inl rfl
  | cons p rest ih =>
    intro s hlate
    obtain hnothing | ⟨-, hless⟩ := s.abandon_cases p.ticket (.fault .timeout)
    · simp only [inTurn, hnothing, List.nil_append]
      exact ih fun q hq => hlate q (List.mem_cons_of_mem p hq)
    · refine .inr (Nat.lt_of_le_of_lt ?_ (hless p (hlate p List.mem_cons_self) rfl))
      exact (Sheds.expire rest _).timers_le

/-- The session at a later time, when everything that was due then has been taken out. -/
def moved (t : Nat) (s : Session) : Session :=
  { s with
    now := t
    arrivals := s.arrivals.filter (t < ·.1)
    incoming := s.incoming.filter (t < ·.1)
    draining := s.draining.filter (t < ·.time) }

/-- Everything that happens at a time before operations run out of time. -/
def events (t : Nat) (s : Session) : List (Ticket × Result) × Session :=
  let r₁ := inTurn (fun a => onControl a.2) (s.arrivals.filter (·.1 ≤ t)) (s.moved t)
  let r₂ := inTurn (fun g => onEndpoint (·.signal g.2)) (s.incoming.filter (·.1 ≤ t)) r₁.2
  let r₃ := inTurn drained (s.draining.filter (·.time ≤ t)) r₂.2
  (r₁.1 ++ r₂.1 ++ r₃.1, r₃.2)

lemma tick_eq (t : Nat) (s : Session) : s.tick t =
    let late := (s.events t).2.pending.filter fun p => p.deadline.any (· ≤ t)
    let r := inTurn (fun p => abandon p.ticket (.fault .timeout)) late (s.events t).2
    ((s.events t).1 ++ r.1, r.2) := by
  simp [tick, events, moved, List.append_assoc]

lemma events_sheds (t : Nat) (s : Session) : (s.moved t).Sheds (s.events t).2 :=
  ((Sheds.inTurn (fun _ => Sheds.onControl _) _ _).trans
    (Sheds.inTurn (fun _ => Sheds.onEndpoint _) _ _)).trans (Sheds.inTurn Sheds.drained _ _)

lemma tick_sheds (t : Nat) (s : Session) : (s.moved t).Sheds (s.tick t).2 := by
  rw [tick_eq]
  exact (s.events_sheds t).trans (Sheds.expire _ _)

lemma length_filter_later {β : Type} (time : β → Nat) (t : Nat) (l : List β) :
    (l.filter (time · ≤ t)) = [] ∧ l.filter (t < time ·) = l ∨
      (l.filter (t < time ·)).length < l.length := by
  by_cases hdue : ∃ a ∈ l, time a ≤ t
  · obtain ⟨a, ha, hle⟩ := hdue
    exact .inr (List.length_filter_lt_length_iff_exists.mpr ⟨a, ha, by simpa using hle⟩)
  · refine .inl ⟨List.filter_eq_nil_iff.mpr fun a ha => ?_, List.filter_eq_self.mpr fun a ha => ?_⟩
    · simpa using Nat.not_le.mp fun hle => hdue ⟨a, ha, hle⟩
    · simpa using Nat.not_le.mp fun hle => hdue ⟨a, ha, hle⟩

/-- Fewer things are still to happen after what was due, or nothing was. -/
lemma events_cases (t : Nat) (s : Session) :
    s.events t = ([], { s with now := t }) ∨ (s.events t).2.timers < s.timers := by
  have hless (h : (s.moved t).timers < s.timers) : (s.events t).2.timers < s.timers :=
    Nat.lt_of_le_of_lt (s.events_sheds t).timers_le h
  have harrivals := List.length_filter_le (fun a : Nat × Arrival => decide (t < a.1)) s.arrivals
  have hincoming := List.length_filter_le (fun g : Nat × Signal => decide (t < g.1)) s.incoming
  have hdraining := List.length_filter_le (fun d : Draining => decide (t < d.time)) s.draining
  obtain ⟨hdue, hrest⟩ | hlt := length_filter_later (·.1) t s.arrivals
  · obtain ⟨hdue', hrest'⟩ | hlt := length_filter_later (·.1) t s.incoming
    · obtain ⟨hdue'', hrest''⟩ | hlt := length_filter_later (·.time) t s.draining
      · left
        simp only [events, moved, hdue, hdue', hdue'', hrest, hrest', hrest'', inTurn,
          List.append_nil]
      · refine .inr (hless ?_)
        simp only [timers, moved]
        omega
    · refine .inr (hless ?_)
      simp only [timers, moved]
      omega
  · refine .inr (hless ?_)
    simp only [timers, moved]
    omega

/-- At any time fewer things are still to happen afterwards, or nothing happens. -/
lemma tick_cases (t : Nat) (s : Session) :
    s.tick t = ([], { s with now := t }) ∨ (s.tick t).2.timers < s.timers := by
  rw [tick_eq]
  obtain hnothing | hlt := s.events_cases t
  · -- Nothing was due, and so operations may run out of time, but nothing else happens.
    have hlate : ∀ p ∈ s.pending.filter (fun p => p.deadline.any (· ≤ t)),
        p ∈ ({ s with now := t } : Session).pending := fun p hp => (List.mem_filter.mp hp).1
    rw [hnothing]
    obtain hnobody | hlt := expire_cases hlate
    · simp only [hnobody]
      exact .inl rfl
    · exact .inr hlt
  · exact .inr (Nat.lt_of_le_of_lt (Sheds.expire _ _).timers_le hlt)

/-- What is due comes first of what is in order of time. -/
lemma filter_append_filter {l : List (Nat × Arrival)} (h : l.Pairwise (·.1 ≤ ·.1)) (t : Nat) :
    l.filter (·.1 ≤ t) ++ l.filter (t < ·.1) = l := by
  induction l with
  | nil => rfl
  | cons a rest ih =>
    obtain ⟨hle, hrest⟩ := List.pairwise_cons.mp h
    by_cases hdue : a.1 ≤ t
    · simpa [hdue, Nat.not_lt.mpr hdue] using ih hrest
    · have hlater (b) (hb : b ∈ rest) : ¬ b.1 ≤ t := fun hb' => hdue (Nat.le_trans (hle b hb) hb')
      have hnone : rest.filter (·.1 ≤ t) = [] := by simpa using fun a b hb => hlater (a, b) hb
      have hall : rest.filter (t < ·.1) = rest := by
        simpa using fun a b hb => Nat.not_le.mp (hlater (a, b) hb)
      simp [hdue, Nat.not_le.mp hdue, hnone, hall]

/-! ### The next moment -/

section

variable {t : Nat} {s : Session}

lemma nextTime?_eq_some (h : s.nextTime? = some t) :
    (t ∈ s.arrivals.map (·.1) ∨ t ∈ s.incoming.map (·.1) ∨ t ∈ s.draining.map (·.time) ∨
      t ∈ s.pending.filterMap (·.deadline)) ∧ ∀ a ∈ s.arrivals, t ≤ a.1 := by
  obtain ⟨hmem, hle⟩ := List.min?_eq_some_iff.mp h
  refine ⟨by simpa only [List.mem_append, or_assoc] using hmem, fun a ha => hle _ ?_⟩
  simp only [List.mem_append]
  exact .inl (.inl (.inl (List.mem_map_of_mem ha)))

lemma nextTime?_eq_none (h : s.nextTime? = none) : s.arrivals = [] := by
  simp only [nextTime?, List.min?_eq_none_iff, List.append_eq_nil_iff, List.map_eq_nil_iff] at h
  exact h.1.1.1

/-- If nothing happens at the next moment, somebody is late who cannot give up. -/
lemma deadline_of_sheds (hnext : s.nextTime? = some t)
    (h : (s.moved t).Sheds { s with now := t }) : t ∈ s.pending.filterMap (·.deadline) := by
  obtain ⟨hmem | hmem | hmem | hmem, -⟩ := nextTime?_eq_some hnext
  · obtain ⟨a, ha, rfl⟩ := List.mem_map.mp hmem
    rw [show s.arrivals = s.arrivals.filter (a.1 < ·.1) from h.arrivals] at ha
    simp at ha
  · obtain ⟨a, ha, rfl⟩ := List.mem_map.mp hmem
    rw [show s.incoming = s.incoming.filter (a.1 < ·.1) from h.incoming] at ha
    simp at ha
  · obtain ⟨d, hd, rfl⟩ := List.mem_map.mp hmem
    have hlater := (List.mem_filter.mp (h.draining.subset hd)).2
    simp at hlater
  · exact hmem

lemma nextTime?_of_deadline (hfirst : ∀ u, s.nextTime? = some u → t ≤ u)
    (hmem : t ∈ s.pending.filterMap (·.deadline)) : s.nextTime? = some t := by
  have hall : t ∈ s.arrivals.map (·.1) ++ s.incoming.map (·.1) ++ s.draining.map (·.time) ++
      s.pending.filterMap (·.deadline) := List.mem_append_right _ hmem
  cases hnext : s.nextTime? with
  | none =>
    rw [List.min?_eq_none_iff.mp hnext] at hall
    cases hall
  | some u =>
    have hle := (List.min?_eq_some_iff.mp hnext).2 t hall
    rw [Nat.le_antisymm hle (hfirst u hnext)]

/-- Whoever has a time limit can give up. -/
def Releases (s : Session) : Prop :=
  ∀ p ∈ s.pending, p.deadline ≠ none → (s.abandon p.ticket (.fault .timeout)).1 ≠ []

/-- When everybody can give up who has a time limit, the next moment has its event. -/
lemma Releases.tick_lt (h : Releases { s with now := t }) (hnext : s.nextTime? = some t) :
    (s.tick t).2.timers < s.timers := by
  rw [tick_eq]
  obtain hnothing | hlt := s.events_cases t
  · have hsheds := s.events_sheds t
    rw [hnothing] at hsheds ⊢
    obtain ⟨p, hp, hpt⟩ := List.mem_filterMap.mp (deadline_of_sheds hnext hsheds)
    have hlate : p ∈ s.pending.filter fun p => p.deadline.any (· ≤ t) :=
      List.mem_filter.mpr ⟨hp, by simp [hpt]⟩
    have hwaited : ∀ q ∈ s.pending.filter (fun p => p.deadline.any (· ≤ t)),
        q ∈ ({ s with now := t } : Session).pending := fun q hq => (List.mem_filter.mp hq).1
    obtain hnobody | hlt := expire_cases hwaited
    · obtain ⟨q, rest, hrest⟩ := List.exists_cons_of_ne_nil (List.ne_nil_of_mem hlate)
      obtain ⟨hq, hdue⟩ := List.mem_filter.mp (hrest ▸ List.mem_cons_self : q ∈ _)
      rw [hrest] at hnobody
      have hempty := (List.append_eq_nil_iff.mp (congrArg Prod.fst hnobody)).1
      exact absurd hempty (h q hq (by rintro hnone; simp [hnone] at hdue))
    · exact hlt
  · exact Nat.lt_of_le_of_lt (Sheds.expire _ _).timers_le hlt

/-- Before the next moment nothing happens. -/
lemma tick_of_later (h : ∀ u, s.nextTime? = some u → t < u) :
    s.tick t = ([], { s with now := t }) := by
  have hlater (u) (hu : u ∈ s.arrivals.map (·.1) ++ s.incoming.map (·.1) ++
      s.draining.map (·.time) ++ s.pending.filterMap (·.deadline)) : t < u := by
    cases hnext : s.nextTime? with
    | none =>
      rw [List.min?_eq_none_iff.mp hnext] at hu
      cases hu
    | some first =>
      exact Nat.lt_of_lt_of_le (h first hnext) ((List.min?_eq_some_iff.mp hnext).2 u hu)
  simp only [List.mem_append, List.mem_map, List.mem_filterMap, or_imp, forall_and] at hlater
  obtain ⟨⟨⟨harrivals, hincoming⟩, hdraining⟩, hpending⟩ := hlater
  have hnone {α : Type} (time : α → Nat) {l : List α} (hl : ∀ u, (∃ a ∈ l, time a = u) → t < u) :
      l.filter (time · ≤ t) = [] ∧ l.filter (t < time ·) = l := by
    refine ⟨List.filter_eq_nil_iff.mpr fun a ha => ?_, List.filter_eq_self.mpr fun a ha => ?_⟩
    · simpa using hl _ ⟨a, ha, rfl⟩
    · simpa using hl _ ⟨a, ha, rfl⟩
  obtain ⟨hdue, hrest⟩ := hnone Prod.fst harrivals
  obtain ⟨hdue', hrest'⟩ := hnone Prod.fst hincoming
  obtain ⟨hdue'', hrest''⟩ := hnone Draining.time hdraining
  have hlate : s.pending.filter (fun p => p.deadline.any (· ≤ t)) = [] := by
    refine List.filter_eq_nil_iff.mpr fun p hp => ?_
    cases hdeadline : p.deadline with
    | none => simp
    | some u => simpa using hpending u ⟨p, hp, hdeadline⟩
  simp only [tick, hdue, hrest, hdue', hrest', hdue'', hrest'', hlate, inTurn, List.append_nil]

/-! ### Letting time pass -/

lemma runUntil_now (moment fuel : Nat) :
    ∀ s : Session, (s.runUntil fuel moment).2.now = moment := by
  induction fuel with
  | zero => exact fun s => rfl
  | succ fuel ih =>
    intro s
    unfold runUntil
    split
    · split_ifs
      · exact ih _
      · rfl
    · rfl

/-- What happens does not depend on when one begins to wait for it. -/
lemma runUntil_from (t fuel moment : Nat) (s : Session) :
    ({ s with now := t } : Session).runUntil fuel moment = s.runUntil fuel moment := by
  cases fuel <;> rfl

/-- Once nothing happens at the next moment, nothing will happen any more. -/
lemma runUntil_of_stuck {moment : Nat} (hle : t ≤ moment) (fuel : Nat) : ∀ {s : Session},
    s.nextTime? = some t → s.tick t = ([], { s with now := t }) →
      s.runUntil fuel moment = ([], { s with now := moment }) := by
  induction fuel with
  | zero => exact fun _ _ => rfl
  | succ fuel ih =>
    intro s hnext hstuck
    have hrest : ({ s with now := t } : Session).runUntil fuel moment =
        ([], { s with now := moment }) := ih hnext hstuck
    simp only [runUntil, hnext, hle, if_true, hstuck, hrest, List.append_nil]

lemma runUntil_of_later {moment : Nat} (h : ∀ u, s.nextTime? = some u → moment < u) (fuel : Nat) :
    s.runUntil fuel moment = ([], { s with now := moment }) := by
  cases fuel with
  | zero => rfl
  | succ fuel =>
    unfold runUntil
    split
    · next u hu => rw [if_neg (Nat.not_le.mpr (h u hu))]
    · rfl

/-- If nothing happens at the next moment then somebody is late who cannot give up. -/
lemma late_of_stuck (hnext : s.nextTime? = some t) (hstuck : s.tick t = ([], { s with now := t })) :
    t ∈ s.pending.filterMap (·.deadline) := by
  have hsheds := s.tick_sheds t
  rw [hstuck] at hsheds
  exact deadline_of_sheds hnext hsheds

/-- Whatever happens at a moment before which nothing happens may happen first. -/
lemma runUntil_first {moment fuel : Nat} (hle : t ≤ moment)
    (hfirst : ∀ u, s.nextTime? = some u → t ≤ u) (hfuel : s.timers ≤ fuel) :
    ∃ rest ≤ fuel, (s.tick t).2.timers ≤ rest ∧
      (rest < fuel ∨ s.tick t = ([], { s with now := t })) ∧
      s.runUntil fuel moment = ((s.tick t).1 ++ ((s.tick t).2.runUntil rest moment).1,
        ((s.tick t).2.runUntil rest moment).2) := by
  obtain hnothing | hlt := s.tick_cases t
  · refine ⟨fuel, Nat.le_refl _, ?_, .inr hnothing, ?_⟩
    · rw [hnothing]
      exact hfuel
    · simp only [hnothing, runUntil_from, List.nil_append]
  · obtain ⟨rest, rfl⟩ := Nat.exists_eq_succ_of_ne_zero (n := fuel) (by omega)
    refine ⟨rest, by omega, by omega, .inl (by omega), ?_⟩
    have hnext : s.nextTime? = some t := by
      by_contra hnext
      have hlater (u) (hu : s.nextTime? = some u) : t < u := by
        refine Nat.lt_of_le_of_ne (hfirst u hu) ?_
        rintro rfl
        exact hnext hu
      rw [tick_of_later hlater] at hlt
      exact absurd hlt (Nat.lt_irrefl _)
    simp only [runUntil, hnext, hle, if_true]

end

/-- Everything arrives that is due up to the moment, and the rest does not. -/
lemma runUntil_arrivals {P : Session → Prop} (hrests : ∀ {s} now, P s → P { s with now })
    (htick : ∀ {s} t, P s → P (s.tick t).2) (hreleases : ∀ {s}, P s → s.Releases) (moment : Nat)
    (fuel : Nat) : ∀ {s}, P s → s.timers ≤ fuel →
      (s.runUntil fuel moment).2.arrivals = s.arrivals.filter (moment < ·.1) := by
  induction fuel with
  | zero =>
    intro s _ htimers
    have hnone : s.arrivals = [] := by
      unfold timers at htimers
      exact List.length_eq_zero_iff.mp (by omega)
    simp [runUntil, hnone]
  | succ fuel ih =>
    intro s h htimers
    unfold runUntil
    split
    · next t hnext =>
      split_ifs with hle
      · have hlt := (hreleases (hrests t h)).tick_lt hnext
        have htaken : (s.tick t).2.arrivals = s.arrivals.filter (t < ·.1) :=
          (s.tick_sheds t).arrivals
        rw [ih (htick t h) (by omega), htaken, List.filter_filter]
        congr 1
        funext a
        simp only [Bool.and_eq_decide, decide_eq_decide, decide_eq_true_eq]
        omega
      · refine (List.filter_eq_self.mpr fun a ha => ?_).symm
        have hlater := (nextTime?_eq_some hnext).2 a ha
        simpa using by omega
    · next hnext => simp [nextTime?_eq_none hnext]

end Session

end Socks5
