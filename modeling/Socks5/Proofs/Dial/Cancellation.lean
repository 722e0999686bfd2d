import Socks5.Proofs.Dial.Steps

/-!
# Cancelled dials

A dial that is cancelled at some moment is compared with the same dial left alone. `Cuts` says how
the two may differ: either the undisturbed operation has ended by that moment, and then the
cancellation changed nothing, or it is still under way, and then the cancelled one ends at that
moment and as cancelled. The relation is shown for waiting, for reads and writes; `Cuts.andThen`
carries it from there through the handshake to the whole dial.
-/

namespace Socks5

variable {α β σ τ : Type}

lemma Ended.value_ne_never (a : α) : value a ≠ .never := by simp

lemma Ended.failure_ne_never (f : Failure) : (failure f : Ended α) ≠ .never := by simp

/-- How an operation that is cancelled at `c` compares with the same operation left alone: that one
has ended by then and nothing is different, or it is under way or never ends and is cancelled then.
States have a time, and `mark` notes the cancellation in them. -/
def Cuts (c : Nat) (time : σ → Nat) (mark : σ → σ) (cut whole : Ended α × σ) : Prop :=
  (whole.1 ≠ .never ∧ time whole.2 ≤ c ∧ cut = (whole.1, mark whole.2)) ∨
    ((whole.1 = .never ∨ c < time whole.2) ∧ cut.1 = .failure .cancelled ∧ time cut.2 = c)

/-- What goes on from operations that compare in this way compares in this way too. -/
lemma Cuts.andThen {c : Nat} {time : σ → Nat} {mark : σ → σ} {time' : τ → Nat} {mark' : τ → τ}
    {cut whole : Ended α × σ} {fail : Failure → Failure} {leave leave' : σ → τ}
    {next next' : α → σ → Ended β × τ} (h : Cuts c time mark cut whole)
    (hfail : fail .cancelled = .cancelled)
    (hleave : ∀ s, time' (leave s) = time s ∧ time' (leave' s) = time s)
    (hmark : ∀ s, leave' (mark s) = mark' (leave s))
    (hle : ∀ a, whole.1 = .value a → time whole.2 ≤ time' (next a whole.2).2)
    (hnext : ∀ a, whole.1 = .value a → time whole.2 ≤ c →
      Cuts c time' mark' (next' a (mark whole.2)) (next a whole.2)) :
    Cuts c time' mark' (Ended.andThen fail leave' next' cut)
      (Ended.andThen fail leave next whole) := by
  obtain ⟨ended, s⟩ := whole
  obtain ⟨hends, hearly, rfl⟩ | ⟨hlater, hcancelled, htime⟩ := h
  · cases ended with
    | value a => exact hnext a rfl hearly
    | failure f =>
      exact .inl ⟨Ended.failure_ne_never _, (hleave s).1.le.trans hearly,
        by simp [Ended.andThen, hmark]⟩
    | never => exact absurd rfl hends
  · obtain ⟨_, s'⟩ := cut
    obtain rfl := hcancelled
    refine .inr ⟨?_, congrArg _ hfail, (hleave s').2.trans htime⟩
    cases ended with
    | value a =>
      exact .inr ((hlater.resolve_left (Ended.value_ne_never a)).trans_le (hle a rfl))
    | failure f =>
      exact .inr ((hlater.resolve_left (Ended.failure_ne_never f)).trans_eq (hleave s).1.symm)
    | never => exact .inl rfl

/-- The states may be seen in another way, as long as their times are the same. -/
lemma Cuts.map {c : Nat} {time : σ → Nat} {mark : σ → σ} {time' : τ → Nat} {mark' : τ → τ}
    {cut whole : Ended α × σ} (h : Cuts c time mark cut whole) (f : Ended α → σ → τ)
    (htime : ∀ ended s, time' (f ended s) = time s)
    (hmark : ∀ ended s, f ended (mark s) = mark' (f ended s)) :
    Cuts c time' mark' (cut.1, f cut.1 cut.2) (whole.1, f whole.1 whole.2) := by
  obtain ⟨hends, hearly, rfl⟩ | ⟨hlater, hcancelled, hnow⟩ := h
  · exact .inl ⟨hends, (htime _ _).le.trans hearly, by simp only [hmark]⟩
  · exact .inr ⟨hlater.imp id fun h => h.trans_eq (htime _ _).symm, hcancelled,
      (htime _ _).trans hnow⟩

/-! ### Breaking off -/

/-- How an operation that is broken off at `c` compares with the same operation left alone: that one
has ended by then and nothing is different, or it is under way or never ends and fails then. -/
def Stops (f : Failure) (c : Nat) (time : σ → Nat) (cut whole : Ended α × σ) : Prop :=
  (whole.1 ≠ .never ∧ time whole.2 ≤ c ∧ cut = whole) ∨
    ((whole.1 = .never ∨ c < time whole.2) ∧ cut.1 = .failure f ∧ time cut.2 = c)

/-- An operation may be compared with one that is broken off later, too. -/
lemma Stops.later {f : Failure} {c : Nat} {time : σ → Nat} {cut whole free : Ended α × σ}
    (h : Stops f c time cut free)
    (hwhole : whole = free ∨ ∃ c' g, c < c' ∧ Stops g c' time whole free) :
    Stops f c time cut whole := by
  obtain rfl | ⟨c', g, hlate, ⟨-, -, rfl⟩ | ⟨hfree, -, htime⟩⟩ := hwhole
  · exact h
  · exact h
  obtain ⟨hends, hearly, -⟩ | ⟨-, hcut, hnow⟩ := h
  · obtain hnever | hlater := hfree
    · exact absurd hnever hends
    · omega
  · exact .inr ⟨.inr (htime ▸ hlate), hcut, hnow⟩

/-- A wait that is broken off compares with a wait that has its time. -/
lemma pass_stops {now c : Nat} {limit : Option Int} {cancelAt : Option Nat} {f : Failure}
    (hnow : now ≤ c) (hstop : breakOff now limit cancelAt = some (c, f)) (ticks : Nat) :
    Stops f c id (pass now ticks limit cancelAt) (.value (), now + ticks) := by
  simp only [pass, hstop]
  split_ifs with hbreak
  · exact .inr ⟨.inr hbreak, rfl, max_eq_right hnow⟩
  · exact .inl ⟨Ended.value_ne_never (), Nat.not_lt.mp hbreak, rfl⟩

/-- When nothing more arrives, a read has ended or is broken off. -/
lemma Line.await_nil_stops {c now : Nat} {f : Failure} (hnow : now ≤ c) (r : Reading)
    (s : Stream) :
    Stops f c (·.1) (await (some (c, f)) r now s []) (await none r now s []) := by
  unfold await
  cases s.attempt r with
  | mk progress s =>
    cases progress with
    | done result =>
      cases result with
      | error f => exact .inl ⟨Ended.failure_ne_never f, hnow, rfl⟩
      | ok bs => exact .inl ⟨Ended.value_ne_never bs, hnow, rfl⟩
    | waits r => exact .inr ⟨.inl rfl, rfl, max_eq_right hnow⟩

/-- A read that is broken off compares with a read that may wait for ever. -/
lemma Line.await_stops {c : Nat} {f : Failure} (arrivals : List (Nat × Arrival)) :
    ∀ (r : Reading) (now : Nat) (s : Stream), now ≤ c →
      Stops f c (·.1) (await (some (c, f)) r now s arrivals) (await none r now s arrivals) := by
  induction arrivals with
  | nil => exact fun r now s hnow => await_nil_stops hnow r s
  | cons event rest ih =>
    intro r now s hnow
    obtain ⟨time, a⟩ := event
    unfold await
    by_cases htime : time ≤ now
    · simp only [if_pos htime]
      exact ih r now (s.feed a) hnow
    simp only [if_neg htime]
    cases s.attempt r with
    | mk progress s =>
      cases progress with
      | done result =>
        cases result with
        | error f => exact .inl ⟨Ended.failure_ne_never f, hnow, rfl⟩
        | ok bs => exact .inl ⟨Ended.value_ne_never bs, hnow, rfl⟩
      | waits r =>
        by_cases hcut : c < time
        · simp only [if_pos hcut]
          have hlater := hcut.trans_le (await_frame none rest r time (s.feed a)).1
          exact .inr ⟨.inr hlater, rfl, max_eq_right hnow⟩
        · simp only [if_neg hcut]
          exact ih r time (s.feed a) (Nat.not_lt.mp hcut)

/-! ### Waiting -/

/-- A break-off is the same with a later cancellation, or it is the cancellation. -/
lemma breakOff_cases (now : Nat) (limit : Option Int) (c : Nat) :
    (∃ time f, time ≤ c ∧ breakOff now limit (some c) = some (time, f) ∧
      breakOff now limit none = some (time, f)) ∨
    (breakOff now limit (some c) = some (c, .cancelled) ∧
      ∀ time f, breakOff now limit none = some (time, f) → c < time) := by
  cases limit with
  | none => exact .inr ⟨rfl, by simp [breakOff]⟩
  | some l =>
    by_cases hc : c < now + l.toNat
    · refine .inr ⟨breakOff_of_lt hc, ?_⟩
      intro time f h
      obtain ⟨_, ⟨⟩, rfl, -⟩ | ⟨⟨⟩, -⟩ := breakOff_eq_some h
      exact hc
    · exact .inl ⟨now + l.toNat, .fault .timeout, Nat.not_lt.mp hc, if_neg hc, rfl⟩

lemma pass_cuts {now c : Nat} (hnow : now ≤ c) (ticks : Nat) (limit : Option Int) :
    Cuts c id id (pass now ticks limit (some c)) (pass now ticks limit none) := by
  obtain ⟨time, f, htime, hc, hn⟩ | ⟨hc, hlate⟩ := breakOff_cases now limit c
  · simp only [pass, hc, hn]
    split_ifs with hbreak
    · exact .inl ⟨Ended.failure_ne_never f, max_le hnow htime, rfl⟩
    · exact .inl ⟨Ended.value_ne_never (), show now + ticks ≤ c by omega, rfl⟩
  · -- Left alone the wait has its time, or is broken off later.
    have hwhole : pass now ticks limit none = (.value (), now + ticks) ∨
        ∃ c' g, c < c' ∧ Stops g c' id (pass now ticks limit none) (.value (), now + ticks) := by
      cases hn : breakOff now limit none with
      | none => exact .inl (by simp only [pass, hn])
      | some stop =>
        have hlater := hlate stop.1 stop.2 hn
        exact .inr ⟨stop.1, stop.2, hlater, pass_stops (hnow.trans hlater.le) hn ticks⟩
    exact (pass_stops hnow hc ticks).later hwhole

/-! ### Reading -/

namespace Line

/-- A read that is broken off in time has ended by then. -/
lemma await_le {c brk : Nat} {f : Failure} (hbrk : brk ≤ c) (arrivals : List (Nat × Arrival)) :
    ∀ (r : Reading) (now : Nat) (s : Stream), now ≤ c →
      (await (some (brk, f)) r now s arrivals).1 ≠ .never ∧
        (await (some (brk, f)) r now s arrivals).2.1 ≤ c := by
  induction arrivals with
  | nil =>
    intro r now s hnow
    unfold await
    split
    · exact ⟨Ended.value_ne_never _, hnow⟩
    · exact ⟨Ended.failure_ne_never _, hnow⟩
    · exact ⟨Ended.failure_ne_never _, max_le hnow hbrk⟩
  | cons event rest ih =>
    intro r now s hnow
    obtain ⟨time, a⟩ := event
    unfold await
    split_ifs with htime
    · exact ih r now (s.feed a) hnow
    · split
      · exact ⟨Ended.value_ne_never _, hnow⟩
      · exact ⟨Ended.failure_ne_never _, hnow⟩
      · simp only
        split_ifs
        · exact ⟨Ended.failure_ne_never _, max_le hnow hbrk⟩
        · exact ih _ time _ (by omega)

/-- A read that would be broken off later, if at all, is cut by the cancellation. -/
lemma await_cuts {c : Nat} {stop : Option (Nat × Failure)}
    (hstop : ∀ time f, stop = some (time, f) → c < time) (arrivals : List (Nat × Arrival))
    (r : Reading) (now : Nat) (s : Stream) (hnow : now ≤ c) :
    Cuts c (·.1) id (await (some (c, .cancelled)) r now s arrivals)
      (await stop r now s arrivals) := by
  refine (await_stops arrivals r now s hnow).later ?_
  cases stop with
  | none => exact .inl rfl
  | some stop =>
    have hlater := hstop stop.1 stop.2 rfl
    exact .inr ⟨stop.1, stop.2, hlater, await_stops arrivals r now s (hnow.trans hlater.le)⟩

/-- The same line under a cancellation. -/
def cancelledAt (c : Nat) (l : Line) : Line := { l with cancelAt := some c }

variable {l : Line} {c : Nat}

lemma read_cuts (hl : l.cancelAt = none) (hnow : l.now ≤ c) (limit : Option Int) (r : Reading) :
    Cuts c (·.now) (cancelledAt c) ((l.cancelledAt c).read limit r) (l.read limit r) := by
  by_cases hlimit : runOut limit
  · simp only [read, if_pos hlimit]
    exact .inl ⟨Ended.failure_ne_never _, hnow, rfl⟩
  simp only [read, if_neg hlimit, hl, cancelledAt]
  obtain ⟨brk, f, hbrk, hc, hn⟩ | ⟨hc, hlate⟩ := breakOff_cases l.now limit c
  · obtain ⟨hends, hearly⟩ := await_le (f := f) hbrk l.arrivals r l.now l.stream hnow
    simp only [hc, hn]
    exact .inl ⟨hends, hearly, rfl⟩
  · obtain ⟨hends, hearly, heq⟩ | ⟨hlater, hcancelled, hnow'⟩ :=
      await_cuts hlate l.arrivals r l.now l.stream hnow
    · simp only [hc, heq]
      exact .inl ⟨hends, hearly, rfl⟩
    · simp only [hc]
      exact .inr ⟨hlater, hcancelled, hnow'⟩

/-! ### Writing -/

lemma write_cuts (hl : l.cancelAt = none) (hnow : l.now ≤ c) (limit : Option Int) (out : Bytes) :
    Cuts c (·.now) (cancelledAt c) ((l.cancelledAt c).write limit out) (l.write limit out) := by
  by_cases hlimit : runOut limit
  · rw [write_of_runOut hlimit, write_of_runOut hlimit]
    exact .inl ⟨Ended.failure_ne_never _, hnow, rfl⟩
  rcases h : l.stream.write out with ⟨f | ⟨delay, fault⟩, stream⟩
  · rw [write_of_error hlimit h, write_of_error (l := l.cancelledAt c) hlimit h]
    exact .inl ⟨Ended.failure_ne_never _, hnow, rfl⟩
  · rw [write_of_ok hlimit h, write_of_ok (l := l.cancelledAt c) hlimit h, hl]
    obtain ⟨hends, hearly, heq⟩ | ⟨hlater, hcancelled, hnow'⟩ := pass_cuts hnow delay limit
    · simp only [cancelledAt, heq]
      exact .inl ⟨mt landing_eq_never.mp hends, hearly, rfl⟩
    · simp only [cancelledAt, hcancelled]
      exact .inr ⟨hlater.imp landing_eq_never.mpr id, rfl, hnow'⟩

end Line

/-! ### The handshake -/

lemma Handshake.run_cuts (step deadline : Option Int) {c : Nat} (h : Handshake α) :
    ∀ l : Line, l.cancelAt = none → l.now ≤ c →
      Cuts c (·.now) (Line.cancelledAt c) (h.run step deadline (l.cancelledAt c))
        (h.run step deadline l) := by
  induction h with
  | done a => exact fun l _ hnow => .inl ⟨Ended.value_ne_never a, hnow, rfl⟩
  | fail e => exact fun l _ hnow => .inl ⟨Ended.failure_ne_never _, hnow, rfl⟩
  | note n next ih => exact fun l hl hnow => ih (l.tell n) hl hnow
  | send request out next ih =>
    intro l hl hnow
    have hwrite := l.write_follows (limitAt step deadline l.now) out
    rw [run_send, run_send]
    exact (Line.write_cuts hl hnow (limitAt step deadline l.now) out).andThen rfl
      (fun _ => ⟨rfl, rfl⟩) (fun _ => rfl) (fun _ _ => (next.run_follows step deadline _).now)
      fun _ _ hearly => ih _ (hwrite.cancelAt.trans hl) hearly
  | receive part count next ih =>
    intro l hl hnow
    have hread := l.read_follows (limitAt step deadline l.now) (.exactly count)
    rw [run_receive, run_receive]
    exact (Line.read_cuts hl hnow (limitAt step deadline l.now) (.exactly count)).andThen rfl
      (fun _ => ⟨rfl, rfl⟩) (fun _ => rfl)
      (fun bs _ => ((next bs).run_follows step deadline _).now)
      fun bs _ hearly => ih bs _ (hread.cancelAt.trans hl) hearly

/-! ### The relay -/

namespace Dialer

variable {l : Line} {c : Nat} (d : Dialer)

/-- The same outcome of an opening under a cancellation. -/
def Reach.cancelledAt (c : Nat) : Reach → Reach
  | (calls, handle, l) => (calls, handle, l.cancelledAt c)

/-- Checking a handle takes no time and does not look at the cancellation. -/
lemma checkHandle_cancelledAt (script : EndpointScript) (host : Text) (bound target : Address)
    (l : Line) (c : Nat) :
    d.checkHandle script host bound target (l.cancelledAt c) =
      ((d.checkHandle script host bound target l).1, (d.checkHandle script host bound target l).2.1,
        (d.checkHandle script host bound target l).2.2.cancelledAt c) := by
  unfold checkHandle
  cases script.kind with
  | endpoint socket =>
    simp only
    split_ifs <;> rfl
  | unmade => rfl
  | foreign closable => rfl

lemma openedRelay_cuts (script : EndpointScript) (bound target : Address) (hnow : l.now ≤ c) :
    Cuts c (fun r : Reach => r.2.2.now) (Reach.cancelledAt c)
      (d.openedRelay script bound target (l.cancelledAt c))
      (d.openedRelay script bound target l) := by
  unfold openedRelay
  cases script.fault with
  | some f => exact .inl ⟨Ended.failure_ne_never _, hnow, rfl⟩
  | none =>
    simp only [checkHandle_cancelledAt]
    exact .inl ⟨d.checkHandle_ends script _ bound target l,
      (d.checkHandle_now script _ bound target l).le.trans hnow, rfl⟩

lemma openRelay_cuts (script : EndpointScript) (deadline : Option Int) (bound target : Address)
    (hl : l.cancelAt = none) (hnow : l.now ≤ c) :
    Cuts c (fun r : Reach => r.2.2.now) (Reach.cancelledAt c)
      (d.openRelay script deadline bound target (l.cancelledAt c))
      (d.openRelay script deadline bound target l) := by
  rw [openRelay_eq, openRelay_eq, show (l.cancelledAt c).now = l.now from rfl, hl]
  split_ifs
  · exact .inl ⟨Ended.failure_ne_never _, hnow, rfl⟩
  · exact .inl ⟨Ended.failure_ne_never _, hnow, rfl⟩
  · exact (pass_cuts hnow script.delay _).andThen rfl (fun _ => ⟨rfl, rfl⟩) (fun _ => rfl)
      (fun _ _ => (d.openedRelay_follows script bound target
        (Line.catchUp { d.openingLine bound l with now := _ })).now)
      fun _ _ hearly => d.openedRelay_cuts script bound target hearly

/-! ### The dial -/

lemma established_cuts (script : Script) (network : Network) (target : Address)
    (deadline : Option Int) (bound : Address) (hl : l.cancelAt = none) (hnow : l.now ≤ c) :
    Cuts c (fun r : Reach => r.2.2.now) (Reach.cancelledAt c)
      (d.established script network target deadline bound (l.cancelledAt c))
      (d.established script network target deadline bound l) := by
  cases network with
  | tcp => exact .inl ⟨Ended.value_ne_never _, hnow, rfl⟩
  | udp => exact d.openRelay_cuts script.endpoint deadline bound target hl hnow

lemma converse_cuts (script : Script) (network : Network) (target : Address)
    (deadline : Option Int) (hl : l.cancelAt = none) (hnow : l.now ≤ c) :
    Cuts c (fun r : Reach => r.2.2.now) (Reach.cancelledAt c)
      (d.converse script network target deadline (l.cancelledAt c))
      (d.converse script network target deadline l) := by
  have hrun := (Handshake.negotiate network target).run_follows d.stepLimit deadline l
  rw [converse_eq, converse_eq]
  exact (Handshake.run_cuts d.stepLimit deadline (.negotiate network target) l hl hnow).andThen rfl
    (fun _ => ⟨rfl, rfl⟩) (fun _ => rfl)
    (fun bound _ => (d.established_follows script network target deadline bound _).now)
    fun bound _ hearly => d.established_cuts script network target deadline bound
      (hrun.cancelAt.trans hl) hearly

lemma conclude_cancelledAt (target : Address) (outcome : Ended Session) (r : Reach) (c : Nat) :
    d.conclude target outcome (r.cancelledAt c) = d.conclude target outcome r := by
  rcases outcome with _ | f | _
  · rfl
  · cases f <;> rfl
  · rfl

variable (script : Script) (network : Network) (target : Address) (limit : Option Int)

lemma openedDial_cuts {now : Nat} (hcancel : script.cancelAt = none) (hnow : now ≤ c)
    (notes : List Note) :
    Cuts c Trace.now id
      (d.openedDial { script with cancelAt := some c } network target limit notes now)
      (d.openedDial script network target limit notes now) := by
  unfold openedDial
  simp only
  cases script.stream.fault with
  | some f => exact .inl ⟨Ended.failure_ne_never _, hnow, rfl⟩
  | none =>
    refine (d.converse_cuts script network target limit (l := openedLine script now notes) hcancel
      hnow).map (d.conclude target) (fun outcome r => d.abandonLine_now target outcome r.2.2)
      fun outcome r => d.conclude_cancelledAt target outcome r c

lemma dialTarget_cuts (hcancel : script.cancelAt = none) :
    Cuts c Trace.now id
      ((d.dialTarget { script with cancelAt := some c } network target limit).outcome,
        (d.dialTarget { script with cancelAt := some c } network target limit).trace)
      ((d.dialTarget script network target limit).outcome,
        (d.dialTarget script network target limit).trace) := by
  rw [dialTarget_eq, dialTarget_eq, hcancel]
  split_ifs
  · exact .inl ⟨Ended.failure_ne_never _, Nat.zero_le c, rfl⟩
  · exact .inl ⟨Ended.failure_ne_never _, Nat.zero_le c, rfl⟩
  · exact (pass_cuts (Nat.zero_le c) script.stream.delay _).andThen rfl (fun _ => ⟨rfl, rfl⟩)
      (fun _ => rfl) (fun _ _ => d.le_openedDial script network target limit _ _)
      fun _ _ hearly => d.openedDial_cuts script network target limit hcancel hearly _

/-- A cancelled dial is the undisturbed one, or it ends when it is cancelled. -/
lemma dial_cuts (network address : Text) (hcancel : script.cancelAt = none) :
    Cuts c Trace.now id
      ((d.dial { script with cancelAt := some c } network address limit).outcome,
        (d.dial { script with cancelAt := some c } network address limit).trace)
      ((d.dial script network address limit).outcome,
        (d.dial script network address limit).trace) := by
  unfold dial
  cases Network.ofName? network with
  | none => exact .inl ⟨Ended.failure_ne_never _, Nat.zero_le c, rfl⟩
  | some network =>
    cases Address.parse address with
    | error f => exact .inl ⟨Ended.failure_ne_never _, Nat.zero_le c, rfl⟩
    | ok target => exact d.dialTarget_cuts script network target limit hcancel

end Dialer

end Socks5
