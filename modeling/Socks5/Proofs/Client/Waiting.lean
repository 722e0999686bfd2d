import Socks5.Client.Exchange
import Socks5.Proofs.Session.Clock

/-!
# Waiting for a result

The result of an operation is among those that its start has given, or it comes up at one of the
moments that follow, and within the time limit of the operation if it has one. Whoever waits for it
goes through just so many moments as there are things to happen, and this is enough: after those
nothing would come up any more.
-/

namespace Socks5

namespace Session

/-- An operation has a result at once, among those that its start has given, or at one of the
moments that follow; and this is the session then. -/
inductive Yields (t : Ticket) (r : Result) : List (Ticket × Result) × Session → Session → Prop
  | now {done : List (Ticket × Result)} {s : Session}
      (h : (done.find? (·.1 = t)).map (·.2) = some r) : Yields t r (done, s) s
  | later {done : List (Ticket × Result)} {s s' : Session} {time : Nat}
      (hnone : done.find? (·.1 = t) = none) (hnext : s.nextTime? = some time)
      (h : Yields t r (s.tick time) s') : Yields t r (done, s) s'

variable {t : Ticket} {r : Result} {started : List (Ticket × Result) × Session}
  {done : List (Ticket × Result)} {s s' : Session} {time : Nat}

/-- Of results that were started only the first one counts. -/
lemma Yields.of_singleton {r' : Result} (h : Yields t r ([(t, r')], s) s') : r' = r ∧ s' = s := by
  cases h with
  | now h => simpa using h
  | later hnone => simp at hnone

/-- If nothing happens at the next moment then nothing comes up any more. -/
lemma not_yields_of_stuck (hnext : s.nextTime? = some time)
    (hstuck : s.tick time = ([], { s with now := time })) : ¬ Yields t r (s.tick time) s' := by
  intro h
  generalize hstarted : s.tick time = started at h
  induction h with
  | now h =>
    cases hstarted.symm.trans hstuck
    cases h
  | later _ hnext' _ ih =>
    cases hstarted.symm.trans hstuck
    obtain rfl := Option.some.inj (hnext.symm.trans hnext')
    exact ih rfl

/-- What the moments that follow keep, and what they say of each result, holds of the result that
comes up. -/
lemma Yields.induct {P : Session → Prop} {Q : Session → Ticket × Result → Prop}
    (htick : ∀ {s} time, P s → P (s.tick time).2 ∧ ∀ c ∈ (s.tick time).1, Q (s.tick time).2 c)
    (h : Yields t r started s') (hP : P started.2) (hQ : ∀ c ∈ started.1, Q started.2 c) :
    P s' ∧ Q s' (t, r) := by
  induction h with
  | @now done s h =>
    obtain ⟨⟨u, r'⟩, hfind, rfl⟩ := Option.map_eq_some_iff.mp h
    obtain rfl : u = t := by simpa using List.find?_some hfind
    exact ⟨hP, hQ _ (List.mem_of_find?_eq_some hfind)⟩
  | later _ _ _ ih =>
    obtain ⟨hP', hQ'⟩ := htick _ hP
    exact ih hP' hQ'

/-! ### In time -/

/-- Something happens, and an operation keeps waiting unless it has its result. -/
def KeepsWaiting (f : Session → List (Ticket × Result) × Session) : Prop :=
  ∀ s, ∀ p ∈ s.pending, (∀ c ∈ (f s).1, c.1 ≠ p.ticket) → p ∈ (f s).2.pending

lemma finish_keepsWaiting (done : List (Completion Outcome)) : KeepsWaiting (finish done) := by
  intro s p hp hother
  refine List.mem_filter.mpr ⟨hp, List.all_eq_true.mpr fun c hc => decide_eq_true ?_⟩
  exact hother _ (List.mem_map_of_mem hc)

lemma onControl_keepsWaiting (a : Arrival) : KeepsWaiting (onControl a) := by
  intro s p hp
  unfold onControl
  split
  · exact finish_keepsWaiting _ _ p hp
  · exact finish_keepsWaiting _ _ p hp
  · exact fun _ => hp

lemma onEndpoint_keepsWaiting (f : DatagramEndpoint → List (Completion Bytes) × DatagramEndpoint) :
    KeepsWaiting (onEndpoint f) := by
  intro s p hp
  unfold onEndpoint
  split
  · exact fun _ => hp
  · exact finish_keepsWaiting _ _ p hp
  · exact finish_keepsWaiting _ _ p hp

lemma onStream_keepsWaiting (f : Stream → List (Completion Bytes) × Stream) :
    KeepsWaiting (onStream f) := by
  intro s p hp
  unfold onStream
  split
  · exact finish_keepsWaiting _ _ p hp
  · exact fun _ => hp

lemma onRelay_keepsWaiting (f : Relay → List (Completion Outcome) × Relay) :
    KeepsWaiting (onRelay f) := by
  intro s p hp
  unfold onRelay
  split
  · exact finish_keepsWaiting _ _ p hp
  · exact fun _ => hp

lemma abandon_keepsWaiting (t : Ticket) (f : Failure) : KeepsWaiting (abandon t f) := by
  intro s p hp
  unfold abandon
  split_ifs
  · exact finish_keepsWaiting _ _ p hp
  · split
    · split
      · exact finish_keepsWaiting _ _ p hp
      · exact fun _ => hp
    · split
      · exact finish_keepsWaiting _ _ p hp
      · exact fun _ => hp
    · split
      · exact finish_keepsWaiting _ _ p hp
      · exact fun _ => hp

/-- It is this moment, and the operation waits unless it has its result. -/
def WaitsAt (p : Pending) (moment : Nat) (done : List (Ticket × Result)) (s : Session) : Prop :=
  s.now = moment ∧ ((∀ c ∈ done, c.1 ≠ p.ticket) → p ∈ s.pending)

lemma WaitsAt.andThen {p : Pending} {moment : Nat} (h : s.WaitsAt p moment done)
    {f : Session → List (Ticket × Result) × Session} (hf : KeepsWaiting f)
    (hnow : (f s).2.now = s.now) : (f s).2.WaitsAt p moment (done ++ (f s).1) := by
  refine ⟨hnow.trans h.1, fun hother => ?_⟩
  obtain ⟨hbefore, hthen⟩ := List.forall_mem_append.mp hother
  exact hf s p (h.2 hbefore) hthen

lemma waitsAt_tick {p : Pending} (hp : p ∈ s.pending) (time : Nat) :
    (s.tick time).2.WaitsAt p time (s.tick time).1 := by
  apply tick_induct (P := fun done s => s.WaitsAt p time done)
  · exact ⟨rfl, fun _ => hp⟩
  · exact fun a _ _ s' hs => hs.andThen (onControl_keepsWaiting a.2) (Abides.onControl a.2 s').now
  · exact fun d _ _ s' hs => hs.andThen (onEndpoint_keepsWaiting _) (Abides.onEndpoint _ s').now
  · exact fun _ _ _ _ hs => hs.andThen (finish_keepsWaiting _) rfl
  · exact fun q _ s' hs => hs.andThen (abandon_keepsWaiting _ _) (Abides.abandon _ _ s').now

lemma nextTime?_le {p : Pending} {deadline : Nat} (hnext : s.nextTime? = some time)
    (hp : p ∈ s.pending) (hdeadline : p.deadline = some deadline) : time ≤ deadline := by
  refine (List.min?_eq_some_iff.mp hnext).2 deadline (List.mem_append_right _ ?_)
  exact List.mem_filterMap.mpr ⟨p, hp, hdeadline⟩

/-- An operation with a deadline has its result by then. -/
lemma Yields.now_le {p : Pending} {deadline : Nat} (hdeadline : p.deadline = some deadline)
    (h : Yields p.ticket r started s') :
    ∀ {moment : Nat}, started.2.WaitsAt p moment started.1 → moment ≤ deadline →
      s'.now ≤ deadline := by
  -- as long as there is no result the operation waits, so the next moment is due by its deadline
  induction h with
  | now _ =>
    rintro moment ⟨rfl, -⟩ hmoment
    exact hmoment
  | @later done s s' time hnone hnext _ ih =>
    rintro moment ⟨-, hwaits⟩ -
    have hp := hwaits fun c hc hticket => List.find?_eq_none.mp hnone c hc (by simpa using hticket)
    exact ih (waitsAt_tick hp time) (nextTime?_le hnext hp hdeadline)

/-- An operation with a time limit has its result within it. -/
lemma Yields.within {f : Session → List (Ticket × Result) × Session} {shape : Shape} {l : Int}
    (hf : KeepsWaiting f) (hnow : ∀ s, (f s).2.now = s.now)
    (h : Yields t r (s.startWithin t shape (some l) f) s') : s'.now ≤ s.now + l.toNat := by
  unfold startWithin at h
  by_cases hl : l ≤ 0
  · simp only [if_pos hl, instantly] at h
    obtain ⟨-, rfl⟩ := h.of_singleton
    exact Nat.le_add_right _ _
  · simp only [if_neg hl, start] at h
    let p : Pending := ⟨t, shape, some (s.now + l.toNat)⟩
    refine Yields.now_le (p := p) rfl h ⟨hnow _, ?_⟩ (Nat.le_add_right _ _)
    exact hf _ p (List.mem_append_right _ List.mem_cons_self)

end Session

namespace Client.Talk

open Session (Yields)

variable {t : Ticket} {r : Result} {done : List (Ticket × Result)} {s s' : Session} {talk : Talk}

/-- How a wait ends that comes to a result. -/
def ended : Result → Ended Answer
  | .ok a => .value a
  | .error f => .failure f

lemma await_of_found {u : Ticket} (h : done.find? (·.1 = t) = some (u, r)) (fuel : Nat)
    (talk : Talk) : await t fuel done talk = (ended r, talk) := by
  unfold await
  rw [h]
  cases r <;> rfl

lemma await_later {time : Nat} (hnone : done.find? (·.1 = t) = none)
    (hnext : talk.session.nextTime? = some time) (fuel : Nat) :
    await t (fuel + 1) done talk =
      await t fuel (talk.session.tick time).1 (talk.goOn (talk.session.tick time).2) := by
  conv_lhs => unfold await
  simp only [hnone, hnext]

lemma await_never (hnone : done.find? (·.1 = t) = none) {fuel : Nat}
    (h : fuel = 0 ∨ talk.session.nextTime? = none) : await t fuel done talk = (.never, talk) := by
  unfold await
  rw [hnone]
  rcases h with rfl | hnext
  · rfl
  · cases fuel with
    | zero => rfl
    | succ fuel => simp only [hnext]

/-- Whoever waits through so many moments as there are things to happen gets the result. -/
lemma await_of_yields {started : List (Ticket × Result) × Session} (h : Yields t r started s') :
    ∀ {fuel : Nat} {talk : Talk}, talk.session = started.2 → started.2.timers ≤ fuel →
      (await t fuel started.1 talk).1 = ended r ∧
        (await t fuel started.1 talk).2.session = s' := by
  induction h with
  | @now done s h =>
    intro fuel talk hsession _
    obtain ⟨⟨u, r'⟩, hfind, rfl⟩ := Option.map_eq_some_iff.mp h
    rw [await_of_found hfind]
    exact ⟨rfl, hsession⟩
  | @later done s s' time hnone hnext h ih =>
    rintro fuel talk rfl htimers
    -- a moment at which something happens leaves fewer things that are still to happen
    have henough : talk.session.timers ≤ fuel := htimers
    obtain hstuck | hlt := talk.session.tick_cases time
    · exact absurd h (Session.not_yields_of_stuck hnext hstuck)
    · obtain ⟨fuel, rfl⟩ := Nat.exists_eq_succ_of_ne_zero (n := fuel) (by omega)
      rw [await_later hnone hnext]
      exact ih rfl (Nat.le_of_lt_succ (Nat.lt_of_lt_of_le hlt henough))

/-- Whoever gets a result while waiting gets one that has come up. -/
lemma yields_of_await (fuel : Nat) : ∀ {done : List (Ticket × Result)} {talk : Talk},
    (await t fuel done talk).1 = ended r →
      Yields t r (done, talk.session) (await t fuel done talk).2.session := by
  have hended (r' : Result) (h : ended r' = ended r) : r' = r := by
    cases r' <;> cases r <;> cases h <;> rfl
  have hnever : Ended.never ≠ ended r := by cases r <;> exact nofun
  induction fuel with
  | zero =>
    intro done talk h
    cases hfind : done.find? (·.1 = t) with
    | none =>
      rw [await_never hfind (.inl rfl)] at h
      exact absurd h hnever
    | some c =>
      rw [await_of_found hfind] at h ⊢
      exact .now (by simp [hfind, hended _ h])
  | succ fuel ih =>
    intro done talk h
    cases hfind : done.find? (·.1 = t) with
    | none =>
      cases hnext : talk.session.nextTime? with
      | none =>
        rw [await_never hfind (.inr hnext)] at h
        exact absurd h hnever
      | some time =>
        rw [await_later hfind hnext] at h ⊢
        exact .later hfind hnext (ih h)
    | some c =>
      rw [await_of_found hfind] at h ⊢
      exact .now (by simp [hfind, hended _ h])

/-- A step that yields a result is carried out until this comes up. -/
lemma perform_of_yields {step : Step} (h : Yields t r (talk.session.perform t step) s') :
    ∃ notes, talk.perform t step = (ended r, ⟨s', notes⟩) := by
  let started : Talk := { talk with session := (talk.session.perform t step).2 }
  have hsession : started.session = (talk.session.perform t step).2 := rfl
  obtain ⟨hended, hsession⟩ := await_of_yields h hsession (Nat.le_refl _)
  exact ⟨_, Prod.ext hended (congrArg (Talk.mk · _) hsession)⟩

/-- What a step is carried out to is what it yields. -/
lemma yields_of_perform {step : Step} {talk' : Talk}
    (h : talk.perform t step = (ended r, talk')) :
    Yields t r (talk.session.perform t step) talk'.session := by
  obtain rfl : _ = talk' := congrArg Prod.snd h
  exact yields_of_await _ (congrArg Prod.fst h)

end Client.Talk

end Socks5
