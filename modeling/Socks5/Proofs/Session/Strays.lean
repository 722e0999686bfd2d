import Mathlib.Data.Nat.Find
import Socks5.Proofs.Session.Guarded

/-!
# Stray octets on the control connection

As long as the control connection of a relay has not come to its end, octets that arrive there are
thrown away by the watcher, or else the connection is closed on this side and nobody looks. So two
runs of a relay that differ in such octets only look the same.
-/

namespace Socks5

/-- Who gives up leaves the control connection alone. -/
lemma Relay.abandon?_control {t : Ticket} {r : Relay} {p : List (Completion Outcome) × Relay}
    (h : r.abandon? t = some p) : p.2.control = r.control := by
  unfold abandon? at h
  split_ifs at h
  · cases h
    rfl
  · obtain ⟨e, -, rfl⟩ := Option.map_eq_some_iff.mp h
    rfl

/-- Whether a step only brings octets on the control connection. -/
def Step.isStray : Step → Bool
  | control a => a.isData
  | _ => false

namespace Session

variable {settled : Prop} {next t : Ticket} {due : List (Nat × Arrival)} {s s' : Session}
  {r r' : Relay}

/-! ### Two sessions that look the same -/

/-- What arrives besides octets. -/
def tidings (arrivals : List (Nat × Arrival)) : List (Nat × Arrival) :=
  arrivals.filter (!·.2.isData)

/-- Two sessions differ only in octets on the control connection. -/
structure Alike (s s' : Session) : Prop where
  quiet : s.quiet = s'.quiet
  arrivals : tidings s.arrivals = tidings s'.arrivals

lemma Alike.trans {s'' : Session} (h : s.Alike s') (h' : s'.Alike s'') : s.Alike s'' :=
  ⟨h.quiet.trans h'.quiet, h.arrivals.trans h'.arrivals⟩

/-- Of what arrives on the control connection only tidings have an effect. -/
lemma inTurn_tidings (due : List (Nat × Arrival)) : ∀ {s r},
    Guarded settled next due r s →
      (inTurn (fun a => onControl a.2) due s).1 =
          (inTurn (fun a => onControl a.2) (tidings due) s).1 ∧
        (inTurn (fun a => onControl a.2) due s).2.quiet =
          (inTurn (fun a => onControl a.2) (tidings due) s).2.quiet := by
  induction due with
  | nil => exact fun _ => ⟨rfl, rfl⟩
  | cons a rest ih =>
    intro s r h
    obtain ⟨time, a⟩ := a
    obtain ⟨r', h'⟩ := h.onControl
    obtain ⟨hdone, hleft⟩ := ih h'
    by_cases hdata : a.isData
    · -- Nothing comes of octets, and the rest is the same for a session without them.
      obtain ⟨bs, rfl⟩ : ∃ bs, a = .data bs := by
        cases a with
        | data bs => exact ⟨bs, rfl⟩
        | _ => cases hdata
      have hover : ¬ r.control.Over := fun hover => nomatch h.spent hover
      obtain ⟨hnone, hquiet⟩ := h.onControl_data hover bs
      have hsame := same_inTurn (fun a : Nat × Arrival => same_onControl a.2) (tidings rest)
      obtain ⟨hdone', hleft'⟩ := (hsame _).eq (hsame s) hquiet
      have htidings : tidings ((time, .data bs) :: rest) = tidings rest := rfl
      rw [htidings, inTurn_cons, hnone, List.nil_append]
      exact ⟨hdone.trans hdone', hleft.trans hleft'⟩
    · have htidings : tidings ((time, a) :: rest) = (time, a) :: tidings rest := by
        simp [tidings, hdata]
      rw [htidings]
      exact ⟨congrArg (_ ++ ·) hdone, hleft⟩

lemma tidings_filter (p : Nat × Arrival → Bool) (arrivals : List (Nat × Arrival)) :
    tidings (arrivals.filter p) = (tidings arrivals).filter p := by
  simp only [tidings, List.filter_filter, Bool.and_comm]

/-- The rest of two sessions is the same. -/
lemma rest_eq (h : s.quiet = s'.quiet) : s.now = s'.now ∧ s.incoming = s'.incoming ∧
    s.pending = s'.pending ∧ s.draining = s'.draining := by
  obtain ⟨_, _, _, _, _, _, _, _⟩ := s
  obtain ⟨_, _, _, _, _, _, _, _⟩ := s'
  simp only [quiet, Session.mk.injEq] at h
  obtain ⟨rfl, -, -, rfl, rfl, rfl, -⟩ := h
  exact ⟨rfl, rfl, rfl, rfl⟩

/-- What happens at a moment looks the same, until somebody is late. -/
lemma Alike.events (h : s.Alike s') (hs : s.Guarded settled next [] r)
    (hs' : s'.Guarded settled next [] r') (t : Nat) :
    (s.events t).1 = (s'.events t).1 ∧ (s.events t).2.quiet = (s'.events t).2.quiet := by
  obtain ⟨-, hincoming, -, hdraining⟩ := rest_eq h.quiet
  have hmoved : (s.moved t).quiet = (s'.moved t).quiet := by
    change s.quiet.moved t = s'.quiet.moved t
    rw [h.quiet]
  have htidings :
      tidings (s.arrivals.filter (·.1 ≤ t)) = tidings (s'.arrivals.filter (·.1 ≤ t)) := by
    rw [tidings_filter, tidings_filter, h.arrivals]
  obtain ⟨r₁, hguarded, -⟩ : ∃ r₁, (s.moved t).Guarded settled next _ r₁ ∧ _ :=
    @Lasting.moves _ (guarded_lasting settled next) [] s t ⟨r, hs, by simp⟩
  obtain ⟨r₁', hguarded', -⟩ : ∃ r₁, (s'.moved t).Guarded settled next _ r₁ ∧ _ :=
    @Lasting.moves _ (guarded_lasting settled next) [] s' t ⟨r', hs', by simp⟩
  have hcontrol := same_inTurn (fun a : Nat × Arrival => same_onControl a.2)
    (tidings (s.arrivals.filter (·.1 ≤ t)))
  have hsignals := same_inTurn
    (fun g : Nat × Signal => same_onEndpoint fun e => e.signal g.2)
    (s.incoming.filter (·.1 ≤ t))
  have hdrained := same_inTurn same_drained (s.draining.filter (·.time ≤ t))
  obtain ⟨hdone₁, hleft₁⟩ := inTurn_tidings _ hguarded
  obtain ⟨hdone₂, hleft₂⟩ := (hcontrol (s.moved t)).eq (hcontrol _) hmoved
  obtain ⟨hdone₃, hleft₃⟩ := inTurn_tidings _ hguarded'
  rw [← htidings] at hdone₃ hleft₃
  obtain ⟨hdone₄, hleft₄⟩ := (hsignals _).eq (hsignals _)
    (hleft₁.trans (hleft₂.trans hleft₃.symm))
  obtain ⟨hdone₅, hleft₅⟩ := (hdrained _).eq (hdrained _) hleft₄
  unfold Session.events
  simp only [← hincoming, ← hdraining]
  refine ⟨?_, hleft₅⟩
  rw [hdone₁.trans (hdone₂.trans hdone₃.symm), hdone₄, hdone₅]

/-- What happens at a moment looks the same. -/
lemma Alike.tick (h : s.Alike s') (hs : s.Guarded settled next [] r)
    (hs' : s'.Guarded settled next [] r') (t : Nat) :
    (s.tick t).1 = (s'.tick t).1 ∧ (s.tick t).2.Alike (s'.tick t).2 := by
  obtain ⟨hdone, hleft⟩ := h.events hs hs' t
  obtain ⟨-, -, hpending, -⟩ := rest_eq hleft
  have hlate := same_inTurn (fun p : Pending => same_abandon p.ticket (.fault .timeout))
    ((s.events t).2.pending.filter fun p => p.deadline.any (· ≤ t))
  obtain ⟨hdone', hleft'⟩ := (hlate _).eq (hlate _) hleft
  have harrivals : tidings (s.tick t).2.arrivals = tidings (s'.tick t).2.arrivals := by
    rw [(s.tick_sheds t).arrivals, (s'.tick_sheds t).arrivals, moved, moved, tidings_filter,
      tidings_filter, h.arrivals]
  rw [tick_eq, tick_eq] at harrivals ⊢
  simp only [← hpending] at harrivals ⊢
  refine ⟨?_, hleft', harrivals⟩
  rw [hdone, hdone']

/-- Two sessions in which nothing happens up to a moment look the same then. -/
lemma Alike.rest {fuel fuel' moment : Nat} (h : s.Alike s')
    (hrun : s.runUntil fuel moment = ([], { s with now := moment }))
    (hrun' : s'.runUntil fuel' moment = ([], { s' with now := moment })) :
    (s.runUntil fuel moment).1 = (s'.runUntil fuel' moment).1 ∧
      (s.runUntil fuel moment).2.Alike (s'.runUntil fuel' moment).2 := by
  rw [hrun, hrun']
  refine ⟨rfl, ?_, h.arrivals⟩
  change { s.quiet with now := moment } = { s'.quiet with now := moment }
  rw [h.quiet]

/-- As time passes two sessions go on looking the same. -/
lemma Alike.runUntil (moment n : Nat) : ∀ {fuel fuel' s s' r r'}, fuel + fuel' ≤ n →
    timers s ≤ fuel → timers s' ≤ fuel' → Guarded settled next [] r s →
    Guarded settled next [] r' s' → Alike s s' →
      (s.runUntil fuel moment).1 = (s'.runUntil fuel' moment).1 ∧
        (s.runUntil fuel moment).2.Alike (s'.runUntil fuel' moment).2 := by
  induction n with
  | zero =>
    intro fuel fuel' s s' r r' hn _ _ _ _ h
    obtain ⟨rfl, rfl⟩ : fuel = 0 ∧ fuel' = 0 := by omega
    exact h.rest rfl rfl
  | succ n ih =>
    intro fuel fuel' s s' r r' hn hfuel hfuel' hs hs' h
    by_cases hany : ∃ t, t ≤ moment ∧ (s.nextTime? = some t ∨ s'.nextTime? = some t)
    · -- The first moment at which something happens to one of the two
      obtain ⟨hle, hnext⟩ := Nat.find_spec hany
      have hleast (u) (hu : s.nextTime? = some u ∨ s'.nextTime? = some u) : Nat.find hany ≤ u := by
        by_contra hlt
        exact Nat.find_min hany (Nat.not_le.mp hlt) ⟨by omega, hu⟩
      generalize Nat.find hany = t at hle hnext hleast
      have hfirst (u) (hu : s.nextTime? = some u) := hleast u (.inl hu)
      have hfirst' (u) (hu : s'.nextTime? = some u) := hleast u (.inr hu)
      obtain ⟨rest, hrest₁, htimers, hless, hrun⟩ := runUntil_first hle hfirst hfuel
      obtain ⟨rest', hrest₁', htimers', hless', hrun'⟩ := runUntil_first hle hfirst' hfuel'
      obtain ⟨hdone, hleft⟩ := h.tick hs hs' t
      by_cases hfewer : rest + rest' ≤ n
      · obtain ⟨r₁, hs₁⟩ := hs.tick t
        obtain ⟨r₁', hs₁'⟩ := hs'.tick t
        obtain ⟨hmore, hleft'⟩ := ih hfewer htimers htimers' hs₁ hs₁' hleft
        rw [hrun, hrun', hdone, hmore]
        exact ⟨rfl, hleft'⟩
      · -- Nothing happens: somebody is late who cannot give up, in both of them.
        have hstuck := hless.resolve_left (by omega)
        have hstuck' := hless'.resolve_left (by omega)
        obtain ⟨-, -, hpending, -⟩ := rest_eq h.quiet
        have hlate : t ∈ s.pending.filterMap (·.deadline) := by
          obtain hnext | hnext := hnext
          · exact late_of_stuck hnext hstuck
          · rw [hpending]
            exact late_of_stuck hnext hstuck'
        refine h.rest ?_ ?_
        · exact runUntil_of_stuck hle fuel (nextTime?_of_deadline hfirst hlate) hstuck
        · rw [hpending] at hlate
          exact runUntil_of_stuck hle fuel' (nextTime?_of_deadline hfirst' hlate) hstuck'
    · refine h.rest (runUntil_of_later (fun u hu => ?_) fuel)
        (runUntil_of_later (fun u hu => ?_) fuel')
      · exact Nat.not_le.mp fun hle => hany ⟨u, hle, .inl hu⟩
      · exact Nat.not_le.mp fun hle => hany ⟨u, hle, .inr hu⟩

lemma Alike.advance (h : s.Alike s') (hs : s.Guarded settled next [] r)
    (hs' : s'.Guarded settled next [] r') (ticks : Nat) :
    (s.advance ticks).1 = (s'.advance ticks).1 ∧
      (s.advance ticks).2.Alike (s'.advance ticks).2 := by
  obtain ⟨hnow, -⟩ := rest_eq h.quiet
  unfold Session.advance
  rw [← hnow]
  exact h.runUntil _ _ le_rfl le_rfl le_rfl hs hs'

/-! ### What is shown -/

/-- All that was written and sent through a relay has been shown. -/
def Shown (s : Session) : Prop := ∃ r, s.connection = .relay r ∧
  s.shownWritten = r.control.written.length ∧ s.shownSent = r.endpoint.sent.length

lemma Shown.view (h : s.Shown) : s.view.2 = s ∧ s.view.1.sent.getD [] = [] := by
  obtain ⟨_, _, _, _, _, _, written, sent⟩ := s
  obtain ⟨r, rfl, rfl, rfl⟩ := h
  refine ⟨rfl, ?_⟩
  simp only [Session.view, endpoint?, Option.filter_some]
  split_ifs <;> simp

lemma shown_view (h : s.connection = .relay r) : s.view.2.Shown :=
  ⟨r, h, by simp [Session.view, control?, h], by simp [Session.view, endpoint?, h]⟩

/-- Nothing is written or sent while time passes. -/
lemma shown_lasting : Lasting fun _ _ _ s => s.Shown where
  rests _ h := h
  moves _ h := h
  control {a} := by
    rintro - - s ⟨r, hr, hwritten, hsent⟩
    simp only [onControl, hr]
    obtain ⟨buffer, hcontrol⟩ := (Relay.settle_keeps { r with control := r.control.feed a.2 }).1
    refine ⟨(r.feed a.2).2, rfl, ?_, ?_⟩
    · have hsame : (r.feed a.2).2.control.written = r.control.written := by
        refine (congrArg Stream.written hcontrol).trans ?_
        cases a.2 <;> rfl
      rw [hsame]
      exact hwritten
    · rw [(Relay.Keeps.feed a.2 r).sent]
      exact hsent
  signal g := by
    rintro ⟨r, hr, hwritten, hsent⟩
    simp only [onEndpoint, hr]
    refine ⟨_, rfl, hwritten, ?_⟩
    change _ = (r.endpoint.signal g).2.sent.length
    rw [r.endpoint.signal_sent g]
    exact hsent
  drained _ h := h
  ages _ h := h
  expires {p} := by
    rintro - - s ⟨r, hr, hwritten, hsent⟩
    unfold abandon
    split_ifs
    · exact ⟨r, hr, hwritten, hsent⟩
    simp only [hr]
    cases habandon : r.abandon? p.ticket with
    | none => exact ⟨r, hr, hwritten, hsent⟩
    | some pair =>
      refine ⟨pair.2, rfl, ?_, ?_⟩
      · rw [Relay.abandon?_control habandon]
        exact hwritten
      · rw [(Relay.Keeps.abandon habandon).sent]
        exact hsent

lemma Shown.begin (h : s.Shown) : s.begin.Shown := by
  obtain ⟨r, hr, hwritten, hsent⟩ := @Lasting.tick _ [] s shown_lasting s.now h
  obtain ⟨buffer, hcontrol⟩ := r.settle_keeps.1
  simp only [Session.begin, onRelay, hr]
  refine ⟨r.settle.2, rfl, ?_, ?_⟩
  · rw [hcontrol]
    exact hwritten
  · rw [(Relay.Keeps.settle r).sent]
    exact hsent

/-! ### Runs -/

section

variable {step : Step}

/-- A step does the same in two sessions that look the same. -/
lemma Alike.perform (h : s.Alike s') (hs : s.Guarded True next [] r)
    (hs' : s'.Guarded True next [] r') (hfair : s.Fair step) (t : Ticket) :
    (s.perform t step).1 = (s'.perform t step).1 ∧
      (s.perform t step).2.Alike (s'.perform t step).2 := by
  by_cases hadvance : ∃ ticks, step = .advance ticks
  · obtain ⟨ticks, rfl⟩ := hadvance
    obtain ⟨hdone, hleft⟩ := h.advance hs hs' ticks
    exact ⟨congrArg (· ++ [((t, .ok .nothing) : Ticket × Result)]) hdone, hleft⟩
  · have hquick (ticks) : step ≠ .advance ticks := fun hstep => hadvance ⟨ticks, hstep⟩
    have hend : step ≠ .atEnd := by
      rintro rfl
      exact hfair
    have hsame := same_perform hs.connection hs.watched.heard t hquick hend
    have hsame' := same_perform hs'.connection hs'.watched.heard t hquick hend
    obtain ⟨hdone, hleft⟩ := hsame.eq hsame' h.quiet
    refine ⟨hdone, hleft, ?_⟩
    rw [(perform_abides t hquick s).arrivals, (perform_abides t hquick s').arrivals, h.arrivals]

lemma Alike.report (h : s.Alike s') (hs : s.Guarded True next [] r)
    (hs' : s'.Guarded True next [] r') (hfair : s.Fair step) (t : Ticket) :
    (s.report t step).1.withoutEnd = (s'.report t step).1.withoutEnd ∧
      (s.report t step).2.Alike (s'.report t step).2 := by
  obtain ⟨hdone, hleft⟩ := h.perform hs hs' hfair t
  obtain ⟨hreport, hquiet⟩ := report_eq hdone hleft.quiet
  exact ⟨hreport, hquiet, hleft.arrivals⟩

/-- Nothing happens but that something has arrived. -/
structure Silent (s : Session) (report : Report) : Prop where
  result : report.result = some (.ok .nothing)
  late : report.late = []
  view : report.view.withoutEnd = s.view.1.withoutEnd
  sent : report.view.sent.getD [] = []

/-- Stray octets change nothing that can be seen. -/
lemma Guarded.report_stray (h : s.Guarded True next [] r) (hshown : s.Shown)
    (hfair : s.Fair step) (hstray : step.isStray = true) (t : Ticket) :
    s.Silent (s.report t step).1 ∧ s.Alike (s.report t step).2 ∧
      ∃ r', (s.report t step).2.Guarded True next [] r' := by
  obtain ⟨bs, rfl⟩ : ∃ bs, step = .control (.data bs) := by
    cases step with
    | control a => cases a with
      | data bs => exact ⟨bs, rfl⟩
      | _ => cases hstray
    | _ => cases hstray
  obtain ⟨r', h'⟩ := h.control hfair
  obtain ⟨hdone, hquiet⟩ := h.onControl_data (hfair r h.connection).1 bs
  obtain ⟨hview, hleft⟩ := view_eq hquiet
  obtain ⟨hnothing, hsent⟩ := hshown.view
  have hperform : (s.perform t (.control (.data bs))).1 = [(t, .ok .nothing)] := by
    simp [Session.perform, outside, hdone]
  refine ⟨⟨?_, ?_, hview, ?_⟩, ⟨?_, ?_⟩, r', h'.congr rfl rfl rfl⟩
  · simp [Session.report, hperform]
  · simp [Session.report, hperform]
  · have hsame := congrArg View.sent hview
    exact (congrArg (Option.getD · []) hsame).trans hsent
  · rw [hnothing] at hleft
    exact hleft.symm
  · exact congrArg tidings (Abides.onControl (.data bs) s).arrivals.symm

end

lemma Alike.begin (h : s.Alike s') (hs : s.Guarded settled next [] r)
    (hs' : s'.Guarded settled next [] r') : s.begin.Alike s'.begin := by
  obtain ⟨hnow, -⟩ := rest_eq h.quiet
  obtain ⟨-, hquiet, harrivals⟩ := h.tick hs hs' s.now
  have hsettle (s : Session) : Same Session.quiet (onRelay Relay.settle) s :=
    same_onRelay fun r _ => r.same_settle
  have hrests (s : Session) : tidings (onRelay Relay.settle s).2.arrivals = tidings s.arrivals :=
    congrArg tidings (Abides.onRelay _ s).arrivals
  unfold Session.begin
  rw [← hnow]
  exact ⟨((hsettle _).eq (hsettle _) hquiet).2,
    (hrests _).trans (harrivals.trans (hrests _).symm)⟩

/-- What is reported of the steps that are no strays, whether or not all input was read. -/
def ownReports : List (Step × Ticket) → Session → List Report
  | [], _ => []
  | (step, t) :: rest, s =>
    if step.isStray then ownReports rest (s.report t step).2
    else (s.report t step).1.withoutEnd :: ownReports rest (s.report t step).2

/-- A condition on every step of a run whose steps have their own numbers. -/
def AllAlong (P : Session → Ticket → Step → Prop) : List (Step × Ticket) → Session → Prop
  | [], _ => True
  | (step, t) :: rest, s => P s t step ∧ AllAlong P rest (s.report t step).2

/-- A run looks the same with stray octets as without. -/
lemma Alike.run (events : List (Step × Ticket)) : ∀ {s s' next r r' t steps},
    Alike s s' → Guarded True next [] r s → Guarded True next [] r' s' → s'.Shown → next ≤ t →
    s.Throughout Fair t steps → s'.AllAlong (fun s _ step => s.Fair step) events →
    events.filter (!·.1.isStray) = steps.zipIdx t →
      s'.ownReports events = (s.reports t steps).1.map (·.withoutEnd) ∧
        s'.AllAlong
          (fun s t step => step.isStray = true → s.Silent (s.report t step).1) events := by
  induction events with
  | nil =>
    intro s s' next r r' t steps _ _ _ _ _ _ _ hsteps
    cases steps with
    | nil => exact ⟨rfl, trivial⟩
    | cons step rest => cases hsteps
  | cons event rest ih =>
    obtain ⟨step, u⟩ := event
    intro s s' next r r' t steps h hs hs' hshown hnext hfair hfair' hsteps
    have hview {m : Ticket} {r'' : Relay} (h : (s'.report u step).2.Guarded True m [] r'') :
        (s'.report u step).2.Shown :=
      shown_view (s := (s'.perform u step).2) h.connection
    cases hstray : step.isStray with
    | true =>
      obtain ⟨hsilent, halike, r'', hs''⟩ := hs'.report_stray hshown hfair'.1 hstray u
      rw [List.filter_cons_of_neg (by simp [hstray])] at hsteps
      obtain ⟨hreports, hall⟩ :=
        ih (h.trans halike) hs hs'' (hview hs'') hnext hfair hfair'.2 hsteps
      refine ⟨?_, fun _ => hsilent, hall⟩
      rw [ownReports, if_pos hstray, hreports]
    | false =>
      rw [List.filter_cons_of_pos (by simp [hstray])] at hsteps
      cases steps with
      | nil => cases hsteps
      | cons step' steps =>
        obtain ⟨hhead, htail⟩ := List.cons.inj (hsteps.trans List.zipIdx_cons)
        cases hhead
        obtain ⟨hreport, halike⟩ := h.report hs hs' hfair.1 u
        obtain ⟨r₁, hs₁⟩ := hs.report hnext hfair.1
        obtain ⟨r₁', hs₁'⟩ := hs'.report hnext hfair'.1
        obtain ⟨hreports, hall⟩ :=
          ih halike hs₁ hs₁' (hview hs₁') le_rfl hfair.2 hfair'.2 htail
        refine ⟨?_, fun htrue => absurd htrue (by simp [hstray]), hall⟩
        rw [ownReports, if_neg (by simp [hstray]), hreports, ← hreport]
        rfl

end Session

end Socks5
