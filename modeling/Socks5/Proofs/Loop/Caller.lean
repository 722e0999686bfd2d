import Socks5.Proofs.Loop.Dial
import Socks5.Proofs.Session.Clock

/-!
# Callers that share a dialer

A caller dials and then uses the connection step by step; time passes for him where a step lets it
pass, and everything that happens meanwhile has a turn of its own. Callers that dial at the same
time on one dialer are served as each of them is who dials alone, whatever the order in which the
loop gives them their turns.
-/

namespace Socks5

open Routine (Runs)

variable {α σ τ : Type} {d : Dialer}

/-! ### The time of a session -/

/-- A session begins at the time that the clock shows. -/
def Ended.OnTime (clock : τ → Nat) (x : Ended Session × τ) : Prop :=
  ∀ s, x.1 = .value s → s.now = clock x.2

lemma Ended.OnTime.failure {clock : τ → Nat} (f : Failure) (t : τ) :
    OnTime clock (.failure f, t) := fun _ h => nomatch h

lemma Ended.OnTime.never {clock : τ → Nat} (t : τ) : OnTime clock (.never, t) :=
  fun _ h => nomatch h

lemma Ended.OnTime.andThen {clock : τ → Nat} {fail : Failure → Failure} {leave : σ → τ}
    {next : α → σ → Ended Session × τ} {x : Ended α × σ}
    (hnext : ∀ a, OnTime clock (next a x.2)) : OnTime clock (Ended.andThen fail leave next x) :=
  andThen_induct (P := OnTime clock) (fun a _ => hnext a) (fun _ _ => failure _ _) fun _ => never _

namespace Dialer

variable (d)

lemma openedRelay_onTime (script : EndpointScript) (bound target : Address) (l : Line) :
    Ended.OnTime Reach.now (d.openedRelay script bound target l) := by
  unfold openedRelay checkHandle
  cases script.fault with
  | some f => exact .failure _ _
  | none =>
    cases script.kind with
    | foreign closable => exact .failure _ _
    | unmade => exact .failure _ _
    | endpoint socket =>
      simp only
      split_ifs
      · rintro s ⟨⟩
        rfl
      · exact .failure _ _

lemma converse_onTime (script : Script) (network : Network) (target : Address)
    (deadline : Option Int) (l : Line) :
    Ended.OnTime Reach.now (d.converse script network target deadline l) := by
  rw [converse_eq]
  refine .andThen fun bound => ?_
  cases network with
  | tcp =>
    rintro s ⟨⟩
    rfl
  | udp =>
    simp only [established]
    rw [openRelay_eq]
    split_ifs
    · exact .failure _ _
    · exact .failure _ _
    · exact .andThen fun _ => d.openedRelay_onTime _ _ _ _

/-- The session of a dial begins when the dial has ended. -/
lemma dial_onTime (script : Script) (network address : Text) (limit : Option Int) {s : Session}
    (h : (d.dial script network address limit).outcome = .value s) :
    s.now = (d.dial script network address limit).trace.now := by
  obtain ⟨f, hfailed⟩ | ⟨n, target, -, hdial⟩ := dial_cases network address
  · rw [hfailed] at h
    cases h
  rw [hdial] at h ⊢
  have hontime : Ended.OnTime Trace.now ((d.dialTarget script n target limit).outcome,
      (d.dialTarget script n target limit).trace) := by
    rw [dialTarget_eq]
    split_ifs
    · exact .failure _ _
    · exact .failure _ _
    · refine .andThen fun _ => ?_
      unfold openedDial
      cases script.stream.fault with
      | some f => exact .failure _ _
      | none =>
        intro s hs
        exact (d.converse_onTime script n target limit _ s hs).trans
          (d.abandonLine_now target _ _).symm
  exact hontime s h

end Dialer

/-! ### Steps -/

namespace Session

/-- Lets time pass up to a moment, with a turn for everything that happens meanwhile. -/
def untilRoutine : (fuel : Nat) → (moment : Nat) → Session →
    Routine (List (Ticket × Result) × Session)
  | 0, moment, s => .turn moment fun _ now => .done ([], { s with now })
  | fuel + 1, moment, s => match s.nextTime? with
    | some t =>
      if t ≤ moment then .turn t fun _ _ => (untilRoutine fuel moment (s.tick t).2).map
        fun (more, s') => ((s.tick t).1 ++ more, s')
      else .turn moment fun _ now => .done ([], { s with now })
    | none => .turn moment fun _ now => .done ([], { s with now })

lemma untilRoutine_runs (moment fuel : Nat) : ∀ (s : Session) (now : Nat), now ≤ moment →
    Runs d now (untilRoutine fuel moment s) (s.runUntil fuel moment) moment := by
  induction fuel with
  | zero => exact fun s now hnow => .turn (Nat.max_eq_right hnow) (.done _)
  | succ fuel ih =>
    intro s now hnow
    have hrest : Runs d now (.turn moment fun _ now => .done ([], { s with now }))
        (([], { s with now := moment }) : List (Ticket × Result) × Session) moment :=
      .turn (Nat.max_eq_right hnow) (.done _)
    unfold untilRoutine runUntil
    cases s.nextTime? with
    | none => exact hrest
    | some t =>
      simp only
      split_ifs with ht
      · exact .turn rfl ((ih _ _ (Nat.max_le.mpr ⟨hnow, ht⟩)).map _)
      · exact hrest

/-- Carries out one step, turn by turn. -/
def stepRoutine (t : Ticket) (step : Step) (s : Session) :
    Routine (List (Ticket × Result) × Session) :=
  match step with
  | .advance ticks => .turn 0 fun _ now =>
    (untilRoutine s.timers (now + ticks) { s with now }).map (outside t)
  | step => .turn 0 fun _ now => .done ({ s with now }.perform t step)

lemma stepRoutine_runs (t : Ticket) (step : Step) (s : Session) :
    Runs d s.now (s.stepRoutine t step) (s.perform t step) (s.perform t step).2.now := by
  by_cases hstep : ∃ ticks, step = .advance ticks
  · obtain ⟨ticks, rfl⟩ := hstep
    have hend : (s.perform t (.advance ticks)).2.now = s.now + ticks := runUntil_now _ _ s
    rw [hend]
    exact .turn (Nat.max_zero _)
      ((untilRoutine_runs _ _ s s.now (Nat.le_add_right _ _)).map (outside t))
  · have hstill : (s.perform t step).2.now = s.now :=
      (perform_abides t (fun ticks h => hstep ⟨ticks, h⟩) s).now
    have hroutine : s.stepRoutine t step =
        .turn 0 fun _ now => .done ({ s with now }.perform t step) := by
      cases step with
      | advance ticks => exact absurd ⟨ticks, rfl⟩ hstep
      | _ => rfl
    rw [hroutine, hstill]
    exact .turn (Nat.max_zero _) (.done _)

/-- What is reported of a step, from what it gave. -/
def reportOf (t : Ticket) : List (Ticket × Result) × Session → Report × Session
  | (done, s) =>
    let (view, s) := s.view
    ({ result := (done.find? (·.1 = t)).map (·.2)
       late := (done.filter (·.1 ≠ t)).mergeSort fun a b => a.1 ≤ b.1
       view }, s)

/-- Carries out steps, numbered from `t`, turn by turn. -/
def stepsRoutine : (t : Ticket) → List Step → Session → Routine (List Report × Session)
  | _, [], s => .done ([], s)
  | t, step :: rest, s => (s.stepRoutine t step).bind fun given =>
    (stepsRoutine (t + 1) rest (reportOf t given).2).map
      fun (more, s) => ((reportOf t given).1 :: more, s)

lemma stepsRoutine_runs (steps : List Step) : ∀ (t : Ticket) (s : Session),
    Runs d s.now (stepsRoutine t steps s) (s.reports t steps) (s.reports t steps).2.now := by
  induction steps with
  | nil => exact fun t s => .done _
  | cons step rest ih =>
    intro t s
    have hrest := ih (t + 1) (reportOf t (s.perform t step)).2
    exact (s.stepRoutine_runs t step).bind (hrest.map _)

lemma begin_now (s : Session) : s.begin.now = s.now := by
  have hsettled := (Abides.onRelay (·.settle) (s.tick s.now).2).now
  exact hsettled.trans (s.tick_sheds s.now).now

end Session

/-! ### Callers -/

/-- What a caller wants of a dialer, and how the network behaves towards him. -/
structure Call where
  /-- How the network behaves. -/
  script : Script
  /-- The name of the network. -/
  network : Text
  /-- The address of the target. -/
  address : Text
  /-- The time limit of the dial. -/
  limit : Option Int := none
  /-- What he does with the connection afterwards. -/
  steps : List Step := []

/-- What a caller gets. -/
structure Served where
  /-- How the dial ended, and what it did. -/
  dialled : Dialled
  /-- The connection at its beginning, if there is one. -/
  view : Option Session.View := none
  /-- What the steps gave. -/
  reports : List Session.Report := []

namespace Call

/-- What a caller gets once his dial has ended. -/
def served (c : Call) (dialled : Dialled) : Served :=
  match dialled.outcome with
  | .value s =>
    { dialled, view := some s.begin.view.1, reports := (s.begin.view.2.reports 0 c.steps).1 }
  | _ => { dialled }

/-- What a caller gets who dials alone. -/
def serve (d : Dialer) (c : Call) : Served :=
  c.served (d.dial c.script c.network c.address c.limit)

/-- What a caller does once his dial has ended, turn by turn. -/
def servedRoutine (c : Call) (dialled : Dialled) : Routine Served :=
  match dialled.outcome with
  | .value s => .turn 0 fun _ now =>
    let s := ({ s with now } : Session).begin
    (Session.stepsRoutine 0 c.steps s.view.2).map
      fun (reports, _) => { dialled, view := some s.view.1, reports }
  | _ => .done { dialled }

/-- What a caller does, turn by turn. -/
def routine (c : Call) : Routine Served :=
  (Dialer.dialRoutine c.script c.network c.address c.limit).bind c.servedRoutine

lemma servedRoutine_runs (c : Call) {dialled : Dialled}
    (hnow : ∀ s, dialled.outcome = .value s → s.now = dialled.trace.now) :
    ∃ later, Runs d dialled.trace.now (c.servedRoutine dialled) (c.served dialled) later := by
  unfold servedRoutine served
  cases houtcome : dialled.outcome with
  | failure f => exact ⟨_, .done _⟩
  | never => exact ⟨_, .done _⟩
  | value s =>
    have hsteps := Session.stepsRoutine_runs (d := d) c.steps 0 s.begin.view.2
    have hbegin : s.begin.view.2.now = s.now := s.begin_now
    rw [hbegin] at hsteps
    rw [← hnow s houtcome]
    exact ⟨_, .turn (Nat.max_zero _) (hsteps.map _)⟩

/-- A caller alone gets turn by turn what he gets in one piece. -/
lemma routine_runs (c : Call) : ∃ later, Runs d 0 c.routine (c.serve d) later := by
  obtain ⟨later, hserved⟩ := c.servedRoutine_runs (d := d) fun _ houtcome =>
    d.dial_onTime c.script c.network c.address c.limit houtcome
  exact ⟨later, (d.dialRoutine_runs c.script c.network c.address c.limit).bind hserved⟩

end Call

namespace Loop

/-- Callers who all begin to dial at once on one dialer. -/
def start (d : Dialer) (calls : List Call) : Loop Served :=
  { dialer := d, routines := calls.map Call.routine }

lemma start_tends (d : Dialer) (calls : List Call) :
    (start d calls).Tends d (calls.map (Call.serve d)) where
  dialer := rfl
  length := by simp [start]
  runs := by
    intro i r served hr hserved
    obtain ⟨c, hc, rfl⟩ := Option.map_eq_some_iff.mp ((List.getElem?_map ..).symm.trans hserved)
    obtain rfl : c.routine = r := by simpa [start, hc] using hr
    exact c.routine_runs

/-- Callers who share a dialer do not get into each other's way: whatever the order of their turns,
the dialer stays as it is, and whoever is served gets what he gets alone, the end and the time of
his dial, what it did, and the results of his steps. No order goes on for ever, and each can be
carried on until all are served; when nobody can have a turn any more they are. -/
theorem callers_do_not_interfere (d : Dialer) (calls : List Call) (order : List Nat)
    (loop : Loop Served) (h : (start d calls).run? order = some loop) :
    loop.dialer = d ∧
      (∀ (i : Nat) (call : Call) (served : Served), calls[i]? = some call →
        loop.routines[i]? = some (.done served) → served = call.serve d) ∧
      order.length ≤ (start d calls).turnsLeft ∧
      ((∀ i, loop.turn? i = none) →
        loop.routines = calls.map fun call => Routine.done (call.serve d)) ∧
      ∃ more final, loop.run? more = some final ∧
        final.routines = calls.map fun call => Routine.done (call.serve d) := by
  have htends := (start_tends d calls).run? h
  have hturns := (start_tends d calls).turnsLeft_run? h
  refine ⟨htends.dialer, ?_, by omega, ?_, ?_⟩
  · intro i call served hcall hserved
    obtain ⟨later, hrun⟩ := htends.runs i _ (call.serve d) hserved (by simp [hcall])
    cases hrun
    rfl
  · intro hstill
    rw [htends.routines_eq hstill, List.map_map]
    rfl
  · obtain ⟨more, final, hrun, hfinal⟩ := htends.exists_run?
    exact ⟨more, final, hrun, by rw [hfinal, List.map_map]; rfl⟩

/-- Two callers take turns: when the time limit of the first one has run out, the second one still
waits for a connection that is then refused. Neither notices the other. -/
theorem callers_do_not_interfere_in_turn :
    let d : Dialer := { proxy := ⟨.ipv4 ⟨10, 0, 0, 1⟩, 1080⟩ }
    let a : Call :=
      { script := { stream := { delay := 5 } }, network := "tcp", address := "192.0.2.1:53"
        limit := some 3 }
    let b : Call :=
      { script := { stream := { delay := 4, fault := some ⟨.refused, "refused"⟩ } }
        network := "udp", address := "192.0.2.1:53" }
    (∃ loop, (start d [a, b]).run? [0, 1, 1, 0, 0] = some loop ∧
      ∃ more final, loop.run? more = some final ∧
        final.routines = [.done (a.serve d), .done (b.serve d)]) ∧
    (a.serve d).dialled.trace.now = 3 ∧ (b.serve d).dialled.trace.now = 4 := by
  intro d a b
  refine ⟨?_, by decide, by decide⟩
  have hsome : ((start d [a, b]).run? [0, 1, 1, 0, 0]).isSome := by decide
  obtain ⟨loop, hrun⟩ := Option.isSome_iff_exists.mp hsome
  obtain ⟨-, -, -, -, hend⟩ := callers_do_not_interfere d [a, b] [0, 1, 1, 0, 0] loop hrun
  exact ⟨loop, hrun, hend⟩

end Loop

end Socks5
