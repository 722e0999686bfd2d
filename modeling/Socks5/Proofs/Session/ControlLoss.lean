import Socks5.Proofs.Dial.Success
import Socks5.Proofs.Session.Tending

/-!
# The loss of the control connection

When the control connection of a relay ends or fails, its watcher closes the endpoint: nobody goes
on waiting for a datagram, and nothing is sent any more. The one exception is a caller who waits for
the end of the relay and gives up: he takes the watcher along, and from then on only the loss of its
socket closes the endpoint. A socket is lost in a step of its own, or the network takes it away
while time passes.
-/

namespace Socks5

namespace Session

variable {t u : Ticket} {s s' : Session} {r r' : Relay} {step : Step} {steps : List Step}

/-! ### Steps -/

/-- The endpoint of a relay has its socket. -/
def Opened (s : Session) : Prop := ∃ r, s.connection = .relay r ∧ r.endpoint.port = .opened

/-- Somebody waits for the end of the connection under this number. -/
def AwaitsEnd (t : Ticket) (s : Session) : Prop :=
  ∃ p ∈ s.pending, p.ticket = t ∧ p.shape = .nothing

/-- What callers and the network do to a relay that nobody closes: a socket that is gone reports no
faults, and the control connection fails with faults of the system. -/
def Offers (s : Session) : Step → Prop
  | .advance _ | .cancel _ | .isClosing | .names | .waitClosed => True
  | .read _ _ | .receiveFrom _ | .write _ | .sendTo _ _ => True
  | .arrive _ | .lose _ => True
  | .report _ => s.Opened
  | .control a => ∀ f, a = .failed f → f.isSystem = true
  | _ => False

lemma Tends.opened_iff (h : s.Tends t r) : s.Opened ↔ r.endpoint.port = .opened := by
  constructor
  · rintro ⟨r', hr', hport⟩
    rw [h.connection] at hr'
    cases hr'
    exact hport
  · intro hport
    exact ⟨r, h.connection, hport⟩

lemma Tends.awaitsEnd_iff (h : s.Tends t r) : s.AwaitsEnd u ↔ u ∈ r.leaving :=
  (h.ledger.leavers u).symm

/-- What a step can do to a relay that takes no time. -/
lemma Tends.perform_carries (h : s.Tends t r) (hoffers : s.Offers step)
    (hstep : ∀ ticks, step ≠ .advance ticks) :
    Carries (∃ f, step = .lose f) (∃ u, step = .cancel u ∧ s.AwaitsEnd u) (t + 1) r
      (s.perform t step).2 := by
  have hkeeps : Carries (∃ f, step = .lose f) (∃ u, step = .cancel u ∧ s.AwaitsEnd u) (t + 1) r s :=
    (h.mono (Nat.le_succ t)).carries
  cases step with
  | advance ticks => exact absurd rfl (hstep ticks)
  | cancel u =>
    have hdisturbed : u ∈ r.leaving → ∃ u', Step.cancel u = .cancel u' ∧ s.AwaitsEnd u' :=
      fun hmem => ⟨u, rfl, h.awaitsEnd_iff.mpr hmem⟩
    obtain ⟨r', hr', hfollows, -⟩ := h.abandon hdisturbed .cancelled
    exact ⟨r', hr'.mono (Nat.le_succ t), hfollows⟩
  | isClosing => exact hkeeps
  | names => exact hkeeps
  | waitClosed => exact h.waitClosed
  | read n limit =>
    simp only [Session.perform, h.connection]
    exact h.receiveFrom (by simp) limit
  | receiveFrom limit => exact h.receiveFrom (by simp) limit
  | write bs =>
    simp only [Session.perform, h.connection]
    exact (h.sendTo t bs none).mono (Nat.le_succ t)
  | sendTo bs dest => exact (h.sendTo t bs dest).mono (Nat.le_succ t)
  | arrive batch =>
    exact (h.onEndpoint (DatagramEndpoint.moves_arrive h.sound.orderly batch)).mono (Nat.le_succ t)
  | report f =>
    have hport := h.opened_iff.mp hoffers
    exact (h.onEndpoint (DatagramEndpoint.moves_report hport f)).mono (Nat.le_succ t)
  | lose f =>
    have hlose : r.endpoint.Moves (∃ f', Step.lose f = .lose f') r.endpoint.waiting
        (r.endpoint.lose f).1 (r.endpoint.lose f).2 :=
      (DatagramEndpoint.moves_lose ⟨f, rfl⟩ rfl rfl f).1
    exact (h.onEndpoint hlose).mono (Nat.le_succ t)
  | control a => exact (h.onControl hoffers).mono (Nat.le_succ t)
  | _ => exact hoffers.elim

/-- What a step can do to a relay: only the loss of its socket closes the endpoint without the
watcher, and only giving up to wait for the end takes the watcher away. -/
lemma Tends.perform (h : s.Tends t r) (hoffers : s.Offers step) :
    Weathers (∃ f, step = .lose f) (∃ u, step = .cancel u ∧ s.AwaitsEnd u) (t + 1) s r
      (s.perform t step).2 := by
  by_cases hstep : ∃ ticks, step = .advance ticks
  · obtain ⟨ticks, rfl⟩ := hstep
    exact (h.advance ticks).mono (Nat.le_succ t)
  · have hat (ticks : Nat) : step ≠ .advance ticks := fun heq => hstep ⟨ticks, heq⟩
    exact (h.perform_carries hoffers hat).weathers (perform_abides t hat s).incoming

/-- Looking at a session changes nothing but what has been shown. -/
lemma Tends.view (h : s.Tends t r) : s.view.2.Tends t r :=
  ⟨h.connection, h.sound, h.ledger, h.draining, h.system⟩

lemma Tends.report (h : s.Tends t r) (hoffers : s.Offers step) :
    Weathers (∃ f, step = .lose f) (s.Opened ∧ ∃ u, step = .cancel u ∧ s.AwaitsEnd u) (t + 1) s r
      (s.report t step).2 := by
  obtain ⟨hincoming, r', h', hfollows, hclosed⟩ := h.perform hoffers
  refine ⟨hincoming, r', h'.view, ?_, hclosed⟩
  rw [h.opened_iff]
  exact hfollows.while_open

/-- The socket that is lost is gone. -/
lemma Tends.report_lose (h : s.Tends t r) (f : Option Fault) :
    ∃ r', (s.report t (.lose f)).2.Tends (t + 1) r' ∧ r'.endpoint.port ≠ .opened := by
  obtain ⟨-, r', h', -⟩ := h.report (show s.Offers (.lose f) from trivial)
  have hconnection : (s.report t (.lose f)).2.connection =
      .relay { r with endpoint := (r.endpoint.lose f).2 } := by
    simp [Session.report, Session.view, Session.perform, outside, Session.onEndpoint,
      h.connection, finish, Relay.onEndpoint]
  rw [h'.connection] at hconnection
  cases hconnection
  exact ⟨_, h', (DatagramEndpoint.moves_lose trivial rfl rfl f).2⟩

/-- Whoever gives up to wait for the end takes the watcher away and leaves the endpoint alone. -/
lemma Tends.report_cancel (h : s.Tends t r) (hawaits : s.AwaitsEnd u) :
    ∃ r', (s.report t (.cancel u)).2.Tends (t + 1) r' ∧ r'.watching = false ∧
      r'.endpoint = r.endpoint := by
  obtain ⟨done, r', habandon, hdeaf, hendpoint⟩ :=
    Relay.abandon_deafens (h.awaitsEnd_iff.mp hawaits)
  obtain ⟨-, r'', h'', -⟩ := h.report (show s.Offers (.cancel u) from trivial)
  have hconnection : (s.report t (.cancel u)).2.connection = .relay r' := by
    simp [Session.report, Session.view, Session.perform, Session.abandon, h.draining, h.connection,
      habandon, finish]
  rw [h''.connection] at hconnection
  cases hconnection
  exact ⟨r', h'', hdeaf, hendpoint⟩

/-! ### Runs -/

/-- The session after steps that are numbered from `t`. -/
def after (t : Ticket) (steps : List Step) (s : Session) : Session := (s.reports t steps).2

@[simp] lemma after_nil (t : Ticket) (s : Session) : s.after t [] = s := rfl

@[simp] lemma after_cons (t : Ticket) (step : Step) (rest : List Step) (s : Session) :
    s.after t (step :: rest) = (s.report t step).2.after (t + 1) rest := rfl

lemma after_append (before rest : List Step) :
    ∀ t s, after t (before ++ rest) s = (after t before s).after (t + before.length) rest := by
  induction before with
  | nil => exact fun t s => rfl
  | cons step before ih =>
    intro t s
    simp [ih, Nat.add_assoc, Nat.add_comm 1]

/-- The number with which a run goes on, with one of its steps set apart. -/
lemma numbers_split (t : Nat) (before rest : List Step) (step : Step) :
    t + before.length + 1 + rest.length = t + (before ++ step :: rest).length := by
  rw [List.length_append, List.length_cons]
  omega

/-- A condition on every step of a run. -/
def Throughout (P : Session → Step → Prop) : Ticket → List Step → Session → Prop
  | _, [], _ => True
  | t, step :: rest, s => P s step ∧ Throughout P (t + 1) rest (s.report t step).2

/-- Steps that follow each other, each of which can happen at its time. -/
def OffersAll : (t : Ticket) → List Step → Session → Prop
  | _, [], _ => True
  | t, step :: rest, s => s.Offers step ∧ OffersAll (t + 1) rest (s.report t step).2

lemma offersAll_append {before rest : List Step} :
    ∀ {t s}, OffersAll t (before ++ rest) s ↔
      OffersAll t before s ∧ OffersAll (t + before.length) rest (after t before s) := by
  induction before with
  | nil => simp [OffersAll]
  | cons step before ih =>
    intro t s
    simp [OffersAll, ih, and_assoc, Nat.add_assoc, Nat.add_comm 1]

/-- In the course of the steps somebody who waits for the end of an open relay gives up. -/
def Disturbed (t : Ticket) (steps : List Step) (s : Session) : Prop :=
  ∃ before u rest, steps = before ++ .cancel u :: rest ∧ (s.after t before).Opened ∧
    (s.after t before).AwaitsEnd u

lemma Disturbed.cons (h : Disturbed (t + 1) steps (s.report t step).2) :
    s.Disturbed t (step :: steps) := by
  obtain ⟨before, u, rest, rfl, hopened, hawaits⟩ := h
  exact ⟨step :: before, u, rest, rfl, hopened, hawaits⟩

/-- What a whole run can do to a relay. -/
lemma Tends.after (steps : List Step) : ∀ {t s r}, Tends t s r → s.OffersAll t steps →
    Weathers (∃ f, .lose f ∈ steps) (s.Disturbed t steps) (t + steps.length) s r
      (s.after t steps) := by
  induction steps with
  | nil => exact fun h _ => h.carries.weathers rfl
  | cons step rest ih =>
    intro t s r h hoffers
    have hboth := (h.report hoffers.1).trans fun r' h' => ih h' hoffers.2
    refine (hboth.mono ?_).weaken ?_ ?_
    · exact Nat.le_of_eq (numbers_split t [] rest step)
    · rintro (⟨f, rfl⟩ | ⟨f, hf⟩)
      · exact ⟨f, List.mem_cons_self⟩
      · exact ⟨f, List.mem_cons_of_mem _ hf⟩
    · rintro (⟨hopened, u, rfl, hawaits⟩ | hdisturbed)
      · exact ⟨[], u, rest, rfl, hopened, hawaits⟩
      · exact hdisturbed.cons

/-! ### The loss -/

/-- The control connection of a relay has come to an end that the watcher has to notice. -/
def ControlLost (s : Session) : Prop := ∃ r, s.connection = .relay r ∧ r.ControlLost

/-- The datagrams that the endpoint has sent. -/
def sent (s : Session) : Option (List Bytes) := s.endpoint?.map (·.sent)

/-- The endpoint is closing, nobody waits for a datagram, and nothing more is sent whatever comes
after. -/
structure Noticed (t : Ticket) (s : Session) : Prop where
  closing : ∃ e, s.endpoint? = some e ∧ e.isClosing = true
  answered : ∀ p ∈ s.pending, p.shape ≠ .payload ∧ p.shape ≠ .message
  silent : ∀ later, s.OffersAll t later → (s.after t later).sent = s.sent

lemma Tends.endpoint? (h : s.Tends t r) : s.endpoint? = some r.endpoint := by
  rw [Session.endpoint?, h.connection]

lemma Tends.noticed (h : s.Tends t r) (hport : r.endpoint.port ≠ .opened) : s.Noticed t where
  closing := ⟨r.endpoint, h.endpoint?, decide_eq_true hport⟩
  answered := by
    intro p hp
    have hidle : r.endpoint.waiting = [] := h.sound.orderly.waiting_eq_nil hport
    have hshape : ¬p.shape ≠ .nothing := fun hshape => by
      have hmem := (h.ledger.receivers p.ticket).mpr ⟨p, hp, rfl, hshape⟩
      rw [hidle] at hmem
      cases hmem
    rw [not_ne_iff.mp hshape]
    exact ⟨nofun, nofun⟩
  silent := by
    intro later hoffers
    obtain ⟨-, r', h', hfollows, -⟩ := Tends.after later h hoffers
    rw [sent, sent, h'.endpoint?, h.endpoint?, Option.map_some, Option.map_some,
      (hfollows.closed hport).2]

lemma Noticed.not_opened (hnoticed : s.Noticed t) (h : s.Tends u r) :
    r.endpoint.port ≠ .opened := by
  obtain ⟨e, he, hclosing⟩ := hnoticed.closing
  rw [h.endpoint?] at he
  cases he
  exact of_decide_eq_true hclosing

/-- The socket that was lost in the course of a run is gone at its end. -/
lemma Tends.port_of_lose (h : s.Tends t r) (hoffers : s.OffersAll t steps)
    (hlose : ∃ f, .lose f ∈ steps) :
    ∃ r', (s.after t steps).Tends (t + steps.length) r' ∧ r'.endpoint.port ≠ .opened := by
  obtain ⟨f, hf⟩ := hlose
  obtain ⟨before, rest, rfl⟩ := List.append_of_mem hf
  obtain ⟨hbefore, -, hrest⟩ := offersAll_append.mp hoffers
  obtain ⟨-, r₁, h₁, -⟩ := Tends.after before h hbefore
  obtain ⟨r₂, h₂, hport⟩ := h₁.report_lose f
  obtain ⟨-, r₃, h₃, hfollows, -⟩ := Tends.after rest h₂ hrest
  refine ⟨r₃, ?_, (hfollows.closed hport).1⟩
  rw [after_append]
  exact h₃.mono (Nat.le_of_eq (numbers_split t before rest _))

/-- After somebody has given up to wait for the end of an open relay, it stays open as long as its
socket is not lost. -/
lemma Tends.port_of_disturbed (h : s.Tends t r) (hoffers : s.OffersAll t steps)
    (hdisturbed : s.Disturbed t steps) (hkept : ¬∃ f, .lose f ∈ steps)
    (hleft : ¬s.SocketTaken (s.after t steps)) :
    ∃ r', (s.after t steps).Tends (t + steps.length) r' ∧ r'.endpoint.port = .opened := by
  obtain ⟨before, u, rest, rfl, hopened, hawaits⟩ := hdisturbed
  obtain ⟨hbefore, -, hrest⟩ := offersAll_append.mp hoffers
  obtain ⟨hincoming₁, r₁, h₁, -⟩ := Tends.after before h hbefore
  obtain ⟨hincoming₂, -⟩ := h₁.report (show (s.after t before).Offers (.cancel u) from trivial)
  obtain ⟨r₂, h₂, hdeaf, hendpoint⟩ := h₁.report_cancel hawaits
  obtain ⟨-, r₃, h₃, hfollows, -⟩ := Tends.after rest h₂ hrest
  have hport : r₂.endpoint.port = .opened := by
    rw [hendpoint]
    exact h₁.opened_iff.mp hopened
  refine ⟨r₃, ?_, ((hfollows.deaf hdeaf).2 hport).resolve_left ?_⟩
  · rw [after_append]
    exact h₃.mono (Nat.le_of_eq (numbers_split t before rest _))
  · rintro (⟨f, hf⟩ | ⟨time, f, hmem, hnot⟩)
    · exact hkept ⟨f, List.mem_append_right _ (List.mem_cons_of_mem _ hf)⟩
    · refine hleft ⟨time, f, hincoming₁ (hincoming₂ hmem), ?_⟩
      rwa [after_append]

/-- The loss of the control connection is noticed unless the watcher was taken away. -/
lemma Tends.noticed_iff (h : s.Tends t r) (hattentive : r.Attentive) (hminded : r.Minded)
    (hoffers : s.OffersAll t steps) (hlost : (s.after t steps).ControlLost) :
    (s.after t steps).Noticed (t + steps.length) ↔
      (∃ f, .lose f ∈ steps) ∨ s.SocketTaken (s.after t steps) ∨ ¬s.Disturbed t steps := by
  constructor
  · intro hnoticed
    by_contra hcontra
    obtain ⟨hkept, hleft, hdisturbed⟩ : _ ∧ _ ∧ _ := by simpa only [not_or] using hcontra
    -- The watcher is gone, and nothing else than the loss of the socket closes the endpoint.
    obtain ⟨r', h', hport⟩ := h.port_of_disturbed hoffers (not_not.mp hdisturbed) hkept hleft
    exact hnoticed.not_opened h' hport
  · obtain ⟨-, r', h', hfollows, hclosed⟩ := Tends.after steps h hoffers
    rintro (hlose | htaken | hundisturbed)
    · obtain ⟨r'', h'', hport⟩ := h.port_of_lose hoffers hlose
      exact h''.noticed hport
    · exact h'.noticed (hclosed htaken)
    · obtain ⟨r'', hr'', hlost⟩ := hlost
      rw [h'.connection] at hr''
      cases hr''
      -- The watcher has ended with the control connection, and so it has closed the endpoint.
      have hminded' := (hfollows.minded hminded).resolve_left hundisturbed
      exact h'.noticed ((hfollows.attentive hattentive).port_of_controlLost hminded' hlost)

/-! ### The beginning -/

/-- All work that is ready is done, and so the watcher knows how the control connection is. -/
lemma Tends.begin (h : s.Tends t r) (hminded : r.Minded) :
    ∃ r', s.begin.Tends t r' ∧ r'.Attentive ∧ r'.Minded := by
  obtain ⟨-, r₁, h₁, hfollows, -⟩ : Weathers False False t s r (s.tick s.now).2 := h.tick s.now
  have hsettle : r₁.Moves (False ∨ s.SocketTaken (s.tick s.now).2) False _ _ r₁.settle.1
      r₁.settle.2 :=
    Relay.settle_moves h₁.sound.orderly h₁.sound.system h₁.ledger.nodup
  refine ⟨r₁.settle.2, ?_, Relay.settle_attentive r₁, ?_⟩
  · have hbegin : s.begin = (finish r₁.settle.1
        { (s.tick s.now).2 with connection := .relay r₁.settle.2 }).2 := by
      simp [Session.begin, Session.onRelay, h₁.connection]
    rw [hbegin]
    exact h₁.finish hsettle
  · exact ((hfollows.trans hsettle.follows).minded hminded).resolve_left id

end Session

namespace Dialer

lemma relaySession_tends {l : Line} (script : EndpointScript) (fixed : Option Address)
    (hsystem : ∀ f, l.stream.Fails f l.arrivals → f.isSystem = true) :
    (relaySession l script (openedEndpoint script .opened) fixed).Tends 0
      { control := l.stream, endpoint := openedEndpoint script .opened, fixed } where
  connection := rfl
  sound := ⟨⟨fun _ => rfl, fun hport => absurd rfl hport⟩, fun f hf => hsystem f (Or.inl hf)⟩
  ledger := .nil 0
  draining := rfl
  system := by
    rintro ⟨time, a⟩ ha f rfl
    exact hsystem f (Or.inr ⟨time, ha⟩)

/-- Whatever callers and the network do to a relay that a dial has given, short of closing it: when
the control connection has been lost, the endpoint is closing, nobody waits for a datagram and
nothing more is sent, if and only if its socket was lost as well, in one of the steps or by the
network, or nobody who waited for the end of the open relay has given up. -/
theorem dial_notices_control_loss (d : Dialer) (script : Script) (network address : Text)
    (limit : Option Int) {s : Session} {r : Relay} {steps : List Step}
    (hdial : (d.dial script network address limit).outcome = .value s)
    (hrelay : s.connection = .relay r)
    (hsystem : ∀ time f, (time, .failed f) ∈ script.stream.arrivals → f.isSystem = true)
    (hoffers : s.begin.OffersAll 0 steps) (hlost : (s.begin.after 0 steps).ControlLost) :
    (s.begin.after 0 steps).Noticed steps.length ↔
      (∃ f, .lose f ∈ steps) ∨ s.begin.SocketTaken (s.begin.after 0 steps) ∨
        ¬s.begin.Disturbed 0 steps := by
  obtain ⟨l, fixed, rfl, hfaults⟩ := dial_relay hdial hrelay
  have htends := relaySession_tends script.endpoint fixed fun f hf => by
    obtain ⟨time, hmem⟩ := hfaults f hf
    exact hsystem time f hmem
  obtain ⟨r', hbegin, hattentive, hminded⟩ := htends.begin fun hwatching => (nomatch hwatching)
  have hiff := hbegin.noticed_iff hattentive hminded hoffers hlost
  rwa [Nat.zero_add] at hiff

/-- A receiver gets to know that the proxy has ended the control connection, also while somebody
waits for the end of the relay, but not after he has given up. -/
theorem dial_notices_control_loss_until_given_up :
    let d : Dialer := { proxy := ⟨.ipv4 ⟨10, 0, 0, 1⟩, 1080⟩ }
    let script : Script :=
      { stream := { arrivals := [(1, .data [5, 0]), (2, .data [5, 0, 0, 1, 10, 0, 0, 1, 4, 56])] } }
    let r : Relay :=
      { control := { written := [5, 1, 0, 5, 3, 0, 1, 192, 0, 2, 1, 0, 53] }
        endpoint := { port := .opened }
        fixed := some ⟨.ipv4 ⟨192, 0, 2, 1⟩, 53⟩ }
    let s : Session := { now := 2, connection := .relay r, shownWritten := 13 }
    (d.dial script "udp" "192.0.2.1:53" none).outcome = .value s ∧
      (s.begin.after 0 [.receiveFrom none, .waitClosed, .control .ended]).Noticed 3 ∧
      ¬(s.begin.after 0
        [.waitClosed, .cancel 0, .receiveFrom none, .control .ended]).Noticed 4 := by
  intro d script r s
  have hdial : (d.dial script "udp" "192.0.2.1:53" none).outcome = .value s := rfl
  have hsystem : ∀ time f, (time, .failed f) ∈ script.stream.arrivals → f.isSystem = true := by
    simp [script]
  refine ⟨hdial, ?_, ?_⟩
  · have hoffers : s.begin.OffersAll 0 [.receiveFrom none, .waitClosed, .control .ended] :=
      ⟨trivial, trivial, nofun, trivial⟩
    refine (dial_notices_control_loss d script _ _ none hdial rfl hsystem hoffers
      ⟨_, rfl, Or.inl rfl⟩).mpr (Or.inr (Or.inr ?_))
    rintro ⟨before, u, rest, heq, -⟩
    have hmem : Step.cancel u ∈ before ++ .cancel u :: rest :=
      List.mem_append_right _ List.mem_cons_self
    rw [← heq] at hmem
    simp at hmem
  · have hoffers : s.begin.OffersAll 0
        [.waitClosed, .cancel 0, .receiveFrom none, .control .ended] :=
      ⟨trivial, trivial, trivial, nofun, trivial⟩
    rw [show 4 = [Step.waitClosed, .cancel 0, .receiveFrom none, .control .ended].length from rfl,
      dial_notices_control_loss d script _ _ none hdial rfl hsystem hoffers ⟨_, rfl, Or.inl rfl⟩]
    rintro (hlose | ⟨time, f, hmem, -⟩ | hkept)
    · simp at hlose
    · cases hmem
    · exact hkept ⟨[.waitClosed], 0, _, rfl, ⟨_, rfl, rfl⟩, _, List.mem_cons_self, rfl, rfl⟩

end Dialer

end Socks5
