import Socks5.Proofs.Dial.Steps

/-!
# What a dial gives

A successful dial of a relay gives a session at its beginning: nobody waits, the endpoint is new and
the watcher is at work, and the target settles whether the relay has a fixed destination. The
control connection fails only with what the script lets arrive.
-/

namespace Socks5

variable {α β σ τ : Type}

/-- A value comes from a value. -/
lemma Ended.andThen_value {fail : Failure → Failure} {leave : σ → τ} {next : α → σ → Ended β × τ}
    {r : Ended α × σ} {b : β} (h : (andThen fail leave next r).1 = .value b) :
    ∃ a, r.1 = .value a ∧ (next a r.2).1 = .value b := by
  obtain ⟨ended, s⟩ := r
  cases ended with
  | value a => exact ⟨a, rfl, h⟩
  | failure f => cases h
  | never => cases h

namespace Dialer

variable {d : Dialer} {script : Script} {target : Address} {deadline : Option Int} {l : Line}
  {s : Session} {r : Relay}

/-- The session of a relay for a target that was opened on a line which follows the given one. -/
def OpensRelay (script : EndpointScript) (target : Address) (l : Line) (s : Session) : Prop :=
  ∃ l', l.Follows l' ∧
    s = relaySession l' script (openedEndpoint script .opened) (fixedDestination target)

lemma OpensRelay.of_follows {script : EndpointScript} {l' : Line}
    (h : OpensRelay script target l' s) (hfollows : l.Follows l') :
    OpensRelay script target l s := by
  obtain ⟨l'', hfollows', rfl⟩ := h
  exact ⟨l'', hfollows.trans hfollows', rfl⟩

lemma checkHandle_value {script : EndpointScript} {host : Text} {bound : Address}
    (h : (d.checkHandle script host bound target l).1 = .value s) :
    OpensRelay script target l s := by
  unfold checkHandle at h
  cases hkind : script.kind with
  | endpoint socket =>
    simp only [hkind] at h
    split_ifs at h
    cases h
    exact ⟨l, .refl l, rfl⟩
  | unmade =>
    simp only [hkind] at h
    cases h
  | foreign closable =>
    simp only [hkind] at h
    cases h

lemma openedRelay_value {script : EndpointScript} {bound : Address}
    (h : (d.openedRelay script bound target l).1 = .value s) : OpensRelay script target l s := by
  unfold openedRelay at h
  cases hfault : script.fault with
  | some f =>
    simp only [hfault] at h
    cases h
  | none =>
    simp only [hfault] at h
    exact checkHandle_value h

lemma openRelay_value {script : EndpointScript} {bound : Address}
    (h : (d.openRelay script deadline bound target l).1 = .value s) :
    OpensRelay script target l s := by
  rw [openRelay_eq] at h
  split_ifs at h
  obtain ⟨-, -, hopened⟩ := Ended.andThen_value h
  have hopening : l.Follows (d.openingLine bound l) := ((Line.Follows.refl l).tell _).tell _
  exact (openedRelay_value hopened).of_follows (hopening.later (le_pass _ _ _ _)).catchUp

lemma converse_value {network : Network}
    (h : (d.converse script network target deadline l).1 = .value s)
    (hrelay : s.connection = .relay r) : OpensRelay script.endpoint target l s := by
  have hrun := (Handshake.negotiate network target).run_follows d.stepLimit deadline l
  rw [converse_eq] at h
  obtain ⟨bound, -, hestablished⟩ := Ended.andThen_value h
  cases network with
  | tcp =>
    cases hestablished
    cases hrelay
  | udp => exact (openRelay_value hestablished).of_follows hrun

lemma dialTarget_value {network : Network} {limit : Option Int}
    (h : (d.dialTarget script network target limit).outcome = .value s)
    (hrelay : s.connection = .relay r) :
    ∃ now notes, OpensRelay script.endpoint target (openedLine script now notes) s := by
  have hdial := d.dialTarget_eq script network target limit
  rw [h] at hdial
  split_ifs at hdial
  · cases hdial
  · cases hdial
  obtain ⟨-, -, hopened⟩ := Ended.andThen_value (congrArg Prod.fst hdial).symm
  unfold openedDial at hopened
  cases hfault : script.stream.fault with
  | some f =>
    simp only [hfault] at hopened
    cases hopened
  | none =>
    simp only [hfault] at hopened
    exact ⟨_, _, converse_value hopened hrelay⟩

/-- The reads of an open line fail only with what the script lets arrive. -/
lemma openedLine_fails {now : Nat} {notes : List Note} {f : Fault}
    (h : (openedLine script now notes).stream.Fails f (openedLine script now notes).arrivals) :
    ∃ time, (time, .failed f) ∈ script.stream.arrivals := by
  obtain hfailure | ⟨time, hmem⟩ := (Line.Follows.refl _).catchUp.faults f h
  · cases hfailure
  · obtain ⟨⟨time', a⟩, ha, heq⟩ := List.mem_map.mp hmem
    obtain ⟨-, rfl⟩ := Prod.mk.inj heq
    exact ⟨time', ha⟩

/-- A successful dial of a relay gives it at its beginning, with the fixed destination that its
target makes. -/
lemma dial_relay_fixed {network address : Text} {limit : Option Int}
    (h : (d.dial script network address limit).outcome = .value s)
    (hrelay : s.connection = .relay r) :
    ∃ target l, Address.parse address = .ok target ∧
      s = relaySession l script.endpoint (openedEndpoint script.endpoint .opened)
        (fixedDestination target) ∧
      ∀ f, l.stream.Fails f l.arrivals → ∃ time, (time, .failed f) ∈ script.stream.arrivals := by
  unfold dial at h
  cases hnetwork : Network.ofName? network with
  | none =>
    simp only [hnetwork] at h
    cases h
  | some network =>
    simp only [hnetwork] at h
    cases haddress : Address.parse address with
    | error f =>
      rw [haddress] at h
      cases h
    | ok target =>
      rw [haddress] at h
      obtain ⟨now, notes, l, hfollows, rfl⟩ := dialTarget_value h hrelay
      exact ⟨target, l, rfl, rfl, fun f hf => openedLine_fails (hfollows.faults f hf)⟩

/-- A successful dial of a relay gives it at its beginning. -/
theorem dial_relay {network address : Text} {limit : Option Int}
    (h : (d.dial script network address limit).outcome = .value s)
    (hrelay : s.connection = .relay r) :
    ∃ l fixed, s = relaySession l script.endpoint (openedEndpoint script.endpoint .opened) fixed ∧
      ∀ f, l.stream.Fails f l.arrivals → ∃ time, (time, .failed f) ∈ script.stream.arrivals := by
  obtain ⟨target, l, -, hs, hfails⟩ := dial_relay_fixed h hrelay
  exact ⟨l, _, hs, hfails⟩

end Dialer

end Socks5
