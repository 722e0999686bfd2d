import Mathlib.Tactic.Common
import Socks5.Proofs.Address.Grammar
import Socks5.Proofs.Dial.Flow
import Socks5.Proofs.Dial.Release
import Socks5.Proofs.Dial.Success

/-!
# How a dial fails

Below a dial there are faults of the system, time limits and replies that are cut or ill formed, and
each of them becomes an error of the protocol. The only other way to fail is in front of all that: a
port of more digits than are read as a number.
-/

namespace Socks5

variable {α β σ τ : Type}

/-! ### Failures with a name -/

/-- An error of the protocol, or that the caller was cancelled. -/
def Failure.Named (f : Failure) : Prop := f = .cancelled ∨ ∃ e, f = .error e

/-- If there is no value, the reason has a name. -/
def Ended.Named (ended : Ended α) : Prop := ∀ f, ended = .failure f → f.Named

lemma Failure.named_error (e : Error) : (Failure.error e).Named := .inr ⟨e, rfl⟩

namespace Ended

lemma named_value (a : α) : (value a).Named := by
  rintro _ ⟨⟩

lemma named_never : (never : Ended α).Named := by
  rintro _ ⟨⟩

lemma named_failure {f : Failure} (h : f.Named) : (failure f : Ended α).Named := by
  rintro _ ⟨⟩
  exact h

lemma named_andThen {fail : Failure → Failure} {leave : σ → τ} {next : α → σ → Ended β × τ}
    {r : Ended α × σ} (hfail : ∀ f, r.1 = .failure f → (fail f).Named)
    (hnext : ∀ a, r.1 = .value a → (next a r.2).1.Named) : (andThen fail leave next r).1.Named := by
  apply andThen_induct (P := fun r => r.1.Named)
  · exact hnext
  · exact fun f hf => named_failure (hfail f hf)
  · exact fun _ => named_never

end Ended

/-! ### Faults of the system -/

/-- Only faults of the system stop a write. -/
def WritePlan.Systemic (p : WritePlan) : Prop :=
  (∀ f ∈ p.fault, f.isSystem) ∧ ∀ f ∈ p.lateFault, f.isSystem

/-- Only faults of the system come up on a line. -/
structure Line.Systemic (l : Line) : Prop where
  reads : ∀ f, l.stream.Fails f l.arrivals → f.isSystem
  writes : ∀ p ∈ l.stream.plans, p.Systemic

/-- Only faults of the system come up under a script while a dial is going on. -/
structure Script.Systemic (script : Script) : Prop where
  opens : ∀ f ∈ script.stream.fault, f.isSystem
  reads : ∀ time f, (time, .failed f) ∈ script.stream.arrivals → f.isSystem
  writes : ∀ p ∈ script.stream.plans, p.Systemic
  relays : ∀ f ∈ script.endpoint.fault, f.isSystem

lemma Line.Systemic.tell {l : Line} (h : l.Systemic) (n : Note) : (l.tell n).Systemic :=
  ⟨h.reads, h.writes⟩

/-- That the caller was cancelled, or a fault of the system. -/
def Failure.Systemic (f : Failure) : Prop := f = .cancelled ∨ ∃ g : Fault, f = .fault g ∧ g.isSystem

lemma timeout_systemic : (Failure.fault .timeout).Systemic := .inr ⟨_, rfl, rfl⟩

lemma pass_systemic {now ticks : Nat} {limit : Option Int} {cancelAt : Option Nat} {f : Failure}
    (h : (pass now ticks limit cancelAt).1 = .failure f) : f.Systemic := by
  obtain hpass | ⟨time, f', hpass, -, hf⟩ := pass_ends now ticks limit cancelAt <;> rw [hpass] at h
  · cases h
  · cases h
    obtain rfl | rfl := hf
    · exact .inl rfl
    · exact timeout_systemic

/-- What a plan has for a write, or nothing if there is no plan. -/
lemma Stream.headD_systemic {s : Stream} (h : ∀ p ∈ s.plans, p.Systemic) :
    (s.plans.headD {}).Systemic := by
  cases hplans : s.plans with
  | nil => exact ⟨nofun, nofun⟩
  | cons p rest => exact h p (hplans ▸ List.mem_cons_self)

lemma Stream.write_plans {s : Stream} (h : ∀ p ∈ s.plans, p.Systemic) (out : Bytes) :
    ∀ p ∈ (s.write out).2.plans, p.Systemic := by
  unfold write
  split_ifs
  · exact h
  · simp only
    split <;> exact fun p hp => h p (List.mem_of_mem_tail hp)

/-- The fault that stops a write, or comes up later, is of the system. -/
lemma Stream.write_systemic {s : Stream} (h : ∀ p ∈ s.plans, p.Systemic) (out : Bytes) :
    (∀ f, (s.write out).1 = .error f → f.isSystem) ∧
      ∀ delay f, (s.write out).1 = .ok (delay, some f) → f.isSystem := by
  obtain ⟨hfault, hlate⟩ := s.headD_systemic h
  unfold write
  split_ifs
  · constructor
    · rintro f ⟨⟩
      rfl
    · exact nofun
  · simp only
    split
    · next f hf =>
      constructor
      · rintro _ ⟨⟩
        exact hfault f hf
      · exact nofun
    · constructor
      · exact nofun
      · intro delay f heq
        exact hlate f (Prod.mk.inj (Except.ok.inj heq)).2

/-! ### Reading and writing -/

namespace Line

variable {l : Line}

lemma Systemic.write (h : l.Systemic) (limit : Option Int) (out : Bytes) :
    (l.write limit out).2.Systemic := by
  refine ⟨fun f hf => h.reads f ((l.write_follows limit out).faults f hf), ?_⟩
  have hplans := Stream.write_plans h.writes out
  by_cases hlimit : runOut limit
  · rw [write_of_runOut hlimit]
    exact h.writes
  rcases hwrite : l.stream.write out with ⟨f | ⟨delay, fault⟩, stream⟩ <;> rw [hwrite] at hplans
  · rw [write_of_error hlimit hwrite]
    exact hplans
  · rw [write_of_ok hlimit hwrite]
    exact hplans

lemma Systemic.read (h : l.Systemic) (limit : Option Int) (r : Reading) :
    (l.read limit r).2.Systemic := by
  refine ⟨fun f hf => h.reads f ((l.read_follows limit r).faults f hf), ?_⟩
  obtain ⟨_, _, _, hstream⟩ := l.read_readTo limit r
  rw [hstream]
  exact h.writes

lemma write_failure (h : l.Systemic) {limit : Option Int} {out : Bytes} {f : Failure}
    (hf : (l.write limit out).1 = .failure f) : f.Systemic := by
  obtain ⟨hnow, hlate⟩ := Stream.write_systemic h.writes out
  by_cases hlimit : runOut limit
  · rw [write_of_runOut hlimit] at hf
    cases hf
    exact timeout_systemic
  rcases hwrite : l.stream.write out with ⟨g | ⟨delay, fault⟩, stream⟩ <;> rw [hwrite] at hnow hlate
  · rw [write_of_error hlimit hwrite] at hf
    cases hf
    exact .inr ⟨g, rfl, hnow g rfl⟩
  · rw [write_of_ok hlimit hwrite] at hf
    rcases hpass : (pass l.now delay limit l.cancelAt).1 with _ | f' | _ <;> rw [hpass] at hf
    · cases fault with
      | none => cases hf
      | some g =>
        cases hf
        exact .inr ⟨g, rfl, hlate delay g rfl⟩
    · cases hf
      exact pass_systemic hpass
    · cases hf

/-- An attempt fails because the octets run out, or with a fault that the stream has. -/
lemma attempt_failure {f : Failure} {r : Reading} {s s' : Stream} {rest : List (Nat × Arrival)}
    (h : s.attempt r = (.done (.error f), s')) :
    (∃ bs n, f = .incomplete bs n) ∨ ∃ g, f = .fault g ∧ s.Fails g rest := by
  unfold Stream.attempt at h
  split at h
  · next g hg =>
    cases h
    exact .inr ⟨g, rfl, .inl hg⟩
  · cases r with
    | upTo n =>
      simp only at h
      split_ifs at h <;> cases h
    | exactly n =>
      simp only at h
      split_ifs at h <;> cases h
      exact .inl ⟨_, _, rfl⟩
    | toEnd collected =>
      simp only at h
      split_ifs at h <;> cases h

/-- A read fails because it is broken off, because the octets run out, or with a fault that the
stream has or that arrives. -/
lemma await_failure {stop : Option (Nat × Failure)} {f : Failure}
    (arrivals : List (Nat × Arrival)) :
    ∀ (r : Reading) (now : Nat) (s : Stream), (await stop r now s arrivals).1 = .failure f →
      (∃ time, stop = some (time, f)) ∨ (∃ bs n, f = .incomplete bs n) ∨
        ∃ g, f = .fault g ∧ s.Fails g arrivals := by
  induction arrivals with
  | nil =>
    intro r now s h
    unfold await at h
    rcases hs : s.attempt r with ⟨⟨f' | bs⟩ | r', s'⟩ <;> rw [hs] at h
    · cases h
      exact .inr (attempt_failure hs)
    · cases h
    · cases stop with
      | none => cases h
      | some stop =>
        cases h
        exact .inl ⟨_, rfl⟩
  | cons event rest ih =>
    intro r now s h
    obtain ⟨time, a⟩ := event
    unfold await at h
    split_ifs at h
    · obtain hstop | hshort | ⟨g, hg, hfails⟩ := ih r now _ h
      · exact .inl hstop
      · exact .inr (.inl hshort)
      · exact .inr (.inr ⟨g, hg, hfails.of_feed⟩)
    obtain ⟨-, hfailure⟩ := s.attempt_frame r
    rcases hs : s.attempt r with ⟨⟨f' | bs⟩ | r', s'⟩ <;> rw [hs] at h hfailure
    · cases h
      exact .inr (attempt_failure hs)
    · cases h
    · have hlater : (await stop r' time (s'.feed a) rest).1 = .failure f →
          (∃ time, stop = some (time, f)) ∨ (∃ bs n, f = .incomplete bs n) ∨
            ∃ g, f = .fault g ∧ s.Fails g ((time, a) :: rest) := by
        intro h
        obtain hstop | hshort | ⟨g, hg, hfails⟩ := ih r' time _ h
        · exact .inl hstop
        · exact .inr (.inl hshort)
        · exact .inr (.inr ⟨g, hg, hfails.of_feed.of_failure hfailure⟩)
      cases stop with
      | none => exact hlater h
      | some stop =>
        simp only at h
        split_ifs at h
        · cases h
          exact .inl ⟨_, rfl⟩
        · exact hlater h

lemma read_failure (h : l.Systemic) {limit : Option Int} {r : Reading} {f : Failure}
    (hf : (l.read limit r).1 = .failure f) : f.Systemic ∨ ∃ bs n, f = .incomplete bs n := by
  unfold read at hf
  split_ifs at hf
  · cases hf
    exact .inl timeout_systemic
  obtain ⟨time, hstop⟩ | hshort | ⟨g, rfl, hfails⟩ := await_failure l.arrivals r l.now l.stream hf
  · obtain ⟨-, -, -, rfl⟩ | ⟨-, rfl⟩ := breakOff_eq_some hstop
    · exact .inl timeout_systemic
    · exact .inl (.inl rfl)
  · exact .inr hshort
  · exact .inl (.inr ⟨g, rfl, h.reads g hfails⟩)

end Line

/-! ### The handshake -/

namespace Handshake

lemma sendFailure_named {f : Failure} (h : f.Systemic) (request : Request) :
    (sendFailure request f).Named := by
  obtain rfl | ⟨g, rfl, hg⟩ := h
  · exact .inl rfl
  · simp only [sendFailure, hg, if_true]
    exact Failure.named_error _

lemma receiveFailure_named {f : Failure} (h : f.Systemic ∨ ∃ bs n, f = .incomplete bs n)
    (part : Part) : (receiveFailure part f).Named := by
  obtain (rfl | ⟨g, rfl, hg⟩) | ⟨bs, n, rfl⟩ := h
  · exact .inl rfl
  · simp only [receiveFailure, hg, if_true]
    exact Failure.named_error _
  · exact Failure.named_error _

/-- A handshake on a line where only faults of the system come up fails with errors alone. -/
lemma run_named (step deadline : Option Int) (h : Handshake α) :
    ∀ l : Line, l.Systemic → (h.run step deadline l).1.Named := by
  induction h with
  | done a => exact fun l _ => Ended.named_value a
  | fail e => exact fun l _ => Ended.named_failure (Failure.named_error e)
  | note n next ih => exact fun l hl => ih (l.tell n) (hl.tell n)
  | send request out next ih =>
    intro l hl
    rw [run_send]
    apply Ended.named_andThen
    · exact fun f hf => sendFailure_named (Line.write_failure hl hf) request
    · exact fun _ _ => ih _ (hl.write _ out)
  | receive part count next ih =>
    intro l hl
    rw [run_receive]
    apply Ended.named_andThen
    · exact fun f hf => receiveFailure_named (Line.read_failure hl hf) part
    · exact fun bs _ => ih bs _ (hl.read _ _)

end Handshake

/-! ### The dial -/

namespace Dialer

variable (d : Dialer) {script : Script}

lemma relayFailure_named {f : Failure} (h : f.Systemic) (bound : Address) :
    (relayFailure bound f).Named := by
  obtain rfl | ⟨g, rfl, hg⟩ := h
  · exact .inl rfl
  · simp only [relayFailure, hg, if_true]
    exact Failure.named_error _

lemma openFailure_named {f : Failure} (h : f.Systemic) : (openFailure f).Named := by
  obtain rfl | ⟨g, rfl, hg⟩ := h
  · exact .inl rfl
  · simp only [openFailure, hg, if_true]
    exact Failure.named_error _

lemma checkHandle_named (script : EndpointScript) (host : Text) (bound target : Address)
    (l : Line) : (d.checkHandle script host bound target l).1.Named := by
  unfold checkHandle
  cases script.kind with
  | endpoint socket =>
    simp only
    split_ifs
    · exact Ended.named_value _
    · exact Ended.named_failure (Failure.named_error _)
  | unmade => exact Ended.named_failure (Failure.named_error _)
  | foreign closable => exact Ended.named_failure (Failure.named_error _)

lemma openRelay_named (hscript : script.Systemic) (deadline : Option Int) (bound target : Address)
    (l : Line) : (d.openRelay script.endpoint deadline bound target l).1.Named := by
  have htimeout : (.failure (relayFailure bound (.fault .timeout)) : Ended Session).Named :=
    Ended.named_failure (relayFailure_named timeout_systemic bound)
  rw [openRelay_eq]
  split_ifs
  · exact htimeout
  · exact htimeout
  · apply Ended.named_andThen
    · exact fun f hf => relayFailure_named (pass_systemic hf) bound
    · intro _ _
      unfold openedRelay
      cases hfault : script.endpoint.fault with
      | none => exact d.checkHandle_named _ _ _ _ _
      | some g =>
        have hg : (Failure.fault g).Systemic := .inr ⟨g, rfl, hscript.relays g hfault⟩
        exact Ended.named_failure (relayFailure_named hg bound)

lemma openedLine_systemic (hscript : script.Systemic) (now : Nat) (notes : List Note) :
    (openedLine script now notes).Systemic where
  reads f hf := by
    obtain ⟨time, hmem⟩ := openedLine_fails hf
    exact hscript.reads time f hmem
  writes := by
    rw [openedLine, Line.catchUp, Stream.foldl_feed_plans]
    exact hscript.writes

lemma converse_named (hscript : script.Systemic) (network : Network) (target : Address)
    (deadline : Option Int) {l : Line} (hl : l.Systemic) :
    (d.converse script network target deadline l).1.Named := by
  rw [converse_eq]
  apply Ended.named_andThen
  · exact fun f hf => (Handshake.negotiate network target).run_named _ _ l hl f hf
  · intro bound _
    cases network with
    | tcp => exact Ended.named_value _
    | udp => exact d.openRelay_named hscript deadline bound target _

lemma dialTarget_named (hscript : script.Systemic) (network : Network) (target : Address)
    (limit : Option Int) : (d.dialTarget script network target limit).outcome.Named := by
  have htimeout : (.failure (openFailure (.fault .timeout)) : Ended Session).Named :=
    Ended.named_failure (openFailure_named timeout_systemic)
  rw [show (d.dialTarget script network target limit).outcome = _ from
    congrArg Prod.fst (d.dialTarget_eq script network target limit)]
  split_ifs
  · exact htimeout
  · exact htimeout
  · apply Ended.named_andThen
    · exact fun f hf => openFailure_named (pass_systemic hf)
    · intro _ _
      unfold openedDial
      cases hfault : script.stream.fault with
      | none =>
        exact d.converse_named hscript network target limit (openedLine_systemic hscript _ _)
      | some g =>
        exact Ended.named_failure (openFailure_named (.inr ⟨g, rfl, hscript.opens g hfault⟩))

/-- A text that no address can be made of, and that is not even refused: its port has too many
digits, or its name cannot be encoded. -/
def Escapes (address : Text) : Prop :=
  (∃ n, Address.Overlong n address) ∨ Address.Unencodable address

lemma parse_of_escapes {address : Text} (h : Escapes address) :
    ∃ f, Address.parse address = .error f ∧ ∀ e, Failure.ofTarget f ≠ .error e := by
  obtain ⟨n, hn⟩ | hname := h
  · exact ⟨.digits n, Address.parse_eq_digits_iff.mpr hn, nofun⟩
  · obtain ⟨e, he⟩ := Address.parse_eq_encoding_iff.mpr hname
    exact ⟨.encoding e, he, nofun⟩

/-- A text that is no address makes a dial fail before anything is opened. -/
lemma dial_of_parse_error {network address : Text} {f : AddressFailure}
    (hnetwork : (Network.ofName? network).isSome) (hf : Address.parse address = .error f)
    (script : Script) (limit : Option Int) :
    d.dial script network address limit = ⟨.failure (.ofTarget f), {}⟩ := by
  obtain ⟨n, hn⟩ := Option.isSome_iff_exists.mp hnetwork
  simp only [dial, hn, hf]

/-- Only the number of digits of its port or the encoding of its name keeps a text that is no
address from an error of the request. -/
lemma ofTarget_cases {address : Text} {f : AddressFailure}
    (hf : Address.parse address = .error f) :
    (∃ n, Address.Overlong n address ∧ .ofTarget f = Failure.tooManyDigits n) ∨
    (Address.Unencodable address ∧ ∃ e, .ofTarget f = Failure.fault (.ofEncoding e)) ∨
    (¬ Escapes address ∧ ∃ e, .ofTarget f = Failure.error e ∧ e.category = .address ∧
      e.stage = some .request) := by
  cases f with
  | digits n => exact .inl ⟨n, Address.parse_eq_digits_iff.mp hf, rfl⟩
  | encoding e => exact .inr (.inl ⟨Address.parse_eq_encoding_iff.mp ⟨e, hf⟩, e, rfl⟩)
  | invalid reason =>
    refine .inr (.inr ⟨fun hescapes => ?_, _, rfl, rfl, rfl⟩)
    obtain ⟨f, hf', hno⟩ := parse_of_escapes hescapes
    obtain rfl := Except.error.inj (hf.symm.trans hf')
    exact hno _ rfl

/-- If only faults of the system come up, a dial that fails and was not cancelled fails with an
error, unless the network is supported and the port of the address has more digits than are read as
a number, or its name has a surrogate and cannot be encoded. With a supported network, a text that
is no address makes the dial fail before anything is opened: with an error of the request about the
address, but for the same two exceptions. -/
theorem dial_fails_with_error_iff (hscript : script.Systemic) (network address : Text)
    (limit : Option Int) :
    (∀ f, (d.dial script network address limit).outcome = .failure f → f ≠ .cancelled →
      ((∃ e, f = .error e) ↔ ¬ ((Network.ofName? network).isSome ∧ Escapes address))) ∧
    ((Network.ofName? network).isSome → (∀ target, Address.parse address ≠ .ok target) →
      (d.dial script network address limit).trace = {} ∧
      ((∃ n, Address.Overlong n address ∧
          (d.dial script network address limit).outcome = .failure (.tooManyDigits n)) ∨
        (Address.Unencodable address ∧ ∃ e,
          (d.dial script network address limit).outcome = .failure (.fault (.ofEncoding e))) ∨
        (¬ Escapes address ∧
          ∃ e : Error, (d.dial script network address limit).outcome = .failure (.error e) ∧
            e.category = .address ∧ e.stage = some .request))) := by
  constructor
  · intro f hf hcancelled
    constructor
    · rintro ⟨e, rfl⟩ ⟨hnetwork, hescapes⟩
      obtain ⟨f, hparse, hno⟩ := parse_of_escapes hescapes
      rw [d.dial_of_parse_error hnetwork hparse] at hf
      exact hno e (Ended.failure.inj hf)
    · intro hsound
      cases hnetwork : Network.ofName? network with
      | none =>
        simp only [dial, hnetwork] at hf
        cases hf
        exact ⟨_, rfl⟩
      | some n =>
        have hsome : (Network.ofName? network).isSome := by
          rw [hnetwork]
          rfl
        cases hparse : Address.parse address with
        | ok target =>
          simp only [dial, hnetwork, hparse] at hf
          exact (d.dialTarget_named hscript n target limit f hf).resolve_left hcancelled
        | error g =>
          rw [d.dial_of_parse_error hsome hparse] at hf
          obtain rfl := Ended.failure.inj hf
          obtain ⟨n, hn, -⟩ | ⟨hname, -⟩ | ⟨-, e, he, -⟩ := ofTarget_cases hparse
          · exact absurd ⟨hsome, .inl ⟨n, hn⟩⟩ hsound
          · exact absurd ⟨hsome, .inr hname⟩ hsound
          · exact ⟨e, he⟩
  · intro hnetwork hnone
    cases hparse : Address.parse address with
    | ok target => exact absurd hparse (hnone target)
    | error f =>
      rw [d.dial_of_parse_error hnetwork hparse]
      refine ⟨rfl, ?_⟩
      simpa only [Ended.failure.injEq] using ofTarget_cases hparse

/-- A port of 4301 digits is more than is read as a number and a name with a surrogate cannot be
encoded, while a connection that the proxy resets makes the dial fail with an error. -/
theorem dial_fails_with_error_iff_digits :
    let d : Dialer := { proxy := ⟨.ipv4 ⟨10, 0, 0, 1⟩, 1080⟩ }
    let reset : Fault := ⟨.reset, "gone"⟩
    let script : Script := { stream := { arrivals := [(1, .failed reset)] } }
    let long := Text.ofChars ('h' :: ':' :: List.replicate 4301 '7')
    let foreign : Text := .surrogate 0x4ff :: Text.ofString ":80"
    let e : EncodingError := ⟨.surrogate 0x4ff, 0, 1⟩
    script.Systemic ∧
      (∃ f, (d.dial script "tcp" "192.0.2.1:53" none).outcome = .failure f ∧ f ≠ .cancelled ∧
        ∃ e, f = .error e) ∧
      (d.dial script "tcp" long none).outcome = .failure (.tooManyDigits 4301) ∧
      (¬ ∃ e, Failure.tooManyDigits 4301 = .error e) ∧
      (d.dial script "tcp" foreign none).outcome = .failure (.fault (.ofEncoding e)) ∧
      ¬ ∃ e', Failure.fault (.ofEncoding e) = .error e' := by
  intro d reset script long foreign e
  have hscript : script.Systemic := by
    refine ⟨nofun, fun time f hf => ?_, by simp [script], nofun⟩
    obtain ⟨-, rfl⟩ : time = 1 ∧ f = reset := by simpa [script] using hf
    rfl
  have hlong : Address.Overlong 4301 long := by
    refine ⟨"h", _, List.replicate 4301 '7', rfl,
      @Host.Spelled.name (.char 'h') [] ⟨"h", by decide, by decide⟩ (by decide) (by decide) rfl rfl,
      ?_, List.length_replicate, by decide⟩
    rw [List.all_replicate]
    rfl
  have hforeign : Address.Unencodable foreign :=
    ⟨[.surrogate 0x4ff], "80", rfl, by decide, by decide, by decide, 0x4ff, by decide⟩
  refine ⟨hscript, ?_, ?_⟩
  · have hreset : (d.dial script "tcp" "192.0.2.1:53" none).outcome =
        .failure (.error (.receiving .method reset)) := rfl
    obtain ⟨hiff, -⟩ := d.dial_fails_with_error_iff hscript "tcp" "192.0.2.1:53" none
    have hcaller : Failure.error (.receiving .method reset) ≠ .cancelled := by rintro ⟨⟩
    refine ⟨_, hreset, hcaller, (hiff _ hreset hcaller).mpr ?_⟩
    rintro ⟨-, hescapes⟩
    obtain ⟨f, hf, -⟩ := parse_of_escapes hescapes
    cases hf
  · have hdigits : (d.dial script "tcp" long none).outcome = .failure (.tooManyDigits 4301) :=
      congrArg Dialled.outcome
        (d.dial_of_parse_error rfl (Address.parse_eq_digits_iff.mpr hlong) script none)
    have hencoding : (d.dial script "tcp" foreign none).outcome =
        .failure (.fault (.ofEncoding e)) := rfl
    obtain ⟨hlong', -⟩ := d.dial_fails_with_error_iff hscript "tcp" long none
    obtain ⟨hforeign', -⟩ := d.dial_fails_with_error_iff hscript "tcp" foreign none
    refine ⟨hdigits, fun herror => ?_, hencoding, fun herror => ?_⟩
    · exact (hlong' _ hdigits (by rintro ⟨⟩)).mp herror ⟨rfl, .inl ⟨4301, hlong⟩⟩
    · exact (hforeign' _ hencoding (by rintro ⟨⟩)).mp herror ⟨rfl, .inr hforeign⟩

end Dialer

end Socks5
