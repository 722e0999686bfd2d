import Socks5.Proofs.Dial.Errors
import Socks5.Proofs.Dial.Order

/-!
# How far a failed dial had got

The stage of an error is where the dial stood when it failed. `Stopped` says of every stage what a
dial may have done by then: its errors are followed from the node of the handshake, or the opening,
where they come up, and an error from below is named after that place. What a caller can tell from
the stage, `StageTells`, is read off it.
-/

namespace Socks5

variable {α β σ τ : Type}

/-! ### Failures from below -/

/-- A failure that has no error of the protocol. -/
def Failure.Plain (f : Failure) : Prop := ∀ e, f ≠ .error e

lemma Fault.plain (g : Fault) : (Failure.fault g).Plain := by rintro _ ⟨⟩

lemma Failure.cancelled_plain : Failure.cancelled.Plain := by rintro _ ⟨⟩

lemma pass_plain {now ticks : Nat} {limit : Option Int} {cancelAt : Option Nat} {f : Failure}
    (h : (pass now ticks limit cancelAt).1 = .failure f) : f.Plain := by
  obtain rfl | ⟨g, rfl, -⟩ := pass_systemic h
  · exact Failure.cancelled_plain
  · exact g.plain

namespace Line

variable {limit : Option Int} {l : Line} {f : Failure}

lemma write_plain {out : Bytes} (h : (l.write limit out).1 = .failure f) : f.Plain := by
  by_cases hlimit : runOut limit
  · rw [write_of_runOut hlimit] at h
    cases h
    exact Fault.timeout.plain
  rcases hwrite : l.stream.write out with ⟨g | ⟨delay, fault⟩, stream⟩
  · rw [write_of_error hlimit hwrite] at h
    cases h
    exact g.plain
  · rw [write_of_ok hlimit hwrite] at h
    rcases hpass : (pass l.now delay limit l.cancelAt).1 with _ | f' | _ <;> rw [hpass] at h
    · cases fault with
      | none => cases h
      | some g =>
        cases h
        exact g.plain
    · cases h
      exact pass_plain hpass
    · cases h

lemma read_plain {r : Reading} (h : (l.read limit r).1 = .failure f) : f.Plain := by
  unfold read at h
  split_ifs at h
  · cases h
    exact Fault.timeout.plain
  obtain ⟨time, hstop⟩ | ⟨bs, n, rfl⟩ | ⟨g, rfl, -⟩ := await_failure l.arrivals r l.now l.stream h
  · obtain ⟨-, -, -, rfl⟩ | ⟨-, rfl⟩ := breakOff_eq_some hstop
    · exact Fault.timeout.plain
    · exact Failure.cancelled_plain
  · rintro _ ⟨⟩
  · exact g.plain

end Line

/-! ### The stages of a handshake -/

namespace Handshake

/-- All errors of a handshake have one stage: its own, and those of its requests and its reads. -/
def InStage (stage : Stage) : Handshake α → Prop
  | .done _ => True
  | .fail e => e.stage = some stage
  | .note _ next => next.InStage stage
  | .send request _ next => request.stage = stage ∧ next.InStage stage
  | .receive part _ next => part.stage = stage ∧ ∀ bs, (next bs).InStage stage

lemma stage_of_sendFailure {request : Request} {f : Failure} {e : Error} (hf : f.Plain)
    (h : sendFailure request f = .error e) : e.stage = some request.stage := by
  unfold sendFailure at h
  split at h
  · split_ifs at h
    cases h
    rfl
  · exact absurd h (hf e)

lemma stage_of_receiveFailure {part : Part} {f : Failure} {e : Error} (hf : f.Plain)
    (h : receiveFailure part f = .error e) : e.stage = some part.stage := by
  unfold receiveFailure at h
  split at h
  · cases h
    rfl
  · split_ifs at h
    cases h
    rfl
  · exact absurd h (hf e)

end Handshake

/-- A failure comes from the first part, or from what follows its value. -/
lemma Ended.andThen_failure {fail : Failure → Failure} {leave : σ → τ}
    {next : α → σ → Ended β × τ} {r : Ended α × σ} {f : Failure}
    (h : (andThen fail leave next r).1 = .failure f) :
    (∃ g, r.1 = .failure g ∧ fail g = f) ∨ ∃ a, r.1 = .value a ∧ (next a r.2).1 = .failure f := by
  obtain ⟨ended, s⟩ := r
  cases ended with
  | value a => exact .inr ⟨a, rfl, h⟩
  | failure g => exact .inl ⟨g, rfl, Ended.failure.inj h⟩
  | never => cases h

/-- A recorded failure comes from the first part, or from what follows its value. -/
lemma Recorded.andThen_failure {fail : Failure → Failure} {leave : σ → τ}
    {next : α → σ → Recorded β τ} {r : Recorded α σ} {f : Failure}
    (h : (r.andThen fail leave next).2.1 = .failure f) :
    (∃ g, r.2.1 = .failure g ∧ fail g = f ∧ r.andThen fail leave next = (r.1, .failure f,
        leave r.2.2)) ∨
      ∃ a, r.2.1 = .value a ∧ (next a r.2.2).2.1 = .failure f ∧
        r.andThen fail leave next = (r.1 ++ (next a r.2.2).1, (next a r.2.2).2) := by
  obtain ⟨acts, ended, s⟩ := r
  cases ended with
  | value a => exact .inr ⟨a, rfl, h, rfl⟩
  | failure g =>
    obtain rfl := Ended.failure.inj h
    exact .inl ⟨g, rfl, rfl, rfl⟩
  | never => cases h

namespace Handshake

/-- The errors of a handshake have its stage, whatever the line does. -/
lemma stage_of_run {stage : Stage} {step deadline : Option Int} {e : Error} (h : Handshake α) :
    h.InStage stage → ∀ l : Line, (h.run step deadline l).1 = .failure (.error e) →
      e.stage = some stage := by
  induction h with
  | done a => exact fun _ l hl => nomatch hl
  | fail e' =>
    intro hstage l hl
    cases hl
    exact hstage
  | note n next ih => exact fun hstage l => ih hstage (l.tell n)
  | send request out next ih =>
    rintro ⟨rfl, hnext⟩ l hl
    rw [run_send] at hl
    obtain ⟨g, hg, heq⟩ | ⟨_, -, hrest⟩ := Ended.andThen_failure hl
    · exact stage_of_sendFailure (Line.write_plain hg) heq
    · exact ih hnext _ hrest
  | receive part count next ih =>
    rintro ⟨rfl, hnext⟩ l hl
    rw [run_receive] at hl
    obtain ⟨g, hg, heq⟩ | ⟨bs, -, hrest⟩ := Ended.andThen_failure hl
    · exact stage_of_receiveFailure (Line.read_plain hg) heq
    · exact ih bs (hnext bs) _ hrest

variable (network : Network) (type : AddressType)

lemma readBody_inStage (size : Nat) : (readBody network type size).InStage network.stage := by
  refine ⟨rfl, fun body => ⟨rfl, fun port => ?_⟩⟩
  beta_reduce
  split
  · split
    · exact trivial
    · exact rfl
    · exact rfl
  · exact rfl

lemma readBound_inStage : (readBound network type).InStage network.stage := by
  unfold readBound
  split
  · exact readBody_inStage network type _
  · refine ⟨rfl, fun length => ?_⟩
    beta_reduce
    split
    · split_ifs
      · exact rfl
      · exact readBody_inStage network type _
    · exact rfl

lemma readReply_inStage : (readReply network).InStage network.stage := by
  refine ⟨rfl, fun header => ?_⟩
  beta_reduce
  split
  · split_ifs
    · exact rfl
    · exact rfl
    · exact rfl
    · split
      · exact readBound_inStage network _
      · exact rfl
  · exact rfl

/-- Everything behind the negotiation is of the stage of the network. -/
lemma command_inStage (target : Address) : (command network target).InStage network.stage :=
  ⟨rfl, readReply_inStage network⟩

end Handshake

/-! ### Where a dial stops -/

lemma Line.received_recordedWrite (limit : Option Int) (out : Bytes) (l : Line) :
    Act.received (l.recordedWrite limit out).1 = [] := by
  unfold recordedWrite
  split_ifs <;> rfl

lemma Line.recordedRead_of_failure {limit : Option Int} {count : Nat} {l : Line} {f : Failure}
    (h : (l.recordedRead limit count).2.1 = .failure f) : (l.recordedRead limit count).1 = [] :=
  recordedRead_of_broken fun _ hvalue => nomatch hvalue.symm.trans h

lemma Line.recordedRead_gives {limit : Option Int} {count : Nat} {l : Line} {bs : Bytes}
    (h : (l.recordedRead limit count).2.1 = .value bs) :
    (l.recordedRead limit count).1 = [.reads bs] ∧ bs.length = count :=
  ⟨recordedRead_of_value h, (read_takes h).1⟩

/-- The proxy has agreed to the version in a complete answer to the negotiation. -/
def Act.Agreed (acts : List Act) : Prop := ∃ method rest, received acts = 5 :: method :: rest

namespace Handshake

/-- If the negotiation fails, the proxy has not agreed; what fails later is of the network. -/
lemma stage_of_negotiate {network : Network} {target : Address} {step deadline : Option Int}
    {l : Line} {e : Error}
    (h : ((negotiate network target).recorded step deadline l).2.1 = .failure (.error e)) :
    (e.stage = some .negotiation ∧
        ¬ Act.Agreed ((negotiate network target).recorded step deadline l).1) ∨
      (e.stage = some network.stage ∧
        Act.Agreed ((negotiate network target).recorded step deadline l).1) := by
  unfold negotiate at h ⊢
  rw [recorded] at h ⊢
  obtain ⟨g, hg, hname, heq⟩ | ⟨_, -, hanswer, heq⟩ := Recorded.andThen_failure h <;> rw [heq]
  · refine .inl ⟨stage_of_sendFailure (Line.write_plain hg) hname, ?_⟩
    rintro ⟨method, rest, hreceived⟩
    rw [Line.received_recordedWrite] at hreceived
    cases hreceived
  rw [recorded] at hanswer ⊢
  obtain ⟨g, hg, hname, heq⟩ | ⟨bs, hvalue, hnext, heq⟩ := Recorded.andThen_failure hanswer <;>
    rw [heq]
  · refine .inl ⟨stage_of_receiveFailure (Line.read_plain hg) hname, ?_⟩
    rintro ⟨method, rest, hreceived⟩
    rw [Act.received_append, Line.received_recordedWrite,
      Line.recordedRead_of_failure hg] at hreceived
    cases hreceived
  obtain ⟨hread, hlength⟩ := Line.recordedRead_gives hvalue
  rw [hread]
  obtain ⟨version, method, rfl⟩ : ∃ version method, bs = [version, method] := by
    obtain _ | ⟨version, _ | ⟨method, _ | _⟩⟩ := bs <;> simp at hlength
    exact ⟨version, method, rfl⟩
  simp only at hnext ⊢
  split_ifs at hnext ⊢ with hversion
  · cases hnext
    refine .inl ⟨rfl, ?_⟩
    rintro ⟨method', rest, hreceived⟩
    rw [Act.received_append, Line.received_recordedWrite] at hreceived
    exact hversion (List.cons.inj hreceived).1
  · obtain rfl : version = Frame.version := not_not.mp hversion
    rw [recorded, recorded_snd] at hnext
    refine .inr ⟨stage_of_run _ (command_inStage network target) _ hnext, ?_⟩
    unfold Act.Agreed
    rw [Act.received_append, Line.received_recordedWrite]
    exact ⟨method, _, rfl⟩

end Handshake

namespace Dialer

variable {d : Dialer} {script : Script} {network : Network} {target : Address} {e : Error}
  {acts : List Act}

lemma stage_of_openFailure {f : Failure} (hf : f.Plain) (h : openFailure f = .error e) :
    e.stage = some .dial := by
  unfold openFailure at h
  split at h
  · split_ifs at h
    cases h
    rfl
  · exact absurd h (hf e)

lemma stage_of_relayFailure {bound : Address} {f : Failure} (hf : f.Plain)
    (h : relayFailure bound f = .error e) : e.stage = some .associate := by
  unfold relayFailure at h
  split at h
  · split_ifs at h
    cases h
    rfl
  · exact absurd h (hf e)

/-- Once the relay is being opened, all errors are about that. -/
lemma stage_of_openRelay {script : EndpointScript} {deadline : Option Int} {bound : Address}
    {l : Line} (h : (d.openRelay script deadline bound target l).1 = .failure (.error e)) :
    e.stage = some .associate := by
  rw [openRelay_eq] at h
  split_ifs at h
  · exact stage_of_relayFailure (Fault.plain _) (Ended.failure.inj h)
  · exact stage_of_relayFailure (Fault.plain _) (Ended.failure.inj h)
  obtain ⟨g, hg, heq⟩ | ⟨_, -, hopened⟩ := Ended.andThen_failure h
  · exact stage_of_relayFailure (pass_plain hg) heq
  · unfold openedRelay checkHandle at hopened
    cases hfault : script.fault with
    | some g =>
      rw [hfault] at hopened
      exact stage_of_relayFailure (Fault.plain g) (Ended.failure.inj hopened)
    | none =>
      rw [hfault] at hopened
      simp only at hopened
      cases hkind : script.kind with
      | foreign closable =>
        rw [hkind] at hopened
        cases hopened
        rfl
      | unmade =>
        rw [hkind] at hopened
        cases hopened
        rfl
      | endpoint socket =>
        rw [hkind] at hopened
        simp only at hopened
        split_ifs at hopened
        cases hopened
        rfl

/-- What a handshake has read in full begins with the agreement. -/
lemma agreed_of_course {bound : Address}
    (h : (Handshake.negotiate network target).Course acts (some bound)) : Act.Agreed acts := by
  obtain ⟨hnone, -⟩ | ⟨method, reply, -, rfl⟩ := Handshake.negotiate_course h
  · cases hnone
  · exact ⟨method, Act.received reply, rfl⟩

/-- On an open line a dial stops in the negotiation, before the proxy has agreed, or behind it. -/
lemma stage_of_converse {deadline : Option Int} {l : Line}
    (h : (d.recordedConverse script network target deadline l).2.1 = .failure (.error e)) :
    (e.stage = some .negotiation ∧
        ¬ Act.Agreed (d.recordedConverse script network target deadline l).1) ∨
      (e.stage = some network.stage ∧
        Act.Agreed (d.recordedConverse script network target deadline l).1) := by
  obtain ⟨result, hcourse, hresult⟩ :=
    (Handshake.negotiate network target).recorded_course d.stepLimit deadline l
  unfold recordedConverse at h ⊢
  obtain ⟨g, hg, rfl, heq⟩ | ⟨bound, hbound, hfailed, heq⟩ := Recorded.andThen_failure h <;>
    rw [heq]
  · exact Handshake.stage_of_negotiate hg
  · obtain rfl := hresult bound hbound
    obtain ⟨method, rest, hreceived⟩ := agreed_of_course hcourse
    refine .inr ⟨?_, method, rest, ?_⟩
    · cases network with
      | tcp => cases hfailed
      | udp => exact stage_of_openRelay hfailed
    · simp [recordedEstablished, hreceived]

/-- Where a dial of a target stops, and how that can be told. -/
inductive Stopped (network : Network) (acts : List Act) (t : Trace) : Stage → Prop
  /-- The stream was not open. -/
  | unopened (hstream : t.stream = none) : Stopped network acts t .dial
  /-- The proxy had not agreed. -/
  | unanswered (hstream : t.stream.isSome) (hagreed : ¬ Act.Agreed acts) :
    Stopped network acts t .negotiation
  /-- The proxy had agreed. -/
  | agreed (hstream : t.stream.isSome) (hagreed : Act.Agreed acts) :
    Stopped network acts t network.stage

lemma recordedTarget_stopped {limit : Option Int}
    (h : (d.recordedTarget script network target limit).2.1 = .failure (.error e)) :
    ∃ stage, e.stage = some stage ∧ Stopped network
      (d.recordedTarget script network target limit).1
      (d.recordedTarget script network target limit).2.2 stage := by
  unfold recordedTarget at h ⊢
  split_ifs at h ⊢
  · exact ⟨.dial, stage_of_openFailure (Fault.plain _) (Ended.failure.inj h), .unopened rfl⟩
  · exact ⟨.dial, stage_of_openFailure (Fault.plain _) (Ended.failure.inj h), .unopened rfl⟩
  obtain ⟨g, hg, hname, heq⟩ | ⟨_, -, hfailed, heq⟩ := Recorded.andThen_failure h <;> rw [heq]
  · exact ⟨.dial, stage_of_openFailure (pass_plain hg) hname, .unopened rfl⟩
  unfold recordedOpened at hfailed ⊢
  cases hfault : script.stream.fault with
  | some g =>
    rw [hfault] at hfailed
    exact ⟨.dial, stage_of_openFailure (Fault.plain _) (Ended.failure.inj hfailed), .unopened rfl⟩
  | none =>
    rw [hfault] at hfailed
    obtain ⟨hstage, hagreed⟩ | ⟨hstage, hagreed⟩ := stage_of_converse hfailed
    · exact ⟨.negotiation, hstage, .unanswered rfl hagreed⟩
    · exact ⟨network.stage, hstage, .agreed rfl hagreed⟩

/-! ### What the stage tells -/

/-- Before anything is written nothing is read. -/
lemma Course.sent_ne_nil (h : Course d network target acts) (hagreed : Act.Agreed acts) :
    Act.sent acts ≠ [] := by
  obtain ⟨method, rest, hreceived⟩ := hagreed
  have htalk {talk : List Act} {result : Option Address}
      (h : (Handshake.negotiate network target).Course talk result)
      (hreceived : Act.received talk = 5 :: method :: rest) : Act.sent talk ≠ [] := by
    cases h with
    | cut => cases hreceived
    | send => exact nofun
  cases h with
  | idle => cases hreceived
  | @talking talk result h =>
    have hsent := htalk h hreceived
    exact hsent
  | @opening talk bound _ h =>
    change Act.received (talk ++ _) = _ at hreceived
    change Act.sent (talk ++ _) ≠ []
    rw [Act.received_append] at hreceived
    rw [Act.sent_append]
    -- Opening an endpoint reads nothing.
    have hbefore := htalk h ((List.append_nil _).symm.trans hreceived)
    exact List.append_ne_nil_of_left_ne_nil hbefore _

/-- What the stage of an error tells of the dial that failed with it: of what it did, as it is
recorded and as its trace shows it. -/
structure StageTells (name address : Text) (acts : List Act) (t : Trace) (stage : Option Stage) :
    Prop where
  unsupported : stage = none ↔ name ≠ "tcp" ∧ name ≠ "udp"
  idle : stage = none ∨ stage = some .request → t.streamCalls = [] ∧ t.endpointCalls = []
  dialling : stage = some .dial ↔
    (name = "tcp" ∨ name = "udp") ∧ (∃ target, Address.parse address = .ok target) ∧ t.stream = none
  negotiating : stage = some .negotiation ↔ t.stream.isSome ∧
    (t.stream.elim [] (·.written) = [] ∨
      t.stream.elim [] (·.written) = [5, 1, 0] ∧ ¬ Act.Agreed acts)
  connecting : stage = some .connect → name = "tcp" ∧ Act.Agreed acts ∧ t.endpointCalls = []
  associating : stage = some .associate → name = "udp" ∧ Act.Agreed acts
  commanding : ∀ network target, Network.ofName? name = some network →
    Address.parse address = .ok target →
    t.stream.elim [] (·.written) = [5, 1, 0] ++ commandFrame network target →
    stage = some network.stage

lemma Network.eq_name {name : Text} (h : Network.ofName? name = some network) :
    name = network.name := by
  unfold Network.ofName? at h
  split_ifs at h with htcp hudp
  · cases h
    exact htcp
  · cases h
    exact hudp

section

variable {address : Text} {t : Trace}

/-- Without a network or a target nothing is done. -/
lemma stageTells_of_unsupported {name : Text} (htcp : name ≠ "tcp") (hudp : name ≠ "udp") :
    StageTells name address [] {} none where
  unsupported := ⟨fun _ => ⟨htcp, hudp⟩, fun _ => rfl⟩
  idle := fun _ => ⟨rfl, rfl⟩
  dialling := by simp [htcp, hudp]
  negotiating := by simp
  connecting := nofun
  associating := nofun
  commanding := fun _ _ _ _ hwritten => nomatch hwritten

lemma stageTells_of_unparsed {reason : AddressFailure}
    (hparse : Address.parse address = .error reason) :
    StageTells network.name address [] {} (some .request) where
  unsupported := by cases network <;> simp [Network.name]
  idle := fun _ => ⟨rfl, rfl⟩
  dialling := by simp [hparse]
  negotiating := by simp
  connecting := nofun
  associating := nofun
  commanding := fun _ _ _ _ hwritten => nomatch hwritten

lemma stageTells_of_unopened (hparse : Address.parse address = .ok target)
    (hstream : t.stream = none) : StageTells network.name address acts t (some .dial) where
  unsupported := by cases network <;> simp [Network.name]
  idle := by simp
  dialling := by
    have hname : (network.name : Text) = "tcp" ∨ (network.name : Text) = "udp" := by
      cases network <;> simp [Network.name]
    exact ⟨fun _ => ⟨hname, ⟨target, hparse⟩, hstream⟩, fun _ => rfl⟩
  negotiating := by simp [hstream]
  connecting := nofun
  associating := nofun
  commanding := by
    intro _ _ _ _ hwritten
    rw [hstream] at hwritten
    cases hwritten

/-- Whatever a dial has written of the command, it had the agreement of the proxy before. -/
lemma Course.agreed_of_command (hcourse : Course d network target acts)
    (hsent : Act.sent acts = [5, 1, 0] ++ commandFrame network target) : Act.Agreed acts := by
  obtain ⟨before, after, method, hbefore, rfl⟩ := hcourse.orderly.command hsent
  exact ⟨method, Act.received after, by rw [Act.received_append, hbefore]; rfl⟩

lemma stageTells_of_unanswered (hparse : Address.parse address = .ok target)
    (hcourse : Course d network target acts) (hshows : Shows t acts)
    (hstream : t.stream.isSome) (hagreed : ¬ Act.Agreed acts) :
    StageTells network.name address acts t (some .negotiation) where
  unsupported := by cases network <;> simp [Network.name]
  idle := by simp
  dialling := ⟨nofun, fun ⟨_, _, hnone⟩ => by simp [hnone] at hstream⟩
  negotiating := by
    refine ⟨fun _ => ⟨hstream, ?_⟩, fun _ => rfl⟩
    rw [hshows.written]
    obtain (hnil | hnegotiation) | ⟨method, after, -, rfl⟩ := hcourse.written_cases
    · exact .inl hnil
    · exact .inr ⟨hnegotiation, hagreed⟩
    · exact absurd ⟨method, Act.received after, rfl⟩ hagreed
  connecting := nofun
  associating := nofun
  commanding := by
    intro network' target' hname hparse' hwritten
    obtain rfl : network = network' := Option.some.inj ((Network.ofName?_name _).symm.trans hname)
    obtain rfl : target = target' := Except.ok.inj (hparse.symm.trans hparse')
    rw [hshows.written] at hwritten
    exact absurd (hcourse.agreed_of_command hwritten) hagreed

lemma stageTells_of_agreed (hcourse : Course d network target acts) (hshows : Shows t acts)
    (hstream : t.stream.isSome) (hagreed : Act.Agreed acts) :
    StageTells network.name address acts t (some network.stage) where
  unsupported := by cases network <;> simp [Network.name]
  idle := by cases network <;> simp [Network.stage]
  dialling := by
    constructor
    · intro h
      cases network <;> cases h
    · rintro ⟨-, -, hnone⟩
      simp [hnone] at hstream
  negotiating := by
    constructor
    · intro h
      cases network <;> cases h
    · rintro ⟨-, hwritten⟩
      rw [hshows.written] at hwritten
      obtain hnil | ⟨-, hrefused⟩ := hwritten
      · exact absurd hnil (hcourse.sent_ne_nil hagreed)
      · exact absurd hagreed hrefused
  connecting := by
    intro h
    cases network with
    | tcp =>
      refine ⟨rfl, hagreed, ?_⟩
      rw [hshows.endpointCalls]
      obtain hnone | ⟨_, _, hudp, -⟩ := hcourse.endpointCalls_cases
      · exact hnone
      · cases hudp
    | udp => cases h
  associating := by
    intro h
    cases network with
    | tcp => cases h
    | udp => exact ⟨rfl, hagreed⟩
  commanding := by
    intro network' _ hname _ _
    obtain rfl : network = network' := Option.some.inj ((Network.ofName?_name _).symm.trans hname)
    rfl

end

/-- The stage of the error of a dial tells how far the dial had got, whatever the network does. -/
theorem dial_stage_tells (d : Dialer) (script : Script) (name address : Text)
    (limit : Option Int) (e : Error)
    (h : (d.dial script name address limit).outcome = .failure (.error e)) :
    (d.recorded script name address limit).2 =
        ((d.dial script name address limit).outcome, (d.dial script name address limit).trace) ∧
      Shows (d.dial script name address limit).trace (d.recorded script name address limit).1 ∧
      Act.received (d.recorded script name address limit).1 <+: script.stream.octets ∧
      StageTells name address (d.recorded script name address limit).1
        (d.dial script name address limit).trace e.stage := by
  have hsnd := d.recorded_snd script name address limit
  have hshows := d.recorded_shows script name address limit
  refine ⟨hsnd, hshows, d.recorded_received script name address limit, ?_⟩
  obtain ⟨houtcome, htrace⟩ := Prod.mk.inj hsnd
  rw [← houtcome] at h
  rw [← htrace] at hshows ⊢
  unfold recorded at h hshows ⊢
  cases hname : Network.ofName? name with
  | none =>
    rw [hname] at h
    cases h
    have htcp : name ≠ "tcp" := by
      rintro rfl
      cases hname
    have hudp : name ≠ "udp" := by
      rintro rfl
      cases hname
    exact stageTells_of_unsupported htcp hudp
  | some network =>
    obtain rfl := Network.eq_name hname
    cases hparse : Address.parse address with
    | error reason =>
      cases reason with
      | invalid reason =>
        simp only [hname, hparse] at h ⊢
        cases h
        exact stageTells_of_unparsed hparse
      | _ =>
        simp only [hname, hparse] at h
        cases h
    | ok target =>
      simp only [hname, hparse] at h hshows ⊢
      have hcourse := d.recordedTarget_course script network target limit
      obtain ⟨stage, hstage, hstopped⟩ := recordedTarget_stopped h
      rw [hstage]
      cases hstopped with
      | unopened hstream => exact stageTells_of_unopened hparse hstream
      | unanswered hstream hagreed =>
        exact stageTells_of_unanswered hparse hcourse hshows hstream hagreed
      | agreed hstream hagreed => exact stageTells_of_agreed hcourse hshows hstream hagreed

/-- A proxy that agrees and then hangs up in the middle of its reply makes the dial fail in the
association; what was written does not tell this from a reply that never came. -/
theorem dial_stage_tells_of_cut_reply :
    let d : Dialer := { proxy := ⟨.ipv4 ⟨10, 0, 0, 1⟩, 1080⟩ }
    let script : Script :=
      { stream := { arrivals := [(1, .data [5, 0]), (2, .data [5, 0]), (3, .ended)] } }
    let dialled := d.dial script "udp" "192.0.2.1:53" none
    let acts := (d.recorded script "udp" "192.0.2.1:53" none).1
    dialled.outcome = .failure (.error (.short (.header .udp))) ∧
      acts = [.opensStream "10.0.0.1" 1080, .writes [5, 1, 0], .reads [5, 0],
        .writes [5, 3, 0, 1, 192, 0, 2, 1, 0, 53]] ∧
      StageTells "udp" "192.0.2.1:53" acts dialled.trace (some .associate) := by
  intro d script dialled acts
  have hfailed : dialled.outcome = .failure (.error (.short (.header .udp))) := rfl
  obtain ⟨-, -, -, htells⟩ := dial_stage_tells d script "udp" "192.0.2.1:53" none _ hfailed
  exact ⟨hfailed, rfl, htells⟩

end Dialer

end Socks5
