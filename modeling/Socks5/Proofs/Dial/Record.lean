import Socks5.Proofs.Dial.Course

/-!
# What a dial does, in order

The trace of a dial tells what was attempted and what was written in all, but not what came before
what. A recorded dial is the same dial with a record of its acts beside it: an act is put down when
it is done, whatever becomes of it then, and octets count as read when the dialer has them. Without
its record it is the dial, and its trace is a view of the record.
-/

namespace Socks5

variable {α β σ τ : Type}

namespace Act

/-- A single attempt to open an endpoint. -/
def endpointCall : Text × UInt16 → Act
  | (host, port) => opensEndpoint host port

variable (calls : List (Text × UInt16))

@[simp] lemma streamCalls_map : streamCalls (calls.map endpointCall) = [] := by
  simp [streamCalls, endpointCall]

@[simp] lemma endpointCalls_map : endpointCalls (calls.map endpointCall) = calls := by
  simp [endpointCalls, endpointCall, Function.comp_def]

@[simp] lemma sent_map : sent (calls.map endpointCall) = [] := by
  induction calls with
  | nil => rfl
  | cons _ calls ih => exact ih

@[simp] lemma received_map : received (calls.map endpointCall) = [] := by
  induction calls with
  | nil => rfl
  | cons _ calls ih => exact ih

end Act

/-! ### Recording -/

/-- The acts of something that takes time, how it ended, and the state it left. -/
abbrev Recorded (α σ : Type) := List Act × Ended α × σ

namespace Recorded

/-- Goes on from a value like `Ended.andThen`; the acts of both parts follow each other. -/
def andThen (fail : Failure → Failure) (leave : σ → τ) (next : α → σ → Recorded β τ) :
    Recorded α σ → Recorded β τ
  | (acts, .value a, s) => (acts ++ (next a s).1, (next a s).2)
  | (acts, .failure f, s) => (acts, .failure (fail f), leave s)
  | (acts, .never, s) => (acts, .never, leave s)

variable {fail : Failure → Failure} {leave : σ → τ} {next : α → σ → Recorded β τ}

lemma andThen_snd (r : Recorded α σ) :
    (r.andThen fail leave next).2 =
      (r.2 |> Ended.andThen fail leave fun a s => (next a s).2) := by
  obtain ⟨acts, ended, s⟩ := r
  cases ended <;> rfl

lemma andThen_induct {P : Recorded β τ → Prop} {r : Recorded α σ}
    (hvalue : ∀ a, r.2.1 = .value a → P (r.1 ++ (next a r.2.2).1, (next a r.2.2).2))
    (hbroken : (∀ a, r.2.1 ≠ .value a) → ∀ ended, (∀ b, ended ≠ .value b) →
      P (r.1, ended, leave r.2.2)) :
    P (r.andThen fail leave next) := by
  obtain ⟨acts, ended, s⟩ := r
  cases ended with
  | value a => exact hvalue a rfl
  | failure f => exact hbroken nofun _ nofun
  | never => exact hbroken nofun _ nofun

end Recorded

/-- A write; the octets are written as soon as the stream has taken them. -/
def Line.recordedWrite (limit : Option Int) (out : Bytes) (l : Line) : Recorded Unit Line :=
  (if l.takes limit out then [.writes out] else [], l.write limit out)

/-- A read of exactly so many octets, which are read if it gives them. -/
def Line.recordedRead (limit : Option Int) (count : Nat) (l : Line) : Recorded Bytes Line :=
  let r := l.read limit (.exactly count)
  (match r.1 with
    | .value bs => [.reads bs]
    | _ => [], r)

lemma Line.recordedRead_of_value {limit : Option Int} {count : Nat} {l : Line} {bs : Bytes}
    (h : (l.read limit (.exactly count)).1 = .value bs) :
    (l.recordedRead limit count).1 = [.reads bs] := by
  simp only [recordedRead, h]

lemma Line.recordedRead_of_broken {limit : Option Int} {count : Nat} {l : Line}
    (h : ∀ bs, (l.read limit (.exactly count)).1 ≠ .value bs) :
    (l.recordedRead limit count).1 = [] := by
  unfold recordedRead
  cases hread : (l.read limit (.exactly count)).1 with
  | value bs => exact absurd hread (h bs)
  | failure f => simp only [hread]
  | never => simp only [hread]

namespace Handshake

/-- Carries out a handshake on a line, with a record. -/
def recorded (step deadline : Option Int) : Handshake α → Line → Recorded α Line
  | .done a, l => ([], .value a, l)
  | .fail e, l => ([], .failure (.error e), l)
  | .note n next, l => next.recorded step deadline (l.tell n)
  | .send request out next, l =>
    l.recordedWrite (limitAt step deadline l.now) out |> Recorded.andThen (sendFailure request) id
      fun _ l => next.recorded step deadline l
  | .receive part count next, l =>
    l.recordedRead (limitAt step deadline l.now) count |> Recorded.andThen (receiveFailure part) id
      fun bs l => (next bs).recorded step deadline l

variable (step deadline : Option Int)

lemma recorded_snd (h : Handshake α) :
    ∀ l : Line, (h.recorded step deadline l).2 = h.run step deadline l := by
  induction h with
  | done a => exact fun l => rfl
  | fail e => exact fun l => rfl
  | note n next ih => exact fun l => ih (l.tell n)
  | send request out next ih =>
    intro l
    rw [recorded, Recorded.andThen_snd, run_send]
    simp only [Line.recordedWrite, ih]
  | receive part count next ih =>
    intro l
    rw [recorded, Recorded.andThen_snd, run_receive]
    simp only [Line.recordedRead, ih]

/-- What a recorded part has written since a stream held some octets is what its record tells. -/
def WroteAfter (before : Bytes) (r : Recorded α Line) : Prop :=
  r.2.2.stream.written = before ++ Act.sent r.1

lemma WroteAfter.andThen {before : Bytes} {r : Recorded α Line} {fail : Failure → Failure}
    {next : α → Line → Recorded β Line} (h : WroteAfter before r)
    (hnext : ∀ a l, WroteAfter l.stream.written (next a l)) :
    WroteAfter before (r.andThen fail id next) := by
  apply Recorded.andThen_induct
  · intro a _
    calc (next a r.2.2).2.2.stream.written
        = r.2.2.stream.written ++ Act.sent (next a r.2.2).1 := hnext a r.2.2
      _ = before ++ Act.sent (r.1 ++ (next a r.2.2).1) := by
        rw [h, Act.sent_append, List.append_assoc]
  · exact fun _ _ _ => h

lemma recordedWrite_wroteAfter (limit : Option Int) (out : Bytes) (l : Line) :
    WroteAfter l.stream.written (l.recordedWrite limit out) := by
  unfold WroteAfter Line.recordedWrite
  rw [l.write_written]
  split_ifs
  · simp [Act.sent]
  · rfl

lemma recordedRead_wroteAfter (limit : Option Int) (count : Nat) (l : Line) :
    WroteAfter l.stream.written (l.recordedRead limit count) := by
  unfold WroteAfter Line.recordedRead
  simp only
  rw [l.read_written]
  cases (l.read limit (.exactly count)).1 <;> exact (List.append_nil _).symm

lemma recorded_wroteAfter (h : Handshake α) :
    ∀ l : Line, WroteAfter l.stream.written (h.recorded step deadline l) := by
  induction h with
  | done a => exact fun l => (List.append_nil _).symm
  | fail e => exact fun l => (List.append_nil _).symm
  | note n next ih => exact fun l => ih (l.tell n)
  | send request out next ih =>
    exact fun l => (recordedWrite_wroteAfter _ out l).andThen fun _ => ih
  | receive part count next ih => exact fun l => (recordedRead_wroteAfter _ count l).andThen ih

/-- What a handshake has read comes first of what there was to read. -/
lemma recorded_received (h : Handshake α) :
    ∀ l : Line, Act.received (h.recorded step deadline l).1 <+: l.coming := by
  induction h with
  | done a => exact fun l => List.nil_prefix
  | fail e => exact fun l => List.nil_prefix
  | note n next ih => exact fun l => ih (l.tell n)
  | send request out next ih =>
    intro l
    have hnothing : Act.received (l.recordedWrite (limitAt step deadline l.now) out).1 = [] := by
      unfold Line.recordedWrite
      split_ifs <;> rfl
    rw [recorded]
    apply Recorded.andThen_induct (P := fun r => Act.received r.1 <+: l.coming)
    · -- A write leaves what is to come as it was.
      intro _ _
      rw [Act.received_append, hnothing, ← l.write_coming (limitAt step deadline l.now) out]
      exact ih _
    · intro _ _ _
      rw [hnothing]
      exact List.nil_prefix
  | receive part count next ih =>
    intro l
    rw [recorded]
    apply Recorded.andThen_induct (P := fun r => Act.received r.1 <+: l.coming)
    · -- A read takes its octets off the front of it.
      intro bs hvalue
      obtain ⟨-, hcoming⟩ := Line.read_takes hvalue
      have hact : Act.received [.reads bs] = bs := List.append_nil bs
      rw [Line.recordedRead_of_value hvalue, Act.received_append, hact, hcoming]
      exact (List.prefix_append_right_inj bs).mpr (ih bs _)
    · intro hbroken _ _
      rw [Line.recordedRead_of_broken hbroken]
      exact List.nil_prefix

/-- Whatever becomes of a handshake on a line, it keeps to its course. -/
lemma recorded_course (h : Handshake α) :
    ∀ l : Line, ∃ result, h.Course (h.recorded step deadline l).1 result ∧
      ∀ a, (h.recorded step deadline l).2.1 = .value a → result = some a := by
  induction h with
  | done a => exact fun l => ⟨some a, .done a, fun _ h => by cases h; rfl⟩
  | fail e => exact fun l => ⟨none, .cut _, nofun⟩
  | note n next ih =>
    intro l
    obtain ⟨result, hcourse, hresult⟩ := ih (l.tell n)
    exact ⟨result, .note n hcourse, hresult⟩
  | send request out next ih =>
    intro l
    rw [recorded]
    apply Recorded.andThen_induct (P := fun r => ∃ result,
      (Handshake.send request out next).Course r.1 result ∧ ∀ a, r.2.1 = .value a → result = some a)
    · intro _ hvalue
      obtain ⟨result, hcourse, hresult⟩ := ih (l.write (limitAt step deadline l.now) out).2
      refine ⟨result, ?_, hresult⟩
      rw [Line.recordedWrite, if_pos (Line.takes_of_value hvalue)]
      exact .send request out hcourse
    · -- A write may break after its octets were taken; the course is then cut behind it.
      intro _ ended hended
      refine ⟨none, ?_, fun a h => absurd h (hended a)⟩
      unfold Line.recordedWrite
      split_ifs
      · exact .send request out (.cut next)
      · exact .cut _
  | receive part count next ih =>
    intro l
    rw [recorded]
    apply Recorded.andThen_induct (P := fun r => ∃ result,
      (Handshake.receive part count next).Course r.1 result ∧ ∀ a, r.2.1 = .value a →
        result = some a)
    · intro bs hvalue
      obtain ⟨result, hcourse, hresult⟩ :=
        ih bs (l.read (limitAt step deadline l.now) (.exactly count)).2
      refine ⟨result, ?_, hresult⟩
      rw [Line.recordedRead_of_value hvalue]
      exact .receive part (Line.read_takes hvalue).1 hcourse
    · intro hbroken ended hended
      refine ⟨none, ?_, fun a h => absurd h (hended a)⟩
      rw [Line.recordedRead_of_broken hbroken]
      exact .cut _

end Handshake

/-! ### Recorded dials -/

namespace Dialer

variable (d : Dialer) (script : Script) (network : Network) (target : Address)
  (deadline : Option Int)

/-- What a dial does once the proxy has agreed, with a record. -/
def recordedEstablished (bound : Address) (l : Line) : Recorded Session Reach :=
  ((d.established script network target deadline bound l).2.1.map Act.endpointCall,
    d.established script network target deadline bound l)

/-- What happens on an open line, with a record. -/
def recordedConverse (l : Line) : Recorded Session Reach :=
  (Handshake.negotiate network target).recorded d.stepLimit deadline l |>
    Recorded.andThen id (fun l => ([], none, l))
      (d.recordedEstablished script network target deadline)

lemma recordedConverse_snd (l : Line) :
    (d.recordedConverse script network target deadline l).2 =
      d.converse script network target deadline l := by
  rw [recordedConverse, Recorded.andThen_snd, Handshake.recorded_snd, converse_eq]
  rfl

/-- What becomes of an opening of the stream, with a record. -/
def recordedOpened (notes : List Note) (now : Nat) : Recorded Session Trace :=
  match script.stream.fault with
  | some f => ([], .failure (openFailure (.fault f)), traceAt notes [d.proxy.toPair] now)
  | none =>
    let (acts, outcome, reach) :=
      d.recordedConverse script network target deadline (openedLine script now notes)
    (acts, outcome, d.conclude target outcome reach)

lemma recordedOpened_snd (notes : List Note) (now : Nat) :
    (d.recordedOpened script network target deadline notes now).2 =
      d.openedDial script network target deadline notes now := by
  unfold recordedOpened openedDial
  cases script.stream.fault with
  | some f => rfl
  | none =>
    simp only [dialOn]
    rw [← recordedConverse_snd]

/-- Dials a target that was read, with a record. -/
def recordedTarget (limit : Option Int) : Recorded Session Trace :=
  if runOut (limit.map (max 0)) then
    ([], .failure (openFailure (.fault .timeout)), traceAt [.connecting d.proxy] [] 0)
  else if runOut d.openLimit then
    ([], .failure (openFailure (.fault .timeout)), traceAt d.openingNotes [] 0)
  else
    ([d.streamCall], pass 0 script.stream.delay (stricter (limit.map (max 0)) d.openLimit)
      script.cancelAt) |>
    Recorded.andThen openFailure (traceAt d.openingNotes [d.proxy.toPair])
      fun _ now => d.recordedOpened script network target limit d.openingNotes now

lemma recordedTarget_snd (limit : Option Int) :
    (d.recordedTarget script network target limit).2 =
      ((d.dialTarget script network target limit).outcome,
        (d.dialTarget script network target limit).trace) := by
  rw [dialTarget_eq, recordedTarget]
  split_ifs
  · rfl
  · rfl
  · rw [Recorded.andThen_snd]
    simp only [recordedOpened_snd]

/-- Dials, with a record. -/
def recorded (network address : Text) (limit : Option Int) : Recorded Session Trace :=
  match Network.ofName? network with
  | none => ([], .failure (.error (.network network)), {})
  | some network => match Address.parse address with
    | .ok target => d.recordedTarget script network target limit
    | .error f => ([], .failure (.ofTarget f), {})

/-- Without its record a recorded dial is the dial. -/
lemma recorded_snd (network address : Text) (limit : Option Int) :
    (d.recorded script network address limit).2 =
      ((d.dial script network address limit).outcome,
        (d.dial script network address limit).trace) := by
  unfold recorded dial
  cases Network.ofName? network with
  | none => rfl
  | some network =>
    simp only
    cases Address.parse address with
    | error f => rfl
    | ok target => exact d.recordedTarget_snd script network target limit

/-! ### The trace is a view of the record -/

/-- A trace shows of the acts of a dial what it has room for. -/
structure Shows (trace : Trace) (acts : List Act) : Prop where
  streamCalls : trace.streamCalls = Act.streamCalls acts
  endpointCalls : trace.endpointCalls = Act.endpointCalls acts
  written : trace.stream.elim [] (·.written) = Act.sent acts

/-- What was done on an open line, as far as the trace is to show it. -/
structure ShowsOn (l : Line) (r : Recorded Session Reach) : Prop where
  streamCalls : Act.streamCalls r.1 = []
  endpointCalls : r.2.2.1 = Act.endpointCalls r.1
  written : r.2.2.2.2.stream.written = l.stream.written ++ Act.sent r.1

lemma recordedConverse_shows (l : Line) :
    ShowsOn l (d.recordedConverse script network target deadline l) := by
  obtain ⟨result, hcourse, -⟩ :=
    (Handshake.negotiate network target).recorded_course d.stepLimit deadline l
  obtain ⟨hstream, hendpoint⟩ := hcourse.opens_nothing
  have hwritten : Handshake.WroteAfter l.stream.written _ :=
    (Handshake.negotiate network target).recorded_wroteAfter d.stepLimit deadline l
  unfold Handshake.WroteAfter at hwritten
  apply Recorded.andThen_induct (P := ShowsOn l)
  · intro bound _
    constructor
    · simp [recordedEstablished, hstream]
    · simp [recordedEstablished, hendpoint]
    · simp [recordedEstablished, established_written, hwritten]
  · exact fun _ _ _ => ⟨hstream, hendpoint.symm, hwritten⟩

lemma recordedOpened_shows (notes : List Note) (now : Nat) :
    Shows (d.recordedOpened script network target deadline notes now).2.2
      (d.streamCall :: (d.recordedOpened script network target deadline notes now).1) := by
  unfold recordedOpened
  cases script.stream.fault with
  | some f => exact ⟨rfl, rfl, rfl⟩
  | none =>
    obtain ⟨hstream, hendpoint, hwritten⟩ :=
      d.recordedConverse_shows script network target deadline (openedLine script now notes)
    rw [openedLine_written] at hwritten
    constructor
    · exact (congrArg (d.proxy.toPair :: ·) hstream).symm
    · exact hendpoint
    · exact (d.abandonLine_written target _ _).trans hwritten

lemma recordedTarget_shows (limit : Option Int) :
    Shows (d.recordedTarget script network target limit).2.2
      (d.recordedTarget script network target limit).1 := by
  unfold recordedTarget
  split_ifs
  · exact ⟨rfl, rfl, rfl⟩
  · exact ⟨rfl, rfl, rfl⟩
  · apply Recorded.andThen_induct (P := fun r => Shows r.2.2 r.1)
    · exact fun _ _ => d.recordedOpened_shows script network target limit d.openingNotes _
    · exact fun _ _ _ => ⟨rfl, rfl, rfl⟩

/-- The trace of a dial is a view of its acts. -/
lemma recorded_shows (name address : Text) (limit : Option Int) :
    Shows (d.dial script name address limit).trace (d.recorded script name address limit).1 := by
  have htrace : (d.recorded script name address limit).2.2 =
      (d.dial script name address limit).trace :=
    congrArg Prod.snd (d.recorded_snd script name address limit)
  rw [← htrace]
  unfold recorded
  cases Network.ofName? name with
  | none => exact ⟨rfl, rfl, rfl⟩
  | some network =>
    simp only
    cases Address.parse address with
    | error f => exact ⟨rfl, rfl, rfl⟩
    | ok target => exact d.recordedTarget_shows script network target limit

/-! ### What was read was sent -/

lemma recordedConverse_received (l : Line) :
    Act.received (d.recordedConverse script network target deadline l).1 <+: l.coming := by
  have hread := (Handshake.negotiate network target).recorded_received d.stepLimit deadline l
  apply Recorded.andThen_induct (P := fun r => Act.received r.1 <+: l.coming)
  · intro bound _
    simpa [recordedEstablished] using hread
  · exact fun _ _ _ => hread

lemma recordedTarget_received (limit : Option Int) :
    Act.received (d.recordedTarget script network target limit).1 <+: script.stream.octets := by
  unfold recordedTarget
  split_ifs
  · exact List.nil_prefix
  · exact List.nil_prefix
  · apply Recorded.andThen_induct (P := fun r => Act.received r.1 <+: script.stream.octets)
    · intro _ _
      unfold recordedOpened
      cases script.stream.fault with
      | some f => exact List.nil_prefix
      | none =>
        rw [← openedLine_coming script _ d.openingNotes]
        exact d.recordedConverse_received script network target limit _
    · exact fun _ _ _ => List.nil_prefix

/-- What a dial has read are the first octets that the proxy has sent. -/
lemma recorded_received (name address : Text) (limit : Option Int) :
    Act.received (d.recorded script name address limit).1 <+: script.stream.octets := by
  unfold recorded
  cases Network.ofName? name with
  | none => exact List.nil_prefix
  | some network =>
    simp only
    cases Address.parse address with
    | error f => exact List.nil_prefix
    | ok target => exact d.recordedTarget_received script network target limit

/-! ### A recorded dial keeps to its course -/

lemma openRelay_calls (script : EndpointScript) (deadline : Option Int) (bound target : Address)
    (l : Line) : (d.openRelay script deadline bound target l).2.1 = [] ∨
      (d.openRelay script deadline bound target l).2.1 = [(d.relayHost bound, bound.port)] := by
  rw [openRelay_eq]
  split_ifs
  · exact .inl rfl
  · exact .inl rfl
  · apply Ended.andThen_induct (P := fun r : Ended Session × Reach =>
      r.2.1 = [] ∨ r.2.1 = [(d.relayHost bound, bound.port)])
    · intro _ _
      unfold openedRelay
      cases script.fault <;> exact .inr rfl
    · exact fun _ _ => .inr rfl
    · exact fun _ => .inr rfl

lemma recordedConverse_course (l : Line) :
    Course d network target
      (d.streamCall :: (d.recordedConverse script network target deadline l).1) := by
  obtain ⟨result, hcourse, hresult⟩ :=
    (Handshake.negotiate network target).recorded_course d.stepLimit deadline l
  apply Recorded.andThen_induct (P := fun r => Course d network target (d.streamCall :: r.1))
  · intro bound hbound
    obtain rfl := hresult bound hbound
    cases network with
    | tcp =>
      simp only [recordedEstablished, established, List.map_nil, List.append_nil]
      exact .talking hcourse
    | udp =>
      simp only [recordedEstablished, established]
      obtain hcalls | hcalls := d.openRelay_calls script.endpoint deadline bound target _
      · rw [hcalls, List.map_nil, List.append_nil]
        exact .talking hcourse
      · rw [hcalls]
        exact .opening rfl hcourse
  · exact fun _ _ _ => .talking hcourse

lemma recordedTarget_course (limit : Option Int) :
    Course d network target (d.recordedTarget script network target limit).1 := by
  unfold recordedTarget
  split_ifs
  · exact .idle
  · exact .idle
  · apply Recorded.andThen_induct (P := fun r => Course d network target r.1)
    · intro _ _
      unfold recordedOpened
      cases script.stream.fault with
      | some f => exact .talking (.cut _)
      | none => exact d.recordedConverse_course script network target limit _
    · exact fun _ _ _ => .talking (.cut _)

end Dialer

end Socks5
