import Socks5.Proofs.Dial.Octets
import Socks5.Proofs.Dial.Release

/-!
# Segmentation and timing

Two dials without limits are compared on which the proxy sends the same octets, cut in any way and
at any times. All that a caller can tell of them apart from the clock is the same: how they end,
what they have written, where they have opened the relay, and what can still be read. Without an end
of the input a dial waits for ever just when it would come up short at an end.
-/

namespace Socks5

variable {α β σ τ : Type}

/-! ### What can be told apart from the clock -/

/-- The same end with another value. -/
def Ended.map (f : α → β) : Ended α → Ended β
  | .value a => .value (f a)
  | .failure f => .failure f
  | .never => .never

/-- A connection without its state. -/
inductive Connection.Kind where
  /-- A byte stream. -/
  | stream
  /-- A relay, with its fixed destination. -/
  | relay (fixed : Option Address)
  /-- An endpoint on its own. -/
  | endpoint

/-- What a connection is. -/
def Connection.kind : Connection → Connection.Kind
  | stream _ => .stream
  | relay r => .relay r.fixed
  | endpoint _ => .endpoint

/-- What a reader finds on a stream once everything has arrived: the octets, whether the input ends
behind them, and the fault with which reads fail. -/
def Stream.input (s : Stream) (arrivals : List (Nat × Arrival)) : Bytes × Bool × Option Fault :=
  let s := arrivals.foldl (fun s a => s.feed a.2) s
  (s.buffer, s.ended, s.failure)

/-- What a dial gives: the kind of connection, and what can be read from it, or from its control
connection, by and by. -/
def Session.gain (s : Session) : Connection.Kind × Option (Bytes × Bool × Option Fault) :=
  (s.connection.kind, s.control?.map (·.input s.arrivals))

/-- A dial without its clock. -/
structure Summary where
  /-- How it ended. -/
  outcome : Ended (Connection.Kind × Option (Bytes × Bool × Option Fault))
  /-- What was written. -/
  written : Option Bytes
  /-- The attempts to open an endpoint. -/
  endpointCalls : List (Text × UInt16)

/-- What can be told of a dial apart from its clock. -/
def Dialled.summary (r : Dialled) : Summary where
  outcome := r.outcome.map Session.gain
  written := r.trace.stream.map (·.written)
  endpointCalls := r.trace.endpointCalls

/-! ### Lines that bring the same -/

/-- Two lines bring the same octets, and the same was written on them. -/
structure Line.Alike (bs : Bytes) (ends : Bool) (l l' : Line) : Prop where
  left : l.Brings bs ends
  right : l'.Brings bs ends
  written : l.stream.written = l'.stream.written

lemma Stream.Receives.input_eq {s : Stream} {arrivals : List (Nat × Arrival)} {bs : Bytes}
    {ends : Bool} (h : s.Receives arrivals bs ends) : s.input arrivals = (bs, ends, none) := by
  induction h with
  | now healthy => exact congrArg (fun failure => (_, _, failure)) healthy
  | later _ _ _ ih => exact ih

section

variable {bs : Bytes} {ends : Bool} {l l' : Line}

namespace Line

/-- Lines that bring the same may wait for different times. -/
lemma Alike.later (h : l.Alike bs ends l') (now now' : Nat) :
    Alike bs ends (catchUp { l with now }) (catchUp { l' with now := now' }) where
  left := (h.left.later now).catchUp
  right := (h.right.later now').catchUp
  written := by
    rw [catchUp_written, catchUp_written]
    exact h.written

lemma Alike.tell (h : l.Alike bs ends l') (n : Note) : (l.tell n).Alike bs ends (l'.tell n) :=
  ⟨h.left.tell n, h.right.tell n, h.written⟩

end Line

/-- How a wait ends that nobody cancels does not depend on when it begins. -/
lemma pass_outcome (now now' ticks : Nat) (limit : Option Int) :
    (pass now ticks limit none).1 = (pass now' ticks limit none).1 := by
  cases limit with
  | none => rfl
  | some limit =>
    simp only [pass, breakOff, Nat.add_lt_add_iff_left]
    split_ifs <;> rfl

/-- Two runs of the same kind are compared part by part. -/
lemma Ended.andThen_agree {fail : Failure → Failure} {leave leave' : σ → τ}
    {next next' : α → σ → Ended β × τ} {γ : Type} {view : Ended β × τ → γ} {r r' : Ended α × σ}
    (hsame : r.1 = r'.1) (hvalue : ∀ a, r.1 = .value a → view (next a r.2) = view (next' a r'.2))
    (hbroken : ∀ ended, view (ended, leave r.2) = view (ended, leave' r'.2)) :
    view (andThen fail leave next r) = view (andThen fail leave' next' r') := by
  obtain ⟨ended, s⟩ := r
  obtain ⟨ended', s'⟩ := r'
  obtain rfl : ended = ended' := hsame
  cases ended with
  | value a => exact hvalue a rfl
  | failure f => exact hbroken _
  | never => exact hbroken _

/-- A handshake goes the same way on lines that bring the same. -/
lemma Handshake.run_alike (h : Handshake α) (hl : l.Alike bs ends l') :
    ∃ l₁ l₁', h.run none none l = ((h.onOctets ends bs).1, l₁) ∧
      h.run none none l' = ((h.onOctets ends bs).1, l₁') ∧
      l₁.stream.written = l₁'.stream.written ∧
      ∀ a, (h.onOctets ends bs).1 = .value a → l₁.Alike (h.onOctets ends bs).2.2 ends l₁' := by
  obtain ⟨l₁, hrun, hsent, hrest⟩ := h.run_eq_onOctets hl.left
  obtain ⟨l₁', hrun', hsent', hrest'⟩ := h.run_eq_onOctets hl.right
  have hwritten : l₁.stream.written = l₁'.stream.written := by
    rw [hsent, hsent', hl.written]
  exact ⟨l₁, l₁', hrun, hrun', hwritten, fun a ha => ⟨hrest a ha, hrest' a ha, hwritten⟩⟩

namespace Dialer

variable {d : Dialer} {script script' : Script} {network : Network} {target bound : Address}

/-- What can be told of a part of a dial on an open line. -/
def summaryOn (r : Ended Session × Reach) : Summary where
  outcome := r.1.map Session.gain
  written := some r.2.2.2.stream.written
  endpointCalls := r.2.1

lemma streamSession_gain (hl : l.Brings bs ends) :
    (streamSession l).gain = (.stream, some (bs, ends, none)) :=
  congrArg (fun input => (_, some input)) hl.receives.input_eq

lemma relaySession_gain (hl : l.Brings bs ends) (script : EndpointScript) (e : DatagramEndpoint)
    (fixed : Option Address) :
    (relaySession l script e fixed).gain = (.relay fixed, some (bs, ends, none)) :=
  congrArg (fun input => (_, some input)) hl.receives.input_eq

lemma openedRelay_summary (script : EndpointScript) (hl : l.Alike bs ends l') :
    summaryOn (d.openedRelay script bound target l) =
      summaryOn (d.openedRelay script bound target l') := by
  have hwritten := hl.written
  unfold openedRelay checkHandle
  cases script.fault with
  | some f => simp [summaryOn, Ended.map, hwritten]
  | none =>
    cases script.kind with
    | endpoint socket =>
      simp only
      split_ifs
      · simp [summaryOn, Ended.map, hwritten, relaySession_gain hl.left,
          relaySession_gain hl.right, Line.tell]
      · simp [summaryOn, Ended.map, hwritten]
    | unmade => simp [summaryOn, Ended.map, hwritten]
    | foreign closable => simp [summaryOn, Ended.map, hwritten]

lemma openRelay_summary (script : EndpointScript) (hl : l.Alike bs ends l') :
    summaryOn (d.openRelay script none bound target l) =
      summaryOn (d.openRelay script none bound target l') := by
  -- Neither the limit nor the way in which the wait ends depends on the clock of the line.
  have hlimit (now : Nat) : Handshake.limitAt d.stepLimit none now = d.stepLimit := by
    cases d.stepLimit <;> rfl
  have hwritten := hl.written
  have hopening : (d.openingLine bound l).Alike bs ends (d.openingLine bound l') :=
    (hl.tell _).tell _
  rw [openRelay_eq, openRelay_eq, hl.left.uncancelled, hl.right.uncancelled]
  simp only [hlimit]
  split_ifs
  · simp [summaryOn, Line.tell, hwritten]
  · simp [summaryOn, hopening.written]
  · apply Ended.andThen_agree
    · exact pass_outcome _ _ _ _
    · exact fun _ _ => openedRelay_summary script (hopening.later _ _)
    · exact fun ended => by simp [summaryOn, hopening.written]

lemma established_summary (hendpoint : script.endpoint = script'.endpoint)
    (hl : l.Alike bs ends l') :
    summaryOn (d.established script network target none bound l) =
      summaryOn (d.established script' network target none bound l') := by
  cases network with
  | tcp =>
    simp [established, summaryOn, Ended.map, streamSession_gain hl.left,
      streamSession_gain hl.right, Line.tell, hl.written]
  | udp =>
    simp only [established, hendpoint]
    exact openRelay_summary script'.endpoint hl

lemma converse_summary (hstep : d.stepLimit = none) (hendpoint : script.endpoint = script'.endpoint)
    (hl : l.Alike bs ends l') :
    summaryOn (d.converse script network target none l) =
      summaryOn (d.converse script' network target none l') := by
  obtain ⟨l₁, l₁', hrun, hrun', hwritten, hrest⟩ :=
    (Handshake.negotiate network target).run_alike hl
  rw [converse_eq, converse_eq, hstep, hrun, hrun']
  apply Ended.andThen_agree
  · rfl
  · exact fun bound hbound => established_summary hendpoint (hrest bound hbound)
  · exact fun ended => by simp [summaryOn, hwritten]

/-! ### The dial -/

/-- Under a script the proxy sends exactly these octets, whether the input ends behind them or not,
the stream opens in time, and nobody cancels. -/
structure Delivers (d : Dialer) (script : Script) (bs : Bytes) (ends : Bool) : Prop where
  sends : script.stream.Sends bs ends
  opens : script.stream.fault = none
  inTime : ∀ limit ∈ d.openLimit, 0 < limit ∧ (script.stream.delay : Int) ≤ limit
  uncancelled : script.cancelAt = none

namespace Delivers

lemma not_runOut (h : d.Delivers script bs ends) : ¬ runOut d.openLimit := by
  cases hlimit : d.openLimit with
  | none => exact Bool.false_ne_true
  | some limit => simpa [runOut] using (h.inTime limit hlimit).1

lemma pass_eq (h : d.Delivers script bs ends) :
    pass 0 script.stream.delay (stricter none d.openLimit) none =
      (.value (), script.stream.delay) := by
  cases hlimit : d.openLimit with
  | none => simp [pass, breakOff, stricter]
  | some limit =>
    have hdelay : ¬ limit.toNat < script.stream.delay := by
      have := (h.inTime limit hlimit).2
      omega
    simp [pass, breakOff, stricter, hdelay]

lemma dialTarget_eq (h : d.Delivers script bs ends) (network : Network) (target : Address) :
    ((d.dialTarget script network target none).outcome,
      (d.dialTarget script network target none).trace) =
      d.dialOn script network target none
        (openedLine script script.stream.delay d.openingNotes) := by
  have hlimit : ¬ runOut ((none : Option Int).map (max 0)) := Bool.false_ne_true
  rw [Dialer.dialTarget_eq, if_neg hlimit, if_neg h.not_runOut, h.uncancelled, Option.map_none,
    h.pass_eq]
  simp only [Ended.andThen, openedDial, h.opens]

lemma brings (h : d.Delivers script bs ends) :
    (openedLine script script.stream.delay d.openingNotes).Brings bs ends :=
  h.sends.brings h.uncancelled _ _

/-- Of the whole dial one can tell what one can tell of the part on the open line. -/
lemma summary_eq (h : d.Delivers script bs ends) :
    (d.dialTarget script network target none).summary =
      summaryOn (d.converse script network target none
        (openedLine script script.stream.delay d.openingNotes)) := by
  have hdial := h.dialTarget_eq network target
  rw [dialOn] at hdial
  generalize d.converse script network target none _ = r at hdial ⊢
  obtain ⟨houtcome, htrace⟩ := Prod.mk.inj hdial
  simp only [Dialled.summary, houtcome, htrace, conclude, summaryOn, Option.map_some,
    abandonLine_written]

end Delivers

/-- With the same octets and the same endpoint, two dials of a target can be told apart only by
their clocks. -/
lemma dialTarget_summary (hstep : d.stepLimit = none)
    (hendpoint : script.endpoint = script'.endpoint) (h : d.Delivers script bs ends)
    (h' : d.Delivers script' bs ends) :
    (d.dialTarget script network target none).summary =
      (d.dialTarget script' network target none).summary := by
  rw [h.summary_eq, h'.summary_eq]
  refine converse_summary hstep hendpoint ⟨h.brings, h'.brings, ?_⟩
  rw [openedLine_written, openedLine_written]

end Dialer

end

/-! ### Waiting and coming up short -/

/-- Without a result, because octets were missing. -/
def Ended.ComesUpShort (ended : Ended α) : Prop :=
  ∃ e, ended = .failure (.error e) ∧ e.category = .shortReply

/-- At some time, and not because octets were missing. -/
structure Ended.Settles (ended : Ended α) : Prop where
  ends : ended ≠ .never
  enough : ¬ ended.ComesUpShort

lemma Ended.Settles.never_iff {ended : Ended α} (h : ended.Settles) :
    ended = .never ↔ ended.ComesUpShort :=
  ⟨fun hnever => absurd hnever h.ends, fun hshort => absurd hshort h.enough⟩

lemma Ended.settles_value (a : α) : (value a).Settles := by
  constructor
  · exact value_ne_never a
  · rintro ⟨e, he, -⟩
    cases he

lemma Ended.settles_failure {f : Failure} (hf : ∀ e, f = .error e → e.category ≠ .shortReply) :
    (failure f : Ended α).Settles := by
  constructor
  · exact failure_ne_never f
  · rintro ⟨e, he, hshort⟩
    cases he
    exact hf e rfl hshort

namespace Handshake

lemma Keeps.mono {maySend maySend' : Bytes → Prop} {mayFail : Error → Prop} {h : Handshake α}
    (hkeeps : h.Keeps maySend mayFail) (hsend : ∀ out, maySend out → maySend' out) :
    h.Keeps maySend' mayFail := by
  induction h with
  | done a => exact trivial
  | fail e => exact hkeeps
  | note n next ih => exact ih hkeeps
  | send request out next ih => exact ⟨hsend out hkeeps.1, ih hkeeps.2⟩
  | receive part count next ih => exact fun bs hbs => ih bs (hkeeps bs hbs)

/-- A negotiation comes up short only where the octets do. -/
lemma negotiate_keeps (network : Network) (target : Address) :
    (negotiate network target).Keeps (fun _ => True) (·.category ≠ .shortReply) := by
  refine ⟨trivial, fun method hmethod => ?_⟩
  match method, hmethod with
  | [version, method], _ =>
    simp only
    split_ifs with hversion
    · exact nofun
    · exact ⟨trivial, (readReply_hears network).mono fun _ h => h.elim⟩

/-- Where the input goes on, a handshake waits for octets that it would miss at an end. -/
lemma Keeps.never_iff {maySend : Bytes → Prop} {h : Handshake α}
    (hkeeps : h.Keeps maySend (·.category ≠ .shortReply)) (bs : Bytes) :
    (h.onOctets false bs).1 = .never ↔ (h.onOctets true bs).1.ComesUpShort := by
  induction h generalizing bs with
  | done a => simp [onOctets, Ended.ComesUpShort]
  | fail e =>
    have henough : e.category ≠ .shortReply := hkeeps
    simpa [onOctets, Ended.ComesUpShort] using henough
  | note n next ih => exact ih hkeeps bs
  | send request out next ih => exact ih hkeeps.2 bs
  | receive part count next ih =>
    by_cases hcount : count ≤ bs.length
    · simp only [onOctets, if_pos hcount]
      exact ih _ (hkeeps _ (List.length_take_of_le hcount)) _
    · simp only [onOctets, if_neg hcount]
      simp [Ended.ComesUpShort, Error.category]

end Handshake

namespace Dialer

variable {d : Dialer} {script script' : Script} {network : Network} {target bound : Address}
  {bs : Bytes} {ends : Bool} {l : Line}

lemma relayFault_settles (bound : Address) (f : Fault) :
    (.failure (relayFailure bound (.fault f)) : Ended Session).Settles := by
  apply Ended.settles_failure
  intro e he
  simp only [relayFailure] at he
  split_ifs at he
  cases he
  exact nofun

lemma openedRelay_settles (script : EndpointScript) :
    (d.openedRelay script bound target l).1.Settles := by
  unfold openedRelay checkHandle
  cases script.fault with
  | some f => exact relayFault_settles bound f
  | none =>
    cases script.kind with
    | endpoint socket =>
      simp only
      split_ifs
      · exact Ended.settles_value _
      · exact Ended.settles_failure fun e he => by cases he; exact nofun
    | unmade => exact Ended.settles_failure fun e he => by cases he; exact nofun
    | foreign closable => exact Ended.settles_failure fun e he => by cases he; exact nofun

/-- Opening the relay comes to an end, and no octets are missing for it. -/
lemma openRelay_settles (script : EndpointScript) (deadline : Option Int) :
    (d.openRelay script deadline bound target l).1.Settles := by
  rw [openRelay_eq]
  split_ifs
  · exact relayFault_settles bound .timeout
  · exact relayFault_settles bound .timeout
  obtain hpass | ⟨time, f, hpass, -, hf⟩ := pass_ends l.now script.delay
    (stricter (Handshake.limitAt d.stepLimit deadline l.now) d.openLimit) l.cancelAt
  · rw [hpass]
    exact openedRelay_settles script
  · rw [hpass]
    obtain rfl | rfl := hf
    · exact Ended.settles_failure fun e he => by cases he
    · exact relayFault_settles bound .timeout

lemma established_settles (d : Dialer) (script : Script) (network : Network) (target : Address)
    (deadline : Option Int) (bound : Address) (l : Line) :
    (d.established script network target deadline bound l).1.Settles := by
  cases network with
  | tcp => exact Ended.settles_value _
  | udp => exact openRelay_settles script.endpoint deadline

/-- A dial on an open line waits for ever or comes up short where its negotiation does. -/
lemma converse_unsettled (hstep : d.stepLimit = none) (hl : l.Brings bs ends) :
    ((d.converse script network target none l).1 = .never ↔
      ((Handshake.negotiate network target).onOctets ends bs).1 = .never) ∧
    ((d.converse script network target none l).1.ComesUpShort ↔
      ((Handshake.negotiate network target).onOctets ends bs).1.ComesUpShort) := by
  obtain ⟨l₁, hrun, -, -⟩ := (Handshake.negotiate network target).run_eq_onOctets hl
  rw [converse_eq, hstep, hrun]
  cases ((Handshake.negotiate network target).onOctets ends bs).1 with
  | value bound =>
    have hvalue := Ended.settles_value bound
    have hestablished := established_settles d script network target none bound l₁
    exact ⟨iff_of_false hestablished.ends hvalue.ends,
      iff_of_false hestablished.enough hvalue.enough⟩
  | failure f => simp [Ended.andThen, Ended.ComesUpShort]
  | never => simp [Ended.andThen, Ended.ComesUpShort]

/-- Where the input goes on, a dial of a target waits for octets that it would miss at an end. -/
lemma dialTarget_never_iff (hstep : d.stepLimit = none) (h : d.Delivers script bs false)
    (h' : d.Delivers script' bs true) :
    (d.dialTarget script network target none).outcome = .never ↔
      (d.dialTarget script' network target none).outcome.ComesUpShort := by
  have hdial := congrArg Prod.fst (h.dialTarget_eq network target)
  have hdial' := congrArg Prod.fst (h'.dialTarget_eq network target)
  simp only [dialOn] at hdial hdial'
  rw [hdial, hdial', (converse_unsettled hstep h.brings).1, (converse_unsettled hstep h'.brings).2]
  exact (Handshake.negotiate_keeps network target).never_iff bs

/-- How the octets of the proxy are cut and when they arrive does not matter to a dial without
limits: how it ends, what it writes, where it opens the relay and what it leaves to be read depend
on the octets alone. If the input does not end behind them, the dial waits for ever just when at an
end it would come up short. -/
theorem dial_ignores_segmentation (hstep : d.stepLimit = none)
    (hendpoint : script.endpoint = script'.endpoint) {ends' : Bool}
    (h : d.Delivers script bs ends) (h' : d.Delivers script' bs ends') (name address : Text) :
    (ends = ends' →
      (d.dial script name address none).summary = (d.dial script' name address none).summary) ∧
    (ends = false → ends' = true →
      ((d.dial script name address none).outcome = .never ↔
        ∃ e, (d.dial script' name address none).outcome = .failure (.error e) ∧
          e.category = .shortReply)) := by
  unfold dial
  -- Without a network or a target the script is not even looked at.
  cases Network.ofName? name with
  | none =>
    have hrefused : (.failure (.error (.network name)) : Ended Session).Settles :=
      Ended.settles_failure fun e he => by cases he; exact nofun
    exact ⟨fun _ => rfl, fun _ _ => hrefused.never_iff⟩
  | some network =>
    simp only
    cases Address.parse address with
    | error f =>
      have hrefused : (.failure (.ofTarget f) : Ended Session).Settles := by
        refine Ended.settles_failure fun e he => ?_
        cases f with
        | invalid reason =>
          cases he
          exact nofun
        | digits n => cases he
        | encoding e => cases he
      exact ⟨fun _ => rfl, fun _ _ => hrefused.never_iff⟩
    | ok target =>
      constructor
      · rintro rfl
        exact dialTarget_summary hstep hendpoint h h'
      · rintro rfl rfl
        exact dialTarget_never_iff hstep h h'

/-- A relay is opened alike whether the answer comes at once or in pieces, and an octet behind it
is left; half an answer is waited for unless the input ends. -/
theorem dial_ignores_segmentation_in_pieces :
    let d : Dialer := { proxy := ⟨.ipv4 ⟨10, 0, 0, 1⟩, 1080⟩ }
    let answer : Bytes := [5, 0, 5, 0, 0, 1, 10, 0, 0, 1, 4, 56, 127]
    let atOnce (bs : Bytes) : Script := { stream := { arrivals := [(0, .data bs)] } }
    let inPieces : Script :=
      { stream :=
          { delay := 2
            arrivals := [(1, .data [5]), (4, .data [0, 5, 0, 0, 1, 10]), (9, .data []),
              (9, .data [0, 0, 1, 4, 56, 127])] } }
    let ending : Script := { stream := { arrivals := [(3, .data [5, 0, 5]), (7, .ended)] } }
    let opened : Summary :=
      { outcome := .value (.relay (some ⟨.ipv4 ⟨192, 0, 2, 1⟩, 53⟩), some ([127], false, none))
        written := some [5, 1, 0, 5, 3, 0, 1, 192, 0, 2, 1, 0, 53]
        endpointCalls := [("10.0.0.1", 1080)] }
    (d.dial (atOnce answer) "udp" "192.0.2.1:53" none).summary = opened ∧
      (d.dial inPieces "udp" "192.0.2.1:53" none).summary = opened ∧
      (d.dial ending "udp" "192.0.2.1:53" none).outcome =
        .failure (.error (.short (.header .udp))) ∧
      (d.dial (atOnce [5, 0, 5]) "udp" "192.0.2.1:53" none).outcome = .never := by
  intro d answer atOnce inPieces ending opened
  have hplans : ∀ p ∈ ([] : List WritePlan), p.fault = none ∧ p.lateFault = none :=
    fun p hp => absurd hp List.not_mem_nil
  have hatOnce (bs : Bytes) : d.Delivers (atOnce bs) bs false :=
    ⟨⟨⟨[bs], List.append_nil bs, rfl⟩, hplans⟩, rfl, nofun, rfl⟩
  have hinPieces : d.Delivers inPieces answer false :=
    ⟨⟨⟨[[5], [0, 5, 0, 0, 1, 10], [], [0, 0, 1, 4, 56, 127]], rfl, rfl⟩, hplans⟩, rfl, nofun, rfl⟩
  have hending : d.Delivers ending [5, 0, 5] true :=
    ⟨⟨⟨[[5, 0, 5]], rfl, rfl⟩, hplans⟩, rfl, nofun, rfl⟩
  have hopened : (d.dial (atOnce answer) "udp" "192.0.2.1:53" none).summary = opened := rfl
  have hshort : (d.dial ending "udp" "192.0.2.1:53" none).outcome =
      .failure (.error (.short (.header .udp))) := rfl
  have hendpoint (bs : Bytes) : (atOnce bs).endpoint = inPieces.endpoint := rfl
  have hendpoint' (bs : Bytes) : (atOnce bs).endpoint = ending.endpoint := rfl
  obtain ⟨hsame, -⟩ := dial_ignores_segmentation rfl (hendpoint answer) (hatOnce answer) hinPieces
    "udp" "192.0.2.1:53"
  obtain ⟨-, hnever⟩ := dial_ignores_segmentation rfl (hendpoint' [5, 0, 5]) (hatOnce [5, 0, 5])
    hending "udp" "192.0.2.1:53"
  exact ⟨hopened, (hsame rfl).symm.trans hopened, hshort, (hnever rfl rfl).mpr ⟨_, hshort, rfl⟩⟩

end Dialer

end Socks5
