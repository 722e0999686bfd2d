import Socks5.Proofs.Dial.Release

/-!
# How long a dial takes

A step under a limit ends by the time at which the limit runs out. A handshake takes at most seven
reads and writes, and the opening of the relay is one step more. `Paced` says by which time each
step of a conversation is over, under a deadline or under a limit for every step, and the whole
conversation keeps to it whatever the proxy sends or withholds.
-/

namespace Socks5

variable {α β σ τ : Type}

/-! ### Ending by some time -/

/-- An operation has ended by some time; `clock` tells the time of a state. -/
def Ended.By (time : Nat) (clock : σ → Nat) (r : Ended α × σ) : Prop :=
  r.1 ≠ .never ∧ clock r.2 ≤ time

/-- What goes on from an operation that has ended in time ends in time as well. -/
lemma Ended.By.andThen {time time' : Nat} {clock : σ → Nat} {clock' : τ → Nat}
    {fail : Failure → Failure} {leave : σ → τ} {next : α → σ → Ended β × τ} {r : Ended α × σ}
    (h : By time clock r) (hle : time ≤ time') (hleave : ∀ s, clock' (leave s) = clock s)
    (hnext : ∀ a, clock r.2 ≤ time → By time' clock' (next a r.2)) :
    By time' clock' (Ended.andThen fail leave next r) := by
  obtain ⟨hends, htime⟩ := h
  apply andThen_induct
  · intro a _
    exact hnext a htime
  · intro f _
    exact ⟨failure_ne_never _, (hleave _).le.trans (htime.trans hle)⟩
  · intro hnever
    exact absurd hnever hends

/-! ### Single steps -/

/-- Whoever is cancelled before a limit runs out is broken off earlier. -/
lemma exists_breakOff_le (now : Nat) (x : Int) (cancelAt : Option Nat) :
    ∃ time f, breakOff now (some x) cancelAt = some (time, f) ∧ time ≤ now + x.toNat := by
  by_cases hearly : ∃ c ∈ cancelAt, c < now + x.toNat
  · obtain ⟨c, rfl, hc⟩ := hearly
    exact ⟨c, .cancelled, breakOff_of_lt hc, hc.le⟩
  · push Not at hearly
    exact ⟨now + x.toNat, .fault .timeout, breakOff_of_le hearly, le_rfl⟩

lemma pass_by (now ticks : Nat) (x : Int) (cancelAt : Option Nat) :
    Ended.By (now + x.toNat) id (pass now ticks (some x) cancelAt) := by
  obtain ⟨time, f, hstop, htime⟩ := exists_breakOff_le now x cancelAt
  simp only [pass, hstop]
  split_ifs
  · exact ⟨Ended.failure_ne_never f, max_le (Nat.le_add_right _ _) htime⟩
  · exact ⟨Ended.value_ne_never (), show now + ticks ≤ now + x.toNat by omega⟩

namespace Line

lemma read_by (x : Int) (r : Reading) (l : Line) :
    Ended.By (l.now + x.toNat) now (l.read (some x) r) := by
  unfold read
  split_ifs
  · exact ⟨Ended.failure_ne_never _, Nat.le_add_right _ _⟩
  · obtain ⟨time, f, hstop, htime⟩ := exists_breakOff_le l.now x l.cancelAt
    rw [hstop]
    exact await_le htime l.arrivals r l.now l.stream (Nat.le_add_right _ _)

lemma write_by (x : Int) (out : Bytes) (l : Line) :
    Ended.By (l.now + x.toNat) now (l.write (some x) out) := by
  by_cases hlimit : runOut (some x)
  · rw [write_of_runOut hlimit]
    exact ⟨Ended.failure_ne_never _, Nat.le_add_right _ _⟩
  rcases h : l.stream.write out with ⟨f | ⟨delay, fault⟩, stream⟩
  · rw [write_of_error hlimit h]
    exact ⟨Ended.failure_ne_never _, Nat.le_add_right _ _⟩
  · obtain ⟨hends, htime⟩ := pass_by l.now delay x l.cancelAt
    rw [write_of_ok hlimit h]
    exact ⟨mt landing_eq_never.mp hends, htime⟩

end Line

lemma exists_stricter_le (x : Int) (limit : Option Int) :
    ∃ y, stricter (some x) limit = some y ∧ y ≤ x := by
  cases limit with
  | none => exact ⟨x, rfl, le_rfl⟩
  | some z => exact ⟨min x z, rfl, min_le_left x z⟩

/-! ### The pace of a conversation -/

namespace Handshake

/-- A step that begins by `latest k` is over by `latest (k + 1)`. -/
structure Paced (step deadline : Option Int) (latest : Nat → Nat) : Prop where
  mono : Monotone latest
  limit : ∀ k now, now ≤ latest k →
    ∃ x, limitAt step deadline now = some x ∧ now + x.toNat ≤ latest (k + 1)

/-- Under a deadline every step is over by then, whatever the limit for a single step is. -/
lemma paced_of_deadline (step : Option Int) (d : Int) :
    Paced step (some d) fun _ => d.toNat where
  mono := monotone_const
  limit := by
    intro k now hnow
    cases step with
    | none => exact ⟨max 0 (d - now), rfl, by omega⟩
    | some x => exact ⟨min x (max 0 (d - now)), rfl, by omega⟩

/-- Under a limit for every step each takes at most so long, whatever the deadline is. -/
lemma paced_of_step (x : Int) (deadline : Option Int) (first : Nat) :
    Paced (some x) deadline fun k => first + k * x.toNat where
  mono := by
    intro k k' hk
    exact Nat.add_le_add_left (Nat.mul_le_mul_right _ hk) first
  limit := by
    intro k now hnow
    obtain ⟨y, hy, hle⟩ := exists_stricter_le x (deadline.map fun d => max 0 (d - now))
    refine ⟨y, hy, ?_⟩
    rw [Nat.succ_mul]
    omega

/-- A conversation takes at most so many reads and writes. -/
def Within : Handshake α → Nat → Prop
  | .done _, _ => True
  | .fail _, _ => True
  | .note _ next, n => next.Within n
  | .send _ _ next, n => ∃ m, n = m + 1 ∧ next.Within m
  | .receive _ _ next, n => ∃ m, n = m + 1 ∧ ∀ bs, (next bs).Within m

variable {step deadline : Option Int} {latest : Nat → Nat}

/-- A conversation keeps its pace. -/
lemma run_by (hpaced : Paced step deadline latest) (h : Handshake α) :
    ∀ (n k : Nat) (l : Line), h.Within n → l.now ≤ latest k →
      Ended.By (latest (k + n)) Line.now (h.run step deadline l) := by
  induction h with
  | done a =>
    intro n k l _ hnow
    exact ⟨Ended.value_ne_never a, hnow.trans (hpaced.mono (Nat.le_add_right k n))⟩
  | fail e =>
    intro n k l _ hnow
    exact ⟨Ended.failure_ne_never _, hnow.trans (hpaced.mono (Nat.le_add_right k n))⟩
  | note m next ih =>
    intro n k l hwithin hnow
    exact ih n k (l.tell m) hwithin hnow
  | send request out next ih =>
    rintro _ k l ⟨m, rfl, hwithin⟩ hnow
    obtain ⟨x, hlimit, hx⟩ := hpaced.limit k l.now hnow
    have hlast : latest (k + 1) ≤ latest (k + (m + 1)) := hpaced.mono (by omega)
    rw [run_send, hlimit]
    apply (l.write_by x out).andThen (hx.trans hlast)
    · intro s
      rfl
    · intro _ hwritten
      rw [Nat.add_comm m 1, ← Nat.add_assoc]
      exact ih m (k + 1) _ hwithin (hwritten.trans hx)
  | receive part count next ih =>
    rintro _ k l ⟨m, rfl, hwithin⟩ hnow
    obtain ⟨x, hlimit, hx⟩ := hpaced.limit k l.now hnow
    have hlast : latest (k + 1) ≤ latest (k + (m + 1)) := hpaced.mono (by omega)
    rw [run_receive, hlimit]
    apply (l.read_by x (.exactly count)).andThen (hx.trans hlast)
    · intro s
      rfl
    · intro bs hread
      rw [Nat.add_comm m 1, ← Nat.add_assoc]
      exact ih bs m (k + 1) _ (hwithin bs) (hread.trans hx)

/-! ### The steps of the negotiation -/

lemma Within.mono {h : Handshake α} {n : Nat} (hwithin : h.Within n) {m : Nat} (hnm : n ≤ m) :
    h.Within m := by
  induction h generalizing n m with
  | done a => trivial
  | fail e => trivial
  | note _ next ih => exact ih hwithin hnm
  | send request out next ih =>
    obtain ⟨k, rfl, hnext⟩ := hwithin
    exact ⟨m - 1, by omega, ih hnext (by omega)⟩
  | receive part count next ih =>
    obtain ⟨k, rfl, hnext⟩ := hwithin
    exact ⟨m - 1, by omega, fun bs => ih bs (hnext bs) (by omega)⟩

variable (network : Network) (type : AddressType)

lemma readPort_within (body : Bytes) : (readPort network type body).Within 1 := by
  refine ⟨0, rfl, ?_⟩
  intro bs
  dsimp only
  split
  · split <;> trivial
  · trivial

lemma readBody_within (size : Nat) : (readBody network type size).Within 2 :=
  ⟨1, rfl, readPort_within network type⟩

/-- A name takes a step more than an address of a known length. -/
lemma readBound_within : (readBound network type).Within 3 := by
  cases type with
  | ipv4 => exact (readBody_within network .ipv4 4).mono (by omega)
  | ipv6 => exact (readBody_within network .ipv6 16).mono (by omega)
  | domain =>
    refine ⟨2, rfl, ?_⟩
    intro bs
    dsimp only
    split
    · split_ifs
      · trivial
      · exact readBody_within network .domain _
    · trivial

lemma readReply_within : (readReply network).Within 4 := by
  refine ⟨3, rfl, ?_⟩
  intro bs
  dsimp only
  split
  · split_ifs
    · trivial
    · trivial
    · trivial
    · split
      · exact readBound_within network _
      · trivial
  · trivial

/-- A request for the method and one for the command, and five reads at most. -/
lemma negotiate_within (target : Address) : (negotiate network target).Within 7 := by
  refine ⟨6, rfl, 5, rfl, ?_⟩
  intro bs
  dsimp only
  split
  · split_ifs
    · trivial
    · exact ⟨4, rfl, readReply_within network⟩
  · trivial

end Handshake

namespace Dialer

variable {d : Dialer} {deadline : Option Int} {latest : Nat → Nat} {l : Line}

/-! ### The relay -/

lemma openedRelay_by (script : EndpointScript) (bound target : Address) {time : Nat}
    (hnow : l.now ≤ time) :
    Ended.By time (fun r : Reach => r.2.2.now) (d.openedRelay script bound target l) := by
  unfold openedRelay
  cases script.fault with
  | some f => exact ⟨Ended.failure_ne_never _, hnow⟩
  | none =>
    exact ⟨d.checkHandle_ends script _ bound target l,
      (d.checkHandle_now script _ bound target l).le.trans hnow⟩

/-- Opening the relay is a step as well. -/
lemma openRelay_by (hpaced : Handshake.Paced d.stepLimit deadline latest)
    (script : EndpointScript) (bound target : Address) {k : Nat} (hnow : l.now ≤ latest k) :
    Ended.By (latest (k + 1)) (fun r : Reach => r.2.2.now)
      (d.openRelay script deadline bound target l) := by
  have hlater : l.now ≤ latest (k + 1) := hnow.trans (hpaced.mono (Nat.le_succ k))
  obtain ⟨x, hlimit, hx⟩ := hpaced.limit k l.now hnow
  obtain ⟨y, hy, hyx⟩ := exists_stricter_le x d.openLimit
  rw [openRelay_eq, hlimit, hy]
  split_ifs
  · exact ⟨Ended.failure_ne_never _, hlater⟩
  · exact ⟨Ended.failure_ne_never _, hlater⟩
  · have hopening : l.now + y.toNat ≤ latest (k + 1) := by omega
    apply (pass_by l.now script.delay y l.cancelAt).andThen hopening
    · intro now
      rfl
    · intro _ hopened
      exact openedRelay_by script bound target (hopened.trans hopening)

/-- How many steps follow at most once the proxy has agreed. -/
def stepsAfter : Network → Nat
  | .tcp => 0
  | .udp => 1

lemma established_by (hpaced : Handshake.Paced d.stepLimit deadline latest) (script : Script)
    (network : Network) (target bound : Address) {k : Nat} (hnow : l.now ≤ latest k) :
    Ended.By (latest (k + stepsAfter network)) (fun r : Reach => r.2.2.now)
      (d.established script network target deadline bound l) := by
  cases network with
  | tcp => exact ⟨Ended.value_ne_never _, hnow⟩
  | udp => exact openRelay_by hpaced script.endpoint bound target hnow

lemma converse_by (hpaced : Handshake.Paced d.stepLimit deadline latest) (script : Script)
    (network : Network) (target : Address) (hnow : l.now ≤ latest 0) :
    Ended.By (latest (7 + stepsAfter network)) (fun r : Reach => r.2.2.now)
      (d.converse script network target deadline l) := by
  have hrun := Handshake.run_by hpaced (.negotiate network target) 7 0 l
    (Handshake.negotiate_within network target) hnow
  rw [Nat.zero_add] at hrun
  rw [converse_eq]
  apply hrun.andThen (hpaced.mono (Nat.le_add_right 7 _))
  · intro l'
    rfl
  · intro bound hagreed
    exact established_by hpaced script network target bound hagreed

/-! ### The dial -/

lemma openedDial_by (hpaced : Handshake.Paced d.stepLimit deadline latest) (script : Script)
    (network : Network) (target : Address) (notes : List Note) {now : Nat}
    (hnow : now ≤ latest 0) :
    Ended.By (latest (7 + stepsAfter network)) Trace.now
      (d.openedDial script network target deadline notes now) := by
  unfold openedDial
  cases script.stream.fault with
  | some f => exact ⟨Ended.failure_ne_never _, hnow.trans (hpaced.mono (Nat.zero_le _))⟩
  | none =>
    obtain ⟨hends, htime⟩ := converse_by (l := openedLine script now notes) hpaced script network
      target hnow
    exact ⟨hends, (d.abandonLine_now target _ _).le.trans htime⟩

/-- A dial with a timeout is over by then. -/
lemma dialTarget_by (d : Dialer) (script : Script) (network : Network) (target : Address)
    (t : Int) :
    Ended.By t.toNat Trace.now ((d.dialTarget script network target (some t)).outcome,
      (d.dialTarget script network target (some t)).trace) := by
  obtain ⟨y, hy, hyt⟩ := exists_stricter_le (max 0 t) d.openLimit
  rw [dialTarget_eq, Option.map_some, hy]
  split_ifs
  · exact ⟨Ended.failure_ne_never _, Nat.zero_le _⟩
  · exact ⟨Ended.failure_ne_never _, Nat.zero_le _⟩
  · have hopening : 0 + y.toNat ≤ t.toNat := by omega
    apply (pass_by 0 script.stream.delay y script.cancelAt).andThen hopening
    · intro now
      rfl
    · intro _ hopened
      exact openedDial_by (Handshake.paced_of_deadline d.stepLimit t) script network target _
        (hopened.trans hopening)

/-- With a limit for every step a dial ends, and soon after the stream has been opened. -/
lemma dialTarget_by_steps {h : Int} (hstep : d.stepLimit = some h) (script : Script)
    (network : Network) (target : Address) (limit : Option Int) :
    Ended.By (script.stream.delay + (7 + stepsAfter network) * h.toNat) Trace.now
      ((d.dialTarget script network target limit).outcome,
        (d.dialTarget script network target limit).trace) := by
  have hpaced := Handshake.paced_of_step h limit script.stream.delay
  rw [← hstep] at hpaced
  rw [dialTarget_eq]
  split_ifs
  · exact ⟨Ended.failure_ne_never _, Nat.zero_le _⟩
  · exact ⟨Ended.failure_ne_never _, Nat.zero_le _⟩
  obtain hpass | ⟨time, f, hpass, htime, -⟩ := pass_ends 0 script.stream.delay
    (stricter (limit.map (max 0)) d.openLimit) script.cancelAt
  · rw [hpass, Nat.zero_add]
    exact openedDial_by hpaced script network target d.openingNotes (by simp)
  · rw [hpass]
    refine ⟨Ended.failure_ne_never _, ?_⟩
    change max 0 time ≤ _
    omega

lemma steps_of_name {name : Text} {network : Network} (h : Network.ofName? name = some network) :
    ((7 + stepsAfter network : Nat) : Int) = if name = "udp" then 8 else 7 := by
  unfold Network.ofName? at h
  split_ifs at h with htcp hudp
  · cases h
    simp [htcp, stepsAfter]
  · cases h
    simp [hudp, stepsAfter]

/-- Every dial with a timeout comes to its end, and by that time. With a limit for every step it
comes to its end as well, and within seven steps after the opening of the stream, or eight for a
relay. This holds whatever the network does and whenever the dial is cancelled. -/
theorem dial_ends_in_time (d : Dialer) (script : Script) (network address : Text)
    (limit : Option Int) :
    let r := d.dial script network address limit
    (∀ t, limit = some t → r.outcome ≠ .never ∧ (r.trace.now : Int) ≤ max 0 t) ∧
      ∀ h, d.stepLimit = some h → r.outcome ≠ .never ∧
        (r.trace.now : Int) ≤
          script.stream.delay + (if network = "udp" then 8 else 7) * max 0 h := by
  intro r
  obtain ⟨f, hdial⟩ | ⟨n, target, hname, hdial⟩ := dial_cases network address
  · simp only [r, hdial]
    refine ⟨fun t _ => ⟨nofun, le_max_left 0 t⟩, fun h _ => ⟨nofun, ?_⟩⟩
    split_ifs <;> exact Int.add_nonneg (by omega) (by omega)
  · simp only [r, hdial]
    constructor
    · rintro t rfl
      obtain ⟨hends, htime⟩ := d.dialTarget_by script n target t
      refine ⟨hends, ?_⟩
      calc ((d.dialTarget script n target (some t)).trace.now : Int)
          ≤ t.toNat := by exact_mod_cast htime
        _ = max 0 t := by rw [Int.ofNat_toNat, max_comm]
    · intro h hstep
      obtain ⟨hends, htime⟩ := dialTarget_by_steps hstep script n target limit
      refine ⟨hends, ?_⟩
      calc ((d.dialTarget script n target limit).trace.now : Int)
          ≤ script.stream.delay + (7 + stepsAfter n : Nat) * h.toNat := by exact_mod_cast htime
        _ = script.stream.delay + (if network = "udp" then 8 else 7) * max 0 h := by
            rw [steps_of_name hname, Int.ofNat_toNat, max_comm]

/-- A proxy that sends octet by octet and a relay whose opening stalls are kept within both bounds.
-/
theorem dial_ends_in_time_against_stalling :
    let d : Dialer := { proxy := ⟨.ipv4 ⟨10, 0, 0, 1⟩, 1080⟩, stepLimit := some 10 }
    let script : Script :=
      { stream :=
          { delay := 3
            arrivals := [(4, .data [5]), (9, .data [0]), (12, .data [5, 0, 0, 1, 10, 0]),
              (20, .data [0, 1, 4, 56])] }
        endpoint := { delay := 1000 } }
    let r := d.dial script "udp" "192.0.2.1:53" (some 60)
    r.trace.now = 33 ∧ r.outcome ≠ .never ∧ (r.trace.now : Int) ≤ max 0 60 ∧
      (r.trace.now : Int) ≤ 3 + 8 * max 0 10 := by
  intro d script r
  have hnow : r.trace.now = 33 := by decide +kernel
  obtain ⟨htimeout, hsteps⟩ := dial_ends_in_time d script "udp" "192.0.2.1:53" (some 60)
  obtain ⟨hends, htime⟩ := htimeout 60 rfl
  obtain ⟨-, htime'⟩ := hsteps 10 rfl
  rw [if_pos rfl] at htime'
  -- With the dial written out, nothing is run to compare it with itself.
  simp only [r] at hnow ⊢
  exact ⟨hnow, hends, htime, htime'⟩

end Dialer

end Socks5
