import Socks5.Proofs.Dial.Deadline
import Socks5.Proofs.Dial.Record

/-!
# What time limits change

A dial under limits is compared with the same dial under larger limits, or under none. Either it is
that dial, or its time has run out before that one ends, and then it has written the beginning of
what that one writes. `Tightens` is this comparison; `Tightens.andThen` carries it from single
waits, reads and writes to the whole dial.
-/

namespace Socks5

variable {α β σ τ : Type}

/-! ### Larger limits -/

/-- A limit is at least as strict as another one. -/
def Tighter (a b : Option Int) : Prop := ∀ y ∈ b, ∃ x ∈ a, x ≤ y

namespace Tighter

variable {a b a' b' : Option Int}

lemma none (a : Option Int) : Tighter a none := nofun

lemma refl (a : Option Int) : Tighter a a := fun y hy => ⟨y, hy, le_rfl⟩

lemma some_iff {x y : Int} : Tighter (some x) (some y) ↔ x ≤ y := by simp [Tighter]

lemma eq_none (h : Tighter .none b) : b = .none := by
  cases b with
  | none => rfl
  | some y =>
    obtain ⟨x, hx, -⟩ := h y rfl
    cases hx

lemma map {f : Int → Int} (h : Tighter a b) (hf : ∀ x y, x ≤ y → f x ≤ f y) :
    Tighter (a.map f) (b.map f) := by
  intro y hy
  obtain ⟨z, hz, rfl⟩ := Option.map_eq_some_iff.mp hy
  obtain ⟨x, hx, hle⟩ := h z hz
  exact ⟨f x, Option.mem_map_of_mem f hx, hf x z hle⟩

lemma stricter (h : Tighter a b) (h' : Tighter a' b') :
    Tighter (stricter a a') (Socks5.stricter b b') := by
  intro y hy
  cases b with
  | none =>
    obtain ⟨x, rfl, hle⟩ := h' y hy
    cases a with
    | none => exact ⟨x, rfl, hle⟩
    | some z => exact ⟨min z x, rfl, (min_le_right z x).trans hle⟩
  | some w =>
    obtain ⟨x, rfl, hle⟩ := h w rfl
    cases b' with
    | none =>
      obtain rfl := Option.some.inj hy
      obtain ⟨z, hz, hzx⟩ := exists_stricter_le x a'
      exact ⟨z, hz, hzx.trans hle⟩
    | some w' =>
      obtain rfl := Option.some.inj hy
      obtain ⟨x', rfl, hle'⟩ := h' w' rfl
      exact ⟨min x x', rfl, min_le_min hle hle'⟩

lemma limitAt (h : Tighter a b) (h' : Tighter a' b') (now : Nat) :
    Tighter (Handshake.limitAt a a' now) (Handshake.limitAt b b' now) := by
  apply h.stricter
  apply h'.map
  intro x y hxy
  exact max_le_max le_rfl (Int.sub_le_sub_right hxy now)

lemma not_runOut (h : Tighter a b) (ha : ¬ runOut a) : ¬ runOut b := by
  cases b with
  | none => exact Bool.false_ne_true
  | some y =>
    obtain ⟨x, rfl, hle⟩ := h y rfl
    simp only [runOut, Option.any_some, decide_eq_true_eq] at ha ⊢
    omega

end Tighter

/-! ### Times out -/

/-- The time has run out: an error of the transport whose message says so. -/
def Failure.TimedOut (f : Failure) : Prop :=
  ∃ e, f = .error e ∧ e.category = .transport ∧ ("timed out" : Text) <:+ e.message

lemma suffix_timeout_reason (text : Text) :
    ("timed out" : Text) <:+ text ++ Fault.timeout.reason :=
  ⟨text, rfl⟩

lemma Handshake.sendFailure_timedOut (request : Request) :
    (sendFailure request (.fault .timeout)).TimedOut :=
  ⟨_, rfl, rfl, suffix_timeout_reason _⟩

lemma Handshake.receiveFailure_timedOut (part : Part) :
    (receiveFailure part (.fault .timeout)).TimedOut :=
  ⟨_, rfl, rfl, suffix_timeout_reason _⟩

lemma Dialer.relayFailure_timedOut (bound : Address) :
    (relayFailure bound (.fault .timeout)).TimedOut :=
  ⟨_, rfl, rfl, suffix_timeout_reason _⟩

lemma Dialer.openFailure_timedOut : (openFailure (.fault .timeout)).TimedOut :=
  ⟨_, rfl, rfl, suffix_timeout_reason _⟩

/-! ### Comparing two operations -/

/-- How an operation under limits compares with the same operation under larger ones: it is that
one, or its time has run out, with a failure that is `late`, before that one ends. Both may end at
the same time only if this was spent: nothing was left of a limit. What it wrote is the beginning
of what that one writes. -/
def Tightens (late : Failure → Prop) (spent : Nat → Prop) (time : σ → Nat) (wrote : σ → Bytes)
    (tight whole : Ended α × σ) : Prop :=
  tight = whole ∨
    (∃ f, tight.1 = .failure f ∧ late f) ∧ wrote tight.2 <+: wrote whole.2 ∧
      (whole.1 = .never ∨ time tight.2 < time whole.2 ∨
        time tight.2 = time whole.2 ∧ spent (time tight.2))

namespace Tightens

variable {late : Failure → Prop} {spent : Nat → Prop} {time : σ → Nat} {wrote : σ → Bytes}
  {tight whole free : Ended α × σ} {f : Failure} {c : Nat}

/-- An operation that is broken off for a lack of time. -/
lemma of_stops (h : Stops f c time tight whole) (hlate : late f)
    (hwrote : wrote tight.2 <+: wrote whole.2) : Tightens late spent time wrote tight whole := by
  obtain ⟨-, -, heq⟩ | ⟨hlater, hcut, htime⟩ := h
  · exact .inl heq
  · rw [← htime] at hlater
    exact .inr ⟨⟨f, hcut, hlate⟩, hwrote, hlater.imp_right .inl⟩

/-- The other operation may be broken off too, later or at the same moment. -/
lemma of_stops_stops (h : Stops f c time tight free) (hlate : late f)
    (hwhole : whole = free ∨ ∃ c' g, (c < c' ∨ c = c' ∧ spent c) ∧ Stops g c' time whole free)
    (hwrote : wrote tight.2 <+: wrote whole.2) : Tightens late spent time wrote tight whole := by
  obtain rfl | ⟨c', g, hc | ⟨rfl, hspent⟩, hstop⟩ := hwhole
  · exact of_stops h hlate hwrote
  · exact of_stops (h.later (.inr ⟨c', g, hc, hstop⟩)) hlate hwrote
  obtain ⟨hends, hearly, heq⟩ | ⟨hlater, hcut, htime⟩ := h
  · obtain ⟨-, -, heq'⟩ | ⟨hlater, -⟩ := hstop
    · exact .inl (heq.trans heq'.symm)
    · exact absurd hearly (Nat.not_le.mpr (hlater.resolve_left hends))
  · obtain ⟨hends, hearly, -⟩ | ⟨-, -, htime'⟩ := hstop
    · exact absurd hearly (Nat.not_le.mpr (hlater.resolve_left hends))
    · refine .inr ⟨⟨f, hcut, hlate⟩, hwrote, .inr (.inr ⟨htime.trans htime'.symm, ?_⟩)⟩
      rwa [htime]

/-- What goes on from operations that compare in this way compares in this way too. -/
lemma andThen {late' : Failure → Prop} {time' : τ → Nat} {wrote' : τ → Bytes}
    {fail : Failure → Failure} {leave : σ → τ} {next next' : α → σ → Ended β × τ}
    (h : Tightens late spent time wrote tight whole) (hfail : ∀ f, late f → late' (fail f))
    (hleave : ∀ s, time' (leave s) = time s ∧ wrote' (leave s) = wrote s)
    (hlater : ∀ a, whole.1 = .value a → time whole.2 ≤ time' (next' a whole.2).2 ∧
      wrote whole.2 <+: wrote' (next' a whole.2).2)
    (hnext : ∀ a, whole.1 = .value a →
      Tightens late' spent time' wrote' (next a whole.2) (next' a whole.2)) :
    Tightens late' spent time' wrote' (Ended.andThen fail leave next tight)
      (Ended.andThen fail leave next' whole) := by
  obtain ⟨ended, s⟩ := whole
  obtain rfl | ⟨⟨f, htight, hf⟩, hwrote, hends⟩ := h
  · cases ended with
    | value a => exact hnext a rfl
    | failure f => exact .inl rfl
    | never => exact .inl rfl
  · obtain ⟨_, s'⟩ := tight
    obtain rfl := htight
    cases ended with
    | value a =>
      obtain ⟨hle, hprefix⟩ := hlater a rfl
      refine .inr ⟨⟨fail f, rfl, hfail f hf⟩, ?_, .inr ?_⟩
      · simpa only [Ended.andThen, hleave] using hwrote.trans hprefix
      · simp only [Ended.andThen, hleave]
        obtain hearlier | ⟨hsame, hspent⟩ := hends.resolve_left (Ended.value_ne_never a)
        · exact .inl (hearlier.trans_le hle)
        · exact (hsame.trans_le hle).lt_or_eq.imp_right fun heq => ⟨heq, hspent⟩
    | failure g =>
      refine .inr ⟨⟨fail f, rfl, hfail f hf⟩, ?_, .inr ?_⟩
      · simpa only [Ended.andThen, hleave] using hwrote
      · simpa only [Ended.andThen, hleave] using hends.resolve_left (Ended.failure_ne_never g)
    | never =>
      refine .inr ⟨⟨fail f, rfl, hfail f hf⟩, ?_, .inl rfl⟩
      simpa only [Ended.andThen, hleave] using hwrote

/-- The states may be seen in another way, as long as times and octets are the same. -/
lemma map {time' : τ → Nat} {wrote' : τ → Bytes} (h : Tightens late spent time wrote tight whole)
    (f : Ended α → σ → τ)
    (hf : ∀ ended s, time' (f ended s) = time s ∧ wrote' (f ended s) = wrote s) :
    Tightens late spent time' wrote' (tight.1, f tight.1 tight.2) (whole.1, f whole.1 whole.2) := by
  obtain rfl | ⟨hlate, hwrote, hends⟩ := h
  · exact .inl rfl
  · refine .inr ⟨hlate, ?_, ?_⟩
    · simpa only [hf] using hwrote
    · simpa only [hf] using hends

end Tightens

/-! ### Waiting -/

lemma pass_of_value {now ticks : Nat} {limit : Option Int} {cancelAt : Option Nat} {u : Unit}
    (h : (pass now ticks limit cancelAt).1 = .value u) :
    (pass now ticks limit cancelAt).2 = now + ticks := by
  obtain hpass | ⟨time, f, hpass, -⟩ := pass_ends now ticks limit cancelAt
  · rw [hpass]
  · rw [hpass] at h
    cases h

/-- A larger limit makes no difference, or the time runs out before anything else breaks off. -/
lemma breakOff_tightens {a b : Option Int} (h : Tighter a b) (now : Nat)
    (cancelAt : Option Nat) :
    breakOff now a cancelAt = breakOff now b cancelAt ∨
      ∃ c, breakOff now a cancelAt = some (c, .fault .timeout) ∧ now ≤ c ∧
        ∀ stop ∈ breakOff now b cancelAt, c < stop.1 ∨ c = stop.1 ∧ cancelAt = some c := by
  cases a with
  | none =>
    obtain rfl := h.eq_none
    exact .inl rfl
  | some x =>
    have hle : ∀ y ∈ b, x.toNat ≤ y.toNat := by
      rintro y rfl
      exact Int.toNat_le_toNat (Tighter.some_iff.mp h)
    by_cases hsame : ∃ y ∈ b, x.toNat = y.toNat
    · obtain ⟨y, rfl, heq⟩ := hsame
      exact .inl (by cases cancelAt <;> simp only [breakOff, heq])
    by_cases hearly : ∃ c ∈ cancelAt, c < now + x.toNat
    · -- The cancellation comes first, under the larger limit as well.
      obtain ⟨c, rfl, hc⟩ := hearly
      refine .inl ((breakOff_of_lt hc).trans ?_)
      cases b with
      | none => rfl
      | some y => exact (breakOff_of_lt (hc.trans_le (Nat.add_le_add_left (hle y rfl) now))).symm
    · push Not at hearly
      refine .inr ⟨_, breakOff_of_le hearly, Nat.le_add_right _ _, ?_⟩
      rintro ⟨time, f⟩ hstop
      obtain ⟨y, hy, rfl, -⟩ | ⟨hc, -⟩ := breakOff_eq_some hstop
      · have hne : x.toNat ≠ y.toNat := fun heq => hsame ⟨y, hy, heq⟩
        exact .inl (Nat.add_lt_add_left (lt_of_le_of_ne (hle y hy) hne) now)
      · exact (hearly time hc).lt_or_eq.imp_right fun heq => ⟨heq, heq ▸ hc⟩

section

variable {spent : Nat → Prop} {a b : Option Int}

/-- Nothing is written while somebody waits. -/
lemma pass_tightens (h : Tighter a b) (now ticks : Nat) {cancelAt : Option Nat}
    (hcancel : ∀ c ∈ cancelAt, spent c) (written : Bytes) :
    Tightens (· = .fault .timeout) spent id (fun _ => written) (pass now ticks a cancelAt)
      (pass now ticks b cancelAt) := by
  obtain heq | ⟨c, hstop, hnow, hlater⟩ := breakOff_tightens h now cancelAt
  · refine .inl ?_
    simp only [pass, heq]
  · refine .of_stops_stops (pass_stops hnow hstop ticks) rfl ?_ List.prefix_rfl
    cases hb : breakOff now b cancelAt with
    | none => exact .inl (by simp only [pass, hb])
    | some stop =>
      have hc := hlater stop hb
      refine .inr ⟨stop.1, stop.2, hc.imp_right (.imp_right (hcancel c)), ?_⟩
      exact pass_stops (by omega) hb ticks

namespace Line

variable {l : Line}

/-- An operation whose limit leaves no time is not begun. -/
lemma tightens_of_runOut {f : Failure} {late : Failure → Prop} {whole : Ended α × Line}
    (hlate : late f) (hspent : spent l.now) (hnow : l.now ≤ whole.2.now)
    (hwrote : l.stream.written <+: whole.2.stream.written) :
    Tightens late spent Line.now (·.stream.written) (.failure f, l) whole := by
  refine .inr ⟨⟨f, rfl, hlate⟩, hwrote, .inr ?_⟩
  exact hnow.lt_or_eq.imp_right fun heq => ⟨heq, hspent⟩

/-- A read that is begun waits until it is done or broken off. -/
lemma read_of_not_runOut {limit : Option Int} (hlimit : ¬ runOut limit) (r : Reading) (l : Line) :
    l.read limit r =
      let ended := await (breakOff l.now limit l.cancelAt) r l.now l.stream l.arrivals
      (ended.1, { l with now := ended.2.1, stream := ended.2.2.1, arrivals := ended.2.2.2 }) :=
  if_neg hlimit

lemma await_tightens (h : Tighter a b) (hcancel : ∀ c ∈ l.cancelAt, spent c) (r : Reading) :
    Tightens (· = .fault .timeout) spent (·.1) (·.2.1.written)
      (await (breakOff l.now a l.cancelAt) r l.now l.stream l.arrivals)
      (await (breakOff l.now b l.cancelAt) r l.now l.stream l.arrivals) := by
  obtain heq | ⟨c, hstop, hnow, hlater⟩ := breakOff_tightens h l.now l.cancelAt
  · exact .inl (by rw [heq])
  · rw [hstop]
    refine .of_stops_stops (await_stops l.arrivals r l.now l.stream hnow) rfl ?_ ?_
    · cases hb : breakOff l.now b l.cancelAt with
      | none => exact .inl rfl
      | some stop =>
        have hc := hlater stop hb
        refine .inr ⟨stop.1, stop.2, hc.imp_right (.imp_right (hcancel c)), ?_⟩
        exact await_stops l.arrivals r l.now l.stream (by omega)
    · simp only [await_written, List.prefix_rfl]

lemma read_tightens (l : Line) (h : Tighter a b) (hrunOut : runOut a → spent l.now)
    (hcancel : ∀ c ∈ l.cancelAt, spent c) (r : Reading) :
    Tightens (· = .fault .timeout) spent Line.now (·.stream.written) (l.read a r)
      (l.read b r) := by
  by_cases ha : runOut a
  · rw [show l.read a r = (.failure (.fault .timeout), l) from if_pos ha]
    refine tightens_of_runOut rfl (hrunOut ha) (l.read_follows b r).now ?_
    simp only [read_written, List.prefix_rfl]
  · rw [read_of_not_runOut ha, read_of_not_runOut (h.not_runOut ha)]
    refine (await_tightens h hcancel r).map
      (fun _ s => { l with now := s.1, stream := s.2.1, arrivals := s.2.2 }) ?_
    exact fun _ _ => ⟨rfl, rfl⟩

/-- Whatever comes up once the octets have left does so under both limits. -/
lemma landing_tightens {x y : Ended Unit × Nat} (fault : Option Fault) (stream : Stream)
    (h : Tightens (· = .fault .timeout) spent id (fun _ => stream.written) x y) :
    Tightens (· = .fault .timeout) spent Line.now (·.stream.written)
      (landing fault x.1, { l with stream, now := x.2 })
      (landing fault y.1, { l with stream, now := y.2 }) := by
  obtain rfl | ⟨⟨f, hf, hlate⟩, -, hends⟩ := h
  · exact .inl rfl
  · refine .inr ⟨⟨f, by rw [hf]; rfl, hlate⟩, List.prefix_rfl, ?_⟩
    exact hends.imp_left landing_eq_never.mpr

lemma write_tightens (l : Line) (h : Tighter a b) (hrunOut : runOut a → spent l.now)
    (hcancel : ∀ c ∈ l.cancelAt, spent c) (out : Bytes) :
    Tightens (· = .fault .timeout) spent Line.now (·.stream.written) (l.write a out)
      (l.write b out) := by
  by_cases ha : runOut a
  · rw [write_of_runOut ha]
    refine tightens_of_runOut rfl (hrunOut ha) (l.write_follows b out).now ?_
    rw [write_written]
    exact List.prefix_append _ _
  have hb := h.not_runOut ha
  rcases hwrite : l.stream.write out with ⟨f | ⟨delay, fault⟩, stream⟩
  · rw [write_of_error ha hwrite, write_of_error hb hwrite]
    exact .inl rfl
  · rw [write_of_ok ha hwrite, write_of_ok hb hwrite]
    exact landing_tightens fault stream (pass_tightens h l.now delay hcancel stream.written)

end Line

end

/-! ### The handshake -/

namespace Handshake

/-- Nothing is left of a limit at some moment: the deadline has passed, or the steps, which begin
once the stream was opened, have no time at all. Or this is the moment of the cancellation. -/
def Spent (step deadline : Option Int) (cancelAt : Option Nat) (opened now : Nat) : Prop :=
  (∃ d ∈ deadline, d ≤ now) ∨ (∃ h ∈ step, h ≤ 0 ∧ opened ≤ now) ∨ cancelAt = some now

variable {step step' deadline deadline' : Option Int} {opened : Nat}

lemma spent_of_runOut {now : Nat} (hrunOut : runOut (limitAt step deadline now))
    (hopened : opened ≤ now) (cancelAt : Option Nat) :
    Spent step deadline cancelAt opened now := by
  cases deadline with
  | none =>
    cases step with
    | none => cases hrunOut
    | some h => exact .inr (.inl ⟨h, rfl, of_decide_eq_true hrunOut, hopened⟩)
  | some d =>
    cases step with
    | none =>
      have hd : max 0 (d - now) ≤ 0 := of_decide_eq_true hrunOut
      exact .inl ⟨d, rfl, by omega⟩
    | some h =>
      have hmin : min h (max 0 (d - now)) ≤ 0 := of_decide_eq_true hrunOut
      obtain hh | hd := min_le_iff.mp hmin
      · exact .inr (.inl ⟨h, rfl, hh, hopened⟩)
      · exact .inl ⟨d, rfl, by omega⟩

/-- Nothing that was written is taken back. -/
lemma run_keeps_written (h : Handshake α) (l : Line) :
    l.stream.written <+: (h.run step deadline l).2.stream.written := by
  rw [← recorded_snd]
  exact ⟨_, (recorded_wroteAfter step deadline h l).symm⟩

lemma run_tightens (hstep : Tighter step step') (hdeadline : Tighter deadline deadline')
    (h : Handshake α) : ∀ l : Line, opened ≤ l.now →
      Tightens Failure.TimedOut (Spent step deadline l.cancelAt opened) Line.now
        (·.stream.written) (h.run step deadline l) (h.run step' deadline' l) := by
  induction h with
  | done a => exact fun l _ => .inl rfl
  | fail e => exact fun l _ => .inl rfl
  | note n next ih => exact fun l => ih (l.tell n)
  | send request out next ih =>
    intro l hopened
    have hwrite : Tightens _ (Spent step deadline l.cancelAt opened) _ _ _ _ :=
      l.write_tightens (hstep.limitAt hdeadline l.now)
        (fun hrunOut => spent_of_runOut hrunOut hopened _) (fun _ hc => .inr (.inr hc)) out
    rw [run_send, run_send]
    apply hwrite.andThen
    · rintro _ rfl
      exact sendFailure_timedOut request
    · exact fun _ => ⟨rfl, rfl⟩
    · intro _ _
      exact ⟨(next.run_follows step' deadline' _).now, next.run_keeps_written _⟩
    · intro _ _
      have hfollows := l.write_follows (limitAt step' deadline' l.now) out
      rw [← hfollows.cancelAt]
      exact ih _ (hopened.trans hfollows.now)
  | receive part count next ih =>
    intro l hopened
    have hread : Tightens _ (Spent step deadline l.cancelAt opened) _ _ _ _ :=
      l.read_tightens (hstep.limitAt hdeadline l.now)
        (fun hrunOut => spent_of_runOut hrunOut hopened _) (fun _ hc => .inr (.inr hc))
        (.exactly count)
    rw [run_receive, run_receive]
    apply hread.andThen
    · rintro _ rfl
      exact receiveFailure_timedOut part
    · exact fun _ => ⟨rfl, rfl⟩
    · intro bs _
      exact ⟨((next bs).run_follows step' deadline' _).now, (next bs).run_keeps_written _⟩
    · intro bs _
      have hfollows := l.read_follows (limitAt step' deadline' l.now) (.exactly count)
      rw [← hfollows.cancelAt]
      exact ih bs _ (hopened.trans hfollows.now)

end Handshake

/-! ### The relay -/

/-- The dial has failed because its time had run out. -/
def Dialled.TimedOut (r : Dialled) : Prop := ∃ f, r.outcome = .failure f ∧ f.TimedOut

/-- The octets that were written on a stream that was opened. -/
def Trace.written (t : Trace) : Bytes := t.stream.elim [] (·.written)

namespace Dialer

/-- The dialer with another limit for every step. -/
def withStep (step : Option Int) (d : Dialer) : Dialer := { d with stepLimit := step }

variable (d : Dialer) {step deadline deadline' : Option Int} {opened : Nat} {l : Line}

@[simp] lemma withStep_stepLimit : (d.withStep step).stepLimit = step := rfl

@[simp] lemma withStep_openLimit : (d.withStep step).openLimit = d.openLimit := rfl

@[simp] lemma withStep_proxy : (d.withStep step).proxy = d.proxy := rfl

@[simp] lemma withStep_relayHost : (d.withStep step).relayHost = d.relayHost := rfl

@[simp] lemma withStep_openingLine : (d.withStep step).openingLine = d.openingLine := rfl

@[simp] lemma withStep_openedRelay : (d.withStep step).openedRelay = d.openedRelay := rfl

@[simp] lemma withStep_openingNotes : (d.withStep step).openingNotes = d.openingNotes := rfl

/-- How far the openings of a relay got under limits and under larger ones. -/
abbrev ReachTightens (spent : Nat → Prop) (tight whole : Ended Session × Reach) : Prop :=
  Tightens Failure.TimedOut spent (fun r : Reach => r.2.2.now)
    (fun r : Reach => r.2.2.stream.written) tight whole

lemma openRelay_tightens (hstep : Tighter d.stepLimit step) (hdeadline : Tighter deadline deadline')
    (hopened : opened ≤ l.now) (script : EndpointScript) (bound target : Address) :
    ReachTightens (Handshake.Spent d.stepLimit deadline l.cancelAt opened)
      (d.openRelay script deadline bound target l)
      ((d.withStep step).openRelay script deadline' bound target l) := by
  have hlimit := hstep.limitAt hdeadline l.now
  have hfollows := (d.withStep step).openRelay_follows script deadline' bound target l
  have hprefix : l.stream.written <+:
      ((d.withStep step).openRelay script deadline' bound target l).2.2.2.stream.written := by
    simp only [openRelay_written, List.prefix_rfl]
  by_cases hrunOut : runOut (Handshake.limitAt d.stepLimit deadline l.now)
  · rw [openRelay_eq, if_pos hrunOut]
    refine .inr ⟨⟨_, rfl, relayFailure_timedOut bound⟩, ?_, .inr ?_⟩
    · exact hprefix
    · have hspent := Handshake.spent_of_runOut hrunOut hopened l.cancelAt
      exact hfollows.now.lt_or_eq.imp_right fun heq => ⟨heq, hspent⟩
  have hrunOut' : ¬ runOut (Handshake.limitAt (d.withStep step).stepLimit deadline' l.now) :=
    hlimit.not_runOut hrunOut
  rw [openRelay_eq, openRelay_eq, if_neg hrunOut, if_neg hrunOut']
  by_cases hopen : runOut d.openLimit
  · rw [if_pos hopen, if_pos (show runOut (d.withStep step).openLimit from hopen)]
    exact .inl rfl
  rw [if_neg hopen, if_neg (show ¬ runOut (d.withStep step).openLimit from hopen)]
  simp only [withStep_stepLimit, withStep_openLimit, withStep_relayHost, withStep_openingLine,
    withStep_openedRelay]
  have hpass : Tightens _ (Handshake.Spent d.stepLimit deadline l.cancelAt opened) _ _ _ _ :=
    pass_tightens (hlimit.stricter (.refl d.openLimit)) l.now script.delay
      (fun _ hc => .inr (.inr hc)) l.stream.written
  apply hpass.andThen
  · rintro _ rfl
    exact relayFailure_timedOut bound
  · exact fun _ => ⟨rfl, rfl⟩
  · intro _ _
    refine ⟨(d.openedRelay_follows script bound target
      (Line.catchUp { d.openingLine bound l with now := _ })).now, ?_⟩
    rw [openedRelay_written, Line.catchUp_written]
    exact List.prefix_rfl
  · exact fun _ _ => .inl rfl

lemma established_tightens (hstep : Tighter d.stepLimit step)
    (hdeadline : Tighter deadline deadline') (hopened : opened ≤ l.now) (script : Script)
    (network : Network) (target bound : Address) :
    ReachTightens (Handshake.Spent d.stepLimit deadline l.cancelAt opened)
      (d.established script network target deadline bound l)
      ((d.withStep step).established script network target deadline' bound l) := by
  cases network with
  | tcp => exact .inl rfl
  | udp => exact d.openRelay_tightens hstep hdeadline hopened script.endpoint bound target

/-! ### The dial -/

lemma converse_tightens (hstep : Tighter d.stepLimit step) (hdeadline : Tighter deadline deadline')
    (hopened : opened ≤ l.now) (script : Script) (network : Network) (target : Address) :
    ReachTightens (Handshake.Spent d.stepLimit deadline l.cancelAt opened)
      (d.converse script network target deadline l)
      ((d.withStep step).converse script network target deadline' l) := by
  rw [converse_eq, converse_eq]
  apply (Handshake.run_tightens hstep hdeadline (.negotiate network target) l hopened).andThen
  · exact fun _ hf => hf
  · exact fun _ => ⟨rfl, rfl⟩
  · intro bound _
    refine ⟨((d.withStep step).established_follows script network target _ bound _).now, ?_⟩
    simp only [established_written, List.prefix_rfl]
  · intro bound _
    have hrun := (Handshake.negotiate network target).run_follows step deadline' l
    rw [← hrun.cancelAt]
    exact d.established_tightens hstep hdeadline (hopened.trans hrun.now) script network target
      bound

variable (script : Script) (network : Network) (target : Address)

lemma conclude_written (outcome : Ended Session) (r : Reach) :
    (d.conclude target outcome r).written = r.2.2.stream.written :=
  d.abandonLine_written target outcome r.2.2

lemma openedDial_tightens (hstep : Tighter d.stepLimit step)
    (hdeadline : Tighter deadline deadline') (notes : List Note) (now : Nat) :
    Tightens Failure.TimedOut (Handshake.Spent d.stepLimit deadline script.cancelAt now) Trace.now
      Trace.written (d.openedDial script network target deadline notes now)
      ((d.withStep step).openedDial script network target deadline' notes now) := by
  unfold openedDial
  cases script.stream.fault with
  | some f => exact .inl rfl
  | none =>
    have hconverse := d.converse_tightens (l := openedLine script now notes) hstep hdeadline
      (le_refl now) script network target
    refine hconverse.map (d.conclude target) ?_
    intro outcome r
    exact ⟨d.abandonLine_now target outcome r.2.2, d.conclude_written target outcome r⟩

lemma dialTarget_tightens {limit limit' : Option Int} (hstep : Tighter d.stepLimit step)
    (hlimit : Tighter limit limit') :
    Tightens Failure.TimedOut
      (Handshake.Spent d.stepLimit limit script.cancelAt script.stream.delay) Trace.now
      Trace.written
      ((d.dialTarget script network target limit).outcome,
        (d.dialTarget script network target limit).trace)
      (((d.withStep step).dialTarget script network target limit').outcome,
        ((d.withStep step).dialTarget script network target limit').trace) := by
  have hmax : Tighter (limit.map (max 0)) (limit'.map (max 0)) :=
    hlimit.map fun _ _ => max_le_max le_rfl
  by_cases hrunOut : runOut (limit.map (max 0))
  · rw [dialTarget_eq, if_pos hrunOut]
    refine .inr ⟨⟨_, rfl, openFailure_timedOut⟩, List.nil_prefix, .inr ?_⟩
    refine (Nat.zero_le _).lt_or_eq.imp_right fun heq => ⟨heq, .inl ?_⟩
    cases limit with
    | none => cases hrunOut
    | some t => exact ⟨t, rfl, (le_max_right 0 t).trans (of_decide_eq_true hrunOut)⟩
  rw [dialTarget_eq, dialTarget_eq, if_neg hrunOut, if_neg (hmax.not_runOut hrunOut)]
  by_cases hopen : runOut d.openLimit
  · rw [if_pos hopen, if_pos (show runOut (d.withStep step).openLimit from hopen)]
    exact .inl rfl
  rw [if_neg hopen, if_neg (show ¬ runOut (d.withStep step).openLimit from hopen)]
  simp only [withStep_openLimit, withStep_openingNotes, withStep_proxy]
  have hpass : Tightens _
      (Handshake.Spent d.stepLimit limit script.cancelAt script.stream.delay) _ _ _ _ :=
    pass_tightens (hmax.stricter (.refl d.openLimit)) 0 script.stream.delay
      (fun _ hc => .inr (.inr hc)) []
  apply hpass.andThen
  · rintro _ rfl
    exact openFailure_timedOut
  · exact fun _ => ⟨rfl, rfl⟩
  · intro _ _
    exact ⟨(d.withStep step).le_openedDial script network target _ _ _, List.nil_prefix⟩
  · intro _ hvalue
    have hnow := pass_of_value hvalue
    rw [Nat.zero_add] at hnow
    rw [hnow]
    exact d.openedDial_tightens script network target hstep hlimit _ _

/-- No limit runs out at the very instant of an event: the timeout not when the dial without limits
ends, which it does with an event, and none when the dial is cancelled. -/
structure Untied (limit : Option Int) (cancelAt : Option Nat) (r whole : Dialled) : Prop where
  timeout : ∀ t, limit = some t → 0 < t → whole.outcome ≠ .never → (whole.trace.now : Int) ≠ t
  cancelled : ∀ c, cancelAt = some c → r.TimedOut → r.trace.now ≠ c

lemma dial_tightens {step limit limit' : Option Int} (hstep : Tighter d.stepLimit step)
    (hlimit : Tighter limit limit') (network address : Text) :
    let r := d.dial script network address limit
    let whole := (d.withStep step).dial script network address limit'
    r = whole ∨ r.TimedOut ∧ r.trace.written <+: whole.trace.written ∧
      (whole.outcome = .never ∨ r.trace.now < whole.trace.now ∨ r.trace.now = whole.trace.now ∧
        Handshake.Spent d.stepLimit limit script.cancelAt script.stream.delay r.trace.now) := by
  obtain ⟨f, hdial⟩ | ⟨n, target, -, hdial⟩ := dial_cases network address
  · simp only [hdial]
    exact .inl trivial
  · simp only [hdial]
    obtain heq | htimedOut := d.dialTarget_tightens script n target hstep hlimit
    · obtain ⟨houtcome, htrace⟩ := Prod.mk.inj heq
      exact .inl (congrArg₂ Dialled.mk houtcome htrace)
    · exact .inr htimedOut

/-- A dial whose time runs out at the very moment at which it would end without limits had no time
at all, from the start or for its first step. -/
lemma Untied.of_spent {limit : Option Int} {network address : Text} {whole : Dialled}
    (h : Untied limit script.cancelAt (d.dial script network address limit) whole)
    (hlate : (d.dial script network address limit).TimedOut)
    (hsame : (d.dial script network address limit).trace.now = whole.trace.now)
    (hspent : Handshake.Spent d.stepLimit limit script.cancelAt script.stream.delay
      (d.dial script network address limit).trace.now) :
    whole.outcome = .never ∨
      (∃ t, limit = some t ∧ t ≤ 0 ∧ (d.dial script network address limit).trace.now = 0) ∨
      ∃ x, d.stepLimit = some x ∧ x ≤ 0 ∧
        (d.dial script network address limit).trace.now = script.stream.delay := by
  obtain ⟨htimeout, hsteps⟩ := dial_ends_in_time d script network address limit
  obtain ⟨t, ht, hle⟩ | ⟨x, hx, hle, hopened⟩ | hcancel := hspent
  · have htime := (htimeout t ht).2
    by_cases hpositive : 0 < t
    · by_cases hnever : whole.outcome = .never
      · exact .inl hnever
      · have htie := h.timeout t ht hpositive hnever
        omega
    · exact .inr (.inl ⟨t, ht, by omega, by omega⟩)
  · have htime := (hsteps x hx).2
    rw [max_eq_left hle, Int.mul_zero, Int.add_zero] at htime
    exact .inr (.inr ⟨x, hx, hle, le_antisymm (by exact_mod_cast htime) hopened⟩)
  · exact absurd rfl (h.cancelled _ hcancel hlate)

/-- Time limits only turn the outcome of a dial into a timeout. A dial under limits is the dial
without them, or its time runs out: strictly before that one ends, or at once where a limit leaves
no time, from the start or when the first step begins. What it has written is then the beginning of
what that one writes. A dial that succeeds under some limits is the same under any larger ones. -/
theorem limits_only_time_out (d : Dialer) (script : Script) (network address : Text)
    (limit : Option Int) :
    let r := d.dial script network address limit
    let whole := (d.withStep none).dial script network address none
    (Untied limit script.cancelAt r whole →
      r = whole ∨ r.TimedOut ∧ r.trace.written <+: whole.trace.written ∧
        (whole.outcome = .never ∨ r.trace.now < whole.trace.now ∨
          (∃ t, limit = some t ∧ t ≤ 0 ∧ r.trace.now = 0) ∨
          ∃ h, d.stepLimit = some h ∧ h ≤ 0 ∧ r.trace.now = script.stream.delay)) ∧
      ∀ s step limit', r.outcome = .value s → Tighter d.stepLimit step → Tighter limit limit' →
        (d.withStep step).dial script network address limit' = r := by
  intro r whole
  constructor
  · intro huntied
    obtain heq | ⟨hlate, hprefix, hends⟩ :=
      d.dial_tightens script (.none d.stepLimit) (.none limit) network address
    · exact .inl heq
    refine .inr ⟨hlate, hprefix, ?_⟩
    obtain hnever | hearlier | ⟨hsame, hspent⟩ := hends
    · exact .inl hnever
    · exact .inr (.inl hearlier)
    · exact (huntied.of_spent d script hlate hsame hspent).imp_right .inr
  · intro s step limit' hvalue hstep hlimit
    obtain heq | ⟨⟨f, hf, -⟩, -⟩ := d.dial_tightens script hstep hlimit network address
    · exact heq.symm
    · rw [hvalue] at hf
      cases hf

/-- A relay that takes its time to open is given up for ten ticks a step, and is waited for with
thirty, as without any limit. -/
theorem limits_only_time_out_for_slow_relay :
    let d : Dialer := { proxy := ⟨.ipv4 ⟨10, 0, 0, 1⟩, 1080⟩ }
    let script : Script :=
      { stream := { delay := 3, arrivals := [(4, .data [5, 0, 5, 0, 0, 1, 10, 0, 0, 1, 4, 56])] }
        endpoint := { delay := 20 } }
    let hasty := (d.withStep (some 10)).dial script "udp" "192.0.2.1:53" (some 60)
    let patient := (d.withStep (some 30)).dial script "udp" "192.0.2.1:53" (some 60)
    let whole := d.dial script "udp" "192.0.2.1:53" none
    hasty.TimedOut ∧ hasty.trace.written <+: whole.trace.written ∧ hasty.trace.now = 17 ∧
      patient = whole ∧ whole.trace.now = 27 := by
  intro d script hasty patient whole
  have hhasty : hasty.trace.now = 17 := by decide +kernel
  have hwhole : whole.trace.now = 27 := by decide +kernel
  obtain ⟨hlimited, -⟩ :=
    limits_only_time_out (d.withStep (some 10)) script "udp" "192.0.2.1:53" (some 60)
  obtain ⟨-, hlarger⟩ :=
    limits_only_time_out (d.withStep (some 30)) script "udp" "192.0.2.1:53" (some 60)
  have huntied : Untied (some 60) script.cancelAt hasty whole := by
    refine ⟨?_, nofun⟩
    rintro _ ⟨⟩ - -
    rw [hwhole]
    decide
  have hpatient : ∃ s, patient.outcome = .value s := ⟨_, rfl⟩
  obtain ⟨s, hs⟩ := hpatient
  have hsame : whole = patient := hlarger s none none hs (.none _) (.none _)
  obtain heq | ⟨hlate, hprefix, -⟩ := hlimited huntied
  · have hnow : hasty.trace.now = whole.trace.now := congrArg (·.trace.now) heq
    omega
  · exact ⟨hlate, hprefix, hhasty, hsame.symm, hwhole⟩

end Dialer

end Socks5
