import Mathlib.Tactic.Common
import Socks5.Proofs.Dial.Order

/-!
# What a handshake leaves on the line

A handshake that comes to its value has taken the octets of the answer off the front of what was to
come, whatever the limits were, and all the others are left: in the buffer of the stream, or among
what has not arrived. So a dialled stream starts with just the octets behind the answer.
-/

namespace Socks5

variable {α β σ τ : Type}

lemma Ended.andThen_of_value {fail : Failure → Failure} {leave : σ → τ}
    {next : α → σ → Ended β × τ} {r : Ended α × σ} {a : α} (h : r.1 = .value a) :
    andThen fail leave next r = next a r.2 := by
  obtain ⟨ended, s⟩ := r
  cases h
  rfl

/-! ### What is used up -/

namespace Line

lemma await_arrivals (stop : Option (Nat × Failure)) (arrivals : List (Nat × Arrival)) (r : Reading)
    (now : Nat) (s : Stream) : (await stop r now s arrivals).2.2.2 <:+ arrivals :=
  await_induct (P := fun _ rest => rest <:+ arrivals) (fun h => (List.suffix_cons _ _).trans h)
    (fun _ h => h) stop arrivals r now s List.suffix_rfl

/-- A line that is used takes in what arrives, in order, and nobody begins to wait on it. -/
structure Uses (l l' : Line) : Prop where
  arrivals : l'.arrivals <:+ l.arrivals
  waiting : l'.stream.waiting = l.stream.waiting

namespace Uses

lemma refl (l : Line) : l.Uses l := ⟨List.suffix_rfl, rfl⟩

lemma trans {l l' l'' : Line} (h : l.Uses l') (h' : l'.Uses l'') : l.Uses l'' :=
  ⟨h'.arrivals.trans h.arrivals, h'.waiting.trans h.waiting⟩

lemma tell (n : Note) (l : Line) : l.Uses (l.tell n) := ⟨List.suffix_rfl, rfl⟩

lemma catchUp (l : Line) : l.Uses l.catchUp := by
  obtain ⟨_, _, _, hstream⟩ := l.stream.foldl_feed_readTo (l.arrivals.takeWhile (·.1 ≤ l.now))
  refine ⟨List.dropWhile_suffix _, ?_⟩
  rw [Line.catchUp, hstream]

lemma read (limit : Option Int) (r : Reading) (l : Line) : l.Uses (l.read limit r).2 := by
  obtain ⟨_, _, _, hstream⟩ := l.read_readTo limit r
  refine ⟨?_, by rw [hstream]⟩
  unfold Line.read
  split_ifs
  · exact List.suffix_rfl
  · exact await_arrivals _ _ _ _ _

lemma write (limit : Option Int) (out : Bytes) (l : Line) : l.Uses (l.write limit out).2 := by
  have hwaiting : (l.stream.write out).2.waiting = l.stream.waiting := by
    obtain ⟨_, _, hstream⟩ := l.stream.write_leaves out
    rw [hstream]
  by_cases hlimit : runOut limit
  · rw [write_of_runOut hlimit]
    exact refl l
  rcases hwrite : l.stream.write out with ⟨f | ⟨delay, fault⟩, stream⟩ <;> rw [hwrite] at hwaiting
  · rw [write_of_error hlimit hwrite]
    exact ⟨List.suffix_rfl, hwaiting⟩
  · rw [write_of_ok hlimit hwrite]
    exact ⟨List.suffix_rfl, hwaiting⟩

end Uses

end Line

namespace Handshake

variable (step deadline : Option Int)

lemma run_uses (h : Handshake α) : ∀ l : Line, l.Uses (h.run step deadline l).2 := by
  induction h with
  | done a => exact .refl
  | fail e => exact .refl
  | note n next ih => exact fun l => (Line.Uses.tell n l).trans (ih _)
  | send request out next ih =>
    intro l
    have hwrite := Line.Uses.write (limitAt step deadline l.now) out l
    rw [run_send]
    apply Ended.andThen_induct (P := fun r => l.Uses r.2)
    · exact fun _ _ => hwrite.trans (ih _)
    · exact fun _ _ => hwrite
    · exact fun _ => hwrite
  | receive part count next ih =>
    intro l
    have hread := Line.Uses.read (limitAt step deadline l.now) (.exactly count) l
    rw [run_receive]
    apply Ended.andThen_induct (P := fun r => l.Uses r.2)
    · exact fun bs _ => hread.trans (ih bs _)
    · exact fun _ _ => hread
    · exact fun _ => hread

/-! ### What is left -/

variable {step deadline}

/-- A handshake that comes to a value leaves what it leaves when all the octets are there. -/
lemma run_value (h : Handshake α) : ∀ {l : Line} {a : α}, (h.run step deadline l).1 = .value a →
    ∃ sent, h.onOctets true l.coming = (.value a, sent, (h.run step deadline l).2.coming) := by
  induction h with
  | done a =>
    rintro l _ ⟨⟩
    exact ⟨[], rfl⟩
  | fail e => exact fun h => nomatch h
  | note n next ih => exact fun h => ih h
  | send request out next ih =>
    intro l a h
    rw [run_send] at h ⊢
    obtain ⟨_, hwrite, hnext⟩ := Ended.andThen_value h
    obtain ⟨sent, hsent⟩ := ih hnext
    rw [l.write_coming] at hsent
    exact ⟨out ++ sent, by rw [onOctets_send, hsent, Ended.andThen_of_value hwrite]⟩
  | receive part count next ih =>
    intro l a h
    rw [run_receive] at h ⊢
    obtain ⟨bs, hread, hnext⟩ := Ended.andThen_value h
    obtain ⟨sent, hsent⟩ := ih bs hnext
    obtain ⟨hlength, hcoming⟩ := Line.read_takes hread
    refine ⟨sent, ?_⟩
    rw [Ended.andThen_of_value hread, onOctets, if_pos (by simp [hcoming, hlength]), hcoming,
      List.take_left' hlength, List.drop_left' hlength]
    exact hsent

variable {network : Network} {target bound : Address} {l : Line}

/-- The octets on the line are the answer of the proxy with what is left behind it. -/
lemma answer_of_run (h : ((negotiate network target).run step deadline l).1 = .value bound) :
    network.answer l.coming =
      .ok (bound, ((negotiate network target).run step deadline l).2.coming) := by
  obtain ⟨sent, hsent⟩ := run_value _ h
  exact answer_of_onOctets hsent

/-- Both requests were written. -/
lemma written_of_run (h : ((negotiate network target).run step deadline l).1 = .value bound) :
    ((negotiate network target).run step deadline l).2.stream.written =
      l.stream.written ++ ([5, 1, 0] ++ Dialer.commandFrame network target) := by
  have hwrote := recorded_wroteAfter step deadline (negotiate network target) l
  obtain ⟨result, hcourse, hresult⟩ :=
    recorded_course step deadline (negotiate network target) l
  rw [WroteAfter, recorded_snd] at hwrote
  rw [recorded_snd] at hresult
  obtain rfl := hresult bound h
  rw [hwrote]
  obtain ⟨hnone, -⟩ | ⟨method, reply, hreply, hacts⟩ := negotiate_course hcourse
  · cases hnone
  · rw [hacts, ← Dialer.request_eq_commandFrame]
    simp [Act.sent, Frame.negotiation, Frame.version] at hreply ⊢
    exact hreply

end Handshake

/-! ### Dialled streams -/

namespace Dialer

variable {d : Dialer} {script : Script} {address : Text} {limit : Option Int} {s : Session}

lemma openedLine_waiting (script : Script) (now : Nat) (notes : List Note) :
    (openedLine script now notes).stream.waiting = none := (Line.Uses.catchUp _).waiting

/-- A dialled stream has just the octets behind the answer before it, and has sent the requests. -/
lemma dial_stream (h : (d.dial script "tcp" address limit).outcome = .value s) :
    ∃ target bound l, Address.parse address = .ok target ∧ s = streamSession l ∧
      Network.tcp.answer script.stream.octets = .ok (bound, l.coming) ∧
      l.stream.waiting = none ∧
      l.stream.written = [5, 1, 0] ++ commandFrame .tcp target ∧
      ∃ opened, l.arrivals <:+ script.stream.arrivals.map fun (time, a) => (opened + time, a) := by
  have hnetwork : Network.ofName? "tcp" = some .tcp := rfl
  unfold dial at h
  simp only [hnetwork] at h
  cases haddress : Address.parse address with
  | error f =>
    rw [haddress] at h
    cases h
  | ok target =>
    simp only [haddress] at h
    have hdial := d.dialTarget_eq script .tcp target limit
    rw [h] at hdial
    split_ifs at hdial
    · cases hdial
    · cases hdial
    obtain ⟨-, -, hopened⟩ := Ended.andThen_value (congrArg Prod.fst hdial).symm
    generalize (pass _ _ _ _).2 = now at hopened
    unfold openedDial at hopened
    cases hfault : script.stream.fault with
    | some f =>
      simp only [hfault] at hopened
      cases hopened
    | none =>
      simp only [hfault, dialOn, converse_eq] at hopened
      obtain ⟨bound, hrun, hvalue⟩ := Ended.andThen_value hopened
      have huses := (Handshake.negotiate .tcp target).run_uses d.stepLimit limit
        (openedLine script now d.openingNotes)
      have hanswer := Handshake.answer_of_run hrun
      have hwritten := Handshake.written_of_run hrun
      rw [openedLine_coming] at hanswer
      rw [openedLine_written, List.nil_append] at hwritten
      cases hvalue
      exact ⟨target, bound, _, rfl, rfl, hanswer, huses.waiting.trans (openedLine_waiting _ _ _),
        hwritten, now, huses.arrivals.trans (List.dropWhile_suffix _)⟩

end Dialer

end Socks5
