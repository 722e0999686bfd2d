import Socks5.Proofs.Dial.Errors
import Socks5.Proofs.Dial.Leftover

/-!
# What a dial hands over

A successful dial hands its line over to a session: a stream for TCP, a relay with a new endpoint
for UDP. Under a script with faults of the system only, no others will come up on this line.
-/

namespace Socks5

variable {α : Type}

/-- Only faults of the system come up on a line, also at its end, and nobody reads from it. -/
structure Line.Tame (l : Line) : Prop extends l.Systemic where
  idle : l.stream.waiting = none
  closing : ∀ f ∈ l.stream.closeFault, f.isSystem

/-- The fault that a signal brings, if it is there. -/
def Signal.fault? : Signal → Option Fault
  | .datagram _ => none
  | .fault f => some f
  | .lost f => f

/-- Only faults of the system come up under a script, also at the endpoint and at the end of the
connection. -/
structure Script.Tame (script : Script) : Prop extends script.Systemic where
  closes : ∀ f ∈ script.stream.closeFault, f.isSystem
  signals : ∀ g ∈ script.endpoint.incoming, ∀ f ∈ g.2.fault?, f.isSystem

namespace Line.Tame

variable {l : Line}

lemma tell (h : l.Tame) (n : Note) : (l.tell n).Tame := ⟨h.toSystemic.tell n, h.idle, h.closing⟩

lemma later (h : l.Tame) (now : Nat) : Line.Tame { l with now } :=
  ⟨⟨h.reads, h.writes⟩, h.idle, h.closing⟩

/-- What was only read from and fed has its end as before. -/
lemma of_readTo {l' : Line} (h : l.Tame) (hsystemic : l'.Systemic)
    (hread : l.stream.ReadTo l'.stream) : l'.Tame := by
  obtain ⟨_, _, _, hstream⟩ := hread
  refine ⟨hsystemic, ?_, ?_⟩
  · rw [hstream]
    exact h.idle
  · rw [hstream]
    exact h.closing

lemma catchUp (h : l.Tame) : l.catchUp.Tame := by
  refine h.of_readTo ⟨fun f hf => h.reads f ((Follows.refl l).catchUp.faults f hf), ?_⟩
    (Stream.foldl_feed_readTo _ _)
  rw [Line.catchUp, Stream.foldl_feed_plans]
  exact h.writes

lemma read (h : l.Tame) (limit : Option Int) (r : Reading) : (l.read limit r).2.Tame :=
  h.of_readTo (h.toSystemic.read limit r) (l.read_readTo limit r)

lemma write (h : l.Tame) (limit : Option Int) (out : Bytes) : (l.write limit out).2.Tame := by
  refine ⟨h.toSystemic.write limit out, (Uses.write limit out l).waiting.trans h.idle, ?_⟩
  have hclose : (l.stream.write out).2.closeFault = l.stream.closeFault := by
    obtain ⟨_, _, hstream⟩ := l.stream.write_leaves out
    rw [hstream]
  by_cases hlimit : runOut limit
  · rw [write_of_runOut hlimit]
    exact h.closing
  rcases hwrite : l.stream.write out with ⟨f | ⟨delay, fault⟩, stream⟩ <;> rw [hwrite] at hclose
  · rw [write_of_error hlimit hwrite, hclose]
    exact h.closing
  · rw [write_of_ok hlimit hwrite, hclose]
    exact h.closing

end Line.Tame

lemma Handshake.run_tame (step deadline : Option Int) (h : Handshake α) :
    ∀ l : Line, l.Tame → (h.run step deadline l).2.Tame := by
  induction h with
  | done a => exact fun _ => id
  | fail e => exact fun _ => id
  | note n next ih => exact fun l hl => ih (l.tell n) (hl.tell n)
  | send request out next ih =>
    intro l hl
    have hwrite := hl.write (limitAt step deadline l.now) out
    rw [run_send]
    exact Ended.andThen_induct (P := fun r : _ × Line => r.2.Tame) (fun _ _ => ih _ hwrite)
      (fun _ _ => hwrite) fun _ => hwrite
  | receive part count next ih =>
    intro l hl
    have hread := hl.read (limitAt step deadline l.now) (.exactly count)
    rw [run_receive]
    exact Ended.andThen_induct (P := fun r : _ × Line => r.2.Tame) (fun bs _ => ih bs _ hread)
      (fun _ _ => hread) fun _ => hread

namespace Dialer

variable {d : Dialer} {script : Script} {network : Network} {target : Address} {l : Line}
  {limit : Option Int} {s : Session}

lemma openedLine_tame (hscript : script.Tame) (now : Nat) (notes : List Note) :
    (openedLine script now notes).Tame := by
  refine ⟨openedLine_systemic hscript.toSystemic now notes, openedLine_waiting _ _ _, ?_⟩
  obtain ⟨_, _, _, hstream⟩ := Stream.foldl_feed_readTo _ (openedStream script.stream)
  rw [openedLine, Line.catchUp, hstream]
  exact hscript.closes

/-- The session of a dial for a network, on a line where only faults of the system come up. -/
def Hands (script : EndpointScript) : Network → Session → Prop
  | .tcp, s => ∃ l : Line, l.Tame ∧ s = streamSession l
  | .udp, s => ∃ (l : Line) (fixed : Option Address), l.Tame ∧
      s = relaySession l script (openedEndpoint script .opened) fixed

lemma hands_of_openRelay {script : EndpointScript} {deadline : Option Int} {bound : Address}
    (hl : l.Tame) (h : (d.openRelay script deadline bound target l).1 = .value s) :
    Hands script .udp s := by
  rw [openRelay_eq] at h
  split_ifs at h
  obtain ⟨-, -, h⟩ := Ended.andThen_value h
  generalize hline : Line.catchUp _ = l' at h
  have hl' : l'.Tame := hline ▸ (((hl.tell _).tell _).later _).catchUp
  unfold openedRelay checkHandle at h
  cases hfault : script.fault with
  | some f =>
    simp only [hfault] at h
    cases h
  | none =>
    cases hkind : script.kind with
    | endpoint socket =>
      simp only [hfault, hkind] at h
      split_ifs at h
      cases h
      exact ⟨l', _, hl', rfl⟩
    | unmade =>
      simp only [hfault, hkind] at h
      cases h
    | foreign closable =>
      simp only [hfault, hkind] at h
      cases h

/-- A dial for a network hands over such a session. -/
lemma dial_hands (hscript : script.Tame) {name address : Text}
    (hnetwork : Network.ofName? name = some network)
    (h : (d.dial script name address limit).outcome = .value s) :
    Hands script.endpoint network s := by
  obtain ⟨f, hfailed⟩ | ⟨n, target, hn, hdial⟩ := dial_cases name address
  · rw [hfailed] at h
    cases h
  obtain rfl := Option.some.inj (hn.symm.trans hnetwork)
  have hvalue := congrArg Prod.fst (d.dialTarget_eq script n target limit)
  rw [hdial] at h
  simp only [h] at hvalue
  split_ifs at hvalue
  obtain ⟨-, -, hopened⟩ := Ended.andThen_value hvalue.symm
  unfold openedDial at hopened
  cases hfault : script.stream.fault with
  | some f =>
    simp only [hfault] at hopened
    cases hopened
  | none =>
    simp only [hfault, dialOn, converse_eq] at hopened
    obtain ⟨bound, -, hestablished⟩ := Ended.andThen_value hopened
    have hline (now : Nat) := Handshake.run_tame d.stepLimit limit (Handshake.negotiate n target) _
      (openedLine_tame hscript now d.openingNotes)
    cases n with
    | tcp =>
      cases hestablished
      exact ⟨_, hline _, rfl⟩
    | udp => exact hands_of_openRelay (hline _) hestablished

end Dialer

end Socks5
