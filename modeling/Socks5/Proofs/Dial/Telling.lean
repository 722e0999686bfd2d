import Socks5.Proofs.Dial.Steps

/-!
# What a dial tells

While a dial goes on, it tells of nothing that goes wrong. Only at its end it may give a warning,
which it does just if it fails with an error when its stream is open.
-/

namespace Socks5

variable {α : Type} {l : Line}

/-- Nothing that goes wrong is told. -/
def Note.Quiet (n : Note) : Prop := n.level ≤ 20

lemma Note.quiet_of_level {n : Note} (h : n.level = 10) : n.Quiet := by
  unfold Quiet
  omega

/-- Nothing that goes wrong was told on a line. -/
def Line.Quiet (l : Line) : Prop := ∀ n ∈ l.notes, n.Quiet

namespace Line

lemma Quiet.tell (h : l.Quiet) {n : Note} (hn : n.Quiet) : (l.tell n).Quiet :=
  List.forall_mem_append.mpr ⟨h, List.forall_mem_singleton.mpr hn⟩

lemma read_notes (limit : Option Int) (r : Reading) (l : Line) :
    (l.read limit r).2.notes = l.notes := by
  unfold read
  split_ifs <;> rfl

lemma write_notes (limit : Option Int) (bs : Bytes) (l : Line) :
    (l.write limit bs).2.notes = l.notes := by
  unfold write
  split_ifs
  · rfl
  · rcases l.stream.write bs with ⟨f | ⟨delay, fault⟩, stream⟩
    · rfl
    · simp only
      rcases pass l.now delay limit l.cancelAt with ⟨_ | _ | _, now⟩
      · cases fault <;> rfl
      · rfl
      · rfl

end Line

/-! ### Handshakes -/

namespace Handshake

/-- A handshake tells of nothing that goes wrong. -/
def Quiet : Handshake α → Prop
  | done _ | fail _ => True
  | note n next => n.Quiet ∧ next.Quiet
  | send _ _ next => next.Quiet
  | receive _ _ next => ∀ bs, (next bs).Quiet

lemma Quiet.run {h : Handshake α} (step deadline : Option Int) :
    h.Quiet → ∀ l : Line, l.Quiet → (h.run step deadline l).2.Quiet := by
  induction h with
  | done a => exact fun _ _ => id
  | fail e => exact fun _ _ => id
  | note n next ih => exact fun hquiet l hl => ih hquiet.2 (l.tell n) (hl.tell hquiet.1)
  | send request out next ih =>
    intro hquiet l hl
    have hwrite : (l.write (limitAt step deadline l.now) out).2.Quiet := by
      rw [Line.Quiet, Line.write_notes]
      exact hl
    rw [run_send]
    exact Ended.andThen_induct (P := fun r : _ × Line => r.2.Quiet) (fun _ _ => ih hquiet _ hwrite)
      (fun _ _ => hwrite) fun _ => hwrite
  | receive part count next ih =>
    intro hquiet l hl
    have hread : (l.read (limitAt step deadline l.now) (.exactly count)).2.Quiet := by
      rw [Line.Quiet, Line.read_notes]
      exact hl
    rw [run_receive]
    exact Ended.andThen_induct (P := fun r : _ × Line => r.2.Quiet)
      (fun bs _ => ih bs (hquiet bs) _ hread) (fun _ _ => hread) fun _ => hread

lemma readBody_quiet (network : Network) (type : AddressType) (size : Nat) :
    (readBody network type size).Quiet := by
  intro body bs
  beta_reduce
  split
  · split
    · exact ⟨Note.quiet_of_level rfl, trivial⟩
    · trivial
    · trivial
  · trivial

lemma readBound_quiet (network : Network) (type : AddressType) :
    (readBound network type).Quiet := by
  unfold readBound
  split
  · exact readBody_quiet network type _
  · intro bs
    beta_reduce
    split
    · split_ifs
      · trivial
      · exact readBody_quiet network type _
    · trivial

lemma readReply_quiet (network : Network) : (readReply network).Quiet := by
  intro bs
  beta_reduce
  split
  · split_ifs
    · trivial
    · trivial
    · trivial
    · split
      · exact readBound_quiet network _
      · trivial
  · trivial

lemma negotiate_quiet (network : Network) (target : Address) :
    (negotiate network target).Quiet := by
  intro bs
  beta_reduce
  split
  · split_ifs
    · trivial
    · exact ⟨Note.quiet_of_level rfl, Note.quiet_of_level rfl, readReply_quiet network⟩
  · trivial

end Handshake

/-! ### Dials -/

namespace Dialer

variable {d : Dialer} {target : Address}

lemma openRelay_quiet (script : EndpointScript) (deadline : Option Int) (bound : Address)
    (hl : l.Quiet) : (d.openRelay script deadline bound target l).2.2.2.Quiet := by
  have htold : (l.tell (.openingRelay (d.relayHost bound) bound.port)).Quiet :=
    hl.tell (Note.quiet_of_level rfl)
  have hopening : (d.openingLine bound l).Quiet := htold.tell (Note.quiet_of_level rfl)
  have hopened (now : Nat) : (d.openedRelay script bound target
      (Line.catchUp { d.openingLine bound l with now })).2.2.2.Quiet := by
    have hcaught : (Line.catchUp { d.openingLine bound l with now }).Quiet := hopening
    unfold openedRelay
    cases script.fault with
    | some f => exact hcaught
    | none =>
      unfold checkHandle
      cases script.kind with
      | foreign closable => exact hcaught
      | unmade => exact hcaught
      | endpoint socket =>
        simp only
        split_ifs
        · exact hcaught.tell (Nat.le_refl 20)
        · exact hcaught
  rw [openRelay_eq]
  split_ifs
  · exact htold
  · exact hopening
  · exact Ended.andThen_induct (P := fun r : Ended Session × Reach => r.2.2.2.Quiet)
      (fun _ _ => hopened _) (fun _ _ => hopening) fun _ => hopening

lemma converse_quiet (script : Script) (network : Network) (target : Address)
    (deadline : Option Int) (hl : l.Quiet) :
    (d.converse script network target deadline l).2.2.2.Quiet := by
  have hrun := (Handshake.negotiate_quiet network target).run d.stepLimit deadline l hl
  rw [converse_eq]
  refine Ended.andThen_induct (P := fun r : Ended Session × Reach => r.2.2.2.Quiet) ?_
    (fun _ _ => hrun) fun _ => hrun
  intro bound _
  cases network with
  | tcp => exact hrun.tell (Nat.le_refl 20)
  | udp => exact openRelay_quiet script.endpoint deadline bound hrun

end Dialer

/-- A dial has failed with an error when its stream was open. -/
def Dialled.FailsOpen (r : Dialled) : Prop :=
  (∃ e, r.outcome = .failure (.error e)) ∧ r.trace.stream ≠ none

/-- A dial gives a warning just if it has failed like this, and nothing worse is told. -/
structure Dialled.Tells (r : Dialled) : Prop where
  level : ∀ n ∈ r.trace.notes, n.Quiet ∨ n.level = 30
  warns : (∃ n ∈ r.trace.notes, ¬ n.Quiet) ↔ r.FailsOpen

namespace Dialer

variable {d : Dialer} {target : Address}

/-- Nothing is worth a warning as long as there is no stream. -/
lemma tells_of_unopened {outcome : Ended Session} {trace : Trace}
    (hquiet : ∀ n ∈ trace.notes, n.Quiet) (hstream : trace.stream = none) :
    (⟨outcome, trace⟩ : Dialled).Tells where
  level n hn := .inl (hquiet n hn)
  warns := by
    constructor
    · rintro ⟨n, hn, hloud⟩
      exact absurd (hquiet n hn) hloud
    · exact fun h => absurd hstream h.2

/-- With a stream a warning is given just for an error. -/
lemma tells_of_dialOn (script : Script) (network : Network) (target : Address)
    (deadline : Option Int) (hl : l.Quiet) :
    (⟨(d.dialOn script network target deadline l).1,
      (d.dialOn script network target deadline l).2⟩ : Dialled).Tells := by
  have hquiet := converse_quiet (d := d) script network target deadline hl
  unfold dialOn
  generalize d.converse script network target deadline l = reached at hquiet ⊢
  obtain ⟨outcome, endpointCalls, handle, l'⟩ := reached
  have hcalm (hnotes : (d.abandonLine target outcome l').notes = l'.notes)
      (hnone : ∀ e, outcome ≠ .failure (.error e)) :
      (⟨outcome, d.conclude target outcome (endpointCalls, handle, l')⟩ : Dialled).Tells := by
    have hnotes : ∀ n ∈ (d.conclude target outcome (endpointCalls, handle, l')).notes, n.Quiet := by
      simp only [conclude, hnotes]
      exact hquiet
    refine ⟨fun n hn => .inl (hnotes n hn), ?_, ?_⟩
    · rintro ⟨n, hn, hloud⟩
      exact absurd (hnotes n hn) hloud
    · rintro ⟨⟨e, he⟩, -⟩
      exact absurd he (hnone e)
  cases outcome with
  | value s => exact hcalm rfl (by rintro e ⟨⟩)
  | never => exact hcalm rfl (by rintro e ⟨⟩)
  | failure f =>
    cases f with
    | error e =>
      have hloud : ¬ (Note.failed d.proxy target e).Quiet := by simp [Note.Quiet, Note.level]
      refine ⟨?_, ?_⟩
      · refine List.forall_mem_append.mpr ⟨fun n hn => .inl (hquiet n hn), ?_⟩
        exact List.forall_mem_singleton.mpr (.inr rfl)
      · refine ⟨fun _ => ⟨⟨e, rfl⟩, Option.some_ne_none _⟩, fun _ => ?_⟩
        exact ⟨_, List.mem_append_right _ List.mem_cons_self, hloud⟩
    | fault f => exact hcalm rfl (by rintro e ⟨⟩)
    | incomplete received expected => exact hcalm rfl (by rintro e ⟨⟩)
    | cancelled => exact hcalm rfl (by rintro e ⟨⟩)

/-- What a dial tells. -/
theorem dial_tells (d : Dialer) (script : Script) (name address : Text) (limit : Option Int) :
    (d.dial script name address limit).Tells := by
  obtain ⟨f, hfailed⟩ | ⟨network, target, -, hdial⟩ := dial_cases name address
  · rw [hfailed]
    exact tells_of_unopened (List.forall_mem_nil _) rfl
  rw [hdial]
  have hfirst : ∀ n ∈ [Note.connecting d.proxy], n.Quiet :=
    List.forall_mem_singleton.mpr (Note.quiet_of_level rfl)
  have hopening : ∀ n ∈ d.openingNotes, n.Quiet :=
    List.forall_mem_cons.mpr ⟨Note.quiet_of_level rfl,
      List.forall_mem_singleton.mpr (Note.quiet_of_level rfl)⟩
  have hpair (x : Ended Session × Trace) (hx : ((d.dialTarget script network target limit).outcome,
      (d.dialTarget script network target limit).trace) = x)
      (htells : (⟨x.1, x.2⟩ : Dialled).Tells) :
      (d.dialTarget script network target limit).Tells := by
    subst hx
    exact htells
  refine hpair _ (d.dialTarget_eq script network target limit) ?_
  split_ifs
  · exact tells_of_unopened hfirst rfl
  · exact tells_of_unopened hopening rfl
  · refine Ended.andThen_induct
      (P := fun x : Ended Session × Trace => (⟨x.1, x.2⟩ : Dialled).Tells) ?_
      (fun _ _ => tells_of_unopened hopening rfl) fun _ => tells_of_unopened hopening rfl
    intro _ _
    unfold openedDial
    cases script.stream.fault with
    | some f => exact tells_of_unopened hopening rfl
    | none => exact tells_of_dialOn script network target limit hopening

end Dialer

end Socks5
