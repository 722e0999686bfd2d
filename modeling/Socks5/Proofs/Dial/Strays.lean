import Socks5.Proofs.Dial.Sharing
import Socks5.Proofs.Session.Strays

/-!
# Stray octets from the dial on

Two dials of a relay may differ in the octets that arrive behind the answer of the proxy, even
before the relay is opened. They go on in the same way, and the relays that they give look the same
to all who use them, whatever octets arrive later.
-/

namespace Socks5

lemma firstOctets_zero (arrivals : List (Nat × Arrival)) :
    firstOctets 0 arrivals = Session.tidings arrivals := by
  induction arrivals with
  | nil => rfl
  | cons event rest ih =>
    obtain ⟨time, a⟩ := event
    cases a with
    | data bs =>
      rw [firstOctets, if_pos rfl]
      exact ih
    | ended => exact congrArg _ ih
    | failed f => exact congrArg _ ih

/-! ### Scripts -/

/-- The proxy acts in order, and its output comes to its end once at most and then for good. -/
structure StreamScript.Orderly (script : StreamScript) : Prop where
  ordered : script.arrivals.Pairwise (·.1 ≤ ·.1)
  ends : EndsOnce script.arrivals

/-- The script with other arrivals on the stream. -/
def Script.withArrivals (script : Script) (arrivals : List (Nat × Arrival)) : Script :=
  { script with stream := { script.stream with arrivals } }

/-- The trace with nothing to be read on the stream. -/
def Trace.quiet (t : Trace) : Trace := { t with stream := t.stream.map (·.quiet) }

/-! ### The relay -/

namespace Dialer

variable {d : Dialer} {script : Script} {target : Address} {deadline : Option Int} {l l' : Line}
  {s : Session}

/-- The session of a relay for a target that was opened on a line. -/
def relayOn (script : EndpointScript) (target : Address) (l : Line) : Session :=
  relaySession l script (openedEndpoint script .opened) (fixedDestination target)

/-- Two dials have opened relays in the same way, on lines that differ only in octets. -/
def OpenAlike (script : EndpointScript) (target : Address) (r r' : Ended Session × Reach) : Prop :=
  ∃ l l' calls handle note, l.Shares 0 l' ∧
    r = (.value (relayOn script target l), calls, handle, l.tell note) ∧
    r' = (.value (relayOn script target l'), calls, handle, l'.tell note)

lemma openedRelay_alike {script : EndpointScript} {bound : Address} (h : l.Shares 0 l')
    (hs : (d.openedRelay script bound target l).1 = .value s) :
    OpenAlike script target (d.openedRelay script bound target l)
      (d.openedRelay script bound target l') := by
  unfold openedRelay at hs ⊢
  cases hfault : script.fault with
  | some f =>
    simp only [hfault] at hs
    cases hs
  | none =>
    simp only [hfault] at hs ⊢
    unfold checkHandle at hs ⊢
    cases hkind : script.kind with
    | endpoint socket =>
      simp only [hkind] at hs ⊢
      split_ifs at hs ⊢
      exact ⟨l, l', _, _, _, h, rfl, rfl⟩
    | unmade =>
      simp only [hkind] at hs
      cases hs
    | foreign closable =>
      simp only [hkind] at hs
      cases hs

lemma openRelay_alike {script : EndpointScript} {bound : Address} (h : l.Shares 0 l')
    (hs : (d.openRelay script deadline bound target l).1 = .value s) :
    OpenAlike script target (d.openRelay script deadline bound target l)
      (d.openRelay script deadline bound target l') := by
  rw [openRelay_eq] at hs
  rw [openRelay_eq, openRelay_eq, ← h.now_eq, ← h.cancelAt_eq]
  split_ifs at hs ⊢
  obtain ⟨_, hpass, hopened⟩ := Ended.andThen_value hs
  rw [Ended.andThen_of_value hpass, Ended.andThen_of_value hpass]
  exact openedRelay_alike (((h.tell _).tell _).later _).catchUp hopened

/-- Relays that were opened on such lines look the same. -/
lemma relayOn_alike (script : EndpointScript) (target : Address) (h : l.Shares 0 l') :
    (relayOn script target l).Alike (relayOn script target l') := by
  have hstill (l : Line) :
      (relayOn script target l).quiet = (relayOn script target (l.cut 0)).quiet := rfl
  have htidings (l : Line) : Session.tidings l.arrivals = (l.cut 0).arrivals := by
    rw [Line.cut, Nat.zero_sub, firstOctets_zero]
  refine ⟨?_, ?_⟩
  · rw [hstill, h.cut, ← hstill]
  · exact (htidings l).trans ((congrArg Line.arrivals h.cut).trans (htidings l').symm)

lemma relayOn_guarded (script : EndpointScript) (target : Address) (h : l.Orderly) :
    ∃ r, (relayOn script target l).Guarded False 0 [] r :=
  ⟨_, { connection := rfl
        watched := ⟨nofun, .inl rfl, h.once, .inl rfl, False.elim⟩
        spent := h.spent
        ends := h.ends
        ordered := h.ordered
        pending := nofun
        leaving := nofun
        limited := nofun }⟩

lemma relayOn_shown (script : EndpointScript) (target : Address) (l : Line) :
    (relayOn script target l).Shown := ⟨_, rfl, rfl, rfl⟩

/-! ### The dial -/

lemma openedStream_orderly (h : script.stream.Orderly) (now : Nat) :
    (openedStream script.stream).Orderly
      (script.stream.arrivals.map fun (time, a) => (now + time, a)) where
  once := .inl rfl
  spent := by simp [Stream.Over, openedStream]
  ends := by
    rw [EndsOnce, ← List.map_dropLast]
    exact List.forall_mem_map.mpr h.ends
  ordered := List.pairwise_map.mpr (h.ordered.imp fun hle => Nat.add_le_add_left hle now)

variable {arrivals : List (Nat × Arrival)}

lemma openedLine_shares {n : Nat} (h : script.stream.Orderly)
    (h' : (script.withArrivals arrivals).stream.Orderly)
    (hfirst : firstOctets n arrivals = firstOctets n script.stream.arrivals) (now : Nat)
    (notes : List Note) :
    (openedLine script now notes).Shares n
      (openedLine (script.withArrivals arrivals) now notes) := by
  refine Line.Shares.catchUp ⟨openedStream_orderly h now, openedStream_orderly h' now, ?_⟩
  simp [Line.cut, Stream.cut, firstOctets_map, Script.withArrivals, openedStream, hfirst]

/-- The handshake reads the answer of the proxy; on a line that shares it all goes on as before. -/
lemma converse_alike (hs : (d.converse script .udp target deadline l).1 = .value s) :
    ∃ bound reply rest, l.coming = reply ++ rest ∧
      Network.udp.answer l.coming = .ok (bound, rest) ∧
      ∀ l', l.Shares reply.length l' → OpenAlike script.endpoint target
        (d.converse script .udp target deadline l) (d.converse script .udp target deadline l') := by
  rw [converse_eq] at hs
  obtain ⟨bound, hrun, hopened⟩ := Ended.andThen_value hs
  obtain ⟨reply, hcoming, hsame⟩ := (Handshake.negotiate .udp target).run_shares hrun
  refine ⟨bound, reply, _, hcoming, Handshake.answer_of_run hrun, fun l' hshares => ?_⟩
  obtain ⟨hrun', hleft⟩ := hsame le_rfl hshares
  rw [Nat.sub_self] at hleft
  rw [converse_eq, converse_eq, Ended.andThen_of_value hrun, Ended.andThen_of_value hrun']
  exact openRelay_alike hleft hopened

/-- What is to be read does not show in the rest of the trace. -/
lemma conclude_quiet {calls : List (Text × UInt16)} {handle : Option Handle} {s' : Session}
    (h : l.Shares 0 l') : (d.conclude target (.value s) (calls, handle, l)).quiet =
      (d.conclude target (.value s') (calls, handle, l')).quiet := by
  have hstill (s : Session) (l : Line) : (d.conclude target (.value s) (calls, handle, l)).quiet =
      (d.conclude target (.value s) (calls, handle, l.cut 0)).quiet := rfl
  rw [hstill, h.cut, ← hstill]
  rfl

/-- Two dials have come to relays that differ only in octets, and show the same. -/
def DialledAlike (r r' : Dialled) : Prop :=
  ∃ script target l l', l.Shares 0 l' ∧ r.outcome = .value (relayOn script target l) ∧
    r'.outcome = .value (relayOn script target l') ∧ r.trace.quiet = r'.trace.quiet

/-- A dial that has succeeded has opened the stream, and what arrives there has no part in that. -/
lemma dialTarget_opened {limit : Option Int}
    (hdial : (d.dialTarget script .udp target limit).outcome = .value s) :
    ∃ now, ∀ arrivals, ((d.dialTarget (script.withArrivals arrivals) .udp target limit).outcome,
      (d.dialTarget (script.withArrivals arrivals) .udp target limit).trace) =
        d.dialOn script .udp target limit
          (openedLine (script.withArrivals arrivals) now d.openingNotes) := by
  have hs := congrArg Prod.fst (d.dialTarget_eq script .udp target limit)
  simp only [hdial] at hs
  split_ifs at hs with hlimit hopening
  obtain ⟨_, hpass, hopened⟩ := Ended.andThen_value hs.symm
  generalize hnow : (pass _ _ _ _).2 = now at hopened
  refine ⟨now, fun arrivals => ?_⟩
  rw [dialTarget_eq, if_neg hlimit, if_neg hopening]
  refine (Ended.andThen_of_value hpass).trans ?_
  rw [hnow]
  unfold openedDial at hopened ⊢
  cases hfault : script.stream.fault with
  | some f =>
    simp only [hfault] at hopened
    cases hopened
  | none =>
    simp only [Script.withArrivals, hfault]
    rfl

lemma dialTarget_alike {limit : Option Int} (h : script.stream.Orderly)
    (hdial : (d.dialTarget script .udp target limit).outcome = .value s) :
    ∃ bound reply rest, script.stream.octets = reply ++ rest ∧
      Network.udp.answer script.stream.octets = .ok (bound, rest) ∧
      ∀ arrivals, (script.withArrivals arrivals).stream.Orderly →
        firstOctets reply.length arrivals = firstOctets reply.length script.stream.arrivals →
        DialledAlike (d.dialTarget script .udp target limit)
          (d.dialTarget (script.withArrivals arrivals) .udp target limit) := by
  obtain ⟨now, hopened⟩ := dialTarget_opened hdial
  have hown := hopened script.stream.arrivals
  rw [show script.withArrivals script.stream.arrivals = script from rfl] at hown
  have hs := congrArg Prod.fst hown
  simp only [hdial] at hs
  obtain ⟨bound, reply, rest, hcoming, hanswer, hsame⟩ := converse_alike hs.symm
  rw [openedLine_coming] at hcoming hanswer
  refine ⟨bound, reply, rest, hcoming, hanswer, fun arrivals h' hfirst => ?_⟩
  obtain ⟨l, l', calls, handle, note, hshares, hrelay, hrelay'⟩ :=
    hsame _ (openedLine_shares h h' hfirst now d.openingNotes)
  have hother := hopened arrivals
  simp only [dialOn, hrelay] at hown
  simp only [dialOn, hrelay'] at hother
  obtain ⟨houtcome, htrace⟩ := Prod.mk.inj hown
  obtain ⟨houtcome', htrace'⟩ := Prod.mk.inj hother
  refine ⟨script.endpoint, target, l, l', hshares, houtcome, houtcome', ?_⟩
  rw [htrace, htrace']
  exact conclude_quiet (hshares.tell note)

/-- A dial of a relay reads the answer of the proxy; as long as the answer arrives in the same way
it goes on in the same way. -/
lemma dial_alike {address : Text} {limit : Option Int} (h : script.stream.Orderly)
    (hdial : (d.dial script "udp" address limit).outcome = .value s) :
    ∃ bound reply rest, script.stream.octets = reply ++ rest ∧
      Network.udp.answer script.stream.octets = .ok (bound, rest) ∧
      ∀ arrivals, (script.withArrivals arrivals).stream.Orderly →
        firstOctets reply.length arrivals = firstOctets reply.length script.stream.arrivals →
        DialledAlike (d.dial script "udp" address limit)
          (d.dial (script.withArrivals arrivals) "udp" address limit) := by
  obtain ⟨f, hf⟩ | ⟨n, target, hn, hsame⟩ := dial_cases "udp" address
  · rw [hf] at hdial
    cases hdial
  · cases hn
    simp only [hsame] at hdial ⊢
    exact dialTarget_alike h hdial

end Dialer

namespace Session

variable {d : Dialer} {script : Script} {address : Text} {limit : Option Int} {s : Session}

/-- Octets that arrive on the control connection of a relay behind the answer of the proxy, and
before its end, are not seen by those who use the relay: the dial goes on in the same way, every
step reports the same, and nothing else happens when such octets arrive. -/
theorem stray_octets_are_invisible
    (hdial : (d.dial script "udp" address limit).outcome = .value s)
    (horderly : script.stream.Orderly) :
    ∃ bound reply rest, script.stream.octets = reply ++ rest ∧
      Network.udp.answer script.stream.octets = .ok (bound, rest) ∧
      ∀ arrivals, (script.withArrivals arrivals).stream.Orderly →
        firstOctets reply.length arrivals = firstOctets reply.length script.stream.arrivals →
        ∃ s', (d.dial (script.withArrivals arrivals) "udp" address limit).outcome = .value s' ∧
          (d.dial (script.withArrivals arrivals) "udp" address limit).trace.quiet =
            (d.dial script "udp" address limit).trace.quiet ∧
          s'.begin.view.1.withoutEnd = s.begin.view.1.withoutEnd ∧
          ∀ steps events, s.begin.Throughout Fair 0 steps →
            s'.begin.AllAlong (fun s _ step => s.Fair step) events →
            events.filter (!·.1.isStray) = steps.zipIdx →
            s'.begin.ownReports events = (s.begin.reports 0 steps).1.map (·.withoutEnd) ∧
              s'.begin.AllAlong
                (fun s t step => step.isStray = true → s.Silent (s.report t step).1) events := by
  obtain ⟨bound, reply, rest, hoctets, hanswer, hsame⟩ := Dialer.dial_alike horderly hdial
  refine ⟨bound, reply, rest, hoctets, hanswer, fun arrivals horderly' hfirst => ?_⟩
  obtain ⟨endpoint, target, l, l', hshares, hs, hs', htrace⟩ := hsame arrivals horderly' hfirst
  rw [hdial] at hs
  cases hs
  obtain ⟨r, hguarded⟩ := Dialer.relayOn_guarded endpoint target hshares.left
  obtain ⟨r', hguarded'⟩ := Dialer.relayOn_guarded endpoint target hshares.right
  have halike := (Dialer.relayOn_alike endpoint target hshares).begin hguarded hguarded'
  obtain ⟨r₁, hbegin⟩ := hguarded.begin
  obtain ⟨r₁', hbegin'⟩ := hguarded'.begin
  have hshown := (Dialer.relayOn_shown endpoint target l').begin
  have hview := (view_eq halike.quiet).1
  refine ⟨_, hs', htrace.symm, hview.symm, fun steps events hfair hfair' hsteps => ?_⟩
  exact halike.run events hbegin hbegin' hshown le_rfl hfair hfair' hsteps

/-- There are octets behind the answer, while the relay is opened and while it is in use; a datagram
is received, another one is sent, and the relay closes when the control connection ends. -/
theorem stray_octets_are_invisible_until_the_end :
    let d : Dialer := { proxy := ⟨.ipv4 ⟨10, 0, 0, 1⟩, 1080⟩ }
    let answer : Bytes := [5, 0, 5, 0, 0, 1, 10, 0, 0, 1, 4, 56]
    let script : Script :=
      { stream := { arrivals := [(0, .data answer), (50, .ended)] }, endpoint := { delay := 7 } }
    let arrivals : List (Nat × Arrival) :=
      [(0, .data (answer ++ [13, 10])), (5, .data [1, 2, 3]), (20, .data [4]), (50, .ended)]
    let steps : List Step := [.receiveFrom none, .arrive [[0, 0, 0, 1, 192, 0, 2, 1, 0, 53, 42]],
      .write [1, 2], .advance 60, .receiveFrom none]
    let events : List (Step × Ticket) := [(.control (.data [9]), 100), (.receiveFrom none, 0),
      (.arrive [[0, 0, 0, 1, 192, 0, 2, 1, 0, 53, 42]], 1), (.control (.data [8, 7]), 101),
      (.write [1, 2], 2), (.advance 60, 3), (.receiveFrom none, 4)]
    ∃ s s', (d.dial script "udp" "192.0.2.1:53" none).outcome = .value s ∧ script.stream.Orderly ∧
      (script.withArrivals arrivals).stream.Orderly ∧
      firstOctets 12 arrivals = firstOctets 12 script.stream.arrivals ∧
      (d.dial (script.withArrivals arrivals) "udp" "192.0.2.1:53" none).outcome = .value s' ∧
      s.begin.Throughout Fair 0 steps ∧ s'.begin.AllAlong (fun s _ step => s.Fair step) events ∧
      events.filter (!·.1.isStray) = steps.zipIdx ∧
      s'.begin.ownReports events = (s.begin.reports 0 steps).1.map (·.withoutEnd) ∧
      s'.begin.AllAlong
        (fun s t step => step.isStray = true → s.Silent (s.report t step).1) events ∧
      (s'.begin.ownReports events).map (fun r => (r.view.sent, r.view.closing)) =
        [(some [], some false), (some [], some false),
          (some [[0, 0, 0, 1, 192, 0, 2, 1, 0, 53, 1, 2]], some false), (some [], some true),
          (some [], some true)] := by
  intro d answer script arrivals steps events
  have horderly : script.stream.Orderly := ⟨by decide, by decide⟩
  have horderly' : (script.withArrivals arrivals).stream.Orderly := ⟨by decide, by decide⟩
  have hfirst : firstOctets 12 arrivals = firstOctets 12 script.stream.arrivals := rfl
  let opened (buffer : Bytes) (arrivals : List (Nat × Arrival)) : Session :=
    { now := 7
      connection := .relay
        { control := { buffer, written := [5, 1, 0] ++ [5, 3, 0, 1, 192, 0, 2, 1, 0, 53] }
          endpoint := { capacity := 1024, port := .opened }
          fixed := some ⟨.ipv4 ⟨192, 0, 2, 1⟩, 53⟩ }
      arrivals
      shownWritten := 13 }
  have hdial : (d.dial script "udp" "192.0.2.1:53" none).outcome =
      .value (opened [] [(50, .ended)]) := rfl
  have hdial' : (d.dial (script.withArrivals arrivals) "udp" "192.0.2.1:53" none).outcome =
      .value (opened [13, 10, 1, 2, 3] [(20, .data [4]), (50, .ended)]) := rfl
  obtain ⟨bound, reply, rest, hoctets, hanswer, hsame⟩ := stray_octets_are_invisible hdial horderly
  have hreply : reply.length = 12 := by
    have hrest : Network.udp.answer script.stream.octets =
        .ok (⟨.ipv4 ⟨10, 0, 0, 1⟩, 1080⟩, []) := rfl
    rw [hrest] at hanswer
    cases hanswer
    have hlength := congrArg List.length hoctets
    rw [List.append_nil] at hlength
    exact hlength.symm
  rw [hreply] at hsame
  obtain ⟨s', hs', -, -, hrun⟩ := hsame arrivals horderly' hfirst
  rw [hdial'] at hs'
  cases hs'
  have hstray (s : Session) {r : Relay} (bs : Bytes) (hr : s.connection = .relay r)
      (hended : r.control.ended = false) (hfailure : r.control.failure = none) :
      s.Fair (.control (.data bs)) := by
    intro r' hr'
    cases hr.symm.trans hr'
    exact ⟨by simp [Stream.Over, hended, hfailure], nofun⟩
  have hfair : (opened [] [(50, .ended)]).begin.Throughout Fair 0 steps :=
    ⟨trivial, trivial, trivial, trivial, trivial, trivial⟩
  have hfair' : (opened [13, 10, 1, 2, 3] [(20, .data [4]), (50, .ended)]).begin.AllAlong
      (fun s _ step => s.Fair step) events :=
    ⟨hstray _ [9] rfl rfl rfl, trivial, trivial, hstray _ [8, 7] rfl rfl rfl, trivial, trivial,
      trivial, trivial⟩
  obtain ⟨hreports, hsilent⟩ := hrun steps events hfair hfair' rfl
  exact ⟨_, _, hdial, horderly, horderly', hfirst, hdial', hfair, hfair', rfl, hreports, hsilent,
    by decide +kernel⟩

end Session

end Socks5
