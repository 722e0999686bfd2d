import Socks5.Client.Run
import Socks5.Proofs.Client.Exchange
import Socks5.Proofs.Log.Writing

/-!
# How a run of the client ends

The code of a run is 0 just if an answer has come, and nothing but the answer is its output;
everything else has no output and ends with the code 1, or 2 if there is nothing to send, or without
any code. Whenever a run ends, everything that it had opened is closed, but for one case: a dial
that fails tells this before it closes its stream, and a log that refuses warnings keeps it from
doing so.
-/

namespace Socks5

namespace Client

variable {j : Log.Journal} {f : Failure} {kind : HandleKind} {r : Report} {level : Int}

/-! ### The log -/

/-- A last word is told, or refused. -/
lemma endWith_cases (ending : Ending) (level : Int) (message : Text) (j : Log.Journal) :
    ¬ j.Refuses level ∧ (endWith ending level message j).2 = ending ∨
      j.Refuses level ∧ ∃ g, (endWith ending level message j).2 = .failure g := by
  have herror := Log.Journal.write_error_iff (j := j) channel level message
  unfold endWith
  generalize j.write channel level message = written at herror ⊢
  obtain ⟨j', f | _⟩ := written
  · exact .inr ⟨herror.mp ⟨f, rfl⟩, _, rfl⟩
  · refine .inl ⟨fun h => ?_, rfl⟩
    obtain ⟨f, hf⟩ := herror.mpr h
    cases hf

lemma endWith_of_not_refuses (h : ¬ j.Refuses level) (ending : Ending) (message : Text) :
    (endWith ending level message j).2 = ending := by
  obtain ⟨-, hends⟩ | ⟨hrefuses, -⟩ := endWith_cases ending level message j
  · exact hends
  · exact absurd hrefuses h

lemma tellAll_refuses_iff (notes : List Note) : ∀ j : Log.Journal,
    (tellAll notes j).1.Refuses level ↔ j.Refuses level := by
  induction notes with
  | nil => exact fun j => Iff.rfl
  | cons n rest ih =>
    intro j
    have hwrote := Log.Journal.write_refuses_iff (j := j) n.channel n.level level n.text
    unfold tellAll
    generalize j.write n.channel n.level n.text = written at hwrote ⊢
    obtain ⟨j', f | _⟩ := written
    · exact hwrote
    · exact (ih j').trans hwrote

/-- Notes are told up to the first one whose level is refused. -/
lemma tellAll_error_iff (notes : List Note) : ∀ j : Log.Journal,
    (∃ f, (tellAll notes j).2 = .error f) ↔ ∃ n ∈ notes, j.Refuses n.level := by
  induction notes with
  | nil => simp [tellAll]
  | cons n rest ih =>
    intro j
    have herror := Log.Journal.write_error_iff (j := j) n.channel n.level n.text
    have hwrote (level : Int) :=
      Log.Journal.write_refuses_iff (j := j) n.channel n.level level n.text
    rw [List.exists_mem_cons_iff, ← herror]
    unfold tellAll
    generalize j.write n.channel n.level n.text = written at hwrote ⊢
    obtain ⟨j', f | _⟩ := written
    · simp
    · simp only [ih, hwrote, reduceCtorEq, exists_false, false_or]

/-- Where nothing is refused that goes as it should, only a warning can be. -/
lemma tellAll_quiet {notes : List Note} (hnotes : ∀ n ∈ notes, n.Quiet)
    (h : ¬ j.Refuses Log.infoLevel) : (tellAll notes j).2 = .ok () := by
  cases htold : (tellAll notes j).2 with
  | ok u => rfl
  | error f =>
    obtain ⟨n, hn, hrefuses⟩ := (tellAll_error_iff notes j).mp ⟨f, htold⟩
    exact absurd (hrefuses.mono (Int.ofNat_le.mpr (hnotes n hn))) h

/-- What a dial tells is refused just if it gives a warning and warnings are refused. -/
lemma tellAll_dialled {dialled : Dialled} (htells : dialled.Tells)
    (h : ¬ j.Refuses Log.infoLevel) : (∃ f, (tellAll dialled.trace.notes j).2 = .error f) ↔
      dialled.FailsOpen ∧ j.Refuses Log.warningLevel := by
  rw [tellAll_error_iff, ← htells.warns]
  constructor
  · rintro ⟨n, hn, hrefuses⟩
    obtain hquiet | hlevel := htells.level n hn
    · exact absurd (hrefuses.mono (Int.ofNat_le.mpr hquiet)) h
    · rw [hlevel] at hrefuses
      refine ⟨⟨n, hn, ?_⟩, hrefuses⟩
      unfold Note.Quiet
      omega
  · rintro ⟨⟨n, hn, hloud⟩, hrefuses⟩
    refine ⟨n, hn, ?_⟩
    rw [(htells.level n hn).resolve_left hloud]
    exact hrefuses

/-- A failure that is not due to the interrupt key gives the code 1, or none. -/
lemma endFailed_calm (hf : f.Calm) (j : Log.Journal) :
    (endFailed f j).2 = .exit 1 ∨ ∃ g, (endFailed f j).2 = .failure g := by
  have hends (message : Text) : (endWith (.exit 1) errorLevel message j).2 = .exit 1 ∨
      ∃ g, (endWith (.exit 1) errorLevel message j).2 = .failure g :=
    (endWith_cases (.exit 1) errorLevel message j).imp (·.2) (·.2)
  unfold endFailed
  split
  · exact hends _
  · next g =>
    split_ifs with _ _ hkeyboard
    · exact hends _
    · exact hends _
    · exact absurd hkeyboard (hf g rfl)
    · exact .inr ⟨_, rfl⟩
  · exact .inr ⟨_, rfl⟩

lemma released_of_unopened : Trace.Released kind {} where
  stream := by rintro _ ⟨⟩
  handle := by rintro _ ⟨⟩

/-! ### Reports -/

namespace Report

/-- A report of a run that ends with the code 0 and one of these answers as its output, or with the
code 1 or without any and with no output. If it ends at all, everything is closed, unless something
is left open. -/
structure Ends (kind : HandleKind) (Answered : Bytes → Prop) (Left : Prop) (r : Report) : Prop where
  answered : ∀ answer, r.ending = .exit 0 ∧ r.output = answer ↔ Answered answer
  silent : r.ending ≠ .exit 0 → r.output = []
  code : ∀ code, r.ending = .exit code → code = 0 ∨ code = 1
  released : r.ending ≠ .never → (r.trace.Released kind ↔ ¬ Left)

variable {Answered Answered' : Bytes → Prop} {Left Left' : Prop}

lemma Ends.congr (h : r.Ends kind Answered Left)
    (hanswered : ∀ answer, Answered answer ↔ Answered' answer) (hleft : Left ↔ Left') :
    r.Ends kind Answered' Left' where
  answered answer := (h.answered answer).trans (hanswered answer)
  silent := h.silent
  code := h.code
  released hends := (h.released hends).trans (not_congr hleft)

/-- Without an answer there is no output. -/
lemma ends_silently (hsilent : r.output = []) (hcode : ∀ code, r.ending = .exit code → code = 1)
    (hanswered : ∀ answer, ¬ Answered answer)
    (hreleased : r.ending ≠ .never → (r.trace.Released kind ↔ ¬ Left)) :
    r.Ends kind Answered Left where
  answered answer := by
    refine ⟨fun h => ?_, fun h => absurd h (hanswered answer)⟩
    exact absurd (hcode 0 h.1) Nat.zero_ne_one
  silent _ := hsilent
  code code h := .inr (hcode code h)
  released := hreleased

lemma fail_ends (hsilent : r.output = []) (hf : f.Calm) (hanswered : ∀ answer, ¬ Answered answer)
    (hreleased : r.trace.Released kind) (hleft : ¬ Left) : (r.fail f).Ends kind Answered Left := by
  refine ends_silently hsilent (fun code hcode => ?_) hanswered fun _ => iff_of_true hreleased hleft
  change (endFailed f r.journal).2 = .exit code at hcode
  obtain hexit | ⟨g, hfailure⟩ := endFailed_calm hf r.journal
  · rw [hexit] at hcode
    exact (Ending.exit.inj hcode).symm
  · rw [hfailure] at hcode
    cases hcode

lemma never_ends (hsilent : r.output = []) (hanswered : ∀ answer, ¬ Answered answer) :
    Ends kind Answered Left { r with ending := .never } :=
  ends_silently hsilent (by rintro _ ⟨⟩) hanswered fun h => absurd rfl h

/-- What an exchange has come to decides how the run ends. -/
lemma finish_ends {outcome : Ended Reply} {Answers : Reply → Prop}
    (hj : ¬ r.journal.Refuses Log.infoLevel) (hsilent : r.output = [])
    (hvalue : ∀ reply, outcome = .value reply ↔ Answers reply)
    (hfailure : ∀ f, outcome = .failure f → f.Calm)
    (hreleased : outcome ≠ .never → r.trace.Released kind) :
    (r.finish outcome).Ends kind (fun answer => ∃ reply, Answers reply ∧ answer = reply.payload)
      False := by
  cases outcome with
  | never =>
    refine never_ends hsilent fun answer => ?_
    rintro ⟨reply, hreply, -⟩
    cases (hvalue reply).mpr hreply
  | failure f =>
    refine fail_ends hsilent (hfailure f rfl) (fun answer => ?_)
      (hreleased (by rintro ⟨⟩)) not_false
    rintro ⟨reply, hreply, -⟩
    cases (hvalue reply).mpr hreply
  | value a =>
    obtain ⟨j', hfinish⟩ : ∃ j', r.finish (.value a) =
        { r with journal := j', ending := .exit 0, output := a.payload } := by
      have hends := endWith_of_not_refuses hj (.exit 0) a.summary
      simp only [finish]
      generalize endWith (.exit 0) Log.infoLevel a.summary r.journal = told at hends ⊢
      obtain ⟨j', ending⟩ := told
      obtain rfl : ending = .exit 0 := hends
      exact ⟨j', rfl⟩
    rw [hfinish]
    refine ⟨fun answer => ?_, fun h => absurd rfl h, fun code hcode => ?_,
      fun _ => iff_of_true ?_ not_false⟩
    · constructor
      · rintro ⟨-, rfl⟩
        exact ⟨a, (hvalue a).mp rfl, rfl⟩
      · rintro ⟨reply, hreply, rfl⟩
        cases (hvalue reply).mpr hreply
        exact ⟨rfl, rfl⟩
    · exact .inl (Ending.exit.inj hcode).symm
    · exact hreleased (by rintro ⟨⟩)

/-! ### The network -/

/-- What a closed session leaves behind is closed. -/
lemma leaveBehind_released {s : Session} {t : Trace} {network : Network}
    (hclosed : s.Closed network) (htcp : network = .tcp → t.handle = none) :
    (leaveBehind s t).Released kind := by
  cases network with
  | tcp =>
    obtain ⟨c, hc, hclosed⟩ := hclosed
    simp only [leaveBehind, Session.control?, Session.endpoint?, hc, htcp rfl]
    constructor
    · rintro _ ⟨⟩
      exact hclosed
    · rintro _ ⟨⟩
  | udp =>
    obtain ⟨rel, hrel, hcontrol, hendpoint⟩ := hclosed
    simp only [leaveBehind, Session.control?, Session.endpoint?, hrel]
    constructor
    · rintro _ ⟨⟩
      exact hcontrol
    · rintro _ ⟨⟩
      exact .inr hendpoint

/-- An exchange over a dialled connection. -/
lemma exchange_ends {script : EndpointScript} {s : Session} (o : Options) (payload : Bytes)
    (hj : ¬ r.journal.Refuses Log.infoLevel) (hsilent : r.output = [])
    (hs : Dialer.Hands script o.network s)
    (hsignals : ∀ g ∈ script.incoming, ∀ f ∈ g.2.fault?, f.isSystem = true)
    (hholds : r.trace.Holds s) :
    (r.exchange o payload s).Ends kind (fun answer => ∃ reply,
      s.Answers payload o.target (limitOf o.wait) script.datagrams o.network reply ∧
        answer = reply.payload) False := by
  have hsettles := exchange_settles hs hsignals payload o.target (limitOf o.wait)
  have hquiet := exchange_quiet payload o.target (limitOf o.wait) s
  have htcp (h : o.network = .tcp) : r.trace.handle = none := by
    rw [h] at hs
    obtain ⟨l, -, rfl⟩ := hs
    exact hholds.handle
  unfold exchange
  generalize Client.exchange payload o.target (limitOf o.wait) s = x at hsettles hquiet ⊢
  obtain ⟨outcome, talk⟩ := x
  obtain ⟨hvalue, hfailure, hclosed⟩ := hsettles
  have htold := tellAll_quiet hquiet hj
  have hj' : ¬ (tellAll talk.notes r.journal).1.Refuses Log.infoLevel := by
    rw [tellAll_refuses_iff]
    exact hj
  simp only [htold]
  exact finish_ends hj' hsilent hvalue hfailure fun hends =>
    leaveBehind_released (hclosed hends) htcp

lemma dial_calm {d : Dialer} {script : Script} {name address : Text} {limit : Option Int}
    (hscript : script.Systemic) (h : (d.dial script name address limit).outcome = .failure f) :
    f.Calm := by
  have hnamed (hf : f.Named) : f.Calm := by
    obtain rfl | ⟨e, rfl⟩ := hf
    · rintro _ ⟨⟩
    · exact Failure.calm_error e
  cases hnetwork : Network.ofName? name with
  | none =>
    simp only [Dialer.dial, hnetwork] at h
    cases h
    exact Failure.calm_error _
  | some n =>
    cases hparse : Address.parse address with
    | ok target =>
      simp only [Dialer.dial, hnetwork, hparse] at h
      exact hnamed (d.dialTarget_named hscript n target limit f h)
    | error e =>
      simp only [Dialer.dial, hnetwork, hparse] at h
      cases h
      exact Failure.calm_ofTarget e

/-- A stream that was open is left open by a dial that cannot tell how it ended. -/
lemma not_released_leaveOpen {t : Trace} (h : t.stream ≠ none) : ¬ (leaveOpen t).Released kind := by
  intro hreleased
  obtain ⟨c, hc⟩ := Option.ne_none_iff_exists'.mp h
  have hstream : (leaveOpen t).stream = some { c with closed := false } := by
    rw [leaveOpen, hc]
    rfl
  cases hreleased.stream _ hstream

/-- A dial, and an exchange if it succeeds. -/
lemma dial_ends {script : Script} (o : Options) (payload : Bytes) (d : Dialer)
    (hj : ¬ r.journal.Refuses Log.infoLevel) (hsilent : r.output = []) (hscript : script.Tame) :
    (r.dial o payload script d).Ends script.endpoint.kind (fun answer => ∃ s reply,
      (d.dial script o.network.name o.target (o.timeout.bind dialLimitOf)).outcome = .value s ∧
      s.Answers payload o.target (limitOf o.wait) script.endpoint.datagrams o.network reply ∧
        answer = reply.payload)
      ((d.dial script o.network.name o.target (o.timeout.bind dialLimitOf)).FailsOpen ∧
        r.journal.Refuses Log.warningLevel) := by
  have hsound := d.dial_sound script o.network.name o.target (o.timeout.bind dialLimitOf)
  have htells := d.dial_tells script o.network.name o.target (o.timeout.bind dialLimitOf)
  unfold dial
  generalize hdialled : d.dial script o.network.name o.target (o.timeout.bind dialLimitOf) =
    dialled at hsound htells ⊢
  have hrefused := tellAll_dialled htells hj
  have hj' : ¬ (tellAll dialled.trace.notes r.journal).1.Refuses Log.infoLevel := by
    rw [tellAll_refuses_iff]
    exact hj
  dsimp only
  generalize tellAll dialled.trace.notes r.journal = told at hrefused hj' ⊢
  obtain ⟨j', g | _⟩ := told
  · -- the warning is refused, so the stream of the failed dial stays open
    have hleft := hrefused.mp ⟨g, rfl⟩
    obtain ⟨⟨⟨e, he⟩, hopen⟩, -⟩ := id hleft
    refine ends_silently hsilent (by rintro _ ⟨⟩) ?_ fun _ =>
      iff_of_false (not_released_leaveOpen hopen) (not_not_intro hleft)
    rintro answer ⟨s, reply, hs, -⟩
    cases he.symm.trans hs
  have hleft : ¬ (dialled.FailsOpen ∧ r.journal.Refuses Log.warningLevel) := fun h => by
    obtain ⟨g, hg⟩ := hrefused.mpr h
    cases hg
  obtain ⟨outcome, trace⟩ := dialled
  cases outcome with
  | value s =>
    have hs := Dialer.dial_hands hscript (Network.ofName?_name o.network)
      (congrArg (·.outcome) hdialled)
    refine (exchange_ends o payload (r := { r with journal := j', trace }) hj' hsilent hs
      hscript.signals (hsound.holds s rfl)).congr (fun answer => ?_) (iff_of_false not_false hleft)
    constructor
    · exact fun ⟨reply, hreply⟩ => ⟨s, reply, rfl, hreply⟩
    · rintro ⟨_, reply, ⟨⟩, hreply⟩
      exact ⟨reply, hreply⟩
  | failure f =>
    refine fail_ends hsilent (dial_calm hscript.toSystemic (congrArg (·.outcome) hdialled)) ?_
      (hsound.released f rfl) hleft
    rintro answer ⟨_, _, ⟨⟩, _⟩
  | never =>
    refine never_ends (r := { r with journal := j', trace }) hsilent ?_
    rintro answer ⟨_, _, ⟨⟩, _⟩

lemma toAddress_calm {v : Value} (h : v.toAddress = .error f) : f.Calm := by
  unfold Value.toAddress at h
  split at h
  · cases h
    exact Failure.calm_fault (by decide) _
  · split at h
    · next text _ =>
      cases hparse : Address.parse text with
      | ok a =>
        rw [hparse] at h
        cases h
      | error e =>
        rw [hparse] at h
        cases h
        exact Failure.calm_ofAddress e
    · cases h
      exact Failure.calm_fault (by decide) _

lemma ofSettings_calm {s : DialerSettings} (h : Dialer.ofSettings s = .error f) : f.Calm := by
  unfold Dialer.ofSettings at h
  cases hproxy : s.proxy.toAddress with
  | ok a =>
    rw [hproxy] at h
    cases h
  | error g =>
    rw [hproxy] at h
    cases h
    exact toAddress_calm hproxy

/-- A run that has something to send. It begins by telling the log so. -/
lemma start_ends {script : Script} (o : Options) (payload : Bytes) (hsilent : r.output = [])
    (htrace : r.trace = {}) (hscript : script.Tame) :
    (r.start o payload script).Ends script.endpoint.kind (fun answer =>
      ¬ r.journal.Refuses Log.infoLevel ∧ ∃ d s reply, Dialer.ofSettings r.settings = .ok d ∧
      (d.dial script o.network.name o.target (o.timeout.bind dialLimitOf)).outcome = .value s ∧
      s.Answers payload o.target (limitOf o.wait) script.endpoint.datagrams o.network reply ∧
        answer = reply.payload)
      (¬ r.journal.Refuses Log.infoLevel ∧ ∃ d, Dialer.ofSettings r.settings = .ok d ∧
        (d.dial script o.network.name o.target (o.timeout.bind dialLimitOf)).FailsOpen ∧
        r.journal.Refuses Log.warningLevel) := by
  have hunopened : r.trace.Released script.endpoint.kind := by
    rw [htrace]
    exact released_of_unopened
  let values : List (Text × Value) := [("proxy", r.settings.proxy),
    ("network", .text o.network.name), ("target", .text o.target)]
  let message : Text := "客户端配置: 代理=" ++ r.settings.proxy.plain ++ ", 网络=" ++
    o.network.name ++ ", 目标=" ++ o.target
  have hrefused := (Log.Journal.write_error_iff (j := r.journal.addContext values) channel
    Log.infoLevel message).trans (Log.Journal.addContext_refuses_iff values _)
  have hsame (level : Int) := (Log.Journal.write_refuses_iff (j := r.journal.addContext values)
    channel Log.infoLevel level message).trans (Log.Journal.addContext_refuses_iff values level)
  unfold start
  dsimp only
  generalize Log.Journal.write channel Log.infoLevel _ (Log.Journal.addContext _ r.journal) = told
    at hrefused hsame ⊢
  obtain ⟨j', g | _⟩ := told
  · have hrefuses := hrefused.mp ⟨g, rfl⟩
    refine ends_silently hsilent (by rintro _ ⟨⟩) (fun answer h => h.1 hrefuses) fun _ => ?_
    exact iff_of_true hunopened fun h => h.1 hrefuses
  have htakes : ¬ r.journal.Refuses Log.infoLevel := fun h => by
    obtain ⟨g, hg⟩ := hrefused.mpr h
    cases hg
  have hj' : ¬ j'.Refuses Log.infoLevel := fun h => htakes ((hsame _).mp h)
  simp only
  cases hsettings : Dialer.ofSettings r.settings with
  | ok d =>
    refine (dial_ends o payload d (r := { r with journal := j' }) hj' hsilent
      hscript).congr (fun answer => ?_) ?_
    · constructor
      · exact fun ⟨s, reply, hreply⟩ => ⟨htakes, d, s, reply, rfl, hreply⟩
      · rintro ⟨-, _, s, reply, ⟨⟩, hreply⟩
        exact ⟨s, reply, hreply⟩
    · constructor
      · exact fun ⟨hfails, hwarning⟩ => ⟨htakes, d, rfl, hfails, (hsame _).mp hwarning⟩
      · rintro ⟨-, _, ⟨⟩, hfails, hwarning⟩
        exact ⟨hfails, (hsame _).mpr hwarning⟩
  | error f =>
    refine fail_ends hsilent (ofSettings_calm hsettings) ?_ hunopened ?_
    · rintro answer ⟨-, _, _, _, ⟨⟩, _⟩
    · rintro ⟨-, _, ⟨⟩, _⟩

end Report

/-! ### Runs -/

section

variable {o : Options} {env : Environment} {script : Script}

/-- A run comes to an answer: there is something to send and a dialer, the log can be told so, the
dial succeeds, and what is received first, within the time limit, is this answer. -/
inductive Answered (o : Options) (env : Environment) (script : Script) (j : Log.Journal) :
    Bytes → Prop
  | exchanged {settings : DialerSettings} {payload : Bytes} {d : Dialer} {s : Session}
      {reply : Reply} (hprepared : (prepare o env j).2 = .ok settings)
      (hpayload : o.payload = .ok payload) (htold : ¬ (prepare o env j).1.Refuses Log.infoLevel)
      (hdialer : Dialer.ofSettings settings = .ok d)
      (hdialled : (d.dial script o.network.name o.target
        (o.timeout.bind dialLimitOf)).outcome = .value s)
      (hanswers : s.Answers payload o.target (limitOf o.wait) script.endpoint.datagrams
        o.network reply) : Answered o env script j reply.payload

/-- A run leaves its stream open: there is something to send and a dialer, the log can be told so,
and the dial fails with an error when its stream is open, but the log cannot be told this. -/
inductive LeavesOpen (o : Options) (env : Environment) (script : Script) (j : Log.Journal) : Prop
  | refused {settings : DialerSettings} {payload : Bytes} {d : Dialer}
      (hprepared : (prepare o env j).2 = .ok settings) (hpayload : o.payload = .ok payload)
      (htold : ¬ (prepare o env j).1.Refuses Log.infoLevel)
      (hdialer : Dialer.ofSettings settings = .ok d)
      (hfails : (d.dial script o.network.name o.target (o.timeout.bind dialLimitOf)).FailsOpen)
      (hrefuses : (prepare o env j).1.Refuses Log.warningLevel) : LeavesOpen o env script j

/-- The answers of a run that has something to send. -/
lemma answered_iff {settings : DialerSettings} {payload : Bytes}
    (hprepared : (prepare o env j).2 = .ok settings) (hpayload : o.payload = .ok payload)
    (answer : Bytes) : Answered o env script j answer ↔
      ¬ (prepare o env j).1.Refuses Log.infoLevel ∧ ∃ d s reply,
      Dialer.ofSettings settings = .ok d ∧
      (d.dial script o.network.name o.target (o.timeout.bind dialLimitOf)).outcome = .value s ∧
      s.Answers payload o.target (limitOf o.wait) script.endpoint.datagrams o.network reply ∧
        answer = reply.payload := by
  constructor
  · rintro ⟨hprepared', hpayload', htold, hdialer, hdialled, hanswers⟩
    obtain rfl := Except.ok.inj (hprepared.symm.trans hprepared')
    obtain rfl := Except.ok.inj (hpayload.symm.trans hpayload')
    exact ⟨htold, _, _, _, hdialer, hdialled, hanswers, rfl⟩
  · rintro ⟨htold, d, s, reply, hdialer, hdialled, hanswers, rfl⟩
    exact .exchanged hprepared hpayload htold hdialer hdialled hanswers

/-- When a run that has something to send leaves its stream open. -/
lemma leavesOpen_iff {settings : DialerSettings} {payload : Bytes}
    (hprepared : (prepare o env j).2 = .ok settings) (hpayload : o.payload = .ok payload) :
    LeavesOpen o env script j ↔ ¬ (prepare o env j).1.Refuses Log.infoLevel ∧
      ∃ d, Dialer.ofSettings settings = .ok d ∧
      (d.dial script o.network.name o.target (o.timeout.bind dialLimitOf)).FailsOpen ∧
      (prepare o env j).1.Refuses Log.warningLevel := by
  constructor
  · rintro ⟨hprepared', -, htold, hdialer, hfails, hrefuses⟩
    obtain rfl := Except.ok.inj (hprepared.symm.trans hprepared')
    exact ⟨htold, _, hdialer, hfails, hrefuses⟩
  · rintro ⟨htold, d, hdialer, hfails, hrefuses⟩
    exact .refused hprepared hpayload htold hdialer hfails hrefuses

/-- Without settings a run fails at once. -/
lemma run_unprepared (script : Script) {j' : Log.Journal} {f : Fault}
    (h : prepare o env j = (j', .error f)) :
    (run o env script j).output = [] ∧ (run o env script j).trace = {} ∧
      (run o env script j).ending = .failure (.fault f) := by
  simp only [run, h, and_self]

/-- Where there is nothing to send, this is the last word of a run, if the log takes it. -/
lemma run_of_payload_error (script : Script) {j' : Log.Journal} {settings : DialerSettings}
    {f : Fault} (h : prepare o env j = (j', .ok settings)) (hpayload : o.payload = .error f) :
    (run o env script j).output = [] ∧ (run o env script j).trace = {} ∧
      (¬ j'.Refuses errorLevel ∧ (run o env script j).ending = .exit 2 ∨
        j'.Refuses errorLevel ∧ ∃ g, (run o env script j).ending = .failure g) := by
  simp only [run, h, hpayload, true_and]
  exact endWith_cases (.exit 2) errorLevel _ j'

/-- A run that opens nothing, as there is nothing to send, comes to no answer and leaves nothing
open. -/
lemma ends_unopened (kind : HandleKind) (script : Script) (houtput : r.output = [])
    (htrace : r.trace = {}) (hends : r.ending ≠ .exit 0) (hnothing : ¬ ∃ settings payload,
      (prepare o env j).2 = .ok settings ∧ o.payload = .ok payload) :
    (∀ answer, r.ending = .exit 0 ∧ r.output = answer ↔ Answered o env script j answer) ∧
      (r.ending ≠ .exit 0 → r.output = []) ∧
      (r.ending ≠ .never → (r.trace.Released kind ↔ ¬ LeavesOpen o env script j)) := by
  refine ⟨fun answer => iff_of_false (fun h => hends h.1) ?_, fun _ => houtput,
    fun _ => iff_of_true ?_ ?_⟩
  · rintro ⟨hprepared, hpayload, -, -, -, -⟩
    exact hnothing ⟨_, _, hprepared, hpayload⟩
  · rw [htrace]
    exact released_of_unopened
  · rintro ⟨hprepared, hpayload, -, -, -, -⟩
    exact hnothing ⟨_, _, hprepared, hpayload⟩

/-- A run that comes to an answer has a dial that succeeds, so it leaves nothing open. -/
lemma Answered.not_leavesOpen {answer : Bytes} (h : Answered o env script j answer) :
    ¬ LeavesOpen o env script j := by
  obtain ⟨hprepared, -, -, hdialer, hdialled, -⟩ := h
  rintro ⟨hprepared', -, -, hdialer', ⟨⟨e, he⟩, -⟩, -⟩
  obtain rfl := Except.ok.inj (hprepared.symm.trans hprepared')
  obtain rfl := Except.ok.inj (hdialer.symm.trans hdialer')
  cases hdialled.symm.trans he

/-- A run of the client under faults of the system ends with the code 0 just if the dial succeeds,
the data are sent and the first thing that is received within the time limit is an answer; then its
output is the answer. Otherwise it has no output, and its code is 1, if it has any, or 2 if the data
are no hexadecimal digits or cannot be encoded, before anything is opened. When it ends, with a code
or with a failure, everything that was opened is closed, unless the log refuses the warning that the
dial has failed. -/
theorem run_prints_only_answers {script : Script} (hscript : script.Tame) (o : Options)
    (env : Environment) (j : Log.Journal) :
    let r := run o env script j
    (∀ answer, r.ending = .exit 0 ∧ r.output = answer ↔ Answered o env script j answer) ∧
    (r.ending ≠ .exit 0 → r.output = []) ∧
    (∀ code, r.ending = .exit code → code = 0 ∨ code = 1 ∨ code = 2) ∧
    (r.ending = .exit 2 ↔ (∃ settings, (prepare o env j).2 = .ok settings) ∧
      (∃ f, o.payload = .error f) ∧ ¬ (prepare o env j).1.Refuses errorLevel) ∧
    ((∃ f, o.payload = .error f) → r.trace = {}) ∧
    (r.ending ≠ .never →
      (r.trace.Released script.endpoint.kind ↔ ¬ LeavesOpen o env script j)) := by
  intro r
  rcases hprepare : prepare o env j with ⟨j', f | settings⟩
  · obtain ⟨houtput, htrace, hending⟩ := run_unprepared script hprepare
    have hnothing : ¬ ∃ settings payload, (prepare o env j).2 = .ok settings ∧
        o.payload = .ok payload := by
      rintro ⟨settings, payload, hok, -⟩
      rw [hprepare] at hok
      cases hok
    have hcode (code : Nat) : r.ending ≠ .exit code := by
      rw [hending]
      rintro ⟨⟩
    obtain ⟨hanswered, hsilent, hreleased⟩ :=
      ends_unopened script.endpoint.kind script houtput htrace (hcode 0) hnothing
    exact ⟨hanswered, hsilent, fun code h => absurd h (hcode code),
      iff_of_false (hcode 2) (by rintro ⟨⟨_, ⟨⟩⟩, -⟩), fun _ => htrace, hreleased⟩
  cases hpayload : o.payload with
  | error f =>
    obtain ⟨houtput, htrace, hending⟩ := run_of_payload_error script hprepare hpayload
    have hnothing : ¬ ∃ settings payload, (prepare o env j).2 = .ok settings ∧
        o.payload = .ok payload := by
      rintro ⟨settings, payload, -, hok⟩
      cases hpayload.symm.trans hok
    have hcode (code : Nat) (h : r.ending = .exit code) : code = 2 := by
      obtain ⟨-, hends⟩ | ⟨-, g, hends⟩ := hending <;> cases hends.symm.trans h
      rfl
    obtain ⟨hanswered, hsilent, hreleased⟩ := ends_unopened script.endpoint.kind script houtput
      htrace (fun h => absurd (hcode 0 h) (by decide)) hnothing
    refine ⟨hanswered, hsilent, fun code h => .inr (.inr (hcode code h)), ?_, fun _ => htrace,
      hreleased⟩
    obtain ⟨htakes, hends⟩ | ⟨hrefuses, g, hends⟩ := hending
    · exact iff_of_true hends ⟨⟨settings, rfl⟩, ⟨f, rfl⟩, htakes⟩
    · refine iff_of_false (fun h => ?_) fun h => h.2.2 hrefuses
      cases hends.symm.trans h
  | ok payload =>
    obtain ⟨hanswered, hsilent, hcode, hreleased⟩ := Report.start_ends o payload
      (r := { journal := j', settings, ending := .never }) rfl rfl hscript
    have hr : r = Report.start o payload script { journal := j', settings, ending := .never } := by
      simp only [r, run, hprepare, hpayload]
    rw [← hr] at hsilent hcode hreleased
    simp only [← hr] at hanswered
    have hsends : r.ending ≠ .exit 2 := fun h => by simpa using hcode 2 h
    have hprepared : (prepare o env j).2 = .ok settings := congrArg (·.2) hprepare
    refine ⟨fun answer => ?_, hsilent, fun code h => (hcode code h).imp_right .inl, ?_, ?_,
      fun hends => ?_⟩
    · rw [answered_iff hprepared hpayload, hprepare]
      exact hanswered answer
    · exact iff_of_false hsends (by rintro ⟨-, ⟨_, ⟨⟩⟩, -⟩)
    · rintro ⟨_, ⟨⟩⟩
    · rw [leavesOpen_iff hprepared hpayload, hprepare]
      exact hreleased hends

/-- A datagram that the target sends back through the relay becomes the output of the run. -/
theorem run_prints_only_answers_once :
    let o : Options := { target := "192.0.2.1:53", network := .udp, data := "hi" }
    let env : Environment :=
      [("SOCKS_TIMEOUT", ""), ("SOCKS_HANDSHAKE_TIMEOUT", ""), ("LOG_LEVEL", "CRITICAL")]
    let script : Script :=
      { stream := { arrivals := [(1, .data [5, 0]), (2, .data [5, 0, 0, 1, 10, 0, 0, 1, 4, 56])] }
        endpoint := { incoming := [(7, .datagram [0, 0, 0, 1, 192, 0, 2, 1, 0, 53, 111, 107])] } }
    let r := run o env script { clock := 0 }
    r.ending = .exit 0 ∧ r.output = [111, 107] ∧
      Answered o env script { clock := 0 } [111, 107] ∧
      r.trace.Released (.endpoint (some (.inet, .datagram))) := by
  intro o env script r
  have hscript : script.Tame := {
    opens := fun _ h => nomatch h
    reads := by simp [script]
    writes := by simp [script]
    relays := fun _ h => nomatch h
    closes := fun _ h => nomatch h
    signals := by simp [script, Signal.fault?] }
  obtain ⟨hanswered, -, -, -, -, hreleased⟩ := run_prints_only_answers hscript o env { clock := 0 }
  have hends : r.ending = .exit 0 ∧ r.output = [111, 107] := by
    dsimp only [r, o, env, script]
    exact ⟨rfl, rfl⟩
  have hanswer := (hanswered _).mp hends
  refine ⟨hends.1, hends.2, hanswer, (hreleased ?_).mpr hanswer.not_leavesOpen⟩
  rw [hends.1]
  rintro ⟨⟩

/-- Where the context has no names, the log refuses the warning that the proxy is of another
version, and the stream stays open. -/
example :
    let settings := "logging:\n  level: WARNING\n  context_fields: 5\n"
    let o : Options := { target := "192.0.2.1:53", proxy := "10.0.0.1:1080" }
    let script : Script := { stream := { arrivals := [(1, .data [4, 0])] } }
    let j : Log.Journal := { clock := 0, files := .ofList 0 [(o.config, Bytes.ofText settings)] }
    (run o [] script j).trace.stream.map (·.closed) = some false := by decide +kernel

end

end Client

end Socks5
