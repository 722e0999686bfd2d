import Socks5.Proofs.Client.Waiting
import Socks5.Proofs.Dial.Handover
import Socks5.Proofs.Dial.Telling
import Socks5.Proofs.Session.Listening
import Socks5.Proofs.Session.Reading
import Socks5.Proofs.Session.Sending

/-!
# What an exchange comes to

An exchange comes to an answer just if the payload can be sent and the first thing that is received
within the time limit is an answer: octets or the end of a stream, or a datagram of the relay that
can be read. Otherwise it fails, unless it never ends. Whenever it ends, its connection is closed.
-/

namespace Socks5

open Session (Yields)

/-- The datagram that a signal brings, if it does. -/
def Signal.datagram? : Signal → Option Bytes
  | .datagram bs => some bs
  | _ => none

/-- The datagrams that arrive at an endpoint. -/
def EndpointScript.datagrams (script : EndpointScript) : List Bytes :=
  script.incoming.filterMap (·.2.datagram?)

variable {α β : Type} {network : Network} {payload : Bytes} {dest : Text} {limit : Option Int}
  {arrived : List Bytes}

/-- A destination that is given as a text is not refused because of the interrupt key. -/
lemma Relay.Refuses.calm {r : Relay} {f : Failure} (h : r.Refuses payload (some (.text dest)) f) :
    f.Calm := by
  cases h with
  | @invalid v f hv =>
    obtain ⟨e, -, rfl⟩ : ∃ e, Address.parse dest = .error e ∧ .ofAddress e = f := by
      unfold destination at hv
      cases hparse : Address.parse dest with
      | ok a =>
        simp only [hparse] at hv
        cases hv
      | error e =>
        simp only [hparse] at hv
        exact ⟨e, rfl, Except.error.inj hv⟩
    exact Failure.calm_ofAddress e
  | mismatch => exact Failure.calm_error _
  | control => exact Failure.calm_of_isSystem rfl
  | closed => exact Failure.calm_of_isSystem rfl
  | tooLarge => exact Failure.calm_fault (by decide) _

/-! ### Answers -/

namespace Session

/-- A payload is written to a stream with this result; nothing is done for an empty one. -/
def Writes (payload : Bytes) (s : Session) (a : Answer) (sent : Session) : Prop :=
  payload = [] ∧ a = .nothing ∧ sent = s ∨
    payload ≠ [] ∧ Yields 0 (.ok a) (s.perform 0 (.write payload)) sent

/-- Somebody who sends a payload over a session and receives for at most so long gets this answer:
what a single read of a stream gives, or a single datagram of a relay. -/
inductive Answers (payload : Bytes) (dest : Text) (limit : Option Int) (arrived : List Bytes)
    (s : Session) : Network → Client.Reply → Prop
  | octets {sent received : Session} {a : Answer} {c : Stream} {bs : Bytes}
      (hsent : s.begin.Writes payload a sent)
      (hreceived : Yields 1 (.ok (.bytes bs)) (sent.perform 1 (.read 65535 limit)) received)
      (hwait : ∀ l ∈ limit, received.now ≤ sent.now + l.toNat)
      (hlength : bs.length ≤ 65535)
      (hstream : received.connection = .stream c) (hend : bs = [] → c.ended = true) :
      Answers payload dest limit arrived s .tcp { payload := bs }
  | datagram {sent received : Session} {bs answer : Bytes} {source : Address}
      (hsent : Yields 0 (.ok (.count payload.length))
        (s.perform 0 (.sendTo payload (some (.text dest)))) sent)
      (hreceived : Yields 1 (.ok (.message answer source))
        (sent.begin.perform 1 (.receiveFrom limit)) received)
      (hwait : ∀ l ∈ limit, received.now ≤ sent.begin.now + l.toNat)
      (harrived : bs ∈ arrived) (hparse : Frame.parseDatagram bs = .ok (answer, source)) :
      Answers payload dest limit arrived s .udp { payload := answer, source := some source }

/-! ### Waiting and leaving -/

/-- What comes up at a stream when somebody waits for it. -/
lemma ReadsOn.yields {n : Nat} {t : Ticket} {r : Result} {s' : Session} {c : Stream}
    {started : List (Ticket × Result) × Session} (h : started.2.ReadsOn n c started.1)
    (hn : n ≠ 0) (hyields : Yields t r started s') :
    ∃ c', s'.Reads n c' ∧ Read n (c'.ended = true) (t, r) := by
  -- the stream is another one at each moment, so each result is about the stream of its session
  have hopen {done : List (Ticket × Result)} {s : Session} {c : Stream} (hs : s.ReadsOn n c done) :
      (∃ c', s.Reads n c') ∧
        ∀ x ∈ done, ∃ c', s.connection = .stream c' ∧ Read n (c'.ended = true) x := by
    obtain ⟨c', hc', -, hdone⟩ := hs
    exact ⟨⟨c', hc'⟩, fun x hx => ⟨c', hc'.connection, hdone x hx⟩⟩
  obtain ⟨⟨c', hc'⟩, c'', hc'', hread⟩ := hyields.induct (P := fun s => ∃ c, s.Reads n c)
    (Q := fun s x => ∃ c', s.connection = .stream c' ∧ Read n (c'.ended = true) x)
    (fun time ⟨_, hs⟩ => hopen (hs.tick hn time)) (hopen h).1 (hopen h).2
  obtain rfl : c' = c'' := Connection.stream.inj (hc'.connection.symm.trans hc'')
  exact ⟨c', hc', hread⟩

/-- What comes up at a relay when somebody waits for it. -/
lemma Hears.yields {next t : Ticket} {r : Result} {s' : Session}
    {started : List (Ticket × Result) × Session} (h : started.2.Hears arrived next started.1)
    (hyields : Yields t r started s') :
    (∃ r', s'.Listens arrived next r') ∧ Heard arrived (t, r) :=
  hyields.induct (P := fun s => ∃ r, s.Listens arrived next r) (Q := fun _ => Heard arrived)
    (fun time ⟨_, hs⟩ => hs.tick time) h.1 h.2

/-- A payload for a destination goes out and its length is told, or it is refused at once. -/
lemma Listens.sendTo {next : Ticket} {s : Session} {r : Relay} (h : s.Listens arrived next r)
    (t : Ticket) (payload : Bytes) (dest : Text) :
    (s.perform t (.sendTo payload (some (.text dest)))).2.Hears arrived next
      (s.perform t (.sendTo payload (some (.text dest)))).1 := by
  obtain ⟨target, -, hperform⟩ | ⟨f, hrefuses, hperform⟩ :=
    perform_sendTo h.connection t payload (some (.text dest)) <;> rw [hperform]
  · refine ⟨⟨_, rfl, ⟨?_, h.relay.leaving, h.relay.closing⟩, h.incoming, h.draining⟩,
      List.forall_mem_singleton.mpr ⟨?_, ?_⟩⟩
    · exact ⟨h.relay.endpoint.made, h.relay.endpoint.queue, h.relay.endpoint.reason,
        h.relay.endpoint.waiting⟩
    · rintro _ ⟨⟩
    · rintro _ _ ⟨⟩
  · exact ⟨⟨r, h⟩, List.forall_mem_singleton.mpr (.error hrefuses.calm)⟩

/-- When the session is left, this comes to its end at once, and everything is closed. -/
def Leaves (s : Session) (network : Network) : Prop :=
  (∃ a, ((s.perform 2 .leave).1.find? (·.1 = 2)).map (·.2) = some (.ok a)) ∧
    (s.perform 2 .leave).2.Closed network

end Session

namespace Client

namespace Talk

variable {t : Ticket} {r : Result} {s s' : Session} {c : Stream} {talk : Talk} {reply : Reply}

/-! ### Going on -/

/-- What somebody comes to who talks: just these values in just these sessions, or a failure that is
not due to the interrupt key. However it ends, something holds of the session. -/
structure Comes (Good : Session → Prop) (V : α → Session → Prop) (x : Ended α × Talk) : Prop where
  value : ∀ a s, x.1 = .value a ∧ x.2.session = s ↔ V a s
  kept : ∀ a s, V a s → Good s
  failure : ∀ f, x.1 = .failure f → f.Calm ∧ Good x.2.session

variable {Good : Session → Prop} {V : α → Session → Prop} {W : α → Session → β → Session → Prop}

lemma Comes.congr {V' : α → Session → Prop} {x : Ended α × Talk} (h : Comes Good V x)
    (hV : ∀ a s, V a s ↔ V' a s) : Comes Good V' x where
  value a s := (h.value a s).trans (hV a s)
  kept a s hs := h.kept a s ((hV a s).mpr hs)
  failure := h.failure

/-- One thing after the other. -/
lemma Comes.andThen {x : Ended α × Talk} {next : α → Talk → Ended β × Talk} (h : Comes Good V x)
    (hnext : ∀ a (talk : Talk), V a talk.session → Comes Good (W a talk.session) (next a talk)) :
    Comes Good (fun b s' => ∃ a s, V a s ∧ W a s b s') (Ended.andThen id id next x) := by
  have hvalue (a : α) (ha : x.1 = .value a) : V a x.2.session := (h.value a _).mp ⟨ha, rfl⟩
  refine ⟨fun b s' => ⟨?_, ?_⟩, ?_, fun f hf => ?_⟩
  · rintro ⟨hb, rfl⟩
    obtain ⟨a, ha, hb⟩ := Ended.andThen_value hb
    rw [Ended.andThen_of_value ha]
    exact ⟨a, _, hvalue a ha, ((hnext a x.2 (hvalue a ha)).value b _).mp ⟨hb, rfl⟩⟩
  · rintro ⟨a, s, hV, hW⟩
    obtain ⟨ha, rfl⟩ := (h.value a s).mpr hV
    rw [Ended.andThen_of_value ha]
    exact ((hnext a x.2 hV).value b s').mpr hW
  · rintro b s' ⟨a, s, hV, hW⟩
    obtain ⟨ha, rfl⟩ := (h.value a s).mpr hV
    exact (hnext a x.2 hV).kept b s' hW
  · revert hf
    refine Ended.andThen_induct (P := fun y : Ended β × Talk =>
      y.1 = .failure f → f.Calm ∧ Good y.2.session) ?_ ?_ ?_
    · exact fun a ha => (hnext a x.2 (hvalue a ha)).failure f
    · rintro g hg ⟨⟩
      exact h.failure g hg
    · rintro - ⟨⟩

/-- A value that is known. -/
lemma comes_value {a : α} (h : Good talk.session) :
    Comes Good (fun b s => b = a ∧ s = talk.session) (.value a, talk) where
  value b s := by
    constructor
    · rintro ⟨⟨⟩, rfl⟩
      exact ⟨rfl, rfl⟩
    · rintro ⟨rfl, rfl⟩
      exact ⟨rfl, rfl⟩
  kept b s hs := hs.2 ▸ h
  failure f hf := nomatch hf

/-- A step comes to what it yields. -/
lemma comes_perform (t : Ticket) (step : Step) (talk : Talk)
    (h : ∀ r s', Yields t r (talk.session.perform t step) s' →
      Good s' ∧ ∀ f, r = .error f → f.Calm) :
    Comes Good (fun a s' => Yields t (.ok a) (talk.session.perform t step) s')
      (talk.perform t step) where
  value a s' := by
    constructor
    · rintro ⟨ha, rfl⟩
      exact yields_of_perform (r := .ok a) (Prod.ext ha rfl)
    · intro hyields
      obtain ⟨notes, hperform⟩ := perform_of_yields hyields
      rw [hperform]
      exact ⟨rfl, rfl⟩
  kept a s' hyields := (h _ s' hyields).1
  failure f hf := by
    obtain ⟨hgood, hcalm⟩ := h _ _ (yields_of_perform (r := .error f) (Prod.ext hf rfl))
    exact ⟨hcalm f rfl, hgood⟩

/-- A value, or nobody ever gets one. -/
def orNever : Option β → Ended β
  | some b => .value b
  | none => .never

/-- What is made of the value in the same session: something, or nobody ever gets it. -/
lemma Comes.collect {x : Ended α × Talk} {next : α → Talk → Ended β × Talk} {g : α → Option β}
    (h : Comes Good V x)
    (hvalue : ∀ a talk, (next a talk).1 = orNever (g a))
    (hsession : ∀ a talk, (next a talk).2.session = talk.session) :
    Comes Good (fun b s => ∃ a, V a s ∧ g a = some b) (Ended.andThen id id next x) := by
  have hnext (a : α) (talk : Talk) (hV : V a talk.session) :
      Comes Good (fun b s => g a = some b ∧ s = talk.session) (next a talk) := by
    obtain ⟨ended, talk', hstep⟩ : ∃ ended talk', next a talk = (ended, talk') := ⟨_, _, rfl⟩
    obtain rfl : ended = _ := (congrArg Prod.fst hstep).symm.trans (hvalue a talk)
    have hsame : talk'.session = talk.session :=
      (congrArg (·.2.session) hstep).symm.trans (hsession a talk)
    rw [hstep]
    refine ⟨fun b s => ?_, fun b s hs => hs.2 ▸ h.kept a _ hV, fun f hf => ?_⟩
    · cases g a with
      | some b' => simp [orNever, hsame, eq_comm]
      | none => simp [orNever]
    · cases hg : g a <;> rw [hg] at hf <;> cases hf
  refine (h.andThen (W := fun a s b s' => g a = some b ∧ s' = s) hnext).congr fun b s => ?_
  constructor
  · rintro ⟨a, _, hV, hg, rfl⟩
    exact ⟨a, hV, hg⟩
  · rintro ⟨a, hV, hg⟩
    exact ⟨a, s, hV, hg, rfl⟩

/-! ### Streams -/

/-- The reply that a read of a stream gives. -/
def octets? : Answer → Option Reply
  | .bytes bs => some { payload := bs }
  | _ => none

lemma overStream_eq (payload : Bytes) (limit : Option Int) (talk : Talk) :
    talk.overStream payload limit = Ended.andThen id id
      (fun _ talk => Ended.andThen id id
        (fun a talk => (orNever (octets? a), talk))
        (talk.perform 1 (.read maxReply limit)))
      (if payload.isEmpty then (.value .nothing, talk.goOn talk.session.begin)
        else (talk.goOn talk.session.begin).perform 0 (.write payload)) := by
  unfold overStream
  simp only
  generalize (if payload.isEmpty then _ else _ : Ended Answer × Talk) = x
  obtain ⟨ended, talk'⟩ := x
  cases ended with
  | value a =>
    -- a read gives nothing but octets, and the exchange does not go on with anything else
    simp only [Ended.andThen]
    rcases talk'.perform 1 (.read maxReply limit) with ⟨a | f | _, _⟩
    · cases a <;> rfl
    · rfl
    · rfl
  | failure f => rfl
  | never => rfl

/-- A payload that is written to a stream, and what comes of that. -/
lemma comes_written (payload : Bytes) (talk : Talk) (h : talk.session.Reads 65535 c) :
    Comes (fun s => ∃ c, s.Reads 65535 c) (talk.session.Writes payload)
      (if payload.isEmpty then (.value .nothing, talk) else talk.perform 0 (.write payload)) := by
  cases payload with
  | nil => exact (comes_value ⟨c, h⟩).congr fun a s => by simp [Session.Writes]
  | cons b rest =>
    have hcomes : Comes (fun s => ∃ c, s.Reads 65535 c) _ _ :=
      comes_perform 0 (.write (b :: rest)) talk fun r s' hyields => by
        obtain ⟨c', hc', hread⟩ := (h.write 0 (b :: rest)).yields (by decide) hyields
        exact ⟨⟨c', hc'⟩, hread.failure⟩
    exact hcomes.congr fun a s => by simp [Session.Writes]

/-- An exchange over a stream. -/
lemma overStream_comes (talk : Talk) (h : talk.session.Reads 65535 c) (limit : Option Int) :
    Comes (fun s => ∃ c, s.Reads 65535 c)
      (fun reply received => ∃ a sent, talk.session.begin.Writes payload a sent ∧
        ∃ b, Yields 1 (.ok b) (sent.perform 1 (.read 65535 limit)) received ∧
          octets? b = some reply)
      (talk.overStream payload limit) := by
  obtain ⟨c', hc'⟩ := h.begin (by decide)
  rw [overStream_eq]
  have hwriting := comes_written payload (talk.goOn talk.session.begin) hc'
  refine hwriting.andThen fun a talk' hwritten => ?_
  obtain ⟨c'', hc''⟩ := hwriting.kept _ _ hwritten
  refine (comes_perform _ _ _ fun r s' hyields => ?_).collect (fun _ _ => rfl) fun _ _ => rfl
  obtain ⟨c₃, hc₃, hread⟩ := (hc''.read (by decide) 1 limit).yields (by decide) hyields
  exact ⟨⟨c₃, hc₃⟩, hread.failure⟩

lemma octets?_eq_some_iff {b : Answer} : octets? b = some reply ↔
    ∃ bs, b = .bytes bs ∧ reply = { payload := bs } := by
  cases b <;> simp [octets?, eq_comm]

/-- The answers of a stream are those that an exchange over it comes to. -/
lemma answers_tcp_iff (h : s.Reads 65535 c) : s.Answers payload dest limit arrived .tcp reply ↔
    ∃ received a sent, s.begin.Writes payload a sent ∧
      ∃ b, Yields 1 (.ok b) (sent.perform 1 (.read 65535 limit)) received ∧
        octets? b = some reply := by
  constructor
  · rintro ⟨hsent, hreceived, -, -, -, -⟩
    exact ⟨_, _, _, hsent, _, hreceived, rfl⟩
  · rintro ⟨received, a, sent, hsent, b, hreceived, hb⟩
    obtain ⟨bs, rfl, rfl⟩ := octets?_eq_some_iff.mp hb
    obtain ⟨c', hc'⟩ := h.begin (by decide)
    obtain ⟨c'', hc''⟩ := (comes_written payload { session := s.begin } hc').kept _ _ hsent
    obtain ⟨c₃, hc₃, hread⟩ := (hc''.read (by decide) 1 limit).yields (by decide) hreceived
    obtain ⟨hlength, hend⟩ := hread.octets bs rfl
    refine .octets hsent hreceived (fun l hl => ?_) hlength hc₃.connection hend
    obtain rfl : limit = some l := hl
    simp only [Session.perform, hc''.connection] at hreceived
    exact hreceived.within (Session.onStream_keepsWaiting _) fun s =>
      (Session.Abides.onStream _ s).now

/-! ### Relays -/

/-- The reply that a datagram of a relay gives. -/
def message? : Answer → Option Reply
  | .message payload source => some { payload, source := some source }
  | _ => none

lemma overRelay_eq (payload : Bytes) (dest : Value) (limit : Option Int) (talk : Talk) :
    talk.overRelay payload dest limit = Ended.andThen id id
      (fun _ talk => Ended.andThen id id
        (fun a talk => (orNever (message? a), match a with
          | .message payload source => talk.tell (.received source payload.length)
          | _ => talk))
        (((talk.tellSent payload dest).goOn (talk.tellSent payload dest).session.begin).perform 1
          (.receiveFrom limit)))
      (talk.perform 0 (.sendTo payload (some dest))) := by
  unfold overRelay
  rcases talk.perform 0 (.sendTo payload (some dest)) with ⟨a | f | _, talk'⟩
  · simp only [Ended.andThen]
    generalize Talk.perform 1 _ _ = x
    rcases x with ⟨a | f | _, _⟩
    · cases a <;> rfl
    · rfl
    · rfl
  · rfl
  · rfl

@[simp] lemma tellSent_session (payload : Bytes) (dest : Value) (talk : Talk) :
    (talk.tellSent payload dest).session = talk.session := by
  unfold tellSent
  split
  · split <;> rfl
  · rfl

lemma message?_eq_some_iff {b : Answer} : message? b = some reply ↔ ∃ answer source,
    b = .message answer source ∧ reply = { payload := answer, source := some source } := by
  cases b <;> simp [message?, eq_comm]

/-- The answer to a sending is the number of octets. -/
lemma count_of_yields {rel : Relay} (hrelay : s.connection = .relay rel) {v : Value} {a : Answer}
    (hyields : Yields t (.ok a) (s.perform t (.sendTo payload (some v))) s') :
    a = .count payload.length := by
  obtain ⟨_, -, hperform⟩ | ⟨f, -, hperform⟩ := Session.perform_sendTo hrelay t payload (some v) <;>
    rw [hperform] at hyields
  · exact (Except.ok.inj hyields.of_singleton.1).symm
  · cases hyields.of_singleton.1

/-- What is yielded by a receiving for which the watcher of the relay has begun its work. -/
lemma yields_receiveFrom {rel : Relay} (h : s.Listens arrived 2 rel) (limit : Option Int)
    (hyields : Yields 1 r (s.begin.perform 1 (.receiveFrom limit)) s') :
    (∃ rel, s'.Listens arrived 2 rel) ∧ Session.Heard arrived (1, r) := by
  obtain ⟨rel', hrel'⟩ := h.begin
  exact (hrel'.receiveFrom Nat.one_lt_two limit).yields hyields

/-- An exchange over a relay. -/
lemma overRelay_comes {rel : Relay} (talk : Talk) (h : talk.session.Listens arrived 2 rel)
    (dest : Text) (limit : Option Int) :
    Comes (fun s => ∃ rel, s.Listens arrived 2 rel)
      (fun reply received => ∃ a sent,
        Yields 0 (.ok a) (talk.session.perform 0 (.sendTo payload (some (.text dest)))) sent ∧
        ∃ b, Yields 1 (.ok b) (sent.begin.perform 1 (.receiveFrom limit)) received ∧
          message? b = some reply)
      (talk.overRelay payload (.text dest) limit) := by
  have hsending (r : Result) (s' : Session)
      (hyields : Yields 0 r (talk.session.perform 0 (.sendTo payload (some (.text dest)))) s') :
      (∃ rel, s'.Listens arrived 2 rel) ∧ ∀ f, r = .error f → f.Calm := by
    obtain ⟨hlistens, hheard⟩ := (h.sendTo 0 payload dest).yields hyields
    exact ⟨hlistens, hheard.failure⟩
  rw [overRelay_eq]
  refine (comes_perform _ _ _ hsending).andThen fun a talk' hsent => ?_
  obtain ⟨⟨rel', hrel'⟩, -⟩ := hsending _ _ hsent
  have hcomes : Comes (fun s => ∃ rel, s.Listens arrived 2 rel) _ _ :=
    comes_perform 1 (.receiveFrom limit) ((talk'.tellSent payload (.text dest)).goOn
      (talk'.tellSent payload (.text dest)).session.begin) fun r s' hyields => by
      simp only [goOn, tellSent_session] at hyields
      obtain ⟨hlistens, hheard⟩ := yields_receiveFrom hrel' limit hyields
      exact ⟨hlistens, hheard.failure⟩
  simp only [goOn, tellSent_session] at hcomes ⊢
  refine hcomes.collect (fun _ _ => rfl) fun a talk => ?_
  cases a <;> rfl

/-- The answers of a relay are those that an exchange over it comes to. -/
lemma answers_udp_iff {rel : Relay} (h : s.Listens arrived 2 rel) :
    s.Answers payload dest limit arrived .udp reply ↔
      ∃ received a sent,
        Yields 0 (.ok a) (s.perform 0 (.sendTo payload (some (.text dest)))) sent ∧
        ∃ b, Yields 1 (.ok b) (sent.begin.perform 1 (.receiveFrom limit)) received ∧
          message? b = some reply := by
  constructor
  · rintro (_ | ⟨hsent, hreceived, -, -, -⟩)
    exact ⟨_, _, _, hsent, _, hreceived, rfl⟩
  · rintro ⟨received, a, sent, hsent, b, hreceived, hb⟩
    obtain ⟨answer, source, rfl, rfl⟩ := message?_eq_some_iff.mp hb
    obtain rfl := count_of_yields h.connection hsent
    obtain ⟨⟨rel', hrel'⟩, -⟩ := (h.sendTo 0 payload dest).yields hsent
    obtain ⟨-, hheard⟩ := yields_receiveFrom hrel' limit hreceived
    obtain ⟨bs, hbs, hparse⟩ := hheard.message answer source rfl
    refine .datagram hsent hreceived (fun l hl => ?_) hbs hparse
    obtain rfl : limit = some l := hl
    exact hreceived.within (Session.onRelay_keepsWaiting _) fun s =>
      (Session.Abides.onRelay _ s).now

/-! ### The whole -/

lemma leave_of_value {talk' : Talk} {a : Answer} (h : talk.perform 2 .leave = (.value a, talk'))
    (outcome : Ended Reply) :
    (talk.leave outcome).1 = outcome ∧ (talk.leave outcome).2.session = talk'.session := by
  unfold leave
  simp only [h]
  cases outcome <;> cases talk'.closeFault? <;> exact ⟨rfl, rfl⟩

/-- Leaving keeps the outcome, and closes everything. -/
lemma leave_of_leaves (h : talk.session.Leaves network) (outcome : Ended Reply) :
    (talk.leave outcome).1 = outcome ∧ (talk.leave outcome).2.session.Closed network := by
  obtain ⟨⟨a, ha⟩, hclosed⟩ := h
  have hyields : Yields 2 (.ok a) (talk.session.perform 2 .leave) _ := .now ha
  obtain ⟨notes, hperform⟩ := perform_of_yields hyields
  obtain ⟨houtcome, hsession⟩ := leave_of_value hperform outcome
  exact ⟨houtcome, hsession ▸ hclosed⟩

/-- Leaving makes nobody stop who talks for ever. -/
lemma leave_never : (talk.leave .never).1 = .never := rfl

/-- An exchange comes to these answers and to no others. It does not fail because of the interrupt
key. Once it has ended, everything is closed. -/
structure Settles (network : Network) (Answers : Reply → Prop) (x : Ended Reply × Talk) : Prop where
  value : ∀ reply, x.1 = .value reply ↔ Answers reply
  failure : ∀ f, x.1 = .failure f → f.Calm
  closed : x.1 ≠ .never → x.2.session.Closed network

/-- What somebody has come to who may leave stays after that, and everything is closed then. -/
lemma Comes.leave {V : Reply → Session → Prop} {Answers : Reply → Prop} {x : Ended Reply × Talk}
    (h : Comes Good V x) (hgood : ∀ s, Good s → s.Leaves network)
    (hanswers : ∀ reply, Answers reply ↔ ∃ received, V reply received) :
    Settles network Answers (x.2.leave x.1) := by
  have hcloses : (x.2.leave x.1).1 = x.1 ∧
      (x.1 ≠ .never → (x.2.leave x.1).2.session.Closed network) := by
    obtain ⟨ended, talk⟩ := x
    have hleaves (h : Good talk.session) : (talk.leave ended).1 = ended ∧
        (ended ≠ .never → (talk.leave ended).2.session.Closed network) := by
      obtain ⟨houtcome, hclosed⟩ := leave_of_leaves (hgood _ h) ended
      exact ⟨houtcome, fun _ => hclosed⟩
    cases ended with
    | value a => exact hleaves (h.kept a _ ((h.value a _).mp ⟨rfl, rfl⟩))
    | failure f => exact hleaves (h.failure f rfl).2
    | never => exact ⟨leave_never, fun hnever => absurd rfl hnever⟩
  obtain ⟨houtcome, hclosed⟩ := hcloses
  refine ⟨fun reply => ?_, fun f hf => ?_, fun hends => hclosed (houtcome ▸ hends)⟩
  · rw [houtcome, hanswers]
    constructor
    · exact fun hvalue => ⟨_, (h.value reply _).mp ⟨hvalue, rfl⟩⟩
    · exact fun ⟨received, hreceived⟩ => ((h.value reply received).mpr hreceived).1
  · rw [houtcome] at hf
    exact (h.failure f hf).1

/-! ### What is told -/

/-- Nothing that goes wrong was told. -/
def Quiet (talk : Talk) : Prop := ∀ n ∈ talk.notes, n.Quiet

lemma watcherNotes_quiet (before after : Session) : ∀ n ∈ watcherNotes before after, n.Quiet := by
  unfold watcherNotes
  split
  · split_ifs
    · split
      · split_ifs
        · exact List.forall_mem_cons.mpr ⟨Note.quiet_of_level rfl,
            List.forall_mem_singleton.mpr (Note.quiet_of_level rfl)⟩
        · exact List.forall_mem_nil _
      · exact List.forall_mem_singleton.mpr (Note.quiet_of_level rfl)
    · exact List.forall_mem_nil _
  · exact List.forall_mem_nil _

lemma Quiet.goOn (h : talk.Quiet) (s : Session) : (talk.goOn s).Quiet :=
  List.forall_mem_append.mpr ⟨h, watcherNotes_quiet _ _⟩

lemma Quiet.tell (h : talk.Quiet) {n : Note} (hn : n.Quiet) : (talk.tell n).Quiet :=
  List.forall_mem_append.mpr ⟨h, List.forall_mem_singleton.mpr hn⟩

lemma Quiet.tellSent (h : talk.Quiet) (payload : Bytes) (dest : Value) :
    (talk.tellSent payload dest).Quiet := by
  unfold Talk.tellSent
  split
  · split
    · exact h.tell (Note.quiet_of_level rfl)
    · exact h
  · exact h

lemma Quiet.await (t : Ticket) (fuel : Nat) : ∀ {done : List (Ticket × Result)} {talk : Talk},
    talk.Quiet → (await t fuel done talk).2.Quiet := by
  induction fuel with
  | zero =>
    intro done talk h
    unfold Talk.await
    split <;> exact h
  | succ fuel ih =>
    intro done talk h
    unfold Talk.await
    split
    · exact h
    · exact h
    · split
      · next hfuel _ =>
        cases hfuel
        exact ih (h.goOn _)
      · exact h

lemma Quiet.perform (h : talk.Quiet) (t : Ticket) (step : Step) :
    (talk.perform t step).2.Quiet := Quiet.await t _ h

lemma Quiet.overStream (h : talk.Quiet) (payload : Bytes) (limit : Option Int) :
    (talk.overStream payload limit).2.Quiet := by
  have hbegun : (talk.goOn talk.session.begin).Quiet := h.goOn _
  have hwritten : (if payload.isEmpty then (.value .nothing, talk.goOn talk.session.begin)
      else (talk.goOn talk.session.begin).perform 0 (.write payload) :
        Ended Answer × Talk).2.Quiet := by
    split_ifs
    · exact hbegun
    · exact hbegun.perform 0 _
  rw [overStream_eq]
  refine Ended.andThen_induct (P := fun x : _ × Talk => x.2.Quiet) (fun _ _ => ?_)
    (fun _ _ => hwritten) fun _ => hwritten
  have hread := hwritten.perform 1 (.read maxReply limit)
  exact Ended.andThen_induct (P := fun x : _ × Talk => x.2.Quiet) (fun _ _ => hread)
    (fun _ _ => hread) fun _ => hread

lemma Quiet.overRelay (h : talk.Quiet) (payload : Bytes) (dest : Value) (limit : Option Int) :
    (talk.overRelay payload dest limit).2.Quiet := by
  have hsent := h.perform 0 (.sendTo payload (some dest))
  rw [overRelay_eq]
  refine Ended.andThen_induct (P := fun x : _ × Talk => x.2.Quiet) (fun _ _ => ?_)
    (fun _ _ => hsent) fun _ => hsent
  have hbegun := (hsent.tellSent payload dest).goOn
    ((talk.perform 0 (.sendTo payload (some dest))).2.tellSent payload dest).session.begin
  have hreceived := hbegun.perform 1 (.receiveFrom limit)
  refine Ended.andThen_induct (P := fun x : _ × Talk => x.2.Quiet) (fun a _ => ?_)
    (fun _ _ => hreceived) fun _ => hreceived
  cases a with
  | message payload source => exact hreceived.tell (Note.quiet_of_level rfl)
  | _ => exact hreceived

lemma Quiet.leave (h : talk.Quiet) (outcome : Ended Reply) : (talk.leave outcome).2.Quiet := by
  have hleft := h.perform 2 .leave
  unfold Talk.leave
  generalize talk.perform 2 .leave = left at hleft ⊢
  obtain ⟨ended, talk'⟩ := left
  simp only
  cases talk'.closeFault? with
  | none => split <;> exact hleft
  | some f => split <;> exact hleft.tell (Note.quiet_of_level rfl)

end Talk

/-- An exchange tells of nothing that goes wrong. -/
lemma exchange_quiet (payload : Bytes) (dest : Text) (limit : Option Int) (s : Session) :
    (exchange payload dest limit s).2.Quiet := by
  have hnone : Talk.Quiet { session := s } := List.forall_mem_nil _
  unfold exchange
  cases s.connection with
  | stream c => exact (hnone.overStream payload limit).leave _
  | relay r => exact (hnone.overRelay payload (.text dest) limit).leave _
  | endpoint e => exact (hnone.overRelay payload (.text dest) limit).leave _

variable {script : EndpointScript} {s : Session} {l : Line}

lemma streamSession_reads (hl : l.Tame) (n : Nat) :
    (Dialer.streamSession l).Reads n l.stream where
  connection := rfl
  stream := ⟨fun f hf => hl.reads f (.inl hf), hl.writes, hl.closing, by simp [hl.idle]⟩
  arrivals := fun a ha f hf => hl.reads f (.inr ⟨a.1, hf ▸ ha⟩)
  draining := by simp [Dialer.streamSession]
  pending := by simp [Dialer.streamSession]

/-- What the network does to an endpoint are its datagrams, and faults of the system. -/
lemma comes_of_mem {arrival : Nat × Signal} (hmem : arrival ∈ script.incoming)
    (hfault : ∀ f ∈ arrival.2.fault?, f.isSystem = true) : arrival.2.Comes script.datagrams := by
  obtain ⟨time, g⟩ := arrival
  cases g with
  | datagram bs => exact List.mem_filterMap.mpr ⟨_, hmem, rfl⟩
  | fault f => exact hfault f rfl
  | lost f => exact hfault

/-- The relay of a session that was just dialled. -/
lemma relaySession_listens (hl : l.Tame)
    (hsignals : ∀ g ∈ script.incoming, ∀ f ∈ g.2.fault?, f.isSystem = true)
    (fixed : Option Address) :
    ∃ r, (Dialer.relaySession l script (Dialer.openedEndpoint script .opened) fixed).Listens
      script.datagrams 2 r := by
  refine ⟨_, rfl, ⟨⟨?_, ?_, ?_, ?_⟩, rfl, hl.closing⟩, ?_, rfl⟩
  · simp [Dialer.openedEndpoint]
  · simp [Dialer.openedEndpoint]
  · simp [Dialer.openedEndpoint]
  · simp [Dialer.openedEndpoint]
  · simp only [Dialer.relaySession, List.forall_mem_map]
    exact fun g hg => comes_of_mem hg (hsignals g hg)

/-- An exchange over a connection that was just dialled comes to the answers of the session. -/
lemma exchange_settles (h : Dialer.Hands script network s)
    (hsignals : ∀ g ∈ script.incoming, ∀ f ∈ g.2.fault?, f.isSystem = true) (payload : Bytes)
    (dest : Text) (limit : Option Int) :
    Talk.Settles network (s.Answers payload dest limit script.datagrams network)
      (exchange payload dest limit s) := by
  cases network with
  | tcp =>
    obtain ⟨l, hl, rfl⟩ := h
    have hreads := streamSession_reads hl 65535
    exact (Talk.overStream_comes { session := _ } hreads limit).leave
      (fun _ ⟨_, hs⟩ => hs.leave 2) fun reply => Talk.answers_tcp_iff hreads
  | udp =>
    obtain ⟨l, fixed, hl, rfl⟩ := h
    obtain ⟨r, hlistens⟩ := relaySession_listens hl hsignals fixed
    exact (Talk.overRelay_comes { session := _ } hlistens dest limit).leave
      (fun _ ⟨_, hs⟩ => hs.leave) fun reply => Talk.answers_udp_iff hlistens

end Client

end Socks5
