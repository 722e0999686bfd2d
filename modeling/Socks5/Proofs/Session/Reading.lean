import Socks5.Proofs.Dial.Errors
import Socks5.Proofs.Session.Listening

/-!
# What comes up at a stream in use

A read of at most so many octets gives no more, and none at all only behind the end of the input. As
time passes at a stream with such a read, it gets octets like that or a fault of the system, and
nothing else comes up but the end of writes. When the stream is left, it is closed at once.
-/

namespace Socks5

/-! ### Streams -/

namespace Stream

variable {n : Nat} {c : Stream}

/-- A stream with faults of the system only, at which nobody reads more than so many octets. -/
structure Tame (n : Nat) (c : Stream) : Prop where
  failure : ∀ f ∈ c.failure, f.isSystem = true
  plans : ∀ p ∈ c.plans, p.Systemic
  closing : ∀ f ∈ c.closeFault, f.isSystem = true
  waiting : ∀ w ∈ c.waiting, w.2 = .upTo n

/-- What such a read gives: no more octets, and none only behind the end. -/
structure Gives (n : Nat) (ended : Prop) (result : Except Failure Bytes) : Prop where
  failure : ∀ f, result = .error f → f.Calm
  octets : ∀ bs, result = .ok bs → bs.length ≤ n ∧ (bs = [] → ended)

/-- What becomes of a stream that somebody reads from or feeds: it may end, and has such results. -/
structure Turns (n : Nat) (c : Stream) (x : List (Completion Bytes) × Stream) : Prop where
  tame : x.2.Tame n
  ended : c.ended = true → x.2.ended = true
  gives : ∀ y ∈ x.1, Gives n (x.2.ended = true) y.2

lemma Tame.feed {a : Arrival} (h : c.Tame n) (ha : ∀ f, a = .failed f → f.isSystem = true) :
    (c.feed a).Tame n ∧ (c.ended = true → (c.feed a).ended = true) := by
  cases a with
  | data bs => exact ⟨⟨h.failure, h.plans, h.closing, h.waiting⟩, id⟩
  | ended => exact ⟨⟨h.failure, h.plans, h.closing, h.waiting⟩, fun _ => rfl⟩
  | failed f =>
    refine ⟨⟨?_, h.plans, h.closing, h.waiting⟩, id⟩
    rintro _ ⟨⟩
    exact ha f rfl

/-- A read of at most so many octets has its result, or it waits. -/
lemma Tame.attempt (h : c.Tame n) (hn : n ≠ 0) :
    (∃ result, (c.attempt (.upTo n)).1 = .done result ∧ Gives n (c.ended = true) result) ∨
      (c.attempt (.upTo n)).1 = .waits (.upTo n) := by
  unfold Stream.attempt
  split
  · next f hfailure =>
    refine .inl ⟨_, rfl, ⟨?_, by rintro _ ⟨⟩⟩⟩
    rintro _ ⟨⟩
    exact Failure.calm_of_isSystem (h.failure f hfailure)
  · simp only
    split_ifs with hwaits
    · exact .inr rfl
    · refine .inl ⟨_, rfl, ⟨by rintro _ ⟨⟩, ?_⟩⟩
      rintro _ ⟨⟩
      refine ⟨List.length_take_le n c.buffer, fun hnone => ?_⟩
      by_contra hended
      refine hwaits ⟨hn, ?_, by simpa using hended⟩
      simpa [hn] using hnone

/-- The stream has fewer octets afterwards, and is as before otherwise. -/
lemma Tame.attempted (h : c.Tame n) (waiting : Option (Ticket × Reading))
    (hwaiting : ∀ w ∈ waiting, w.2 = .upTo n) :
    Tame n { (c.attempt (.upTo n)).2 with waiting } ∧
      (c.attempt (.upTo n)).2.ended = c.ended := by
  rw [c.attempt_eq]
  exact ⟨⟨h.failure, h.plans, h.closing, hwaiting⟩, rfl⟩

lemma Tame.serve (h : c.Tame n) (hn : n ≠ 0) : c.Turns n c.serve := by
  unfold Stream.serve
  cases hwaiting : c.waiting with
  | none => exact ⟨h, id, by simp⟩
  | some w =>
    obtain ⟨t, r⟩ := w
    obtain rfl : r = .upTo n := h.waiting _ hwaiting
    obtain ⟨htame, hended⟩ := h.attempted none (by simp)
    obtain ⟨hwaits, -⟩ := h.attempted (some (t, .upTo n)) (by simp)
    have hattempt := h.attempt hn
    simp only
    generalize c.attempt (.upTo n) = x at *
    obtain ⟨p, c'⟩ := x
    obtain ⟨result, rfl, hgives⟩ | rfl := hattempt
    · exact ⟨htame, hended.trans, List.forall_mem_singleton.mpr (hended ▸ hgives)⟩
    · exact ⟨hwaits, hended.trans, by simp⟩

lemma Tame.startRead (h : c.Tame n) (hn : n ≠ 0) (t : Ticket) :
    c.Turns n (c.startRead t (.upTo n)) := by
  have hsame : (c.attempt (.upTo n)).2.waiting = c.waiting := by rw [c.attempt_eq]
  obtain ⟨htame, hended⟩ := h.attempted c.waiting h.waiting
  obtain ⟨hwaits, -⟩ := h.attempted (some (t, .upTo n)) (by simp)
  have hattempt := h.attempt hn
  rw [← hsame] at htame
  unfold Stream.startRead
  generalize c.attempt (.upTo n) = x at *
  obtain ⟨p, c'⟩ := x
  obtain ⟨result, rfl, hgives⟩ | rfl := hattempt
  · exact ⟨htame, hended.trans, List.forall_mem_singleton.mpr (hended ▸ hgives)⟩
  · cases hwaiting : c'.waiting with
    | some w =>
      simp only [hwaiting] at htame ⊢
      refine ⟨?_, hended.trans, List.forall_mem_singleton.mpr ⟨?_, fun _ h => nomatch h⟩⟩
      · rw [← hwaiting] at htame
        exact htame
      · rintro _ ⟨⟩ _ ⟨⟩ hkeyboard
        cases hkeyboard
    | none =>
      simp only [hwaiting]
      exact ⟨hwaits, hended.trans, by simp⟩

lemma Tame.abandon {t : Ticket} {c' : Stream} (h : c.Tame n) (habandon : c.abandon? t = some c') :
    c'.Tame n ∧ c'.ended = c.ended := by
  unfold Stream.abandon? at habandon
  split at habandon
  · split_ifs at habandon
    cases habandon
    exact ⟨⟨h.failure, h.plans, h.closing, by simp⟩, rfl⟩
  · cases habandon

lemma Tame.write (h : c.Tame n) (bs : Bytes) :
    (c.write bs).2.Tame n ∧ (c.write bs).2.ended = c.ended := by
  have hplans := Stream.write_plans h.plans bs
  obtain ⟨_, _, hstream⟩ := c.write_leaves bs
  rw [hstream] at hplans ⊢
  exact ⟨⟨h.failure, hplans, h.closing, h.waiting⟩, rfl⟩

end Stream

/-! ### Sessions -/

namespace Session

variable {n : Nat} {t : Ticket} {s : Session} {c c' : Stream}

/-- A session about such a stream, with faults of the system only. -/
structure Reads (n : Nat) (s : Session) (c : Stream) : Prop where
  connection : s.connection = .stream c
  stream : c.Tame n
  arrivals : ∀ a ∈ s.arrivals, ∀ f, a.2 = .failed f → f.isSystem = true
  draining : ∀ d ∈ s.draining, ∀ f ∈ d.fault, f.isSystem = true
  pending : ∀ p ∈ s.pending, p.shape ≠ .payload ∧ p.shape ≠ .message

/-- What comes up there. -/
structure Read (n : Nat) (ended : Prop) (c : Ticket × Result) : Prop where
  failure : ∀ f, c.2 = .error f → f.Calm
  octets : ∀ bs, c.2 = .ok (.bytes bs) → bs.length ≤ n ∧ (bs = [] → ended)

/-- The session goes on like this, and only such results come up. -/
def ReadsOn (n : Nat) (c : Stream) (done : List (Ticket × Result)) (s : Session) : Prop :=
  ∃ c', s.Reads n c' ∧ (c.ended = true → c'.ended = true) ∧
    ∀ x ∈ done, Read n (c'.ended = true) x

lemma Reads.readsOn (h : s.Reads n c) : s.ReadsOn n c [] := ⟨c, h, id, by simp⟩

/-- One thing after the other. -/
lemma ReadsOn.andThen {done : List (Ticket × Result)}
    {f : Session → List (Ticket × Result) × Session} (h : s.ReadsOn n c done)
    (hf : ∀ c', s.Reads n c' → (f s).2.ReadsOn n c' (f s).1) :
    (f s).2.ReadsOn n c (done ++ (f s).1) := by
  obtain ⟨c', hc', hended, hdone⟩ := h
  obtain ⟨c'', hc'', hended', hmore⟩ := hf c' hc'
  refine ⟨c'', hc'', fun h => hended' (hended h), List.forall_mem_append.mpr ⟨?_, hmore⟩⟩
  intro x hx
  obtain ⟨hfailure, hoctets⟩ := hdone x hx
  exact ⟨hfailure, fun bs hbs => ⟨(hoctets bs hbs).1, fun h => hended' ((hoctets bs hbs).2 h)⟩⟩

lemma Read.error {ended : Prop} {f : Failure} (h : f.Calm) : Read n ended (t, .error f) where
  failure _ hg := Except.error.inj hg ▸ h
  octets _ h := nomatch h

/-- What has come to its end gives no octets. -/
lemma read_ended (ended : Prop) (pending : List Pending) (t : Ticket) :
    Read n ended (resultOf pending (t, .ok .ended)) := by
  obtain ⟨a, ha, hoctets⟩ := resultOf_ended pending t
  rw [ha]
  constructor
  · rintro _ ⟨⟩
  · rintro bs ⟨⟩
    exact absurd rfl (hoctets bs)

/-- What a read gives is its answer. -/
lemma read_of_gives {ended : Prop} {x : Completion Bytes} (h : Stream.Gives n ended x.2)
    {pending : List Pending} (hpending : ∀ p ∈ pending, p.shape ≠ .payload ∧ p.shape ≠ .message) :
    Read n ended (resultOf pending (x.1, x.2.map .bytes)) := by
  obtain ⟨t, result⟩ := x
  cases result with
  | error f => exact .error (h.failure f rfl)
  | ok bs =>
    have hresult : resultOf pending (t, .ok (.bytes bs)) = (t, .ok (.bytes bs)) := by
      unfold resultOf
      cases hfind : pending.find? (·.ticket = t) with
      | none => rfl
      | some p =>
        obtain ⟨hpayload, hmessage⟩ := hpending p (List.mem_of_find?_eq_some hfind)
        cases hshape : p.shape with
        | payload => exact absurd hshape hpayload
        | message => exact absurd hshape hmessage
        | _ => simp only [hshape, Except.bind, shaped]
    change Read n ended (resultOf pending (t, .ok (.bytes bs)))
    rw [hresult]
    constructor
    · rintro _ ⟨⟩
    · rintro _ ⟨⟩
      exact h.octets bs rfl

lemma Reads.finish (h : s.Reads n c) {x : List (Completion Bytes) × Stream} (hx : c.Turns n x) :
    (finish (received x.1) { s with connection := .stream x.2 }).2.ReadsOn n c
      (finish (received x.1) { s with connection := .stream x.2 }).1 := by
  refine ⟨x.2, ⟨rfl, hx.tame, h.arrivals, h.draining, fun p hp => ?_⟩, hx.ended, fun y hy => ?_⟩
  · exact h.pending p (List.mem_filter.mp hp).1
  · obtain ⟨y', hy', rfl⟩ := List.mem_map.mp hy
    obtain ⟨y'', hy'', rfl⟩ := List.mem_map.mp hy'
    exact read_of_gives (hx.gives y'' hy'') h.pending

/-- Somebody's operation ends with a failure. -/
lemma Reads.fail (h : s.Reads n c) {f : Failure} (hf : f.Calm) {c' : Stream} (hc' : c'.Tame n)
    (hended : c.ended = true → c'.ended = true) (t : Ticket) :
    (Session.finish [(t, .error f)] { s with connection := .stream c' }).2.ReadsOn n c
      (Session.finish [(t, .error f)] { s with connection := .stream c' }).1 :=
  ⟨c', ⟨rfl, hc', h.arrivals, h.draining, fun p hp => h.pending p (List.mem_filter.mp hp).1⟩,
    hended, List.forall_mem_singleton.mpr (.error hf)⟩

/-! ### While time passes -/

lemma Reads.onControl (h : s.Reads n c) (hn : n ≠ 0) {a : Arrival}
    (ha : ∀ f, a = .failed f → f.isSystem = true) :
    (s.onControl a).2.ReadsOn n c (s.onControl a).1 := by
  obtain ⟨htame, hended⟩ := h.stream.feed ha
  obtain ⟨hserved, hstill, hgives⟩ := htame.serve hn
  simp only [Session.onControl, h.connection]
  exact h.finish ⟨hserved, fun hc => hstill (hended hc), hgives⟩

lemma Reads.drained (h : s.Reads n c) {d : Draining} (hd : ∀ f ∈ d.fault, f.isSystem = true) :
    (s.drained d).2.ReadsOn n c (s.drained d).1 := by
  refine ⟨c, ⟨h.connection, h.stream, h.arrivals, h.draining,
    fun p hp => h.pending p (List.mem_filter.mp hp).1⟩, id, List.forall_mem_singleton.mpr ?_⟩
  cases hfault : d.fault with
  | none => exact read_ended _ _ _
  | some f => exact .error (Failure.calm_of_isSystem (hd f hfault))

lemma Reads.expire (h : s.Reads n c) (t : Ticket) :
    (s.abandon t (.fault .timeout)).2.ReadsOn n c (s.abandon t (.fault .timeout)).1 := by
  have hcalm : (Failure.fault .timeout).Calm := Failure.calm_of_isSystem rfl
  unfold Session.abandon
  split_ifs
  · exact ⟨c, ⟨h.connection, h.stream, h.arrivals,
      fun d hd => h.draining d (List.mem_filter.mp hd).1,
      fun p hp => h.pending p (List.mem_filter.mp hp).1⟩, id,
      List.forall_mem_singleton.mpr (.error hcalm)⟩
  · simp only [h.connection]
    cases habandon : c.abandon? t with
    | none => exact h.readsOn
    | some c' =>
      obtain ⟨htame, hended⟩ := h.stream.abandon habandon
      exact h.fail hcalm htame (fun hc => hended.trans hc) t

lemma Reads.tick (h : s.Reads n c) (hn : n ≠ 0) (time : Nat) :
    (s.tick time).2.ReadsOn n c (s.tick time).1 := by
  apply tick_induct (P := fun done s => s.ReadsOn n c done)
  · refine Reads.readsOn ⟨h.connection, h.stream, ?_, ?_, h.pending⟩
    · exact fun a ha => h.arrivals a (List.mem_filter.mp ha).1
    · exact fun d hd => h.draining d (List.mem_filter.mp hd).1
  · exact fun a ha _ _ hs => hs.andThen fun _ hc => hc.onControl hn (h.arrivals a ha)
  · rintro d - done s' hs
    refine hs.andThen fun c' hc' => ?_
    simp only [Session.onEndpoint, hc'.connection]
    exact hc'.readsOn
  · exact fun d hd _ _ hs => hs.andThen fun _ hc => hc.drained (h.draining d hd)
  · exact fun p _ _ hs => hs.andThen fun _ hc => hc.expire p.ticket

lemma Reads.begin (h : s.Reads n c) (hn : n ≠ 0) : ∃ c', s.begin.Reads n c' := by
  obtain ⟨c', hc', -, -⟩ := h.tick hn s.now
  simp only [Session.begin, Session.onRelay, hc'.connection]
  exact ⟨c', hc'⟩

/-! ### Steps -/

lemma Reads.write (h : s.Reads n c) (t : Ticket) (bs : Bytes) :
    (s.perform t (.write bs)).2.ReadsOn n c (s.perform t (.write bs)).1 := by
  obtain ⟨htame, hended⟩ := h.stream.write bs
  obtain ⟨hnow, hlate⟩ := Stream.write_systemic h.stream.plans bs
  simp only [Session.perform, Session.write, h.connection]
  rcases hwrite : c.write bs with ⟨f | ⟨delay, fault⟩, c'⟩ <;>
    rw [hwrite] at htame hended hnow hlate
  · exact ⟨c', ⟨rfl, htame, h.arrivals, h.draining, h.pending⟩, fun hc => hended.trans hc,
      List.forall_mem_singleton.mpr (.error (Failure.calm_of_isSystem (hnow f rfl)))⟩
  · have hsystem : ∀ f ∈ fault, f.isSystem = true := by
      rintro f hf
      obtain rfl : fault = some f := hf
      exact hlate delay f rfl
    have hstarted : Reads n { s with
        connection := .stream c', pending := s.pending ++ [⟨t, .nothing, none⟩] } c' :=
      ⟨rfl, htame, h.arrivals, h.draining,
        List.forall_mem_append.mpr ⟨h.pending, List.forall_mem_singleton.mpr (by simp)⟩⟩
    simp only
    split_ifs
    · obtain ⟨c'', hc'', hended', hdone⟩ :=
        hstarted.drained (d := ⟨s.now + delay, t, fault⟩) hsystem
      exact ⟨c'', hc'', fun hc => hended' (hended.trans hc), hdone⟩
    · exact ⟨c', ⟨rfl, htame, h.arrivals,
        List.forall_mem_append.mpr ⟨h.draining, List.forall_mem_singleton.mpr hsystem⟩,
        hstarted.pending⟩, fun hc => hended.trans hc, by simp [Session.start]⟩

lemma Reads.read (h : s.Reads n c) (hn : n ≠ 0) (t : Ticket) (limit : Option Int) :
    (s.perform t (.read n limit)).2.ReadsOn n c (s.perform t (.read n limit)).1 := by
  have hreading : Stream.readingOf n = .upTo n := by simp [Stream.readingOf]
  have hstart (deadline : Option Nat) :
      (s.start t .bytes deadline (Session.onStream (·.startRead t (.upTo n)))).2.ReadsOn n c
        (s.start t .bytes deadline (Session.onStream (·.startRead t (.upTo n)))).1 := by
    have hpending : Reads n { s with pending := s.pending ++ [⟨t, .bytes, deadline⟩] } c :=
      ⟨h.connection, h.stream, h.arrivals, h.draining,
        List.forall_mem_append.mpr ⟨h.pending, List.forall_mem_singleton.mpr (by simp)⟩⟩
    simp only [Session.start, Session.onStream, h.connection]
    exact hpending.finish (h.stream.startRead hn t)
  simp only [Session.perform, startWithin, h.connection, hreading]
  cases limit with
  | none => exact hstart none
  | some l =>
    simp only
    split_ifs
    · exact ⟨c, h, id, List.forall_mem_singleton.mpr (.error (Failure.calm_of_isSystem rfl))⟩
    · exact hstart _

/-- Leaving closes the stream, and comes to its end at once. -/
lemma Reads.leave (h : s.Reads n c) (t : Ticket) :
    (∃ a, ((s.perform t .leave).1.find? (·.1 = t)).map (·.2) = some (.ok a)) ∧
      (s.perform t .leave).2.Closed .tcp := by
  have hend : c.close.waitClosed = .ok () := by
    unfold Stream.waitClosed
    cases hfault : c.close.closeFault with
    | none => rfl
    | some f => exact if_pos (h.stream.closing f hfault)
  simp only [Session.perform, Session.close, Session.waitClosed, h.connection, Session.start,
    List.nil_append, hend]
  constructor
  · obtain ⟨a, ha, -⟩ := resultOf_ended (s.pending ++ [⟨t, .left, none⟩]) t
    exact ⟨a, by simp [Session.finish, Except.map, ha]⟩
  · exact ⟨_, rfl, rfl⟩

end Session

end Socks5
