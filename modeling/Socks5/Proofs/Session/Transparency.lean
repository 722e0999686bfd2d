import Socks5.Proofs.Dial.Leftover
import Socks5.Proofs.Session.Clock
import Socks5.Proofs.Session.ControlLoss
import Socks5.Proofs.Stream.Conservation

/-!
# What a dialled stream hands to its callers

From the answer of the proxy on, a dialled stream is transparent: whatever the callers do, what they
are handed comes first of what the proxy has sent, in its order and nothing twice, and what they
write goes out as it is. A read for everything takes octets before it has its result; one that is
refused because another read waits has taken them for nothing.
-/

namespace Socks5

namespace Session

variable {t : Ticket} {s s' : Session} {step : Step} {steps : List Step}

/-! ### What the steps of a run amount to -/

/-- Something that every step of a run does, put together. -/
def gathered (f : Ticket → Session → Step → Bytes) : Ticket → List Step → Session → Bytes
  | _, [], _ => []
  | t, step :: rest, s => f t s step ++ gathered f (t + 1) rest (s.report t step).2

/-- The octets that a result hands over, be it a failure that brings what there was. -/
def octetsOf : Result → Bytes
  | .ok (.bytes bs) => bs
  | .error (.incomplete bs _) => bs
  | _ => []

/-- The octets that results hand over, one after the other. -/
def handed (done : List (Ticket × Result)) : Bytes := done.flatMap (octetsOf ·.2)

/-- The octets that are lost with a read for everything that is refused. -/
def lost (s : Session) : Step → Bytes
  | .read n _ => match s.connection with
    | .stream c => c.lostTo (Stream.readingOf n)
    | _ => []
  | _ => []

/-- The octets that a step hands to the callers, in the order in which their operations end. -/
def handsOver (t : Ticket) (s : Session) (step : Step) : Bytes := handed (s.perform t step).1

/-- The octets that a step hands over, or loses. -/
def takes (t : Ticket) (s : Session) (step : Step) : Bytes := s.handsOver t step ++ s.lost step

/-- The octets that the stream takes from a write, if it takes it. -/
def accepted (s : Session) : Step → Bytes
  | .write bs => match s.connection with
    | .stream c => if (c.write bs).1.isOk then bs else []
    | _ => []
  | _ => []

/-- What the other side sends in the course of a run: what arrives as time passes, and what the
steps bring. -/
def sentMeanwhile : Nat → List (Nat × Arrival) → List Step → Bytes
  | _, _, [] => []
  | now, arrivals, .advance ticks :: rest =>
    (arrivals.filter (·.1 ≤ now + ticks)).flatMap (·.2.octets) ++
      sentMeanwhile (now + ticks) (arrivals.filter (now + ticks < ·.1)) rest
  | now, arrivals, .control a :: rest => a.octets ++ sentMeanwhile now arrivals rest
  | now, arrivals, _ :: rest => sentMeanwhile now arrivals rest

/-- The read that waits. -/
def reader? (s : Session) : Option (Ticket × Reading) := s.control?.bind (·.waiting)

/-- What callers of a stream and the network do. A read for everything has no time limit, and who
waits for it does not give up. -/
def Usable (s : Session) : Step → Prop
  | .advance _ | .isClosing | .close | .waitClosed | .leave | .atEnd | .names => True
  | .readExactly _ | .write _ | .control _ | .closeControl => True
  | .read n limit => n < 0 → limit = none
  | .cancel u => ∀ r, s.reader? = some (u, r) → r.Bounded
  | _ => False

@[simp] lemma handed_nil : handed [] = [] := rfl

@[simp] lemma handed_append (done more : List (Ticket × Result)) :
    handed (done ++ more) = handed done ++ handed more := List.flatMap_append

@[simp] lemma handed_singleton (c : Ticket × Result) : handed [c] = octetsOf c.2 :=
  List.append_nil _

lemma gathered_append_of_nil {f g : Ticket → Session → Step → Bytes} :
    ∀ {t steps s}, gathered g t steps s = [] →
      gathered (fun t s step => f t s step ++ g t s step) t steps s = gathered f t steps s := by
  intro t steps
  induction steps generalizing t with
  | nil => exact fun _ => rfl
  | cons step rest ih =>
    intro s h
    obtain ⟨hnow, hlater⟩ := List.append_eq_nil_iff.mp h
    simp only [gathered, hnow, List.append_nil, ih hlater]

/-! ### What a session conveys -/

/-- The session is about this stream, which accounts for what has arrived and has been handed over.
Nobody waits but for octets or for the end, and with a time limit only the read that waits. -/
structure Conveys (out arrived written : Bytes) (c : Stream) (s : Session) : Prop where
  connection : s.connection = .stream c
  account : c.Accounts out arrived
  drained : c.Drained
  written : c.written = written
  ordered : s.arrivals.Pairwise (·.1 ≤ ·.1)
  plain : ∀ p ∈ s.pending, p.shape ≠ .payload ∧ p.shape ≠ .message
  limited : ∀ p ∈ s.pending, p.deadline ≠ none →
    ∃ r, c.waiting = some (p.ticket, r) ∧ r.Bounded

variable {out arrived written : Bytes} {c c' : Stream}

lemma octetsOf_resultOf {pending : List Pending} (r : Except Failure Bytes)
    (h : ∀ p ∈ pending, p.shape ≠ .payload ∧ p.shape ≠ .message) :
    octetsOf (resultOf pending (t, r.map .bytes)).2 = Stream.octetsOf r := by
  cases r with
  | error f => cases f <;> rfl
  | ok bs =>
    simp only [resultOf]
    split
    · next p hp =>
      obtain ⟨hpayload, hmessage⟩ := h p (List.mem_of_find?_eq_some hp)
      cases hshape : p.shape <;> first | rfl | exact absurd hshape ‹_›
    · rfl

/-- Nobody changes the octets of a read on their way to the caller. -/
lemma handed_received (done : List (Completion Bytes))
    (h : ∀ p ∈ s.pending, p.shape ≠ .payload ∧ p.shape ≠ .message) :
    handed (finish (received done) s).1 = Stream.given done := by
  simp only [finish, received, handed, Stream.given, List.map_map, List.flatMap_map]
  congr 1
  funext c
  exact octetsOf_resultOf c.2 h

/-- The end of an operation that does not read hands nothing over. -/
lemma octetsOf_resultOf_ended (pending : List Pending) (t : Ticket) :
    octetsOf (resultOf pending (t, .ok .ended)).2 = [] := by
  change octetsOf (shaped _ .ended) = []
  unfold shaped
  simp only
  split_ifs <;> rfl

namespace Conveys

lemma of_finish {done : List (Completion Outcome)} (h : s.connection = .stream c)
    (haccount : c.Accounts out arrived) (hdrained : c.Drained) (hwritten : c.written = written)
    (hordered : s.arrivals.Pairwise (·.1 ≤ ·.1))
    (hplain : ∀ p ∈ s.pending, p.shape ≠ .payload ∧ p.shape ≠ .message)
    (hlimited : ∀ p ∈ s.pending, p.deadline ≠ none → (∀ d ∈ done, d.1 ≠ p.ticket) →
      ∃ r, c.waiting = some (p.ticket, r) ∧ r.Bounded) :
    Conveys out arrived written c (finish done s).2 where
  connection := h
  account := haccount
  drained := hdrained
  written := hwritten
  ordered := hordered
  plain p hp := hplain p (List.mem_filter.mp hp).1
  limited p hp hdeadline := by
    obtain ⟨hmem, hdone⟩ := List.mem_filter.mp hp
    exact hlimited p hmem hdeadline (by simpa using hdone)

/-! ### What happens without a read -/

lemma congr (h : s.Conveys out arrived written c) (hconnection : s'.connection = s.connection)
    (harrivals : s'.arrivals = s.arrivals) (hpending : s'.pending = s.pending) :
    s'.Conveys out arrived written c where
  connection := hconnection.trans h.connection
  account := h.account
  drained := h.drained
  written := h.written
  ordered := harrivals ▸ h.ordered
  plain := hpending ▸ h.plain
  limited := hpending ▸ h.limited

/-- Looking at a session changes nothing but what has been shown. -/
lemma view (h : s.Conveys out arrived written c) : s.view.2.Conveys out arrived written c :=
  h.congr rfl rfl rfl

lemma finish (h : s.Conveys out arrived written c) (done : List (Completion Outcome)) :
    Conveys out arrived written c (finish done s).2 :=
  of_finish h.connection h.account h.drained h.written h.ordered h.plain
    fun p hp hdeadline _ => h.limited p hp hdeadline

/-- Whatever becomes of the stream, what can be read is the same, and so is who reads. -/
lemma alter (h : s.Conveys out arrived written c) (c' : Stream) (hfailure : c'.failure = c.failure)
    (hbuffer : c'.buffer = c.buffer) (hwaiting : c'.waiting = c.waiting) :
    Conveys out arrived c'.written c' { s with connection := .stream c' } where
  connection := rfl
  account := h.account.congr hfailure (by rw [Stream.held, Stream.held, hwaiting]) hbuffer
  drained w hw hunbounded := hbuffer ▸ h.drained w (hwaiting ▸ hw) hunbounded
  written := rfl
  ordered := h.ordered
  plain := h.plain
  limited p hp hdeadline := hwaiting ▸ h.limited p hp hdeadline

/-- One more waits for an end. -/
lemma wait (h : s.Conveys out arrived written c) (t : Ticket) (shape : Shape)
    (hshape : shape ≠ .payload ∧ shape ≠ .message) :
    Conveys out arrived written c { s with pending := s.pending ++ [⟨t, shape, none⟩] } where
  connection := h.connection
  account := h.account
  drained := h.drained
  written := h.written
  ordered := h.ordered
  plain p hp := by
    obtain hp | hp := List.mem_append.mp hp
    · exact h.plain p hp
    · cases List.mem_singleton.mp hp
      exact hshape
  limited p hp hdeadline := by
    obtain hp | hp := List.mem_append.mp hp
    · exact h.limited p hp hdeadline
    · cases List.mem_singleton.mp hp
      exact absurd rfl hdeadline

lemma close (h : s.Conveys out arrived written c) :
    handed s.close.1 = [] ∧ s.close.2.Conveys out arrived written c.close := by
  simp only [Session.close, h.connection]
  exact ⟨rfl, h.written ▸ h.alter c.close rfl rfl rfl⟩

lemma waitClosed (h : s.Conveys out arrived written c) (t : Ticket) (shape : Shape)
    (hshape : shape ≠ .payload ∧ shape ≠ .message) : handed (s.waitClosed t shape).1 = [] ∧
      (s.waitClosed t shape).2.Conveys out arrived written c := by
  have hwait : s.waitClosed t shape =
      start t shape none (Session.finish [(t, c.waitClosed.map fun _ => .ended)]) s := by
    simp only [Session.waitClosed, h.connection]
  rw [hwait]
  refine ⟨?_, (h.wait t shape hshape).finish _⟩
  refine (List.append_nil _).trans ?_
  unfold Stream.waitClosed
  split
  · split_ifs
    · exact octetsOf_resultOf_ended _ t
    · rfl
  · exact octetsOf_resultOf_ended _ t

lemma handed_drained (d : Draining) (s : Session) : handed (s.drained d).1 = [] := by
  refine (List.append_nil _).trans ?_
  cases hfault : d.fault with
  | some f => rfl
  | none => simpa [hfault] using octetsOf_resultOf_ended _ d.ticket

lemma write (h : s.Conveys out arrived written c) (t : Ticket) (bs : Bytes) :
    handed (s.write t bs).1 = [] ∧ ∃ c', (s.write t bs).2.Conveys out arrived
      (written ++ s.accepted (.write bs)) c' := by
  obtain ⟨_, _, hleaves⟩ := c.write_leaves bs
  have hwritten := c.write_written bs
  rw [h.written] at hwritten
  have halter := h.alter (c.write bs).2 (by rw [hleaves]) (by rw [hleaves]) (by rw [hleaves])
  rw [hwritten] at halter
  simp only [Session.write, accepted, h.connection]
  rcases hwrite : c.write bs with ⟨f | ⟨delay, fault⟩, c'⟩ <;> rw [hwrite] at halter
  · exact ⟨rfl, c', halter⟩
  · have hwaits := halter.wait t .nothing (by simp)
    by_cases hdelay : delay = 0 <;> simp only [hdelay, if_true, if_false]
    · exact ⟨handed_drained _ _, c', hwaits.finish _⟩
    · exact ⟨rfl, c', hwaits.congr rfl rfl rfl⟩

/-! ### What happens with a read -/

lemma onControl (h : s.Conveys out arrived written c) (a : Arrival) : ∃ c',
    (s.onControl a).2.Conveys (out ++ handed (s.onControl a).1) (arrived ++ a.octets) written
      c' := by
  obtain ⟨haccount, hdrained⟩ := (h.account.feed a).serve
  have hwaiting : (c.feed a).waiting = c.waiting := by cases a <;> rfl
  have hwritten : (c.feed a).serve.2.written = written := by
    rw [Stream.serve_written, ← h.written]
    cases a <;> rfl
  have hhanded := handed_received (s := { s with connection := .stream (c.feed a).serve.2 })
    (c.feed a).serve.1 h.plain
  simp only [Session.onControl, h.connection]
  rw [hhanded]
  refine ⟨_, of_finish rfl haccount hdrained hwritten h.ordered h.plain ?_⟩
  intro p hp hdeadline hdone
  obtain ⟨r, hr, hbounded⟩ := h.limited p hp hdeadline
  refine ⟨r, Stream.serve_waiting (hwaiting.trans hr) hbounded fun d hd => ?_, hbounded⟩
  exact hdone (d.1, d.2.map .bytes) (List.mem_map.mpr ⟨d, hd, rfl⟩)

/-- Whoever gives up a read that left everything in the buffer changes nothing for the others. -/
lemma abandon (h : s.Conveys out arrived written c)
    (hbounded : ∀ r, c.waiting = some (t, r) → r.Bounded) {f : Failure}
    (hf : octetsOf (.error f) = []) : handed (s.abandon t f).1 = [] ∧
      ∃ c', (s.abandon t f).2.Conveys out arrived written c' ∧
        (c'.waiting = c.waiting ∨ c'.waiting = none) := by
  have hgiven (connection : Connection) :
      handed (Session.finish [(t, .error f)] { s with connection }).1 = [] :=
    (List.append_nil _).trans hf
  unfold Session.abandon
  split_ifs
  · exact ⟨hgiven s.connection, c, (h.finish [(t, .error f)]).congr rfl rfl rfl, .inl rfl⟩
  simp only [h.connection]
  cases habandon : c.abandon? t with
  | none => exact ⟨rfl, c, h, .inl rfl⟩
  | some c' =>
    obtain ⟨haccount, hwaiting, hwritten⟩ := h.account.abandon hbounded habandon
    refine ⟨hgiven _, c', ?_, .inr hwaiting⟩
    refine of_finish rfl haccount ?_ (hwritten.trans h.written) h.ordered h.plain ?_
    · intro w hw
      rw [hwaiting] at hw
      cases hw
    · -- Nobody else has a time limit.
      intro p hp hdeadline hdone
      obtain ⟨r, hr, -⟩ := h.limited p hp hdeadline
      simp only [Stream.abandon?, hr] at habandon
      split_ifs at habandon with hticket
      exact absurd hticket.symm (hdone _ List.mem_cons_self)

lemma releases (h : s.Conveys out arrived written c) : s.Releases := by
  intro p hp hdeadline
  obtain ⟨r, hr, -⟩ := h.limited p hp hdeadline
  unfold Session.abandon
  split_ifs
  · exact List.cons_ne_nil _ _
  · simp only [h.connection, Stream.abandon?, hr]
    exact List.cons_ne_nil _ _

/-- A read is started. -/
lemma onStream (h : s.Conveys out arrived written c) (deadline : Option Nat)
    {f : Stream → List (Completion Bytes) × Stream} {out' : Bytes}
    (haccount : (f c).2.Accounts out' arrived) (hdrained : (f c).2.Drained)
    (hwritten : (f c).2.written = c.written)
    (hwaiting : (∃ result, (f c).1 = [(t, result)]) ∧ (f c).2.waiting = c.waiting ∨
      (f c).1 = [] ∧ c.waiting = none ∧
        ∃ r', (f c).2.waiting = some (t, r') ∧ (deadline ≠ none → r'.Bounded)) :
    handed (s.start t .bytes deadline (Session.onStream f)).1 = Stream.given (f c).1 ∧
      (s.start t .bytes deadline (Session.onStream f)).2.Conveys out' arrived written (f c).2 := by
  have hplain : ∀ p ∈ s.pending ++ [⟨t, .bytes, deadline⟩],
      p.shape ≠ .payload ∧ p.shape ≠ .message := by
    intro p hp
    obtain hp | hp := List.mem_append.mp hp
    · exact h.plain p hp
    · cases List.mem_singleton.mp hp
      simp
  simp only [Session.onStream, start, h.connection]
  refine ⟨handed_received _ hplain, ?_⟩
  refine of_finish rfl haccount hdrained (hwritten.trans h.written) h.ordered hplain ?_
  intro p hp hdeadline hdone
  obtain ⟨⟨result, hresult⟩, hsame⟩ | ⟨hnothing, hidle, r', hr', hbounded⟩ := hwaiting
  · obtain hp | hp := List.mem_append.mp hp
    · rw [hsame]
      exact h.limited p hp hdeadline
    · -- The new one is done.
      cases List.mem_singleton.mp hp
      simp [hresult, received] at hdone
  · obtain hp | hp := List.mem_append.mp hp
    · obtain ⟨r, hr, -⟩ := h.limited p hp hdeadline
      rw [hidle] at hr
      cases hr
    · cases List.mem_singleton.mp hp
      exact ⟨r', hr', hbounded hdeadline⟩

lemma startRead (h : s.Conveys out arrived written c) (t : Ticket) {r : Reading}
    (hr : r.collected = []) (deadline : Option Nat) (hdeadline : deadline ≠ none → r.Bounded) :
    ∃ c', (s.start t .bytes deadline (Session.onStream (·.startRead t r))).2.Conveys
      (out ++ (handed (s.start t .bytes deadline (Session.onStream (·.startRead t r))).1 ++
        c.lostTo r)) arrived written c' := by
  obtain ⟨haccount, hdrained⟩ := h.account.startRead h.drained t hr
  have hwaiting := c.startRead_waiting t r
  obtain ⟨hgiven, hconveys⟩ := h.onStream deadline (f := (·.startRead t r))
    haccount hdrained (c.startRead_written t r) (hwaiting.imp_right fun ⟨hnothing, hidle, r', hr',
      hbounded⟩ => ⟨hnothing, hidle, r', hr', hbounded ∘ hdeadline⟩)
  exact ⟨_, hgiven ▸ hconveys⟩

end Conveys

/-! ### The clock -/

/-- What has arrived, what is due and what is still to come are the same octets as time passes, and
of those who run out of time nobody waits for everything. -/
def Passes (out total written : Bytes) (due : List (Nat × Arrival)) (late : List Pending)
    (done : List (Ticket × Result)) (s : Session) : Prop :=
  ∃ c arrived, s.Conveys (out ++ handed done) arrived written c ∧
    arrived ++ (due ++ s.arrivals).flatMap (·.2.octets) = total ∧
    ∀ p ∈ late, ∀ r, c.waiting = some (p.ticket, r) → r.Bounded

lemma passes_lasting (out total written : Bytes) : Lasting (Passes out total written) where
  rests now := by
    rintro ⟨c, arrived, h, htotal, hlate⟩
    exact ⟨c, arrived, h.congr rfl rfl rfl, htotal, hlate⟩
  moves t := by
    rintro ⟨c, arrived, h, htotal, hlate⟩
    refine ⟨c, arrived, ⟨h.connection, h.account, h.drained, h.written, h.ordered.filter _,
      h.plain, h.limited⟩, ?_, hlate⟩
    rw [filter_append_filter h.ordered]
    exact htotal
  control := by
    rintro a due done s ⟨c, arrived, h, htotal, -⟩
    obtain ⟨c', h'⟩ := h.onControl a.2
    refine ⟨c', arrived ++ a.2.octets, ?_, ?_, by simp⟩
    · rwa [handed_append, ← List.append_assoc]
    · rw [(Abides.onControl a.2 s).arrivals, ← htotal]
      simp
  signal g := by
    rintro ⟨c, arrived, h, htotal, -⟩
    simp only [Session.onEndpoint, h.connection, List.append_nil]
    exact ⟨c, arrived, h, htotal, by simp⟩
  drained d := by
    rintro ⟨c, arrived, h, htotal, -⟩
    refine ⟨c, arrived, ?_, htotal, by simp⟩
    rw [handed_append, Conveys.handed_drained, List.append_nil]
    exact h.finish _
  ages t := by
    rintro ⟨c, arrived, h, htotal, -⟩
    refine ⟨c, arrived, h, htotal, fun p hp r hr => ?_⟩
    obtain ⟨hmem, hdue⟩ := List.mem_filter.mp hp
    obtain ⟨r', hr', hbounded⟩ := h.limited p hmem (by rintro hnone; simp [hnone] at hdue)
    rw [hr] at hr'
    cases hr'
    exact hbounded
  expires := by
    rintro p late done s ⟨c, arrived, h, htotal, hlate⟩
    obtain ⟨hnothing, c', h', hwaiting⟩ := h.abandon (hlate p List.mem_cons_self)
      (f := .fault .timeout) rfl
    refine ⟨c', arrived, ?_, ?_, fun q hq r hr => ?_⟩
    · rwa [handed_append, hnothing, List.append_nil]
    · rw [(Abides.abandon p.ticket _ s).arrivals]
      exact htotal
    · obtain hsame | hnobody := hwaiting
      · exact hlate q (List.mem_cons_of_mem p hq) r (hsame ▸ hr)
      · rw [hnobody] at hr
        cases hr

namespace Conveys

lemma advance_arrivals (h : s.Conveys out arrived written c) (ticks : Nat) :
    (s.advance ticks).2.arrivals = s.arrivals.filter (s.now + ticks < ·.1) := by
  let P (s : Session) : Prop := ∃ out arrived written c, s.Conveys out arrived written c
  refine runUntil_arrivals (P := P) ?_ ?_ ?_ _ _ ⟨out, arrived, written, c, h⟩ le_rfl
  · rintro s now ⟨out, arrived, written, c, h⟩
    exact ⟨out, arrived, written, c, h.congr rfl rfl rfl⟩
  · rintro s t ⟨out, arrived, written, c, h⟩
    obtain ⟨c', arrived', h', -⟩ := @Lasting.tick _ [] s (passes_lasting out _ written) t
      ⟨c, arrived, by rwa [handed_nil, List.append_nil], rfl, by simp⟩
    exact ⟨_, _, _, _, h'⟩
  · rintro s ⟨out, arrived, written, c, h⟩
    exact h.releases

lemma advance (h : s.Conveys out arrived written c) (ticks : Nat) : ∃ c',
    (s.advance ticks).2.Conveys (out ++ handed (s.advance ticks).1)
      (arrived ++ (s.arrivals.filter (·.1 ≤ s.now + ticks)).flatMap (·.2.octets)) written c' := by
  obtain ⟨c', arrived', h', htotal, -⟩ := @Lasting.advance _ [] s (passes_lasting out _ written)
    ticks ⟨c, arrived, by rwa [handed_nil, List.append_nil], rfl, by simp⟩
  have hsplit : s.arrivals.flatMap (·.2.octets) =
      (s.arrivals.filter (·.1 ≤ s.now + ticks)).flatMap (·.2.octets) ++
        (s.arrivals.filter (s.now + ticks < ·.1)).flatMap (·.2.octets) := by
    rw [← List.flatMap_append, filter_append_filter h.ordered]
  rw [List.nil_append, List.nil_append, h.advance_arrivals, hsplit, ← List.append_assoc] at htotal
  exact ⟨c', List.append_cancel_right htotal ▸ h'⟩

/-! ### Steps -/

lemma read (h : s.Conveys out arrived written c) (t : Ticket) {n : Int} {limit : Option Int}
    (hlimit : n < 0 → limit = none) : ∃ c', (s.perform t (.read n limit)).2.Conveys
      (out ++ (handed (s.perform t (.read n limit)).1 ++ s.lost (.read n limit))) arrived written
      c' := by
  have hcollected : (Stream.readingOf n).collected = [] := by
    unfold Stream.readingOf
    split_ifs <;> rfl
  have hbounded (hn : ¬ n < 0) : (Stream.readingOf n).Bounded := by
    rw [Stream.readingOf, if_neg hn]
    trivial
  simp only [Session.perform, lost, h.connection, startWithin]
  cases limit with
  | none => exact h.startRead t hcollected none fun hnone => absurd rfl hnone
  | some l =>
    have hn : ¬ n < 0 := fun hn => Option.some_ne_none l (hlimit hn)
    simp only
    split_ifs
    · refine ⟨c, ?_⟩
      rw [Stream.lostTo_of_bounded (hbounded hn)]
      simpa [instantly, octetsOf] using h
    · exact h.startRead t hcollected _ fun _ => hbounded hn

lemma readExactly (h : s.Conveys out arrived written c) (t : Ticket) (n : Int) :
    ∃ c', (s.perform t (.readExactly n)).2.Conveys
      (out ++ handed (s.perform t (.readExactly n)).1) arrived written c' := by
  simp only [Session.perform, h.connection]
  unfold Stream.startReadExactly
  by_cases hn : n < 0
  · simp only [hn, if_true]
    obtain ⟨hgiven, h'⟩ := h.onStream (t := t) none
      (f := fun c => ([(t, .error (.fault
        ⟨.value, "readexactly size can not be less than zero"⟩))], c))
      h.account h.drained rfl (.inl ⟨⟨_, rfl⟩, rfl⟩)
    rw [hgiven]
    exact ⟨c, by simpa [Stream.octetsOf] using h'⟩
  · simp only [hn, if_false]
    obtain ⟨c', h'⟩ := h.startRead t (r := .exactly n.toNat) rfl none
      (fun hnone => absurd rfl hnone)
    rw [Stream.lostTo_of_bounded (r := .exactly n.toNat) trivial, List.append_nil] at h'
    exact ⟨c', h'⟩

/-- What one step hands over and what it loses come next of what has been sent. -/
lemma perform (h : s.Conveys out arrived written c) (t : Ticket) (hstep : s.Usable step) :
    ∃ c', (s.perform t step).2.Conveys (out ++ (handed (s.perform t step).1 ++ s.lost step))
      (arrived ++ sentMeanwhile s.now s.arrivals [step]) (written ++ s.accepted step) c' := by
  have hidle (hlost : s.lost step = []) (hsent : sentMeanwhile s.now s.arrivals [step] = [])
      (haccepted : s.accepted step = []) (hhanded : handed (s.perform t step).1 = []) {c' : Stream}
      (h' : (s.perform t step).2.Conveys out arrived written c') :
      ∃ c', (s.perform t step).2.Conveys (out ++ (handed (s.perform t step).1 ++ s.lost step))
        (arrived ++ sentMeanwhile s.now s.arrivals [step]) (written ++ s.accepted step) c' := by
    rw [hlost, hsent, haccepted, hhanded]
    exact ⟨c', by simpa using h'⟩
  cases step with
  | advance ticks =>
    obtain ⟨c', h'⟩ := h.advance ticks
    exact ⟨c', by
      simpa [Session.perform, outside, lost, accepted, sentMeanwhile, octetsOf] using h'⟩
  | cancel u =>
    have hreader : s.reader? = c.waiting := by
      rw [reader?, control?, h.connection, Option.bind_some]
    obtain ⟨hhanded, c', h', -⟩ :=
      h.abandon (fun r hr => hstep r (hreader.trans hr)) (f := .cancelled) rfl
    refine hidle rfl rfl rfl ?_ h'
    simp [Session.perform, hhanded, octetsOf]
  | isClosing => exact hidle rfl rfl rfl rfl h
  | close =>
    obtain ⟨hhanded, h'⟩ := h.close
    refine hidle rfl rfl rfl ?_ h'
    simp [Session.perform, outside, hhanded, octetsOf]
  | waitClosed =>
    obtain ⟨hhanded, h'⟩ := h.waitClosed t .nothing (by simp)
    exact hidle rfl rfl rfl hhanded h'
  | leave =>
    obtain ⟨hhanded, h'⟩ := h.close
    obtain ⟨hhanded', h''⟩ := h'.waitClosed t .left (by simp)
    refine hidle rfl rfl rfl ?_ h''
    simp [Session.perform, hhanded, hhanded']
  | atEnd =>
    refine hidle rfl rfl rfl ?_ h
    simp [Session.perform, instantly, control?, h.connection, octetsOf]
  | names =>
    refine hidle rfl rfl rfl ?_ h
    simp [Session.perform, instantly, Session.names, h.connection, octetsOf]
  | read n limit => simpa [sentMeanwhile, accepted] using h.read t hstep
  | readExactly n => simpa [sentMeanwhile, accepted, lost] using h.readExactly t n
  | write bs =>
    obtain ⟨hhanded, c', h'⟩ := h.write t bs
    refine ⟨c', ?_⟩
    simpa [Session.perform, h.connection, hhanded, lost, sentMeanwhile] using h'
  | control a =>
    obtain ⟨c', h'⟩ := h.onControl a
    exact ⟨c', by
      simpa [Session.perform, outside, lost, accepted, sentMeanwhile, octetsOf] using h'⟩
  | closeControl =>
    have hperform : (s.perform t .closeControl).2 = { s with connection := .stream c.close } := by
      simp only [Session.perform, outside, h.connection]
    refine hidle rfl rfl rfl ?_ (hperform ▸ h.written ▸ h.alter c.close rfl rfl rfl)
    simp [Session.perform, outside, h.connection, octetsOf]
  | _ => exact hstep.elim

/-! ### Runs -/

/-- What the other side sends does not depend on what the callers do. -/
lemma sentMeanwhile_cons (h : s.Conveys out arrived written c) (t : Ticket) (step : Step)
    (rest : List Step) : sentMeanwhile s.now s.arrivals (step :: rest) =
      sentMeanwhile s.now s.arrivals [step] ++
        sentMeanwhile (s.report t step).2.now (s.report t step).2.arrivals rest := by
  change _ = _ ++ sentMeanwhile (s.perform t step).2.now (s.perform t step).2.arrivals rest
  by_cases hstep : ∃ ticks, step = .advance ticks
  · obtain ⟨ticks, rfl⟩ := hstep
    have hnow : (s.advance ticks).2.now = s.now + ticks := runUntil_now _ _ s
    simp [Session.perform, outside, hnow, h.advance_arrivals, sentMeanwhile]
  · have habides := perform_abides t (fun ticks hticks => hstep ⟨ticks, hticks⟩) s
    rw [habides.now, habides.arrivals]
    cases step with
    | advance ticks => exact absurd ⟨ticks, rfl⟩ hstep
    | _ => simp [sentMeanwhile]

lemma after (steps : List Step) : ∀ {t s out arrived written c}, Conveys out arrived written c s →
    s.Throughout Usable t steps → ∃ c', (s.after t steps).Conveys
      (out ++ s.gathered takes t steps) (arrived ++ sentMeanwhile s.now s.arrivals steps)
      (written ++ s.gathered (fun _ => accepted) t steps) c' := by
  induction steps with
  | nil =>
    intro t s out arrived written c h _
    exact ⟨c, by simpa [gathered, sentMeanwhile] using h⟩
  | cons step rest ih =>
    intro t s out arrived written c h husable
    obtain ⟨c', h'⟩ := h.perform t husable.1
    have hview : (s.report t step).2.Conveys _ _ _ c' := h'.view
    obtain ⟨c'', h''⟩ := ih hview husable.2
    refine ⟨c'', ?_⟩
    rw [h.sentMeanwhile_cons t]
    simpa only [gathered, takes, handsOver, after_cons, List.append_assoc] using h''

end Conveys

/-! ### From the dial on -/

/-- Nobody has begun to read, and just these octets are to come. -/
def Unread (total written : Bytes) (due : List (Nat × Arrival)) (late : List Pending)
    (s : Session) : Prop :=
  late = [] ∧ s.pending = [] ∧ s.arrivals.Pairwise (·.1 ≤ ·.1) ∧ ∃ c, s.connection = .stream c ∧
    c.waiting = none ∧ c.written = written ∧ c.coming (due ++ s.arrivals) = total

lemma unread_lasting (total written : Bytes) :
    Lasting fun due late _ s => s.Unread total written due late where
  rests _ h := h
  moves t := by
    rintro ⟨-, hpending, hordered, c, hc, hwaiting, hwritten, hcoming⟩
    refine ⟨rfl, hpending, hordered.filter _, c, hc, hwaiting, hwritten, ?_⟩
    rw [filter_append_filter hordered]
    exact hcoming
  control := by
    rintro a due - s ⟨-, hpending, hordered, c, hc, hwaiting, hwritten, hcoming⟩
    have hidle : (c.feed a.2).waiting = none := by cases h : a.2 <;> exact hwaiting
    have hserve : (c.feed a.2).serve = ([], c.feed a.2) := by simp only [Stream.serve, hidle]
    simp only [onControl, hc, hserve]
    refine ⟨rfl, by simp [finish, hpending], hordered, c.feed a.2, rfl, hidle, ?_, ?_⟩
    · rw [← hwritten]
      cases h : a.2 <;> rfl
    · rw [← Stream.coming_cons]
      exact hcoming
  signal g h := by
    obtain ⟨-, -, -, c, hc, -⟩ := id h
    simp only [onEndpoint, hc]
    exact h
  drained d := by
    rintro ⟨-, hpending, hrest⟩
    exact ⟨rfl, by simp [drained, finish, hpending], hrest⟩
  ages t := by
    rintro ⟨-, hpending, hrest⟩
    exact ⟨by simp [hpending], hpending, hrest⟩
  expires := by
    rintro p late - s ⟨hnone, -⟩
    cases hnone

/-- A stream that nobody has read from conveys what is in its buffer. -/
lemma Unread.conveys {total : Bytes} (h : s.Unread total written [] []) : ∃ c,
    s.Conveys [] c.buffer written c ∧ c.coming s.arrivals = total := by
  obtain ⟨-, hpending, hordered, c, hc, hwaiting, hwritten, hcoming⟩ := h
  refine ⟨c, ⟨hc, .start hwaiting, ?_, hwritten, hordered, ?_, ?_⟩, hcoming⟩
  · intro w hw
    rw [hwaiting] at hw
    cases hw
  · simp [hpending]
  · simp [hpending]

lemma Unread.begin {total : Bytes} (h : s.Unread total written [] []) :
    s.begin.Unread total written [] [] := by
  have htick := @Lasting.tick _ [] s (unread_lasting total written) s.now h
  obtain ⟨-, -, -, c, hc, -⟩ := id htick
  simp only [Session.begin, onRelay, hc]
  exact htick

variable {d : Dialer} {script : Script} {address : Text} {limit : Option Int}

/-- Of a dialled stream the callers are handed what the proxy sends behind its answer, in its order,
nothing of the answer and nothing twice. Nothing is left out but what a refused read for everything
has taken; and unless reads fail, what has not been handed over is still there. What the proxy gets
are the requests of the handshake and then the accepted writes. -/
theorem dialled_stream_is_transparent
    (hdial : (d.dial script "tcp" address limit).outcome = .value s)
    (hordered : script.stream.arrivals.Pairwise (·.1 ≤ ·.1))
    (husable : s.begin.Throughout Usable t steps) :
    ∃ target bound rest c c' sent, Address.parse address = .ok target ∧
      Network.tcp.answer script.stream.octets = .ok (bound, rest) ∧
      s.begin.connection = .stream c ∧ c.coming s.begin.arrivals = rest ∧
      (s.begin.after t steps).connection = .stream c' ∧
      sent = c.buffer ++ sentMeanwhile s.begin.now s.begin.arrivals steps ∧
      s.begin.gathered takes t steps <+: sent ∧
      (c'.failure = none → s.begin.gathered takes t steps ++ (c'.held ++ c'.buffer) = sent) ∧
      (s.begin.gathered (fun _ => lost) t steps = [] →
        s.begin.gathered handsOver t steps <+: sent) ∧
      c'.written = [5, 1, 0] ++ Dialer.commandFrame .tcp target ++
        s.begin.gathered (fun _ => accepted) t steps := by
  obtain ⟨target, bound, l, haddress, rfl, hanswer, hwaiting, hwritten, opened, hsuffix⟩ :=
    Dialer.dial_stream hdial
  have hunread : (Dialer.streamSession l).Unread l.coming l.stream.written [] [] := by
    refine ⟨rfl, rfl, ?_, l.stream, rfl, hwaiting, rfl, rfl⟩
    refine List.Pairwise.sublist hsuffix.sublist (List.pairwise_map.mpr ?_)
    exact hordered.imp fun hle => Nat.add_le_add_left hle opened
  obtain ⟨c, hconveys, hcoming⟩ := hunread.begin.conveys
  obtain ⟨c', h'⟩ := hconveys.after steps husable
  refine ⟨target, bound, l.coming, c, c', _, haddress, hanswer, hconveys.connection, hcoming,
    h'.connection, rfl, h'.account.delivered, h'.account.whole, fun hlost => ?_, ?_⟩
  · rw [← gathered_append_of_nil hlost]
    exact h'.account.delivered
  · rw [h'.written, hwritten]

/-- A read is given up and a later one gets its octets, and the last read gets all the others up to
the end: together they are the octets behind the answer. -/
theorem dialled_stream_is_transparent_after_giving_up :
    let d : Dialer := { proxy := ⟨.ipv4 ⟨10, 0, 0, 1⟩, 1080⟩ }
    let answer : Bytes := [5, 0, 5, 0, 0, 1, 10, 0, 0, 1, 4, 56]
    let script : Script := { stream := { arrivals := [(0, .data (answer ++ [97, 98, 99]))] } }
    let steps : List Step := [.readExactly 5, .cancel 0, .read 2, .write [1, 2], .read (-1),
      .control (.data [100, 101]), .control .ended]
    ∃ s c, (d.dial script "tcp" "192.0.2.1:80" none).outcome = .value s ∧
      s.begin.Throughout Usable 0 steps ∧ s.begin.gathered (fun _ => lost) 0 steps = [] ∧
      (s.begin.after 0 steps).connection = .stream c ∧
      s.begin.gathered handsOver 0 steps <+:
        [97, 98, 99, 100, 101] ∧
      s.begin.gathered handsOver 0 steps =
        [97, 98, 99, 100, 101] ∧
      c.written = [5, 1, 0] ++ [5, 1, 0, 1, 192, 0, 2, 1, 0, 80] ++ [1, 2] := by
  intro d answer script steps
  let requests : Bytes := [5, 1, 0] ++ [5, 1, 0, 1, 192, 0, 2, 1, 0, 80]
  let s : Session := {
    connection := .stream { buffer := [97, 98, 99], written := requests }
    shownWritten := 13 }
  have hdial : (d.dial script "tcp" "192.0.2.1:80" none).outcome = .value s := rfl
  have husable : s.begin.Throughout Usable 0 steps := by
    refine ⟨trivial, fun r hr => ?_, fun _ => rfl, trivial, fun _ => rfl, trivial, trivial, trivial⟩
    have hwaits : some (0, Reading.exactly 5) = some (0, r) := hr
    cases hwaits
    trivial
  have hlost : s.begin.gathered (fun _ => lost) 0 steps = [] := by decide
  obtain ⟨target, bound, rest, c, c', sent, htarget, -, hc, -, hc', hsent, -, -, hprefix,
    hwritten⟩ := dialled_stream_is_transparent hdial (by decide) husable
  cases hc
  have haddress : Address.parse "192.0.2.1:80" = .ok ⟨.ipv4 ⟨192, 0, 2, 1⟩, 80⟩ := rfl
  rw [haddress] at htarget
  cases htarget
  refine ⟨s, c', hdial, husable, hlost, hc', ?_, by decide, ?_⟩
  · have hall : sent = [97, 98, 99, 100, 101] := hsent.trans (by decide)
    exact hall ▸ hprefix hlost
  · have haccepted : s.begin.gathered (fun _ => accepted) 0 steps = [1, 2] := by decide
    rw [hwritten, haccepted]
    rfl

/-- A read for everything that is refused takes octets away from the read that waits. -/
theorem refused_read_loses_octets :
    let d : Dialer := { proxy := ⟨.ipv4 ⟨10, 0, 0, 1⟩, 1080⟩ }
    let answer : Bytes := [5, 0, 5, 0, 0, 1, 10, 0, 0, 1, 4, 56]
    let script : Script := { stream := { arrivals := [(0, .data (answer ++ [97, 98, 99]))] } }
    let steps : List Step := [.readExactly 5, .read (-1),
      .control (.data [100, 101, 102, 103, 104]), .read 100]
    ∃ s c, (d.dial script "tcp" "192.0.2.1:80" none).outcome = .value s ∧
      s.begin.Throughout Usable 0 steps ∧ s.begin.connection = .stream c ∧
      c.buffer ++ sentMeanwhile s.begin.now s.begin.arrivals steps =
        [97, 98, 99, 100, 101, 102, 103, 104] ∧
      s.begin.gathered handsOver 0 steps =
        [100, 101, 102, 103, 104] ∧
      ¬ s.begin.gathered handsOver 0 steps <+:
        c.buffer ++ sentMeanwhile s.begin.now s.begin.arrivals steps := by
  intro d answer script steps
  refine ⟨_, _, rfl, ⟨trivial, fun _ => rfl, trivial, fun _ => rfl, trivial⟩, rfl, rfl, rfl, ?_⟩
  decide

end Session

end Socks5
