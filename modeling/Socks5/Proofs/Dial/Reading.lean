import Mathlib.Tactic.Common
import Socks5.Dial.Run

/-!
# Reading what the proxy sends

What a proxy sends may be cut into pieces in any way and may arrive at any time. `Stream.Receives`
relates a stream and what still arrives on it to the octets that can be read from it in all and to
whether the input ends behind them. On such a line a read of exactly so many octets depends on
nothing else: it gives the first octets and leaves the others, or it comes up short.
-/

namespace Socks5

/-! ### What arrives leaves this side alone -/

@[simp] lemma Stream.feed_closed (s : Stream) (a : Arrival) : (s.feed a).closed = s.closed := by
  cases a <;> rfl

@[simp] lemma Stream.feed_plans (s : Stream) (a : Arrival) : (s.feed a).plans = s.plans := by
  cases a <;> rfl

lemma Stream.foldl_feed_closed (s : Stream) (events : List (Nat × Arrival)) :
    (events.foldl (fun s a => s.feed a.2) s).closed = s.closed := by
  induction events generalizing s with
  | nil => rfl
  | cons event rest ih => rw [List.foldl_cons, ih, s.feed_closed]

lemma Stream.foldl_feed_plans (s : Stream) (events : List (Nat × Arrival)) :
    (events.foldl (fun s a => s.feed a.2) s).plans = s.plans := by
  induction events generalizing s with
  | nil => rfl
  | cons event rest ih => rw [List.foldl_cons, ih, s.feed_plans]

/-! ### What can still be read -/

/-- From a stream and what arrives on it later, exactly these octets can be read, without a failure;
`ends` tells whether the input ends behind them. -/
inductive Stream.Receives : Stream → List (Nat × Arrival) → Bytes → (ends : Bool) → Prop where
  | now {s : Stream} (healthy : s.failure = none) : Receives s [] s.buffer s.ended
  | later {s : Stream} {event : Nat × Arrival} {rest : List (Nat × Arrival)} {bs : Bytes}
      {ends : Bool} (healthy : s.failure = none) (going : s.ended = false)
      (more : Receives (s.feed event.2) rest bs ends) : Receives s (event :: rest) bs ends

/-- What is in the buffer comes first. -/
lemma Stream.Receives.exists_eq_append {s : Stream} {arrivals : List (Nat × Arrival)} {bs : Bytes}
    {ends : Bool} (h : s.Receives arrivals bs ends) : ∃ rest, bs = s.buffer ++ rest := by
  induction h with
  | now _ => exact ⟨[], (List.append_nil _).symm⟩
  | @later s event rest bs ends healthy _ _ ih =>
    obtain ⟨tail, rfl⟩ := ih
    obtain ⟨time, a⟩ := event
    cases a with
    | data chunk => exact ⟨chunk ++ tail, by simp [Stream.feed]⟩
    | ended => exact ⟨tail, by simp [Stream.feed]⟩
    | failed f => exact ⟨tail, by simp [Stream.feed]⟩

/-- Octets may be taken off the front of the buffer. -/
lemma Stream.Receives.drop {s : Stream} {arrivals : List (Nat × Arrival)} {bs : Bytes}
    {ends : Bool} (h : s.Receives arrivals bs ends) {n : Nat} (hn : n ≤ s.buffer.length) :
    Stream.Receives { s with buffer := s.buffer.drop n } arrivals (bs.drop n) ends := by
  induction h with
  | @now s healthy => exact .now (s := { s with buffer := s.buffer.drop n }) healthy
  | @later s event rest bs ends healthy going _ ih =>
    obtain ⟨time, a⟩ := event
    refine .later healthy going ?_
    cases a with
    | data chunk =>
      have hn' : n ≤ (s.feed (.data chunk)).buffer.length := by
        simp only [Stream.feed, List.length_append]
        omega
      simpa only [Stream.feed, List.drop_append_of_le_length hn] using ih hn'
    | ended => exact ih hn
    | failed f => exact ih hn

/-- What was written has nothing to do with what can be read. -/
lemma Stream.Receives.wrote {s : Stream} {arrivals : List (Nat × Arrival)} {bs : Bytes}
    {ends : Bool} (h : s.Receives arrivals bs ends) (plans : List WritePlan) (written : Bytes) :
    Stream.Receives { s with plans, written } arrivals bs ends := by
  induction h with
  | @now s healthy => exact .now (s := { s with plans, written }) healthy
  | @later s event rest bs ends healthy going _ ih =>
    obtain ⟨time, a⟩ := event
    exact .later healthy going (by cases a <;> exact ih)

/-- Octets that arrived are octets that can be read: the caller may catch up with the events of
any moment. -/
lemma Stream.Receives.catchUp {s : Stream} {arrivals : List (Nat × Arrival)} {bs : Bytes}
    {ends : Bool} (h : s.Receives arrivals bs ends) (now : Nat) :
    Stream.Receives ((arrivals.takeWhile (·.1 ≤ now)).foldl (fun s a => s.feed a.2) s)
      (arrivals.dropWhile (·.1 ≤ now)) bs ends := by
  induction h with
  | now healthy => exact .now healthy
  | @later s event rest bs ends healthy going more ih =>
    by_cases htime : event.1 ≤ now
    · simpa [List.takeWhile_cons, List.dropWhile_cons, htime] using ih
    · simpa [List.takeWhile_cons, List.dropWhile_cons, htime] using more.later healthy going

lemma Stream.Receives.foldl_buffer {s : Stream} {arrivals : List (Nat × Arrival)} {bs : Bytes}
    {ends : Bool} (h : s.Receives arrivals bs ends) :
    (arrivals.foldl (fun s a => s.feed a.2) s).buffer = bs := by
  induction h with
  | now _ => rfl
  | later _ _ _ ih => simpa using ih

/-! ### Writing -/

/-- A write on an open stream whose next plans are faultless only records its octets. -/
lemma Stream.write_of_faultless {s : Stream} (hopen : s.closed = false)
    (hplans : ∀ p ∈ s.plans, p.fault = none ∧ p.lateFault = none) (out : Bytes) :
    ∃ delay, s.write out = (.ok (delay, none),
      { s with plans := s.plans.tail, written := s.written ++ out }) := by
  cases hs : s.plans with
  | nil => exact ⟨0, by simp [Stream.write, hopen, hs]⟩
  | cons p rest =>
    obtain ⟨hfault, hlate⟩ := hplans p (hs ▸ List.mem_cons_self)
    exact ⟨p.delay, by simp [Stream.write, hopen, hs, hfault, hlate]⟩

/-! ### Reading exactly so many octets -/

/-- A read that can be completed gives the first octets and leaves the others. -/
lemma Line.await_exactly {s : Stream} {arrivals : List (Nat × Arrival)} {bs : Bytes} {ends : Bool}
    (h : s.Receives arrivals bs ends) {n : Nat} (hn : n ≤ bs.length) (now : Nat) :
    ∃ now' s' arrivals', Line.await none (.exactly n) now s arrivals =
        (.value (bs.take n), now', s', arrivals') ∧ s'.Receives arrivals' (bs.drop n) ends ∧
      s'.closed = s.closed ∧ s'.plans = s.plans := by
  induction h generalizing now with
  | @now s healthy =>
    refine ⟨now, { s with buffer := s.buffer.drop n }, [], ?_,
      (Stream.Receives.now healthy).drop hn, rfl, rfl⟩
    simp [Line.await, Stream.attempt, healthy, hn]
  | @later s event rest bs ends healthy going more ih =>
    obtain ⟨time, a⟩ := event
    by_cases htime : time ≤ now
    · simp only [Line.await, if_pos htime]
      obtain ⟨now', s', arrivals', hawait, hrest, hclosed, hplans⟩ := ih hn now
      exact ⟨now', s', arrivals', hawait, hrest, hclosed.trans (s.feed_closed a),
        hplans.trans (s.feed_plans a)⟩
    · by_cases hbuffer : n ≤ s.buffer.length
      · -- The buffer holds enough: nothing is waited for.
        have hall : s.Receives ((time, a) :: rest) bs ends := .later healthy going more
        obtain ⟨tail, rfl⟩ := hall.exists_eq_append
        refine ⟨now, { s with buffer := s.buffer.drop n }, (time, a) :: rest, ?_,
          hall.drop hbuffer, rfl, rfl⟩
        simp [Line.await, htime, Stream.attempt, healthy, hbuffer, List.take_append_of_le_length]
      · obtain ⟨now', s', arrivals', hawait, hrest, hclosed, hplans⟩ := ih hn time
        refine ⟨now', s', arrivals', ?_, hrest, hclosed.trans (s.feed_closed a),
          hplans.trans (s.feed_plans a)⟩
        simpa [Line.await, htime, Stream.attempt, healthy, hbuffer, going] using hawait

/-- A read that asks for more than there is comes up short at the end of the input, and waits for
ever if there is none. -/
lemma Line.await_exactly_short {s : Stream} {arrivals : List (Nat × Arrival)} {bs : Bytes}
    {ends : Bool} (h : s.Receives arrivals bs ends) {n : Nat} (hn : bs.length < n) (now : Nat) :
    (Line.await none (.exactly n) now s arrivals).1 =
      if ends then .failure (.incomplete bs n) else .never := by
  induction h generalizing now with
  | @now s healthy =>
    cases hended : s.ended <;>
      simp [Line.await, Stream.attempt, healthy, Nat.not_le.mpr hn, hended]
  | @later s event rest bs ends healthy going more ih =>
    obtain ⟨time, a⟩ := event
    by_cases htime : time ≤ now
    · simp only [Line.await, if_pos htime]
      exact ih hn now
    · have hall : s.Receives ((time, a) :: rest) bs ends := .later healthy going more
      obtain ⟨tail, htail⟩ := hall.exists_eq_append
      have hbuffer : ¬ n ≤ s.buffer.length := by
        have := congrArg List.length htail
        simp only [List.length_append] at this
        omega
      simpa [Line.await, htime, Stream.attempt, healthy, hbuffer, going] using ih hn time

/-! ### Lines that nobody disturbs -/

/-- The octets that can still be read from a line, those that will arrive included. -/
def Line.unread (l : Line) : Bytes := (l.arrivals.foldl (fun s a => s.feed a.2) l.stream).buffer

/-- These octets can still be read from a line, behind them the input ends or not, every write
works, and nobody cancels. -/
structure Line.Brings (l : Line) (bs : Bytes) (ends : Bool) : Prop where
  uncancelled : l.cancelAt = none
  writable : l.stream.closed = false
  faultless : ∀ p ∈ l.stream.plans, p.fault = none ∧ p.lateFault = none
  receives : l.stream.Receives l.arrivals bs ends

namespace Line.Brings

variable {l : Line} {bs : Bytes} {ends : Bool}

lemma unread_eq (h : l.Brings bs ends) : l.unread = bs := h.receives.foldl_buffer

lemma tell (h : l.Brings bs ends) (n : Note) : (l.tell n).Brings bs ends :=
  ⟨h.uncancelled, h.writable, h.faultless, h.receives⟩

lemma later (h : l.Brings bs ends) (now : Nat) : Brings { l with now } bs ends :=
  ⟨h.uncancelled, h.writable, h.faultless, h.receives⟩

lemma catchUp (h : l.Brings bs ends) : l.catchUp.Brings bs ends where
  uncancelled := h.uncancelled
  writable := (Stream.foldl_feed_closed _ _).trans h.writable
  faultless := by
    intro p hp
    rw [Line.catchUp, Stream.foldl_feed_plans] at hp
    exact h.faultless p hp
  receives := h.receives.catchUp l.now

/-- Reading octets that are there. -/
lemma read_exactly (h : l.Brings bs ends) {n : Nat} (hn : n ≤ bs.length) :
    ∃ l', l.read none (.exactly n) = (.value (bs.take n), l') ∧ l'.Brings (bs.drop n) ends := by
  obtain ⟨now', s', arrivals', hawait, hrest, hclosed, hplans⟩ :=
    Line.await_exactly h.receives hn l.now
  refine ⟨{ l with now := now', stream := s', arrivals := arrivals' }, ?_,
    h.uncancelled, hclosed.trans h.writable, hplans ▸ h.faultless, hrest⟩
  simp [Line.read, runOut, breakOff, h.uncancelled, hawait]

/-- Reading beyond what there is. -/
lemma read_exactly_short (h : l.Brings bs ends) {n : Nat} (hn : bs.length < n) :
    (l.read none (.exactly n)).1 = if ends then .failure (.incomplete bs n) else .never := by
  have := Line.await_exactly_short h.receives hn l.now
  simpa [Line.read, runOut, breakOff, h.uncancelled] using this

/-- Reading beyond the end of the input. -/
lemma read_exactly_incomplete (h : l.Brings bs true) {n : Nat} (hn : bs.length < n) :
    ∃ l', l.read none (.exactly n) = (.failure (.incomplete bs n), l') :=
  ⟨_, Prod.ext (h.read_exactly_short hn) rfl⟩

/-- A write leaves what can be read as it is. -/
lemma write (h : l.Brings bs ends) (out : Bytes) :
    ∃ l', l.write none out = (.value (), l') ∧ l'.Brings bs ends := by
  obtain ⟨delay, hwrite⟩ := Stream.write_of_faultless h.writable h.faultless out
  refine ⟨{ l with
    now := l.now + delay
    stream := { l.stream with
      plans := l.stream.plans.tail, written := l.stream.written ++ out } }, ?_,
    h.uncancelled, h.writable, fun p hp => h.faultless p (List.mem_of_mem_tail hp),
    h.receives.wrote _ _⟩
  simp [Line.write, runOut, hwrite, pass, breakOff, h.uncancelled]

end Line.Brings

/-! ### Scripts of a proxy that does its part -/

/-- On a script the proxy sends exactly these octets, cut into pieces in any way and at any times,
and nothing on its side fails; `ends` tells whether it then ends its output. -/
structure StreamScript.Sends (script : StreamScript) (bs : Bytes) (ends : Bool) : Prop where
  pieces : ∃ chunks : List Bytes, chunks.flatten = bs ∧
    script.arrivals.map (·.2) = chunks.map .data ++ if ends then [.ended] else []
  faultless : ∀ p ∈ script.plans, p.fault = none ∧ p.lateFault = none

lemma Stream.receives_of_pieces (chunks : List Bytes) (ends : Bool) :
    ∀ (s : Stream) (arrivals : List (Nat × Arrival)), s.failure = none → s.ended = false →
      arrivals.map (·.2) = chunks.map .data ++ (if ends then [.ended] else []) →
      s.Receives arrivals (s.buffer ++ chunks.flatten) ends := by
  induction chunks with
  | nil =>
    intro s arrivals healthy going h
    cases ends with
    | false =>
      obtain rfl : arrivals = [] := by simpa using h
      simpa [going] using Stream.Receives.now healthy
    | true =>
      obtain ⟨⟨time, a⟩, rfl, rfl⟩ : ∃ event, arrivals = [event] ∧ event.2 = .ended := by
        simpa using h
      refine .later healthy going ?_
      simpa [Stream.feed] using Stream.Receives.now (s := s.feed .ended) healthy
  | cons chunk chunks ih =>
    intro s arrivals healthy going h
    obtain ⟨⟨time, a⟩, rest, rfl, rfl, hrest⟩ : ∃ event rest, arrivals = event :: rest ∧
        event.2 = .data chunk ∧
        rest.map (·.2) = chunks.map .data ++ (if ends then [.ended] else []) := by
      simpa [List.map_eq_cons_iff] using h
    refine .later healthy going ?_
    simpa [Stream.feed] using ih (s.feed (.data chunk)) rest healthy going hrest

/-- An opened line brings what the script sends. -/
lemma StreamScript.Sends.brings {script : Script} {bs : Bytes} {ends : Bool}
    (h : script.stream.Sends bs ends) (hcancel : script.cancelAt = none) (now : Nat)
    (notes : List Note) : (Dialer.openedLine script now notes).Brings bs ends := by
  obtain ⟨chunks, rfl, hpieces⟩ := h.pieces
  apply Line.Brings.catchUp
  refine ⟨hcancel, rfl, h.faultless, ?_⟩
  exact Stream.receives_of_pieces chunks ends (Dialer.openedStream script.stream)
    (script.stream.arrivals.map fun event => (now + event.1, event.2)) rfl rfl
    (by simpa [List.map_map, Function.comp_def] using hpieces)

end Socks5
