import Socks5.Proofs.Dial.Steps

/-!
# What goes over a line

Whatever becomes of an operation on a line, octets go over it in order and none are lost: a write
appends all its octets to what was written, or none, and a read that succeeds takes just its octets
off the front of what was to come. Nothing else that is done on a line changes either of them.
-/

namespace Socks5

/-! ### What reading leaves alone -/

namespace Stream

/-- A stream after something was fed to it or read from it. -/
def ReadTo (s s' : Stream) : Prop :=
  ∃ buffer ended failure, s' = { s with buffer, ended, failure }

lemma ReadTo.refl (s : Stream) : s.ReadTo s := ⟨_, _, _, rfl⟩

lemma ReadTo.trans {s s' s'' : Stream} (h : s.ReadTo s') (h' : s'.ReadTo s'') : s.ReadTo s'' := by
  obtain ⟨_, _, _, rfl⟩ := h
  obtain ⟨_, _, _, rfl⟩ := h'
  exact ⟨_, _, _, rfl⟩

lemma ReadTo.written_eq {s s' : Stream} (h : s.ReadTo s') : s'.written = s.written := by
  obtain ⟨_, _, _, rfl⟩ := h
  rfl

lemma feed_readTo (s : Stream) (a : Arrival) : s.ReadTo (s.feed a) := by
  cases a <;> exact ⟨_, _, _, rfl⟩

lemma foldl_feed_readTo (events : List (Nat × Arrival)) (s : Stream) :
    s.ReadTo (events.foldl (fun s a => s.feed a.2) s) := by
  induction events generalizing s with
  | nil => exact .refl s
  | cons event rest ih => exact (s.feed_readTo event.2).trans (ih _)

/-- Trying a read takes octets from the buffer, and changes nothing else. -/
lemma attempt_eq (s : Stream) (r : Reading) :
    (s.attempt r).2 = { s with buffer := (s.attempt r).2.buffer } := by
  unfold attempt
  split
  · rfl
  · cases r with
    | upTo n =>
      simp only
      split_ifs <;> rfl
    | exactly n =>
      simp only
      split_ifs <;> rfl
    | toEnd collected =>
      simp only
      split_ifs <;> rfl

lemma attempt_readTo (s : Stream) (r : Reading) : s.ReadTo (s.attempt r).2 :=
  ⟨_, _, _, s.attempt_eq r⟩

end Stream

namespace Line

/-- What arrivals and attempts keep holds when a read is over. -/
lemma await_induct {P : Stream → List (Nat × Arrival) → Prop}
    (hfeed : ∀ {s time a rest}, P s ((time, a) :: rest) → P (s.feed a) rest)
    (hattempt : ∀ {s arrivals} r, P s arrivals → P (s.attempt r).2 arrivals)
    (stop : Option (Nat × Failure)) (arrivals : List (Nat × Arrival)) :
    ∀ (r : Reading) (now : Nat) (s : Stream), P s arrivals →
      P (await stop r now s arrivals).2.2.1 (await stop r now s arrivals).2.2.2 := by
  induction arrivals with
  | nil =>
    intro r now s h
    have htried := hattempt r h
    unfold await
    rcases hs : s.attempt r with ⟨⟨f | bs⟩ | r', s'⟩ <;> rw [hs] at htried
    · exact htried
    · exact htried
    · cases stop <;> exact htried
  | cons event rest ih =>
    intro r now s h
    obtain ⟨time, a⟩ := event
    have htried := hattempt r h
    unfold await
    split_ifs
    · exact ih r now _ (hfeed h)
    rcases hs : s.attempt r with ⟨⟨f | bs⟩ | r', s'⟩ <;> rw [hs] at htried
    · exact htried
    · exact htried
    · have hlater := ih r' time _ (hfeed htried)
      cases stop with
      | none => exact hlater
      | some stop =>
        simp only
        split_ifs
        · exact htried
        · exact hlater

lemma await_readTo (stop : Option (Nat × Failure)) (arrivals : List (Nat × Arrival)) (r : Reading)
    (now : Nat) (s : Stream) : s.ReadTo (await stop r now s arrivals).2.2.1 :=
  await_induct (P := fun s' _ => s.ReadTo s') (fun h => h.trans (Stream.feed_readTo _ _))
    (fun r h => h.trans (Stream.attempt_readTo _ r)) stop arrivals r now s (.refl s)

lemma read_readTo (limit : Option Int) (r : Reading) (l : Line) :
    l.stream.ReadTo (l.read limit r).2.stream := by
  unfold read
  split_ifs
  · exact .refl _
  · exact await_readTo _ _ _ _ _

end Line

/-! ### What is written -/

lemma Stream.foldl_feed_written (s : Stream) (events : List (Nat × Arrival)) :
    (events.foldl (fun s a => s.feed a.2) s).written = s.written :=
  (s.foldl_feed_readTo events).written_eq

/-- Writing leaves alone what can be read, and who reads. -/
lemma Stream.write_leaves (s : Stream) (out : Bytes) :
    ∃ plans written, (s.write out).2 = { s with plans, written } := by
  unfold write
  split_ifs
  · exact ⟨s.plans, s.written, rfl⟩
  · simp only
    split
    · exact ⟨s.plans.tail, s.written, rfl⟩
    · exact ⟨s.plans.tail, s.written ++ out, rfl⟩

/-- A stream takes all the octets of a write, or none. -/
lemma Stream.write_written (s : Stream) (out : Bytes) :
    (s.write out).2.written = s.written ++ if (s.write out).1.isOk then out else [] := by
  by_cases hclosed : s.closed = true
  · simp [write, hclosed, Except.isOk, Except.toBool]
  cases hfault : (s.plans.headD {}).fault with
  | some f =>
    simp only [write, if_neg hclosed, hfault]
    exact (List.append_nil _).symm
  | none =>
    simp only [write, if_neg hclosed, hfault]
    rfl

namespace Line

lemma catchUp_written (l : Line) : l.catchUp.stream.written = l.stream.written :=
  Stream.foldl_feed_written _ _

lemma await_written (stop : Option (Nat × Failure)) (arrivals : List (Nat × Arrival)) (r : Reading)
    (now : Nat) (s : Stream) : (await stop r now s arrivals).2.2.1.written = s.written :=
  (await_readTo stop arrivals r now s).written_eq

lemma read_written (limit : Option Int) (r : Reading) (l : Line) :
    (l.read limit r).2.stream.written = l.stream.written :=
  (l.read_readTo limit r).written_eq

/-- Whether a write is begun and its octets are taken by the stream, whatever becomes of it then. -/
def takes (limit : Option Int) (out : Bytes) (l : Line) : Bool :=
  !runOut limit && (l.stream.write out).1.isOk

lemma write_written (limit : Option Int) (out : Bytes) (l : Line) :
    (l.write limit out).2.stream.written =
      l.stream.written ++ if l.takes limit out then out else [] := by
  have hwrite := l.stream.write_written out
  by_cases hlimit : runOut limit
  · simp [write_of_runOut hlimit, takes, hlimit]
  rcases h : l.stream.write out with ⟨f | ⟨delay, fault⟩, stream⟩ <;> rw [h] at hwrite
  · simpa [write_of_error hlimit h, takes, hlimit, h, Except.isOk, Except.toBool] using hwrite
  · simpa [write_of_ok hlimit h, takes, hlimit, h, Except.isOk, Except.toBool] using hwrite

lemma takes_of_value {limit : Option Int} {out : Bytes} {l : Line}
    (h : (l.write limit out).1 = .value ()) : l.takes limit out = true := by
  by_cases hlimit : runOut limit
  · rw [write_of_runOut hlimit] at h
    cases h
  rcases hwrite : l.stream.write out with ⟨f | ⟨delay, fault⟩, stream⟩
  · rw [write_of_error hlimit hwrite] at h
    cases h
  · simp [takes, hlimit, hwrite, Except.isOk, Except.toBool]

end Line

namespace Dialer

lemma openedLine_written (script : Script) (now : Nat) (notes : List Note) :
    (openedLine script now notes).stream.written = [] :=
  Line.catchUp_written _

variable (d : Dialer)

lemma openedRelay_written (script : EndpointScript) (bound target : Address) (l : Line) :
    (d.openedRelay script bound target l).2.2.2.stream.written = l.stream.written := by
  unfold openedRelay checkHandle
  cases script.fault with
  | some f => rfl
  | none =>
    cases script.kind with
    | endpoint socket =>
      simp only
      split_ifs <;> rfl
    | unmade => rfl
    | foreign closable => rfl

lemma openRelay_written (script : EndpointScript) (deadline : Option Int) (bound target : Address)
    (l : Line) :
    (d.openRelay script deadline bound target l).2.2.2.stream.written = l.stream.written := by
  rw [openRelay_eq]
  split_ifs
  · rfl
  · rfl
  · apply Ended.andThen_induct (P := fun r : Ended Session × Reach =>
      r.2.2.2.stream.written = l.stream.written)
    · intro _ _
      rw [openedRelay_written]
      exact Stream.foldl_feed_written _ _
    · exact fun _ _ => rfl
    · exact fun _ => rfl

lemma established_written (script : Script) (network : Network) (target : Address)
    (deadline : Option Int) (bound : Address) (l : Line) :
    (d.established script network target deadline bound l).2.2.2.stream.written =
      l.stream.written := by
  cases network with
  | tcp => rfl
  | udp => exact d.openRelay_written script.endpoint deadline bound target l

lemma abandonLine_written (target : Address) (ended : Ended Session) (l : Line) :
    (d.abandonLine target ended l).stream.written = l.stream.written := by
  rcases ended with _ | f | _
  · rfl
  · cases f <;> rfl
  · rfl

end Dialer

/-! ### What is still to be read -/

/-- The octets that the other side sends. -/
def Arrival.octets : Arrival → Bytes
  | data bs => bs
  | _ => []

/-- The octets that the proxy sends under a script. -/
def StreamScript.octets (script : StreamScript) : Bytes := script.arrivals.flatMap (·.2.octets)

/-- The octets that are there to be read, and those that are still to arrive. -/
def Stream.coming (s : Stream) (arrivals : List (Nat × Arrival)) : Bytes :=
  s.buffer ++ arrivals.flatMap (·.2.octets)

namespace Stream

lemma coming_cons (s : Stream) (event : Nat × Arrival) (rest : List (Nat × Arrival)) :
    s.coming (event :: rest) = (s.feed event.2).coming rest := by
  obtain ⟨time, a⟩ := event
  cases a <;> simp [coming, feed, Arrival.octets]

lemma coming_append (events rest : List (Nat × Arrival)) : ∀ s : Stream,
    s.coming (events ++ rest) = (events.foldl (fun s a => s.feed a.2) s).coming rest := by
  induction events with
  | nil => exact fun s => rfl
  | cons event more ih =>
    intro s
    rw [List.cons_append, coming_cons, ih, List.foldl_cons]

/-- Trying to read exactly so many octets takes them off the front, fails, or waits. -/
lemma attempt_exactly (count : Nat) (s : Stream) :
    (count ≤ s.buffer.length ∧ s.attempt (.exactly count) =
        (.done (.ok (s.buffer.take count)), { s with buffer := s.buffer.drop count })) ∨
      (∃ f s', s.attempt (.exactly count) = (.done (.error f), s')) ∨
      s.attempt (.exactly count) = (.waits (.exactly count), s) := by
  unfold attempt
  cases s.failure with
  | some f => exact .inr (.inl ⟨_, _, rfl⟩)
  | none =>
    simp only
    split_ifs with hcount
    · exact .inl ⟨hcount, rfl⟩
    · exact .inr (.inl ⟨_, _, rfl⟩)
    · exact .inr (.inr rfl)

lemma take_coming (count : Nat) (s : Stream) (arrivals : List (Nat × Arrival)) :
    s.coming arrivals = s.buffer.take count ++
      coming { s with buffer := s.buffer.drop count } arrivals := by
  rw [coming, coming, ← List.append_assoc, List.take_append_drop]

lemma write_buffer (s : Stream) (out : Bytes) : (s.write out).2.buffer = s.buffer := by
  obtain ⟨_, _, hstream⟩ := s.write_leaves out
  rw [hstream]

end Stream

namespace Line

/-- The octets that are there to be read from a line, and those that are still to arrive. -/
def coming (l : Line) : Bytes := l.stream.coming l.arrivals

lemma await_takes (stop : Option (Nat × Failure)) {count : Nat} {bs : Bytes}
    (arrivals : List (Nat × Arrival)) : ∀ (now : Nat) (s : Stream),
      (await stop (.exactly count) now s arrivals).1 = .value bs → bs.length = count ∧
        s.coming arrivals = bs ++ (await stop (.exactly count) now s arrivals).2.2.1.coming
          (await stop (.exactly count) now s arrivals).2.2.2 := by
  induction arrivals with
  | nil =>
    intro now s h
    unfold await at h ⊢
    obtain ⟨hcount, hs⟩ | ⟨f, s', hs⟩ | hs := s.attempt_exactly count <;> rw [hs] at h ⊢
    · cases h
      exact ⟨List.length_take_of_le hcount, s.take_coming count []⟩
    · cases h
    · cases stop <;> cases h
  | cons event rest ih =>
    intro now s h
    obtain ⟨time, a⟩ := event
    unfold await at h ⊢
    split_ifs at h ⊢
    · rw [Stream.coming_cons]
      exact ih now _ h
    obtain ⟨hcount, hs⟩ | ⟨f, s', hs⟩ | hs := s.attempt_exactly count <;> rw [hs] at h ⊢
    · cases h
      exact ⟨List.length_take_of_le hcount, s.take_coming count _⟩
    · cases h
    · rw [Stream.coming_cons]
      cases stop with
      | none => exact ih time _ h
      | some stop =>
        simp only at h ⊢
        split_ifs at h ⊢
        exact ih time _ h

/-- A read that gives a value takes just as many octets off the front as it was to give. -/
lemma read_takes {limit : Option Int} {count : Nat} {l : Line} {bs : Bytes}
    (h : (l.read limit (.exactly count)).1 = .value bs) : bs.length = count ∧
      l.coming = bs ++ (l.read limit (.exactly count)).2.coming := by
  unfold read at h ⊢
  split_ifs at h ⊢
  exact await_takes _ _ _ _ h

lemma write_coming (limit : Option Int) (out : Bytes) (l : Line) :
    (l.write limit out).2.coming = l.coming := by
  have hbuffer := l.stream.write_buffer out
  by_cases hlimit : runOut limit
  · rw [write_of_runOut hlimit]
  rcases h : l.stream.write out with ⟨f | ⟨delay, fault⟩, stream⟩ <;> rw [h] at hbuffer
  · rw [write_of_error hlimit h, coming, coming, Stream.coming, Stream.coming, hbuffer]
  · rw [write_of_ok hlimit h, coming, coming, Stream.coming, Stream.coming, hbuffer]

lemma catchUp_coming (l : Line) : l.catchUp.coming = l.coming := by
  rw [coming, coming]
  conv_rhs => rw [← List.takeWhile_append_dropWhile (p := (·.1 ≤ l.now)) (l := l.arrivals)]
  exact (Stream.coming_append _ _ _).symm

end Line

lemma Dialer.openedLine_coming (script : Script) (now : Nat) (notes : List Note) :
    (openedLine script now notes).coming = script.stream.octets := by
  rw [openedLine, Line.catchUp_coming]
  simp [Line.coming, Stream.coming, openedStream, StreamScript.octets, List.flatMap_map]

end Socks5
