import Mathlib.Tactic.Common
import Socks5.Proofs.Dial.Flow

/-!
# The octets of a stream

Every octet that has arrived on a stream was given out, is held by the read that waits, or is in the
buffer, in this order. Only a read up to the end holds octets while it waits, and the buffer is
empty then. Such a read is refused beside another one, but the octets that it took are lost.
-/

namespace Socks5

namespace Reading

/-- What a read has collected while it waited. -/
def collected : Reading → Bytes
  | toEnd bs => bs
  | _ => []

/-- A read of so many octets leaves them in the buffer as long as it waits. -/
def Bounded : Reading → Prop
  | toEnd _ => False
  | _ => True

lemma collected_of_bounded {r : Reading} (h : r.Bounded) : r.collected = [] := by
  cases r with
  | toEnd bs => exact h.elim
  | _ => rfl

end Reading

namespace Stream

variable {s s' : Stream} {out arrived : Bytes}

/-- The octets that a result gives out: those of a success, and those of a read that was cut
short. -/
def octetsOf : Except Failure Bytes → Bytes
  | .ok bs => bs
  | .error (.incomplete bs _) => bs
  | .error _ => []

/-- The octets that results give out. -/
def given (done : List (Completion Bytes)) : Bytes := done.flatMap (octetsOf ·.2)

@[simp] lemma given_nil : given [] = [] := rfl

@[simp] lemma given_singleton (t : Ticket) (result : Except Failure Bytes) :
    given [(t, result)] = octetsOf result := List.append_nil _

/-- The octets that the waiting read holds. -/
def held (s : Stream) : Bytes := (s.waiting.map (·.2.collected)).getD []

lemma held_of_waiting {w : Ticket × Reading} (h : s.waiting = some w) :
    s.held = w.2.collected := by simp [held, h]

lemma held_of_idle (h : s.waiting = none) : s.held = [] := by simp [held, h]

/-- Nothing stays in the buffer while a read for everything waits. -/
def Drained (s : Stream) : Prop := ∀ w ∈ s.waiting, ¬ w.2.Bounded → s.buffer = []

/-! ### Trying a read -/

/-- A read that has its result has taken its octets off the front, or the stream has failed. -/
lemma attempt_done {r : Reading} {result : Except Failure Bytes}
    (h : s.attempt r = (.done result, s')) :
    s'.waiting = s.waiting ∧ s'.failure = s.failure ∧
      (s.failure = none ∧ r.collected ++ s.buffer = octetsOf result ++ s'.buffer ∨
        s.failure ≠ none ∧ octetsOf result = [] ∧ s' = s) := by
  unfold attempt at h
  split at h
  · next f hf =>
    cases h
    exact ⟨rfl, rfl, .inr ⟨by simp [hf], rfl, rfl⟩⟩
  · next hf =>
    cases r with
    | upTo n =>
      simp only at h
      split_ifs at h <;> cases h
      exact ⟨rfl, rfl, .inl ⟨hf, (List.take_append_drop n s.buffer).symm⟩⟩
    | exactly n =>
      simp only at h
      split_ifs at h <;> cases h
      · exact ⟨rfl, rfl, .inl ⟨hf, (List.take_append_drop n s.buffer).symm⟩⟩
      · exact ⟨rfl, rfl, .inl ⟨hf, (List.append_nil _).symm⟩⟩
    | toEnd bs =>
      simp only at h
      split_ifs at h <;> cases h
      exact ⟨rfl, rfl, .inl ⟨hf, (List.append_nil _).symm⟩⟩

/-- A read that has to wait has taken octets only if it is one for everything. -/
lemma attempt_waits {r r' : Reading} (h : s.attempt r = (.waits r', s')) :
    s'.waiting = s.waiting ∧ s'.failure = s.failure ∧ s.failure = none ∧
      r.collected ++ s.buffer = r'.collected ++ s'.buffer ∧
      (r.Bounded ∧ r' = r ∧ s' = s ∨
        ¬ r.Bounded ∧ ¬ r'.Bounded ∧ s.ended = false ∧ s'.buffer = []) := by
  unfold attempt at h
  split at h
  · cases h
  · next hf =>
    cases r with
    | upTo n =>
      simp only at h
      split_ifs at h <;> cases h
      exact ⟨rfl, rfl, hf, rfl, .inl ⟨trivial, rfl, rfl⟩⟩
    | exactly n =>
      simp only at h
      split_ifs at h <;> cases h
      exact ⟨rfl, rfl, hf, rfl, .inl ⟨trivial, rfl, rfl⟩⟩
    | toEnd bs =>
      simp only at h
      split_ifs at h with hended <;> cases h
      exact ⟨rfl, rfl, hf, (List.append_nil _).symm,
        .inr ⟨id, id, Bool.eq_false_iff.mpr hended, rfl⟩⟩

/-- What a read is told that would have to wait beside another one. -/
def refusal : Failure := .fault ⟨.state, "another read is waiting"⟩

section

variable (t : Ticket) {r r' : Reading} {w : Ticket × Reading} {result : Except Failure Bytes}

lemma startRead_of_done (h : s.attempt r = (.done result, s')) :
    s.startRead t r = ([(t, result)], s') := by
  simp only [startRead, h]

lemma startRead_of_waits (h : s.attempt r = (.waits r', s')) (hw : s.waiting = none) :
    s.startRead t r = ([], { s' with waiting := some (t, r') }) := by
  simp only [startRead, h, (attempt_waits h).1, hw]

lemma startRead_of_refused (h : s.attempt r = (.waits r', s')) (hw : s.waiting = some w) :
    s.startRead t r = ([(t, .error refusal)], s') := by
  simp only [startRead, h, (attempt_waits h).1, hw, refusal]

end

/-! ### The account -/

/-- What was given out comes first of what has arrived. As long as reads do not fail, the rest is
held by the read that waits, or else in the buffer. -/
structure Accounts (out arrived : Bytes) (s : Stream) : Prop where
  delivered : out <+: arrived
  whole : s.failure = none → out ++ (s.held ++ s.buffer) = arrived

namespace Accounts

lemma congr (h : s.Accounts out arrived) (hfailure : s'.failure = s.failure)
    (hheld : s'.held = s.held) (hbuffer : s'.buffer = s.buffer) : s'.Accounts out arrived := by
  refine ⟨h.delivered, fun hf => ?_⟩
  rw [hheld, hbuffer]
  exact h.whole (hfailure ▸ hf)

/-- A stream from which nobody reads has everything in its buffer. -/
lemma start (h : s.waiting = none) : s.Accounts [] s.buffer :=
  ⟨List.nil_prefix, fun _ => by rw [held_of_idle h, List.nil_append, List.nil_append]⟩

lemma of_whole (h : out ++ (s.held ++ s.buffer) = arrived) : s.Accounts out arrived :=
  ⟨⟨_, h⟩, fun _ => h⟩

lemma of_failed (h : out <+: arrived) (hfailure : s.failure ≠ none) : s.Accounts out arrived :=
  ⟨h, fun hf => absurd hf hfailure⟩

lemma feed (h : s.Accounts out arrived) (a : Arrival) :
    (s.feed a).Accounts out (arrived ++ a.octets) := by
  refine ⟨h.delivered.trans (List.prefix_append _ _), fun hf => ?_⟩
  cases a with
  | data bs =>
    rw [← h.whole hf]
    simp [held, Stream.feed, Arrival.octets]
  | ended =>
    rw [← h.whole hf]
    simp [held, Stream.feed, Arrival.octets]
  | failed f => cases hf

/-- What the waiting read gives out when it is served was held for it or came next. -/
lemma serve (h : s.Accounts out arrived) :
    s.serve.2.Accounts (out ++ given s.serve.1) arrived ∧ s.serve.2.Drained := by
  unfold Stream.serve
  cases hwaiting : s.waiting with
  | none =>
    refine ⟨by simpa using h, fun w hw => ?_⟩
    rw [hwaiting] at hw
    cases hw
  | some w =>
    obtain ⟨t, r⟩ := w
    have hheld : s.held = r.collected := held_of_waiting hwaiting
    simp only
    rcases hattempt : s.attempt r with ⟨result | r', s'⟩
    · obtain ⟨-, hfailure, ⟨hhealthy, hsame⟩ | ⟨hfailed, hnone, rfl⟩⟩ := attempt_done hattempt
      · refine ⟨of_whole ?_, nofun⟩
        rw [← h.whole hhealthy, hheld, hsame]
        simp [held]
      · refine ⟨of_failed ?_ (hfailure ▸ hfailed), nofun⟩
        rw [given_singleton, hnone, List.append_nil]
        exact h.delivered
    · obtain ⟨-, -, hhealthy, hsame, hbounded⟩ := attempt_waits hattempt
      refine ⟨of_whole ?_, ?_⟩
      · rw [← h.whole hhealthy, hheld, hsame]
        simp [held]
      · rintro _ ⟨⟩ hunbounded
        obtain ⟨hr, rfl, -⟩ | ⟨-, -, -, hempty⟩ := hbounded
        · exact absurd hr hunbounded
        · exact hempty

end Accounts

/-- The octets that a read takes out of the buffer although it is refused because another one
waits. -/
def lostTo (r : Reading) (s : Stream) : Bytes :=
  match r with
  | .toEnd _ => if s.waiting.isSome ∧ s.failure = none ∧ s.ended = false then s.buffer else []
  | _ => []

lemma lostTo_of_bounded {r : Reading} (h : r.Bounded) : s.lostTo r = [] := by
  cases r with
  | toEnd bs => exact h.elim
  | _ => rfl

lemma lostTo_of_done {r : Reading} {result : Except Failure Bytes}
    (h : s.attempt r = (.done result, s')) : s.lostTo r = [] := by
  cases r with
  | toEnd bs =>
    refine if_neg ?_
    rintro ⟨-, hhealthy, hended⟩
    simp [attempt, hhealthy, hended] at h
  | _ => rfl

lemma lostTo_of_idle (h : s.waiting = none) (r : Reading) : s.lostTo r = [] := by
  cases r with
  | toEnd bs => exact if_neg (by simp [h])
  | _ => rfl

/-- Either the waiting read holds octets or there are some in the buffer. -/
lemma Drained.held_append (h : s.Drained) : s.held ++ s.buffer = s.buffer ++ s.held := by
  cases hw : s.waiting with
  | none => simp [held_of_idle hw]
  | some w =>
    by_cases hbounded : w.2.Bounded
    · simp [held_of_waiting hw, Reading.collected_of_bounded hbounded]
    · simp [h w hw hbounded]

/-- Of the octets that a new read takes some are given out and the others are lost, or it waits. -/
lemma Accounts.startRead (h : s.Accounts out arrived) (hdrained : s.Drained) (t : Ticket)
    {r : Reading} (hr : r.collected = []) :
    (s.startRead t r).2.Accounts (out ++ (given (s.startRead t r).1 ++ s.lostTo r)) arrived ∧
      (s.startRead t r).2.Drained := by
  rcases hattempt : s.attempt r with ⟨result | r', s'⟩
  · rw [startRead_of_done t hattempt]
    obtain ⟨hwaiting, hfailure, ⟨hhealthy, hsame⟩ | ⟨hfailed, hnone, rfl⟩⟩ := attempt_done hattempt
    · rw [hr, List.nil_append] at hsame
      have hdrained' : s'.Drained := fun w hw hunbounded => by
        have hempty := hdrained w (hwaiting ▸ hw) hunbounded
        exact (List.append_eq_nil_iff.mp (hsame.symm.trans hempty)).2
      have hheld : s'.held = s.held := by rw [held, held, hwaiting]
      refine ⟨of_whole ?_, hdrained'⟩
      rw [given_singleton, lostTo_of_done hattempt, List.append_nil, hdrained'.held_append,
        ← h.whole hhealthy, hdrained.held_append, hheld, hsame]
      simp only [List.append_assoc]
    · refine ⟨of_failed ?_ hfailed, hdrained⟩
      rw [given_singleton, hnone, lostTo_of_done hattempt, List.append_nil, List.append_nil]
      exact h.delivered
  · obtain ⟨hwaiting, -, hhealthy, hsame, hbounded⟩ := attempt_waits hattempt
    rw [hr, List.nil_append] at hsame
    cases hw : s.waiting with
    | none =>
      have hnobody : s.held = [] := held_of_idle hw
      rw [startRead_of_waits t hattempt hw]
      refine ⟨of_whole ?_, ?_⟩
      · rw [← h.whole hhealthy, lostTo_of_idle hw, hnobody, hsame]
        simp [held]
      · rintro _ ⟨⟩ hunbounded
        obtain ⟨hr, rfl, -⟩ | ⟨-, -, -, hempty⟩ := hbounded
        · exact absurd hr hunbounded
        · exact hempty
    | some w =>
      rw [startRead_of_refused t hattempt hw]
      obtain ⟨hr, -, rfl⟩ | ⟨hr, -, hended, hempty⟩ := hbounded
      · rw [lostTo_of_bounded hr]
        exact ⟨by simpa [octetsOf, refusal] using h, hdrained⟩
      · -- What the refused read has taken out of the buffer does not come back.
        have hlost : s.lostTo r = s.buffer := by
          cases r with
          | toEnd bs => exact if_pos ⟨by simp [hw], hhealthy, hended⟩
          | _ => exact absurd trivial hr
        have hheld : s'.held = s.held := by rw [held, held, hwaiting]
        refine ⟨of_whole ?_, fun _ _ _ => hempty⟩
        rw [hlost, hempty, hheld, ← h.whole hhealthy, hdrained.held_append]
        simp [octetsOf, refusal]

/-! ### Who waits -/

lemma serve_written (s : Stream) : s.serve.2.written = s.written := by
  unfold serve
  split
  · rfl
  · next t r hw =>
    have hread := (s.attempt_readTo r).written_eq
    rcases hattempt : s.attempt r with ⟨result | r', s'⟩ <;> rw [hattempt] at hread <;> exact hread

lemma startRead_written (t : Ticket) (r : Reading) (s : Stream) :
    (s.startRead t r).2.written = s.written := by
  have hread := (s.attempt_readTo r).written_eq
  unfold startRead
  rcases hattempt : s.attempt r with ⟨result | r', s'⟩ <;> rw [hattempt] at hread
  · exact hread
  · simp only
    split <;> exact hread

/-- A read that waits goes on waiting if it is not done, as it was unless it is for everything. -/
lemma serve_waiting {t : Ticket} {r : Reading} (hw : s.waiting = some (t, r)) (hr : r.Bounded)
    (hdone : ∀ c ∈ s.serve.1, c.1 ≠ t) : s.serve.2.waiting = some (t, r) := by
  unfold serve at hdone ⊢
  simp only [hw] at hdone ⊢
  rcases hattempt : s.attempt r with ⟨result | r', s'⟩
  · simp [hattempt] at hdone
  · obtain ⟨-, -, -, -, ⟨-, rfl, -⟩ | ⟨hunbounded, -⟩⟩ := attempt_waits hattempt
    · rfl
    · exact absurd hr hunbounded

/-- A new read has its result at once, or it waits, for which nobody else may be waiting. -/
lemma startRead_waiting (t : Ticket) (r : Reading) (s : Stream) :
    (∃ result, (s.startRead t r).1 = [(t, result)]) ∧
        (s.startRead t r).2.waiting = s.waiting ∨
      (s.startRead t r).1 = [] ∧ s.waiting = none ∧
        ∃ r', (s.startRead t r).2.waiting = some (t, r') ∧ (r.Bounded → r'.Bounded) := by
  rcases hattempt : s.attempt r with ⟨result | r', s'⟩
  · rw [startRead_of_done t hattempt]
    exact .inl ⟨⟨result, rfl⟩, (attempt_done hattempt).1⟩
  · obtain ⟨hwaiting, -, -, -, hbounded⟩ := attempt_waits hattempt
    cases hw : s.waiting with
    | none =>
      rw [startRead_of_waits t hattempt hw]
      refine .inr ⟨rfl, rfl, r', rfl, ?_⟩
      obtain ⟨hr, rfl, -⟩ | ⟨hr, -⟩ := hbounded
      · exact id
      · exact fun h => absurd h hr
    | some w =>
      rw [startRead_of_refused t hattempt hw, hwaiting, hw]
      exact .inl ⟨⟨_, rfl⟩, rfl⟩

/-- A caller who gives up a read that left everything in the buffer takes nothing along. -/
lemma Accounts.abandon {t : Ticket} (h : s.Accounts out arrived)
    (hbounded : ∀ r, s.waiting = some (t, r) → r.Bounded) (habandon : s.abandon? t = some s') :
    s'.Accounts out arrived ∧ s'.waiting = none ∧ s'.written = s.written := by
  unfold abandon? at habandon
  split at habandon
  · next t' r hw =>
    split_ifs at habandon with ht
    cases habandon
    subst ht
    refine ⟨h.congr rfl ?_ rfl, rfl, rfl⟩
    rw [held_of_idle rfl, held_of_waiting hw, Reading.collected_of_bounded (hbounded r hw)]
  · cases habandon

end Stream

end Socks5
