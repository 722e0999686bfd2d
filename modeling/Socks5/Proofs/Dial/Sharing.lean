import Socks5.Proofs.Dial.Leftover
import Socks5.Proofs.Session.Guarded

/-!
# What a handshake does not see

`Line.cut` leaves only so many octets on a line, and two lines share them if they are the same with
these octets only. Reads of no more octets end in the same way at the same moment on both, writes do
so anyway, and so does a handshake that gets along with these octets.
-/

namespace Socks5

variable {α : Type}

/-! ### The first octets -/

/-- The arrivals with so many octets only. -/
def firstOctets : Nat → List (Nat × Arrival) → List (Nat × Arrival)
  | _, [] => []
  | n, (time, .data bs) :: rest =>
    if n = 0 then firstOctets 0 rest
    else (time, .data (bs.take n)) :: firstOctets (n - bs.length) rest
  | n, (time, .ended) :: rest => (time, .ended) :: firstOctets n rest
  | n, (time, .failed f) :: rest => (time, .failed f) :: firstOctets n rest

/-- When the arrivals come has nothing to do with it. -/
lemma firstOctets_map (opened : Nat) (arrivals : List (Nat × Arrival)) : ∀ n,
    firstOctets n (arrivals.map fun (time, a) => (opened + time, a)) =
      (firstOctets n arrivals).map fun (time, a) => (opened + time, a) := by
  induction arrivals with
  | nil => exact fun _ => rfl
  | cons event rest ih =>
    intro n
    obtain ⟨time, a⟩ := event
    cases a with
    | data bs =>
      simp only [List.map_cons, firstOctets]
      split_ifs
      · exact ih 0
      · exact congrArg _ (ih _)
    | ended => exact congrArg _ (ih n)
    | failed f => exact congrArg _ (ih n)

/-- No arrival comes at another time. -/
lemma later_of_firstOctets {now : Nat} (arrivals : List (Nat × Arrival)) : ∀ n,
    (∀ event ∈ arrivals, now < event.1) → ∀ event ∈ firstOctets n arrivals, now < event.1 := by
  induction arrivals with
  | nil => exact fun _ _ => nofun
  | cons event rest ih =>
    intro n h
    obtain ⟨hnow, hrest⟩ := List.forall_mem_cons.mp h
    obtain ⟨time, a⟩ := event
    cases a with
    | data bs =>
      simp only [firstOctets]
      split_ifs
      · exact ih 0 hrest
      · exact List.forall_mem_cons.mpr ⟨hnow, ih _ hrest⟩
    | ended => exact List.forall_mem_cons.mpr ⟨hnow, ih n hrest⟩
    | failed f => exact List.forall_mem_cons.mpr ⟨hnow, ih n hrest⟩

/-! ### Streams -/

namespace Stream

variable {s : Stream} {time : Nat} {a : Arrival} {rest : List (Nat × Arrival)}

/-- The stream with so many octets only in its buffer. -/
def cut (n : Nat) (s : Stream) : Stream := { s with buffer := s.buffer.take n }

/-- What arrives next is not one of the first octets, or else it arrives there as well. -/
lemma cut_cons (n : Nat) (s : Stream) (time : Nat) (a : Arrival) (rest : List (Nat × Arrival)) :
    (n ≤ s.buffer.length ∧ (s.feed a).cut n = s.cut n ∧
      firstOctets (n - s.buffer.length) ((time, a) :: rest) =
        firstOctets (n - (s.feed a).buffer.length) rest) ∨
    ∃ a', (s.cut n).feed a' = (s.feed a).cut n ∧
      firstOctets (n - s.buffer.length) ((time, a) :: rest) =
        (time, a') :: firstOctets (n - (s.feed a).buffer.length) rest := by
  cases a with
  | data bs =>
    by_cases hfull : n ≤ s.buffer.length
    · left
      have hnone : n - s.buffer.length = 0 := Nat.sub_eq_zero_of_le hfull
      have hnone' : n - (s.buffer ++ bs).length = 0 := by
        rw [List.length_append]
        omega
      refine ⟨hfull, ?_, ?_⟩
      · simp [cut, feed, List.take_append_of_le_length hfull]
      · simp only [firstOctets, feed, hnone, hnone', if_true]
    · right
      refine ⟨.data (bs.take (n - s.buffer.length)), ?_, ?_⟩
      · simp [cut, feed, List.take_append]
      · rw [firstOctets, if_neg (by omega), feed, List.length_append, Nat.sub_sub]
  | ended => exact .inr ⟨.ended, rfl, rfl⟩
  | failed f => exact .inr ⟨.failed f, rfl, rfl⟩

/-- A read of no more octets than are left does the same, or waits where nothing was cut. -/
lemma attempt_cut {k n : Nat} (hk : k ≤ n) (s : Stream) :
    (∃ f s₁ s₂, s.attempt (.exactly k) = (.done (.error f), s₁) ∧
      (s.cut n).attempt (.exactly k) = (.done (.error f), s₂)) ∨
    (∃ bs s', n - k - s'.buffer.length = n - s.buffer.length ∧
      s.attempt (.exactly k) = (.done (.ok bs), s') ∧
      (s.cut n).attempt (.exactly k) = (.done (.ok bs), s'.cut (n - k))) ∨
    (s.buffer.length < n ∧ s.cut n = s ∧ s.attempt (.exactly k) = (.waits (.exactly k), s)) := by
  cases hfailure : s.failure with
  | some f =>
    exact .inl ⟨.fault f, s, s.cut n, by simp [attempt, hfailure], by simp [attempt, cut, hfailure]⟩
  | none =>
    by_cases hthere : k ≤ s.buffer.length
    · refine .inr (.inl ⟨s.buffer.take k, { s with buffer := s.buffer.drop k }, ?_, ?_, ?_⟩)
      · simp only [List.length_drop]
        omega
      · simp [attempt, hfailure, hthere]
      · simp [attempt, cut, hfailure, hthere, hk, List.take_take, List.drop_take]
    · have hcut : s.cut n = s := by
        simp [cut, List.take_of_length_le (show s.buffer.length ≤ n by omega)]
      rw [hcut]
      cases hended : s.ended with
      | true =>
        have hshort : s.attempt (.exactly k) =
            (.done (.error (.incomplete s.buffer k)), { s with buffer := [] }) := by
          simp [attempt, hfailure, hthere, hended]
        exact .inl ⟨_, _, _, hshort, hshort⟩
      | false => exact .inr (.inr ⟨by omega, rfl, by simp [attempt, hfailure, hthere, hended]⟩)

/-- Writing does not look at what was read. -/
lemma write_cut (n : Nat) (out : Bytes) (s : Stream) :
    (s.cut n).write out = ((s.write out).1, (s.write out).2.cut n) := by
  obtain ⟨_, _, _, _, closed, _, plans, _, _⟩ := s
  cases closed with
  | true => rfl
  | false =>
    simp only [write, cut]
    cases (plans.headD {}).fault <;> rfl

/-- The input comes to its end once at most, and nothing comes behind that. -/
structure Orderly (s : Stream) (arrivals : List (Nat × Arrival)) : Prop where
  once : s.ended = false ∨ s.failure = none
  spent : s.Over → arrivals = []
  ends : EndsOnce arrivals
  ordered : arrivals.Pairwise (·.1 ≤ ·.1)

namespace Orderly

variable {s' : Stream} {arrivals : List (Nat × Arrival)}

lemma congr (h : s.Orderly arrivals) (hended : s'.ended = s.ended)
    (hfailure : s'.failure = s.failure) : s'.Orderly arrivals := by
  refine ⟨?_, ?_, h.ends, h.ordered⟩
  · rw [hended, hfailure]
    exact h.once
  · rw [Over, hended, hfailure]
    exact h.spent

lemma feed (h : s.Orderly ((time, a) :: rest)) : (s.feed a).Orderly rest := by
  obtain ⟨hended, hfailure⟩ : s.ended = false ∧ s.failure = none := by
    have hover : ¬ s.Over := fun hover => nomatch h.spent hover
    simpa [Over] using hover
  refine ⟨?_, fun hover => ?_, h.ends.tail, h.ordered.of_cons⟩
  · cases a with
    | failed f => exact .inl hended
    | _ => exact .inr hfailure
  · cases a with
    | data bs => simp [Over, Stream.feed, hended, hfailure] at hover
    | ended => exact h.ends.eq_nil rfl
    | failed f => exact h.ends.eq_nil rfl

lemma attempt (h : s.Orderly arrivals) (r : Reading) : (s.attempt r).2.Orderly arrivals := by
  rw [s.attempt_eq r]
  exact h.congr rfl rfl

lemma later (h : s.Orderly ((time, a) :: rest)) {now : Nat} (hnow : now < time) :
    ∀ event ∈ (time, a) :: rest, now < event.1 :=
  List.forall_mem_cons.mpr ⟨hnow, fun event hevent =>
    Nat.lt_of_lt_of_le hnow ((List.pairwise_cons.mp h.ordered).1 event hevent)⟩

end Orderly

end Stream

/-! ### Reading -/

namespace Line

variable {s : Stream} {now : Nat} {stop : Option (Nat × Failure)}

lemma await_cons_of_le {time : Nat} {a : Arrival} {rest : List (Nat × Arrival)} (r : Reading)
    (h : time ≤ now) :
    await stop r now s ((time, a) :: rest) = await stop r now (s.feed a) rest := by
  rw [await, if_pos h]

/-- What has not arrived is not needed. -/
lemma await_of_done {arrivals : List (Nat × Arrival)} {r : Reading} {result : Except Failure Bytes}
    {s' : Stream} (hlater : ∀ event ∈ arrivals, now < event.1)
    (hdone : s.attempt r = (.done result, s')) : await stop r now s arrivals =
      (match result with
        | .ok bs => .value bs
        | .error f => .failure f, now, s', arrivals) := by
  cases arrivals with
  | nil => cases result <;> simp [await, hdone]
  | cons event rest =>
    have htime : ¬ event.1 ≤ now := Nat.not_le.mpr (hlater event List.mem_cons_self)
    cases result <;> simp [await, htime, hdone]

lemma await_of_waits {time : Nat} {a : Arrival} {rest : List (Nat × Arrival)} {r : Reading}
    (hnow : now < time) (hwaits : s.attempt r = (.waits r, s)) :
    await stop r now s ((time, a) :: rest) =
      (match stop with
        | some (brk, f) =>
          if brk < time then (.failure f, max now brk, s, (time, a) :: rest)
          else await stop r time (s.feed a) rest
        | none => await stop r time (s.feed a) rest) := by
  rw [await, if_neg (Nat.not_le.mpr hnow)]
  cases stop <;> simp only [hwaits]

/-- Two reads end in the same way, and a value leaves the same but for octets that were cut. -/
def SameRead (n : Nat) (r r' : Ended Bytes × Nat × Stream × List (Nat × Arrival)) : Prop :=
  r'.1 = r.1 ∧ ∀ bs, r.1 = .value bs →
    r'.2 = (r.2.1, r.2.2.1.cut n, firstOctets (n - r.2.2.1.buffer.length) r.2.2.2)

/-- A read that does not have to wait does the same, and one that waits does so where nothing was
cut. -/
lemma await_cut_of_later {k n : Nat} (hk : k ≤ n) {arrivals : List (Nat × Arrival)}
    (hlater : ∀ event ∈ arrivals, now < event.1) :
    SameRead (n - k) (await stop (.exactly k) now s arrivals)
        (await stop (.exactly k) now (s.cut n) (firstOctets (n - s.buffer.length) arrivals)) ∨
      (s.buffer.length < n ∧ s.cut n = s ∧ s.attempt (.exactly k) = (.waits (.exactly k), s)) := by
  have hlater' := later_of_firstOctets arrivals (n - s.buffer.length) hlater
  obtain ⟨f, s₁, s₂, hs, hcut⟩ | ⟨bs, s', hlength, hs, hcut⟩ | hwaits := s.attempt_cut hk
  · left
    rw [await_of_done hlater hs, await_of_done hlater' hcut]
    exact ⟨rfl, fun _ h => by cases h⟩
  · left
    rw [await_of_done hlater hs, await_of_done hlater' hcut]
    exact ⟨rfl, fun _ _ => by rw [hlength]⟩
  · exact .inr hwaits

/-- A read of no more octets than are left does the same. -/
lemma await_cut {k n : Nat} (hk : k ≤ n) (arrivals : List (Nat × Arrival)) : ∀ (now : Nat)
    (s : Stream), s.Orderly arrivals → SameRead (n - k) (await stop (.exactly k) now s arrivals)
      (await stop (.exactly k) now (s.cut n) (firstOctets (n - s.buffer.length) arrivals)) := by
  induction arrivals with
  | nil =>
    intro now s _
    have hlater : ∀ event ∈ ([] : List (Nat × Arrival)), now < event.1 :=
      fun _ h => absurd h List.not_mem_nil
    obtain hsame | ⟨-, hcut, hwaits⟩ := await_cut_of_later hk hlater
    · exact hsame
    · simp only [firstOctets, hcut]
      refine ⟨rfl, fun bs hvalue => ?_⟩
      simp only [await, hwaits] at hvalue
      cases stop <;> cases hvalue
  | cons event rest ih =>
    intro now s horderly
    obtain ⟨time, a⟩ := event
    by_cases htime : time ≤ now
    · rw [await_cons_of_le _ htime]
      obtain ⟨-, hsame, hcut⟩ | ⟨a', hfeed, hcut⟩ := s.cut_cons n time a rest
      · rw [hcut, ← hsame]
        exact ih now _ horderly.feed
      · rw [hcut, await_cons_of_le _ htime, hfeed]
        exact ih now _ horderly.feed
    have hnow : now < time := Nat.not_le.mp htime
    obtain hsame | ⟨hshort, hcut, hwaits⟩ := await_cut_of_later hk (horderly.later hnow)
    · exact hsame
    · -- What the read waits for is one of the first octets.
      obtain ⟨hfull, -⟩ | ⟨a', hfeed, hfirst⟩ := s.cut_cons n time a rest
      · exact absurd hfull (Nat.not_le.mpr hshort)
      rw [hcut] at hfeed ⊢
      rw [hfirst, await_of_waits hnow hwaits, await_of_waits hnow hwaits, hfeed]
      cases stop with
      | none => exact ih time _ horderly.feed
      | some stop =>
        simp only
        split_ifs
        · exact ⟨rfl, fun _ h => by cases h⟩
        · exact ih time _ horderly.feed

end Line

/-! ### Lines -/

namespace Line

variable {l l' : Line} {n : Nat}

/-- The line with so many octets only, those that are there and those that arrive. -/
def cut (n : Nat) (l : Line) : Line :=
  { l with
    stream := l.stream.cut n
    arrivals := firstOctets (n - l.stream.buffer.length) l.arrivals }

/-- The input of the line comes to its end once at most, and nothing comes behind that. -/
def Orderly (l : Line) : Prop := l.stream.Orderly l.arrivals

/-- Two lines differ at most in what comes behind their first octets. -/
structure Shares (n : Nat) (l l' : Line) : Prop where
  left : l.Orderly
  right : l'.Orderly
  cut : l.cut n = l'.cut n

namespace Shares

lemma now_eq (h : l.Shares n l') : l.now = l'.now :=
  (congrArg Line.now h.cut :)

lemma cancelAt_eq (h : l.Shares n l') : l.cancelAt = l'.cancelAt :=
  (congrArg Line.cancelAt h.cut :)

lemma tell (h : l.Shares n l') (note : Note) : (l.tell note).Shares n (l'.tell note) :=
  ⟨h.left, h.right, congrArg (Line.tell note) h.cut⟩

lemma later (h : l.Shares n l') (now : Nat) : Shares n { l with now } { l' with now } :=
  ⟨h.left, h.right, congrArg (fun l : Line => { l with now }) h.cut⟩

end Shares

/-! ### What is done on a line -/

lemma read_cut {k : Nat} (hk : k ≤ n) (limit : Option Int) (h : l.Orderly) :
    ((l.cut n).read limit (.exactly k)).1 = (l.read limit (.exactly k)).1 ∧
      ∀ bs, (l.read limit (.exactly k)).1 = .value bs →
        ((l.cut n).read limit (.exactly k)).2 = (l.read limit (.exactly k)).2.cut (n - k) := by
  obtain ⟨hended, hvalue⟩ :=
    @await_cut (breakOff l.now limit l.cancelAt) k n hk l.arrivals l.now l.stream h
  unfold read
  split_ifs
  · exact ⟨rfl, nofun⟩
  · refine ⟨hended, fun bs hbs => ?_⟩
    exact congrArg (fun left : Nat × Stream × List (Nat × Arrival) =>
      { l with now := left.1, stream := left.2.1, arrivals := left.2.2 }) (hvalue bs hbs)

lemma read_orderly (limit : Option Int) (r : Reading) (h : l.Orderly) :
    (l.read limit r).2.Orderly := by
  unfold read
  split_ifs
  · exact h
  · exact await_induct Stream.Orderly.feed (fun r h => h.attempt r) _ _ r l.now l.stream h

lemma write_orderly (limit : Option Int) (out : Bytes) (h : l.Orderly) :
    (l.write limit out).2.Orderly := by
  have hwritten : (l.stream.write out).2.Orderly l.arrivals := by
    obtain ⟨_, _, hstream⟩ := l.stream.write_leaves out
    rw [hstream]
    exact h.congr rfl rfl
  by_cases hlimit : runOut limit
  · rw [write_of_runOut hlimit]
    exact h
  rcases hwrite : l.stream.write out with ⟨f | ⟨delay, fault⟩, stream⟩ <;> rw [hwrite] at hwritten
  · rw [write_of_error hlimit hwrite]
    exact hwritten
  · rw [write_of_ok hlimit hwrite]
    exact hwritten

lemma write_cut (n : Nat) (limit : Option Int) (out : Bytes) (l : Line) :
    (l.cut n).write limit out = ((l.write limit out).1, (l.write limit out).2.cut n) := by
  have hbuffer := l.stream.write_buffer out
  have hcut : (l.cut n).stream.write out = _ := l.stream.write_cut n out
  by_cases hlimit : runOut limit
  · rw [write_of_runOut hlimit, write_of_runOut hlimit]
  rcases hwrite : l.stream.write out with ⟨f | ⟨delay, fault⟩, stream⟩ <;>
    simp only [hwrite] at hcut hbuffer
  · rw [write_of_error hlimit hwrite, write_of_error hlimit hcut]
    simp only [cut, hbuffer]
  · rw [write_of_ok hlimit hwrite, write_of_ok hlimit hcut]
    simp only [cut, hbuffer]

lemma catchUp_cons_of_le {time : Nat} {a : Arrival} {rest : List (Nat × Arrival)}
    (harrivals : l.arrivals = (time, a) :: rest) (h : time ≤ l.now) :
    l.catchUp = Line.catchUp { l with stream := l.stream.feed a, arrivals := rest } := by
  simp [catchUp, harrivals, h]

lemma catchUp_of_later (h : ∀ event ∈ l.arrivals, l.now < event.1) : l.catchUp = l := by
  obtain ⟨now, cancelAt, stream, arrivals, notes⟩ := l
  cases arrivals with
  | nil => rfl
  | cons event rest =>
    have hnow : ¬ event.1 ≤ now := Nat.not_le.mpr (h event List.mem_cons_self)
    simp [catchUp, hnow]

/-- Cutting a line and taking in what has arrived do not depend on their order. -/
lemma catchUp_cut (n : Nat) (arrivals : List (Nat × Arrival)) : ∀ {l : Line},
    l.arrivals = arrivals → l.Orderly →
      l.catchUp.Orderly ∧ (l.cut n).catchUp = l.catchUp.cut n := by
  have hlater {l : Line} (h : l.Orderly) (hl : ∀ event ∈ l.arrivals, l.now < event.1) :
      l.catchUp.Orderly ∧ (l.cut n).catchUp = l.catchUp.cut n := by
    rw [catchUp_of_later hl, catchUp_of_later (later_of_firstOctets _ _ hl)]
    exact ⟨h, rfl⟩
  induction arrivals with
  | nil =>
    intro l harrivals h
    exact hlater h (by simp [harrivals])
  | cons event rest ih =>
    intro l harrivals h
    obtain ⟨time, a⟩ := event
    have hall : l.stream.Orderly ((time, a) :: rest) := harrivals ▸ h
    by_cases htime : time ≤ l.now
    · obtain ⟨horderly, hcut⟩ :=
        @ih { l with stream := l.stream.feed a, arrivals := rest } rfl hall.feed
      rw [catchUp_cons_of_le harrivals htime]
      refine ⟨horderly, Eq.trans ?_ hcut⟩
      obtain ⟨-, hsame, hfirst⟩ | ⟨a', hfeed, hfirst⟩ := l.stream.cut_cons n time a rest
      · simp only [cut, harrivals, hfirst, hsame]
      · rw [← harrivals] at hfirst
        rw [catchUp_cons_of_le (l := l.cut n) hfirst htime]
        simp only [cut, hfeed]
    · exact hlater h (harrivals ▸ hall.later (Nat.not_le.mp htime))

namespace Shares

lemma read {k : Nat} (h : l.Shares n l') (hk : k ≤ n) (limit : Option Int) :
    (l.read limit (.exactly k)).1 = (l'.read limit (.exactly k)).1 ∧
      ∀ bs, (l.read limit (.exactly k)).1 = .value bs →
        (l.read limit (.exactly k)).2.Shares (n - k) (l'.read limit (.exactly k)).2 := by
  obtain ⟨hended, hleft⟩ := read_cut hk limit h.left
  obtain ⟨hended', hleft'⟩ := read_cut hk limit h.right
  rw [← h.cut] at hended' hleft'
  have hsame := hended.symm.trans hended'
  refine ⟨hsame, fun bs hbs => ⟨read_orderly _ _ h.left, read_orderly _ _ h.right, ?_⟩⟩
  rw [← hleft bs hbs, ← hleft' bs (hsame.symm.trans hbs)]

lemma write (h : l.Shares n l') (limit : Option Int) (out : Bytes) :
    (l.write limit out).1 = (l'.write limit out).1 ∧
      (l.write limit out).2.Shares n (l'.write limit out).2 := by
  have hwrite := l.write_cut n limit out
  rw [h.cut, l'.write_cut n limit out] at hwrite
  obtain ⟨hended, hleft⟩ := Prod.mk.inj hwrite
  exact ⟨hended.symm, write_orderly _ _ h.left, write_orderly _ _ h.right, hleft.symm⟩

lemma catchUp (h : l.Shares n l') : l.catchUp.Shares n l'.catchUp := by
  obtain ⟨hleft, hcut⟩ := catchUp_cut n _ rfl h.left
  obtain ⟨hright, hcut'⟩ := catchUp_cut n _ rfl h.right
  exact ⟨hleft, hright, hcut.symm.trans ((congrArg Line.catchUp h.cut).trans hcut')⟩

end Shares

end Line

/-! ### The handshake -/

/-- A handshake that comes to a value has read some octets, and does so on every line that shares
them. -/
lemma Handshake.run_shares {step deadline : Option Int} (h : Handshake α) :
    ∀ {l : Line} {a : α}, (h.run step deadline l).1 = .value a →
      ∃ used, l.coming = used ++ (h.run step deadline l).2.coming ∧
        ∀ {n : Nat} {l' : Line}, used.length ≤ n → l.Shares n l' →
          (h.run step deadline l').1 = .value a ∧
            (h.run step deadline l).2.Shares (n - used.length) (h.run step deadline l').2 := by
  induction h with
  | done a => exact fun hvalue => ⟨[], rfl, fun _ hshares => ⟨hvalue, hshares⟩⟩
  | fail e => exact fun hvalue => nomatch hvalue
  | note note next ih =>
    intro l a hvalue
    obtain ⟨used, hcoming, hsame⟩ := ih hvalue
    exact ⟨used, hcoming, fun hn hshares => hsame hn (hshares.tell note)⟩
  | send request out next ih =>
    intro l a hvalue
    rw [run_send] at hvalue ⊢
    obtain ⟨_, hwrite, hnext⟩ := Ended.andThen_value hvalue
    obtain ⟨used, hcoming, hsame⟩ := ih hnext
    rw [Ended.andThen_of_value hwrite]
    refine ⟨used, (l.write_coming _ out).symm.trans hcoming, fun {n l'} hn hshares => ?_⟩
    obtain ⟨hended, hleft⟩ := hshares.write (limitAt step deadline l.now) out
    rw [run_send, ← hshares.now_eq, Ended.andThen_of_value (hended.symm.trans hwrite)]
    exact hsame hn hleft
  | receive part count next ih =>
    intro l a hvalue
    rw [run_receive] at hvalue ⊢
    obtain ⟨bs, hread, hnext⟩ := Ended.andThen_value hvalue
    obtain ⟨used, hcoming, hsame⟩ := ih bs hnext
    obtain ⟨hlength, htaken⟩ := Line.read_takes hread
    rw [Ended.andThen_of_value hread]
    refine ⟨bs ++ used, ?_, fun {n l'} hn hshares => ?_⟩
    · rw [List.append_assoc, ← hcoming, htaken]
    · rw [List.length_append, hlength] at hn ⊢
      obtain ⟨hended, hleft⟩ :=
        hshares.read (Nat.le_of_add_right_le hn) (limitAt step deadline l.now)
      rw [run_receive, ← hshares.now_eq, Ended.andThen_of_value (hended.symm.trans hread),
        ← Nat.sub_sub]
      exact hsame (Nat.le_sub_of_add_le' hn) (hleft bs hread)

end Socks5
