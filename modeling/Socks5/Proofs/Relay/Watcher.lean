import Socks5.Proofs.Endpoint.Ending
import Socks5.Relay

/-!
# The watcher of a relay

As long as the watcher is at work the control connection is healthy, for otherwise the watcher
would have ended. It ends with the control connection, and then it has closed the endpoint; or
somebody who waits for the end of the relay gives up, and then it has not. `Answers` says whom an
operation leaves waiting, and `Follows` what it does to the watcher and to the endpoint.
-/

namespace Socks5

/-! ### Who is left waiting -/

section

variable {α : Type}

/-- Those who got nothing. -/
def unanswered (done : List (Completion α)) (ts : List Ticket) : List Ticket :=
  ts.filter (· ∉ done.map (·.1))

lemma mem_unanswered {done : List (Completion α)} {ts : List Ticket} {t : Ticket} :
    t ∈ unanswered done ts ↔ t ∈ ts ∧ t ∉ done.map (·.1) := by
  rw [unanswered, List.mem_filter, decide_eq_true_iff]

lemma unanswered_of_disjoint {done : List (Completion α)} {ts : List Ticket}
    (h : ∀ t ∈ ts, t ∉ done.map (·.1)) : unanswered done ts = ts :=
  List.filter_eq_self.mpr fun t ht => decide_eq_true (h t ht)

lemma unanswered_nil (ts : List Ticket) : unanswered ([] : List (Completion α)) ts = ts :=
  unanswered_of_disjoint fun _ _ => List.not_mem_nil

lemma unanswered_append (done done' : List (Completion α)) (ts : List Ticket) :
    unanswered (done ++ done') ts = unanswered done' (unanswered done ts) := by
  rw [unanswered, unanswered, unanswered, List.filter_filter]
  refine List.filter_congr fun t _ => ?_
  by_cases h : t ∈ done.map (·.1) <;> by_cases h' : t ∈ done'.map (·.1) <;>
    simp [List.map_append, h, h']

lemma unanswered_singleton (t : Ticket) (ts : List Ticket) (result : Except Failure α) :
    unanswered [(t, result)] ts = ts.filter (· ≠ t) := by
  refine List.filter_congr fun u _ => ?_
  simp

lemma unanswered_one {t : Ticket} {ts : List Ticket} (ht : t ∉ ts) (result : Except Failure α) :
    unanswered [(t, result)] ts = ts :=
  unanswered_of_disjoint fun u hu hut => by
    obtain rfl : u = t := by simpa using hut
    exact ht hu

lemma unanswered_last {t : Ticket} {ts : List Ticket} (ht : t ∉ ts) (result : Except Failure α) :
    unanswered [(t, result)] (ts ++ [t]) = ts := by
  have hlast : unanswered [(t, result)] [t] = [] := List.filter_eq_nil_iff.mpr (by simp)
  have hfirst := unanswered_one ht result
  rw [unanswered] at hlast hfirst ⊢
  rw [List.filter_append, hlast, hfirst, List.append_nil]

lemma unanswered_sublist (done : List (Completion α)) (ts : List Ticket) :
    (unanswered done ts).Sublist ts := List.filter_sublist

end

lemma received_tickets (done : List (Completion Bytes)) :
    (received done).map (·.1) = done.map (·.1) := by
  simp [received]

/-- Of those who wait for a datagram, or for the end, exactly those are left that got nothing. -/
structure Relay.Answers (waiting leaving : List Ticket) (done : List (Completion Outcome))
    (r : Relay) : Prop where
  waiting : r.endpoint.waiting = unanswered done waiting
  leaving : r.leaving = unanswered done leaving

namespace Relay

variable {lost disturbed : Prop} {r r' r'' : Relay} {waiting leaving : List Ticket}

lemma answers_nil (r : Relay) : r.Answers r.endpoint.waiting r.leaving [] :=
  ⟨(unanswered_nil _).symm, (unanswered_nil _).symm⟩

lemma Answers.trans {done done' : List (Completion Outcome)} (h : r.Answers waiting leaving done)
    (h' : r'.Answers r.endpoint.waiting r.leaving done') :
    r'.Answers waiting leaving (done ++ done') where
  waiting := by rw [h'.waiting, h.waiting, unanswered_append]
  leaving := by rw [h'.leaving, h.leaving, unanswered_append]

/-- Those who got something are the first of those who wait for a datagram. -/
lemma answers_of_tickets {done : List (Completion Bytes)} (hnodup : (waiting ++ leaving).Nodup)
    (htickets : done.map (·.1) ++ r.endpoint.waiting = waiting) (hleaving : r.leaving = leaving) :
    r.Answers waiting leaving (received done) := by
  obtain ⟨hwaiting, -, hapart⟩ := List.nodup_append.mp hnodup
  rw [← htickets] at hwaiting hapart ⊢
  obtain ⟨-, -, hrest⟩ := List.nodup_append.mp hwaiting
  refine ⟨?_, ?_⟩
  · have hfirst : unanswered (received done) (done.map (·.1)) = [] :=
      List.filter_eq_nil_iff.mpr fun t ht => by simpa [received_tickets] using ht
    rw [unanswered, List.filter_append, ← unanswered, ← unanswered, hfirst, List.nil_append]
    refine (unanswered_of_disjoint fun t ht hdone => ?_).symm
    rw [received_tickets] at hdone
    exact hrest t hdone t ht rfl
  · rw [hleaving]
    refine (unanswered_of_disjoint fun t ht hdone => ?_).symm
    rw [received_tickets] at hdone
    exact hapart t (List.mem_append_left _ hdone) t ht rfl

/-- Nobody waits twice afterwards who did not before. -/
lemma Answers.nodup {done : List (Completion Outcome)} (h : r.Answers waiting leaving done)
    (hnodup : (waiting ++ leaving).Nodup) : (r.endpoint.waiting ++ r.leaving).Nodup := by
  rw [h.waiting, h.leaving]
  exact hnodup.sublist ((unanswered_sublist done _).append (unanswered_sublist done _))

/-! ### What is left in order -/

/-- The endpoint is in order, and everybody goes on waiting who got nothing. -/
structure Tidy (waiting leaving : List Ticket) (done : List (Completion Outcome)) (r : Relay) :
    Prop where
  orderly : r.endpoint.Orderly
  answers : r.Answers waiting leaving done

lemma Tidy.trans {done done' : List (Completion Outcome)} (h : r.Tidy waiting leaving done)
    (h' : r'.Tidy r.endpoint.waiting r.leaving done') :
    r'.Tidy waiting leaving (done ++ done') :=
  ⟨h'.orderly, h.answers.trans h'.answers⟩

/-- Something has happened to the endpoint, and something may have been done to the rest. -/
lemma tidy_endpoint (hnodup : (waiting ++ r.leaving).Nodup) {e e' : DatagramEndpoint}
    {done : List (Completion Bytes)} (h : e.Moves lost waiting done e') (control : Stream)
    (watching : Bool) :
    Tidy waiting r.leaving (received done) { r with control, endpoint := e', watching } :=
  ⟨h.orderly, answers_of_tickets hnodup h.tickets rfl⟩

lemma tidy_receive (h : r.endpoint.Orderly) {t : Ticket}
    (hnodup : ((r.endpoint.waiting ++ [t]) ++ r.leaving).Nodup) :
    (r.receive t).2.Tidy (r.endpoint.waiting ++ [t]) r.leaving (r.receive t).1 := by
  unfold Relay.receive
  cases r.checkControl with
  | ok _ =>
    have hmoves : r.endpoint.Moves False _ _ _ := DatagramEndpoint.moves_receive h t
    exact tidy_endpoint hnodup hmoves r.control r.watching
  | error e =>
    -- The receiver has its answer at once and does not wait.
    obtain ⟨hwaiting, -, hapart⟩ := List.nodup_append.mp hnodup
    obtain ⟨-, -, hlast⟩ := List.nodup_append.mp hwaiting
    have ht : t ∉ r.endpoint.waiting := fun hmem => hlast t hmem t (List.mem_singleton_self t) rfl
    have ht' : t ∉ r.leaving := fun hmem =>
      hapart t (List.mem_append_right _ (List.mem_singleton_self t)) t hmem rfl
    exact ⟨h, (unanswered_last ht _).symm, (unanswered_one ht' _).symm⟩

lemma tidy_release (h : r.endpoint.Orderly) (hnodup : (r.endpoint.waiting ++ r.leaving).Nodup) :
    r.release.2.Tidy r.endpoint.waiting r.leaving r.release.1 := by
  unfold Relay.release
  split_ifs with hwatching
  · exact ⟨h, answers_nil r⟩
  · have htickets : (r.leaving.map fun t =>
        ((t, r.control.waitClosed.map fun _ => .ended) : Completion Outcome)).map (·.1) =
        r.leaving := (List.map_map ..).trans (List.map_id _)
    obtain ⟨-, -, hapart⟩ := List.nodup_append.mp hnodup
    refine ⟨h, ?_, ?_⟩
    · refine (unanswered_of_disjoint fun t ht hdone => ?_).symm
      rw [htickets] at hdone
      exact hapart t ht t hdone rfl
    · refine (List.filter_eq_nil_iff.mpr fun t ht => ?_).symm
      simp [htickets, ht]

lemma tidy_watch (h : r.endpoint.Orderly) (hnodup : (r.endpoint.waiting ++ r.leaving).Nodup) :
    r.watch.2.Tidy r.endpoint.waiting r.leaving r.watch.1 := by
  have hnothing (control : Stream) (watching : Bool) :
      Tidy r.endpoint.waiting r.leaving [] { r with control, watching } :=
    ⟨h, (unanswered_nil _).symm, (unanswered_nil _).symm⟩
  have hclose := (DatagramEndpoint.moves_close h trivial (some controlFault)).1
  unfold Relay.watch
  split_ifs
  · cases r.control.failure with
    | some f =>
      simp only
      split_ifs
      · exact tidy_endpoint hnodup hclose _ _
      · exact hnothing _ _
    | none =>
      simp only
      split_ifs
      · exact tidy_endpoint hnodup hclose _ _
      · exact hnothing _ _
  · exact ⟨h, answers_nil r⟩

lemma tidy_settle (h : r.endpoint.Orderly) (hnodup : (r.endpoint.waiting ++ r.leaving).Nodup) :
    r.settle.2.Tidy r.endpoint.waiting r.leaving r.settle.1 := by
  have hwatch := tidy_watch h hnodup
  exact hwatch.trans (tidy_release hwatch.orderly (hwatch.answers.nodup hnodup))

lemma tidy_waitClosed (h : r.endpoint.Orderly) {t : Ticket}
    (hnodup : (r.endpoint.waiting ++ (r.leaving ++ [t])).Nodup) :
    (r.waitClosed t).2.Tidy r.endpoint.waiting (r.leaving ++ [t]) (r.waitClosed t).1 :=
  tidy_release (r := { r with leaving := r.leaving ++ [t] }) h hnodup

/-- Whoever gives up has got his answer. -/
lemma tidy_abandon (h : r.endpoint.Orderly) (hnodup : (r.endpoint.waiting ++ r.leaving).Nodup)
    {t : Ticket} {done : List (Completion Outcome)} (habandon : r.abandon? t = some (done, r'))
    (f : Failure) : r'.Tidy r.endpoint.waiting r.leaving ((t, .error f) :: done) := by
  obtain ⟨-, -, hapart⟩ := List.nodup_append.mp hnodup
  unfold Relay.abandon? at habandon
  split_ifs at habandon with ht
  · let gone : Relay := { r with leaving := r.leaving.filter (· ≠ t), watching := false }
    have hgone : gone.Tidy r.endpoint.waiting r.leaving [(t, .error f)] :=
      ⟨h, (unanswered_one (fun hmem => hapart t hmem t ht rfl) _).symm,
        (unanswered_singleton t r.leaving _).symm⟩
    obtain ⟨rfl, rfl⟩ := Prod.mk.inj (Option.some.inj habandon)
    exact hgone.trans (tidy_release hgone.orderly (hgone.answers.nodup hnodup))
  · obtain ⟨e, he, heq⟩ := Option.map_eq_some_iff.mp habandon
    obtain ⟨rfl, rfl⟩ := Prod.mk.inj heq
    have hmoves : r.endpoint.Moves False (r.endpoint.waiting.filter (· ≠ t)) [] e :=
      DatagramEndpoint.moves_abandon h he
    exact ⟨hmoves.orderly, hmoves.tickets.trans (unanswered_singleton t _ _).symm,
      (unanswered_one ht _).symm⟩

/-! ### What happens to the watcher and the endpoint -/

/-- The watcher is at work only as long as the control connection is healthy. -/
def Attentive (r : Relay) : Prop :=
  r.watching = true → r.control.failure = none ∧ r.control.ended = false

/-- The watcher has closed the endpoint if it has ended. -/
def Minded (r : Relay) : Prop := r.watching = false → r.endpoint.port ≠ .opened

/-- An endpoint without a socket stays so and sends nothing. A watcher that has ended does not come
back, and without it the endpoint stays open unless its socket is lost. The watcher notices the end
of the control connection, and ends only after it has closed the endpoint, unless it was
disturbed. -/
structure Follows (lost disturbed : Prop) (r r' : Relay) : Prop where
  closed : r.endpoint.port ≠ .opened →
    r'.endpoint.port ≠ .opened ∧ r'.endpoint.sent = r.endpoint.sent
  deaf : r.watching = false →
    r'.watching = false ∧ (r.endpoint.port = .opened → lost ∨ r'.endpoint.port = .opened)
  attentive : r.Attentive → r'.Attentive
  minded : r.Minded → disturbed ∨ r'.Minded

lemma Follows.refl (r : Relay) : r.Follows lost disturbed r :=
  ⟨fun h => ⟨h, rfl⟩, fun h => ⟨h, .inr⟩, id, .inr⟩

lemma Follows.trans (h : r.Follows lost disturbed r') (h' : r'.Follows lost disturbed r'') :
    r.Follows lost disturbed r'' where
  closed := fun hclosed => by
    obtain ⟨hclosed', hsent⟩ := h.closed hclosed
    obtain ⟨hclosed'', hsent'⟩ := h'.closed hclosed'
    exact ⟨hclosed'', hsent'.trans hsent⟩
  deaf := fun hdeaf => by
    obtain ⟨hdeaf', hopened⟩ := h.deaf hdeaf
    obtain ⟨hdeaf'', hopened'⟩ := h'.deaf hdeaf'
    exact ⟨hdeaf'', fun hport => (hopened hport).elim .inl hopened'⟩
  attentive := h'.attentive ∘ h.attentive
  minded := fun hminded => (h.minded hminded).elim .inl h'.minded

lemma Follows.mono {lost' disturbed' : Prop} (h : r.Follows lost disturbed r')
    (hlost : lost → lost') (hdisturbed : disturbed → disturbed') :
    r.Follows lost' disturbed' r' where
  closed := h.closed
  deaf := fun hdeaf => ⟨(h.deaf hdeaf).1, fun hport => ((h.deaf hdeaf).2 hport).imp_left hlost⟩
  attentive := h.attentive
  minded := fun hminded => (h.minded hminded).imp_left hdisturbed

/-- Disturbing the watcher of a closed endpoint changes nothing. -/
lemma Follows.while_open (h : r.Follows lost disturbed r') :
    r.Follows lost (r.endpoint.port = .opened ∧ disturbed) r' where
  closed := h.closed
  deaf := h.deaf
  attentive := h.attentive
  minded := fun hminded => by
    by_cases hport : r.endpoint.port = .opened
    · exact (h.minded hminded).imp_left fun hdisturbed => ⟨hport, hdisturbed⟩
    · exact Or.inr fun _ => (h.closed hport).1

/-- What holds of a relay between two operations. -/
structure Sound (r : Relay) : Prop where
  orderly : r.endpoint.Orderly
  system : ∀ f ∈ r.control.failure, f.isSystem = true

/-- The control connection has come to an end that the watcher has to notice. -/
def ControlLost (r : Relay) : Prop :=
  r.control.ended = true ∨ ∃ f, r.control.failure = some f ∧ f.isSystem = true

/-- A watcher that ends only with the control connection has closed the endpoint by then. -/
lemma Attentive.port_of_controlLost (h : r.Attentive) (hminded : r.Minded)
    (hlost : r.ControlLost) : r.endpoint.port ≠ .opened := by
  refine hminded (Bool.eq_false_iff.mpr fun hwatching => ?_)
  obtain ⟨hfailure, hended⟩ := h hwatching
  obtain hend | ⟨f, hf, -⟩ := hlost
  · rw [hended] at hend
    cases hend
  · rw [hfailure] at hf
    cases hf

/-! ### The operations of a relay -/

/-- An operation has moved a relay. -/
structure Moves (lost disturbed : Prop) (r : Relay) (waiting leaving : List Ticket)
    (done : List (Completion Outcome)) (r' : Relay) : Prop where
  sound : r'.Sound
  answers : r'.Answers waiting leaving done
  follows : r.Follows lost disturbed r'

lemma Sound.onEndpoint (h : r.Sound) (hnodup : (waiting ++ r.leaving).Nodup)
    {f : DatagramEndpoint → List (Completion Bytes) × DatagramEndpoint}
    (hf : r.endpoint.Moves lost waiting (f r.endpoint).1 (f r.endpoint).2) :
    r.Moves lost disturbed waiting r.leaving (r.onEndpoint f).1 (r.onEndpoint f).2 where
  sound := ⟨hf.orderly, h.system⟩
  answers := answers_of_tickets hnodup hf.tickets rfl
  follows :=
    { closed := hf.closed
      deaf := fun hdeaf => ⟨hdeaf, hf.opened⟩
      attentive := id
      minded := fun hminded => .inr fun hdeaf => (hf.closed (hminded hdeaf)).1 }

lemma Sound.receive (h : r.Sound) {t : Ticket}
    (hnodup : ((r.endpoint.waiting ++ [t]) ++ r.leaving).Nodup) :
    r.Moves lost disturbed (r.endpoint.waiting ++ [t]) r.leaving (r.receive t).1
      (r.receive t).2 := by
  have htidy := tidy_receive h.orderly hnodup
  unfold Relay.receive at htidy ⊢
  cases hcheck : r.checkControl with
  | ok _ => exact h.onEndpoint hnodup (DatagramEndpoint.moves_receive h.orderly t)
  | error e =>
    rw [hcheck] at htidy
    exact ⟨h, htidy.answers, .refl r⟩

lemma sendTo_ok {payload : Bytes} {dest : Option Value} {n : Nat}
    (hsend : r.sendTo payload dest = .ok (n, r')) :
    ∃ bs e, r.endpoint.send bs = .ok e ∧ r' = { r with endpoint := e } := by
  simp only [Relay.sendTo, bind, Except.bind, pure, Except.pure] at hsend
  split at hsend
  · cases hsend
  split at hsend
  · cases hsend
  split at hsend
  · cases hsend
  · rename_i e he
    cases hsend
    exact ⟨_, e, he, rfl⟩

/-- Sending leaves everybody waiting. -/
lemma Sound.sendTo (h : r.Sound) (hnodup : (r.endpoint.waiting ++ r.leaving).Nodup)
    {payload : Bytes} {dest : Option Value} {n : Nat}
    (hsend : r.sendTo payload dest = .ok (n, r')) :
    r.Moves lost disturbed r.endpoint.waiting r.leaving [] r' := by
  obtain ⟨bs, e, he, rfl⟩ := sendTo_ok hsend
  exact h.onEndpoint (f := fun _ => ([], e)) hnodup (DatagramEndpoint.moves_send h.orderly he)

/-! ### The watcher -/

lemma Sound.release (h : r.Sound) (hnodup : (r.endpoint.waiting ++ r.leaving).Nodup) :
    r.Moves lost disturbed r.endpoint.waiting r.leaving r.release.1 r.release.2 := by
  have htidy := tidy_release h.orderly hnodup
  unfold Relay.release at htidy ⊢
  split_ifs at htidy ⊢
  · exact ⟨h, htidy.answers, .refl r⟩
  · exact ⟨⟨h.orderly, h.system⟩, htidy.answers, fun hclosed => ⟨hclosed, rfl⟩,
      fun hdeaf => ⟨hdeaf, .inr⟩, id, .inr⟩

/-- The watcher closes the endpoint and ends. -/
lemma moves_of_close (horderly : r.endpoint.Orderly)
    (hnodup : (r.endpoint.waiting ++ r.leaving).Nodup) {control : Stream}
    (hsystem : ∀ f ∈ control.failure, f.isSystem = true) (hwatching : r.watching = true) :
    r.Moves lost disturbed r.endpoint.waiting r.leaving
      (received (r.endpoint.close (some controlFault)).1)
      { r with
        control, endpoint := (r.endpoint.close (some controlFault)).2, watching := false } := by
  obtain ⟨hmoves, hport⟩ := DatagramEndpoint.moves_close horderly trivial (some controlFault)
  exact ⟨⟨hmoves.orderly, hsystem⟩, answers_of_tickets hnodup hmoves.tickets rfl,
    ⟨hmoves.closed, fun hdeaf => absurd hwatching (by simp [hdeaf]), fun _ h => (nomatch h),
      fun _ => .inr fun _ => hport⟩⟩

/-- Whatever has happened on the control connection, the watcher has taken notice of it. -/
lemma watch_moves (horderly : r.endpoint.Orderly)
    (hsystem : ∀ f ∈ r.control.failure, f.isSystem = true)
    (hnodup : (r.endpoint.waiting ++ r.leaving).Nodup) :
    r.Moves lost disturbed r.endpoint.waiting r.leaving r.watch.1 r.watch.2 := by
  unfold Relay.watch
  split_ifs with hwatching
  · cases hfailure : r.control.failure with
    | some f =>
      simp only [hsystem f hfailure, if_true]
      exact moves_of_close horderly hnodup hsystem hwatching
    | none =>
      simp only
      split_ifs with hended
      · exact moves_of_close horderly hnodup (by simp [hfailure]) hwatching
      · exact ⟨⟨horderly, hsystem⟩, ⟨(unanswered_nil _).symm, (unanswered_nil _).symm⟩,
          ⟨fun hclosed => ⟨hclosed, rfl⟩, fun hdeaf => ⟨hdeaf, .inr⟩, id, .inr⟩⟩
  · exact ⟨⟨horderly, hsystem⟩, answers_nil r, .refl r⟩

lemma watch_attentive (r : Relay) : r.watch.2.Attentive := by
  unfold Relay.watch
  split_ifs with hwatching
  · cases hfailure : r.control.failure with
    | some f =>
      simp only
      split_ifs <;> exact fun h => (nomatch h)
    | none =>
      simp only
      split_ifs with hended
      · exact fun h => (nomatch h)
      · exact fun _ => ⟨hfailure, Bool.eq_false_iff.mpr hended⟩
  · exact fun h => absurd h hwatching

lemma settle_attentive (r : Relay) : r.settle.2.Attentive := by
  have hrelease : ∀ r : Relay, r.Attentive → r.release.2.Attentive := fun r h => by
    unfold Relay.release
    split_ifs
    · exact h
    · exact h
  exact hrelease _ r.watch_attentive

/-- Whatever has happened on the control connection, the relay is sound once its work is done. -/
lemma settle_moves (horderly : r.endpoint.Orderly)
    (hsystem : ∀ f ∈ r.control.failure, f.isSystem = true)
    (hnodup : (r.endpoint.waiting ++ r.leaving).Nodup) :
    r.Moves lost disturbed r.endpoint.waiting r.leaving r.settle.1 r.settle.2 := by
  have hwatch : r.Moves lost disturbed _ _ r.watch.1 r.watch.2 :=
    watch_moves horderly hsystem hnodup
  have hrelease : r.watch.2.Moves lost disturbed _ _ r.watch.2.release.1 r.watch.2.release.2 :=
    hwatch.sound.release (hwatch.answers.nodup hnodup)
  exact ⟨hrelease.sound, hwatch.answers.trans hrelease.answers,
    hwatch.follows.trans hrelease.follows⟩

lemma Sound.feed (h : r.Sound) (hnodup : (r.endpoint.waiting ++ r.leaving).Nodup) {a : Arrival}
    (ha : ∀ f, a = .failed f → f.isSystem = true) :
    r.Moves lost disturbed r.endpoint.waiting r.leaving (r.feed a).1 (r.feed a).2 := by
  have hsystem : ∀ f ∈ (r.control.feed a).failure, f.isSystem = true := by
    cases a with
    | data bs => exact h.system
    | ended => exact h.system
    | failed f => exact fun f' hf' => Option.some.inj hf' ▸ ha f rfl
  have hsettle : Moves lost disturbed { r with control := r.control.feed a } _ _ _ _ :=
    settle_moves h.orderly hsystem hnodup
  exact ⟨hsettle.sound, hsettle.answers, ⟨hsettle.follows.closed, hsettle.follows.deaf,
    fun _ => settle_attentive _, hsettle.follows.minded⟩⟩

/-! ### Waiting for the end -/

lemma Sound.waitClosed (h : r.Sound) {t : Ticket}
    (hnodup : (r.endpoint.waiting ++ (r.leaving ++ [t])).Nodup) :
    r.Moves lost disturbed r.endpoint.waiting (r.leaving ++ [t]) (r.waitClosed t).1
      (r.waitClosed t).2 := by
  have hsound : Sound { r with leaving := r.leaving ++ [t] } := ⟨h.orderly, h.system⟩
  have hrelease : Moves lost disturbed { r with leaving := r.leaving ++ [t] } _ _ _ _ :=
    hsound.release hnodup
  exact ⟨hrelease.sound, hrelease.answers, ⟨hrelease.follows.closed, hrelease.follows.deaf,
    hrelease.follows.attentive, hrelease.follows.minded⟩⟩

/-- Whoever gives up disturbs the watcher if he was waiting for the end. -/
lemma Sound.abandon (h : r.Sound) (hnodup : (r.endpoint.waiting ++ r.leaving).Nodup) {t : Ticket}
    (hdisturbed : t ∈ r.leaving → disturbed) {done : List (Completion Outcome)}
    (habandon : r.abandon? t = some (done, r')) (f : Failure) :
    r.Moves lost disturbed r.endpoint.waiting r.leaving ((t, .error f) :: done) r' := by
  have htidy := tidy_abandon h.orderly hnodup habandon f
  unfold Relay.abandon? at habandon
  split_ifs at habandon with ht
  · obtain ⟨-, rfl⟩ := Prod.mk.inj (Option.some.inj habandon)
    exact ⟨⟨htidy.orderly, h.system⟩, htidy.answers, fun hclosed => ⟨hclosed, rfl⟩,
      fun _ => ⟨rfl, .inr⟩, fun _ h => (nomatch h), fun _ => .inl (hdisturbed ht)⟩
  · obtain ⟨e, he, heq⟩ := Option.map_eq_some_iff.mp habandon
    obtain ⟨-, rfl⟩ := Prod.mk.inj heq
    have hmoves : r.endpoint.Moves lost (r.endpoint.waiting.filter (· ≠ t)) [] e :=
      DatagramEndpoint.moves_abandon h.orderly he
    exact ⟨⟨htidy.orderly, h.system⟩, htidy.answers, hmoves.closed,
      fun hdeaf => ⟨hdeaf, hmoves.opened⟩, id,
      fun hminded => .inr fun hdeaf => (hmoves.closed (hminded hdeaf)).1⟩

/-- The watcher goes with whoever was waiting for the end and gives up; the endpoint is left as it
is. -/
lemma abandon_deafens {t : Ticket} (ht : t ∈ r.leaving) :
    ∃ done r', r.abandon? t = some (done, r') ∧ r'.watching = false ∧ r'.endpoint = r.endpoint := by
  unfold Relay.abandon?
  rw [if_pos ht]
  exact ⟨_, _, rfl, rfl, rfl⟩

end Relay

end Socks5
