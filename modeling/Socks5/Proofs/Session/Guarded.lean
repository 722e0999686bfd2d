import Socks5.Proofs.Session.Quiet

/-!
# What becomes of a relay whose control connection ends once

The control connection of a relay comes to its end once, and nothing comes behind that. `Guarded`
says so of a session in use: either the watcher is at work, or the connection is closed on this
side, or it has come to its end. Nothing that callers or the network do fairly spoils it.
-/

namespace Socks5

/-! ### The watcher and the end -/

/-- Nothing more can come of the input. -/
def Stream.Over (s : Stream) : Prop := s.ended = true ∨ s.failure ≠ none

namespace Relay

variable {settled : Prop} {r r' : Relay}

/-- The watcher is at work, or the control connection is closed on this side, or it has come to its
end, which happens once. Who waits for the end is gone with the watcher, and when all is settled
the watcher has not missed anything. -/
structure Watched (settled : Prop) (r : Relay) : Prop where
  released : r.watching = false → r.leaving = []
  guarded : r.watching = true ∨ r.control.closed = true ∨ r.control.Over
  once : r.control.ended = false ∨ r.control.failure = none
  drained : r.watching = true ∨ r.control.closed = true ∨ r.control.ended = false ∨
    r.control.buffer = []
  attentive : settled → r.Attentive

namespace Watched

lemma congr (h : r.Watched settled) (hcontrol : r'.control = r.control)
    (hwatching : r'.watching = r.watching) (hleaving : r'.leaving = r.leaving) :
    r'.Watched settled := by
  constructor
  · rw [hwatching, hleaving]
    exact h.released
  · rw [hwatching, hcontrol]
    exact h.guarded
  · rw [hcontrol]
    exact h.once
  · rw [hwatching, hcontrol]
    exact h.drained
  · rw [Attentive, hwatching, hcontrol]
    exact h.attentive

/-- Whoever uses the relay sees the same end of the control connection. -/
lemma heard (h : r.Watched True) : r.Heard := by
  have hend : r.control.closed = true ∨ r.quiet.control.atEnd = r.control.atEnd := by
    have hattentive := h.attentive trivial
    obtain hwatching | hclosed | hended | hbuffer := h.drained
    · obtain ⟨-, hended⟩ := hattentive hwatching
      exact .inr (by simp [quiet, Stream.quiet, Stream.atEnd, hended])
    · exact .inl hclosed
    · exact .inr (by simp [quiet, Stream.quiet, Stream.atEnd, hended])
    · exact .inr (by simp [quiet, Stream.quiet, Stream.atEnd, hbuffer])
  have hclosed : r.quiet.control.closed = r.control.closed := rfl
  unfold Heard checkControl
  rw [hclosed]
  obtain hclosed | hend := hend
  · rw [hclosed, Bool.true_or, Bool.true_or]
  · rw [hend]

/-- The watcher does its work, and nobody waits for the end without him. -/
lemma settle (hguarded : r.watching = true ∨ r.control.closed = true ∨ r.control.Over)
    (honce : r.control.ended = false ∨ r.control.failure = none)
    (hdrained : r.watching = true ∨ r.control.closed = true ∨ r.control.ended = false ∨
      r.control.buffer = []) : r.settle.2.Watched settled := by
  obtain ⟨⟨buffer, ended, failure, _, closed, _, _, _, _⟩, endpoint, fixed, watching, leaving⟩ := r
  cases watching with
  | false => exact ⟨fun _ => rfl, hguarded, honce, hdrained, fun _ h => absurd h Bool.false_ne_true⟩
  | true =>
    cases failure with
    | some f =>
      have hended : ended = false := honce.resolve_right (by simp)
      subst hended
      cases hf : f.isSystem <;> simp only [Relay.settle, watch, hf, release] <;>
        exact ⟨fun _ => rfl, .inr (.inr (.inr (by simp))), .inl rfl, .inr (.inr (.inl rfl)),
          fun _ h => absurd h Bool.false_ne_true⟩
    | none =>
      cases ended with
      | false =>
        exact ⟨fun h => absurd h.symm Bool.false_ne_true, .inl rfl, .inl rfl, .inl rfl,
          fun _ _ => ⟨rfl, rfl⟩⟩
      | true =>
        exact ⟨fun _ => rfl, .inr (.inr (.inl rfl)), .inr rfl, .inr (.inr (.inr rfl)),
          fun _ h => absurd h Bool.false_ne_true⟩

/-- What arrives on the control connection is noticed. -/
lemma feed (h : r.Watched settled) (hover : ¬ r.control.Over) (a : Arrival) :
    (r.feed a).2.Watched True := by
  have hattended : r.watching = true ∨ r.control.closed = true :=
    h.guarded.imp_right fun hrest => hrest.resolve_right hover
  obtain ⟨hended, hfailure⟩ : r.control.ended = false ∧ r.control.failure = none := by
    simpa [Stream.Over] using hover
  refine settle ?_ ?_ ?_
  · obtain hwatching | hclosed := hattended
    · exact .inl hwatching
    · refine .inr (.inl ?_)
      cases a <;> exact hclosed
  · cases a with
    | failed f => exact .inl hended
    | _ => exact .inr hfailure
  · obtain hwatching | hclosed := hattended
    · exact .inl hwatching
    · refine .inr (.inl ?_)
      cases a <;> exact hclosed

/-- Octets are thrown away, or else nobody looks. -/
lemma feed_data (h : r.Watched settled) (hover : ¬ r.control.Over) (bs : Bytes) :
    (r.feed (.data bs)).1 = [] ∧ (r.feed (.data bs)).2.quiet = r.quiet := by
  obtain ⟨⟨buffer, ended, failure, _, closed, _, _, _, _⟩, endpoint, fixed, watching, leaving⟩ := r
  obtain ⟨rfl, rfl⟩ : ended = false ∧ failure = none := by simpa [Stream.Over] using hover
  cases watching with
  | true => exact ⟨rfl, rfl⟩
  | false =>
    obtain rfl : leaving = [] := h.released rfl
    exact ⟨rfl, rfl⟩

lemma close (h : r.Watched settled) : r.close.2.Watched True :=
  ⟨fun _ => rfl, .inr (.inl rfl), h.once, .inr (.inl rfl), fun _ => nofun⟩

lemma waitClosed (h : r.Watched settled) (t : Ticket) : (r.waitClosed t).2.Watched settled := by
  obtain ⟨control, endpoint, fixed, watching, leaving⟩ := r
  cases watching with
  | true => exact ⟨nofun, h.guarded, h.once, h.drained, h.attentive⟩
  | false => exact ⟨fun _ => rfl, h.guarded, h.once, h.drained, h.attentive⟩

lemma closeControl (h : r.Watched settled) :
    Relay.Watched settled { r with control := r.control.close } :=
  ⟨h.released, .inr (.inl rfl), h.once, .inr (.inl rfl), h.attentive⟩

end Watched

/-- The watcher only reads, and nobody comes to wait. -/
lemma settle_keeps (r : Relay) : (∃ buffer, r.settle.2.control = { r.control with buffer }) ∧
    ∀ t ∈ r.settle.2.leaving, t ∈ r.leaving := by
  obtain ⟨⟨buffer, ended, failure, _, _, _, _, _, _⟩, endpoint, fixed, watching, leaving⟩ := r
  cases watching with
  | false => exact ⟨⟨buffer, rfl⟩, fun _ h => absurd h List.not_mem_nil⟩
  | true =>
    cases failure with
    | some f =>
      cases hf : f.isSystem <;> simp only [settle, watch, hf, release] <;>
        exact ⟨⟨buffer, rfl⟩, by simp⟩
    | none =>
      cases ended with
      | false => exact ⟨⟨[], rfl⟩, fun _ => id⟩
      | true => exact ⟨⟨[], rfl⟩, fun _ h => absurd h List.not_mem_nil⟩

lemma feed_leaving (a : Arrival) (r : Relay) : ∀ t ∈ (r.feed a).2.leaving, t ∈ r.leaving :=
  (settle_keeps { r with control := r.control.feed a }).2

lemma over_of_feed {a : Arrival} (h : (r.feed a).2.control.Over) : (r.control.feed a).Over := by
  obtain ⟨buffer, hcontrol⟩ := (settle_keeps { r with control := r.control.feed a }).1
  change ({ r with control := r.control.feed a } : Relay).settle.2.control.Over at h
  rw [hcontrol] at h
  exact h

end Relay

/-! ### Sessions without surprises -/

/-- Only the last of the arrivals may be something else than octets. -/
def EndsOnce (arrivals : List (Nat × Arrival)) : Prop :=
  ∀ a ∈ arrivals.dropLast, a.2.isData = true

instance : DecidablePred EndsOnce := fun arrivals =>
  inferInstanceAs (Decidable (∀ a ∈ arrivals.dropLast, a.2.isData = true))

namespace EndsOnce

variable {a : Nat × Arrival} {arrivals : List (Nat × Arrival)}

lemma cons (h : EndsOnce arrivals) (ha : a.2.isData = true) : EndsOnce (a :: arrivals) := by
  cases arrivals with
  | nil => exact nofun
  | cons b rest =>
    rw [EndsOnce, List.dropLast_cons_cons]
    rintro c (_ | ⟨_, hc⟩)
    · exact ha
    · exact h c hc

lemma tail (h : EndsOnce (a :: arrivals)) : EndsOnce arrivals := by
  cases arrivals with
  | nil => exact nofun
  | cons b rest =>
    rw [EndsOnce, List.dropLast_cons_cons] at h
    exact fun b hb => h b (List.mem_cons_of_mem a hb)

lemma eq_nil (h : EndsOnce (a :: arrivals)) (ha : a.2.isData = false) : arrivals = [] := by
  cases arrivals with
  | nil => rfl
  | cons b rest =>
    rw [EndsOnce, List.dropLast_cons_cons] at h
    have hdata := h a List.mem_cons_self
    rw [ha] at hdata
    cases hdata

end EndsOnce

namespace Session

variable {settled : Prop} {next t : Ticket} {due : List (Nat × Arrival)} {s s' : Session}
  {r r' : Relay}

/-- The session is about such a relay, and nothing comes behind the end of the control connection.
The callers have their own numbers, and nobody waits for the end with a time limit. -/
structure Guarded (settled : Prop) (next : Ticket) (due : List (Nat × Arrival)) (r : Relay)
    (s : Session) : Prop where
  connection : s.connection = .relay r
  watched : r.Watched settled
  spent : r.control.Over → due ++ s.arrivals = []
  ends : EndsOnce (due ++ s.arrivals)
  ordered : s.arrivals.Pairwise (·.1 ≤ ·.1)
  pending : ∀ p ∈ s.pending, p.ticket < next
  leaving : ∀ t ∈ r.leaving, t < next
  limited : ∀ p ∈ s.pending, p.deadline ≠ none → p.ticket ∉ r.leaving

namespace Guarded

lemma congr (h : s.Guarded settled next due r) (hconnection : s'.connection = s.connection)
    (harrivals : s'.arrivals = s.arrivals) (hpending : s'.pending = s.pending) :
    s'.Guarded settled next due r where
  connection := hconnection.trans h.connection
  watched := h.watched
  spent := harrivals ▸ h.spent
  ends := harrivals ▸ h.ends
  ordered := harrivals ▸ h.ordered
  pending := hpending ▸ h.pending
  leaving := h.leaving
  limited := hpending ▸ h.limited

/-- Whatever has become of the relay. -/
lemma become {settled' : Prop} (h : s.Guarded settled next due r) (hwatched : r'.Watched settled')
    (hover : r'.control.Over → r.control.Over) (hleaving : ∀ t ∈ r'.leaving, t ∈ r.leaving) :
    Guarded settled' next due r' { s with connection := .relay r' } where
  connection := rfl
  watched := hwatched
  spent := fun hr => h.spent (hover hr)
  ends := h.ends
  ordered := h.ordered
  pending := h.pending
  leaving t ht := h.leaving t (hleaving t ht)
  limited p hp hdeadline hmem := h.limited p hp hdeadline (hleaving _ hmem)

lemma become_endpoint (h : s.Guarded settled next due r) (e : DatagramEndpoint) :
    Guarded settled next due { r with endpoint := e }
      { s with connection := .relay { r with endpoint := e } } := by
  have hwatched : Relay.Watched settled { r with endpoint := e } := h.watched.congr rfl rfl rfl
  exact h.become hwatched id fun _ => id

lemma finish (h : s.Guarded settled next due r) (done : List (Completion Outcome)) :
    (Session.finish done s).2.Guarded settled next due r where
  connection := h.connection
  watched := h.watched
  spent := h.spent
  ends := h.ends
  ordered := h.ordered
  pending p hp := h.pending p (List.mem_filter.mp hp).1
  leaving := h.leaving
  limited p hp := h.limited p (List.mem_filter.mp hp).1

lemma mono (h : s.Guarded settled next due r) (hnext : next ≤ t) : s.Guarded settled t due r :=
  ⟨h.connection, h.watched, h.spent, h.ends, h.ordered,
    fun p hp => Nat.lt_of_lt_of_le (h.pending p hp) hnext,
    fun u hu => Nat.lt_of_lt_of_le (h.leaving u hu) hnext, h.limited⟩

/-! ### Events -/

/-- What arrives on the control connection next. -/
lemma onControl {a : Nat × Arrival} (h : s.Guarded settled next (a :: due) r) :
    ∃ r', (s.onControl a.2).2.Guarded settled next due r' := by
  have hover : ¬ r.control.Over := fun hover => nomatch h.spent hover
  have hwatched := h.watched.feed hover a.2
  refine ⟨(r.feed a.2).2, ?_⟩
  have hperform : s.onControl a.2 =
      Session.finish (r.feed a.2).1 { s with connection := .relay (r.feed a.2).2 } := by
    simp only [Session.onControl, h.connection]
  rw [hperform]
  exact {
    connection := rfl
    watched := ⟨hwatched.released, hwatched.guarded, hwatched.once, hwatched.drained,
      fun _ => hwatched.attentive trivial⟩
    spent := fun hover' => by
      refine h.ends.eq_nil ?_
      cases ha : a.2 with
      | data bs =>
        have hsame := Relay.over_of_feed hover'
        rw [ha] at hsame
        exact absurd hsame hover
      | _ => rfl
    ends := h.ends.tail
    ordered := h.ordered
    pending := fun p hp => h.pending p (List.mem_filter.mp hp).1
    leaving := fun t ht => h.leaving t (Relay.feed_leaving a.2 r t ht)
    limited := fun p hp hdeadline hmem =>
      h.limited p (List.mem_filter.mp hp).1 hdeadline (Relay.feed_leaving a.2 r _ hmem) }

/-- Octets on the control connection change nothing. -/
lemma onControl_data (h : s.Guarded settled next due r) (hover : ¬ r.control.Over) (bs : Bytes) :
    (s.onControl (.data bs)).1 = [] ∧ (s.onControl (.data bs)).2.quiet = s.quiet := by
  obtain ⟨hnone, hquiet⟩ := h.watched.feed_data hover bs
  simp only [Session.onControl, h.connection, hnone]
  refine ⟨rfl, ?_⟩
  rw [quiet_of_relay h.connection]
  simp [Session.finish, Session.quiet, hquiet]

lemma onEndpoint (h : s.Guarded settled next due r)
    (f : DatagramEndpoint → List (Completion Bytes) × DatagramEndpoint) :
    ∃ r', (s.onEndpoint f).2.Guarded settled next due r' ∧ r'.leaving = r.leaving := by
  simp only [Session.onEndpoint, h.connection]
  exact ⟨_, (h.become_endpoint _).finish _, rfl⟩

/-- Somebody gives up who does not wait for the end. -/
lemma abandon (h : s.Guarded settled next due r) {t : Ticket} (ht : t ∉ r.leaving) (f : Failure) :
    ∃ r', (s.abandon t f).2.Guarded settled next due r' ∧ r'.leaving = r.leaving := by
  unfold Session.abandon
  split_ifs
  · exact ⟨r, (h.finish _).congr rfl rfl rfl, rfl⟩
  simp only [h.connection, Relay.abandon?, ht, if_false]
  cases r.endpoint.abandon? t with
  | none => exact ⟨r, h, rfl⟩
  | some e => exact ⟨_, (h.become_endpoint e).finish _, rfl⟩

end Guarded

/-- Nothing of this is spoiled while time passes. -/
lemma guarded_lasting (settled : Prop) (next : Ticket) :
    Lasting fun due late _ s => ∃ r, s.Guarded settled next due r ∧
      ∀ p ∈ late, p.ticket ∉ r.leaving where
  rests now := by
    rintro ⟨r, h, hlate⟩
    exact ⟨r, h.congr rfl rfl rfl, hlate⟩
  moves t := by
    rintro ⟨r, h, hlate⟩
    have hsplit := filter_append_filter h.ordered t
    exact ⟨r, { h with
      spent := fun hover => by
        rw [hsplit]
        exact h.spent hover
      ends := by
        rw [hsplit]
        exact h.ends
      ordered := h.ordered.filter _ }, hlate⟩
  control := by
    rintro a due done s ⟨r, h, -⟩
    obtain ⟨r', h'⟩ := h.onControl
    exact ⟨r', h', by simp⟩
  signal g := by
    rintro ⟨r, h, -⟩
    obtain ⟨r', h', -⟩ := h.onEndpoint (·.signal g)
    exact ⟨r', h', by simp⟩
  drained d := by
    rintro ⟨r, h, -⟩
    exact ⟨r, h.finish _, by simp⟩
  ages t := by
    rintro ⟨r, h, -⟩
    refine ⟨r, h, fun p hp => ?_⟩
    obtain ⟨hmem, hdue⟩ := List.mem_filter.mp hp
    exact h.limited p hmem (by rintro hnone; simp [hnone] at hdue)
  expires := by
    rintro p late done s ⟨r, h, hlate⟩
    obtain ⟨r', h', hleaving⟩ := h.abandon (hlate p List.mem_cons_self) (.fault .timeout)
    refine ⟨r', h', fun q hq => ?_⟩
    rw [hleaving]
    exact hlate q (List.mem_cons_of_mem p hq)

lemma Guarded.tick (h : s.Guarded settled next [] r) (t : Nat) :
    ∃ r', (s.tick t).2.Guarded settled next [] r' := by
  obtain ⟨r', h', -⟩ :=
    @Lasting.tick _ [] s (guarded_lasting settled next) t ⟨r, h, by simp⟩
  exact ⟨r', h'⟩

/-! ### Steps -/

/-- What callers of a relay and the network do. Nobody looks at the input of the control connection,
nobody gives up to wait for the end of the relay, and nothing comes behind the end of the control
connection. -/
def Fair (s : Session) : Step → Prop
  | .atEnd => False
  | .cancel u => ∀ r, s.connection = .relay r → u ∉ r.leaving
  | .control a => ∀ r, s.connection = .relay r →
    ¬ r.control.Over ∧ (a.isData = false → s.arrivals = [])
  | _ => True

namespace Guarded

variable {step : Step}

/-- Somebody starts an operation under a new number. -/
lemma start (h : s.Guarded settled next due r) (hnext : next ≤ t) (shape : Shape)
    (deadline : Option Nat) : Guarded settled (t + 1) due r
      { s with pending := s.pending ++ [⟨t, shape, deadline⟩] } where
  connection := h.connection
  watched := h.watched
  spent := h.spent
  ends := h.ends
  ordered := h.ordered
  pending p hp := by
    obtain hp | hp := List.mem_append.mp hp
    · exact Nat.lt_of_lt_of_le (h.pending p hp) (Nat.le_succ_of_le hnext)
    · cases List.mem_singleton.mp hp
      exact Nat.lt_succ_self t
  leaving u hu := Nat.lt_of_lt_of_le (h.leaving u hu) (Nat.le_succ_of_le hnext)
  limited p hp hdeadline := by
    obtain hp | hp := List.mem_append.mp hp
    · exact h.limited p hp hdeadline
    · cases List.mem_singleton.mp hp
      exact fun hmem => absurd (h.leaving t hmem) (Nat.not_lt.mpr hnext)

lemma close (h : s.Guarded settled next due r) :
    ∃ r', s.close.2.Guarded settled next due r' := by
  have hwatched : r.close.2.Watched settled :=
    ⟨h.watched.close.released, h.watched.close.guarded, h.watched.close.once,
      h.watched.close.drained, fun _ => h.watched.close.attentive trivial⟩
  simp only [Session.close, h.connection, Session.onRelay]
  exact ⟨_, (h.become hwatched id fun _ h => absurd h List.not_mem_nil).finish _⟩

lemma waitClosed (h : s.Guarded settled next due r) (hnext : next ≤ t) (shape : Shape) :
    ∃ r', (s.waitClosed t shape).2.Guarded settled (t + 1) due r' := by
  have hstart := h.start hnext shape none
  have hleaving : ∀ u ∈ (r.waitClosed t).2.leaving, u ∈ r.leaving ∨ u = t := by
    intro u hu
    unfold Relay.waitClosed Relay.release at hu
    split_ifs at hu
    · simpa using hu
    · cases hu
  have hcontrol : (r.waitClosed t).2.control = r.control := by
    unfold Relay.waitClosed Relay.release
    split_ifs <;> rfl
  have hwait : s.waitClosed t shape =
      Session.start t shape none (Session.onRelay (·.waitClosed t)) s := by
    simp only [Session.waitClosed, h.connection]
  rw [hwait]
  simp only [Session.start, Session.onRelay, h.connection]
  have hbecome : Guarded settled (t + 1) due (r.waitClosed t).2
      { s with
        connection := .relay (r.waitClosed t).2
        pending := s.pending ++ [⟨t, shape, none⟩] } := { hstart with
    connection := rfl
    watched := h.watched.waitClosed t
    spent := fun hover => h.spent (hcontrol ▸ hover)
    leaving := fun u hu => by
      obtain hu | rfl := hleaving u hu
      · exact hstart.leaving u hu
      · exact Nat.lt_succ_self u
    limited := fun p hp hdeadline hmem => by
      obtain hmem | hticket := hleaving _ hmem
      · exact hstart.limited p hp hdeadline hmem
      · obtain hp | hp := List.mem_append.mp hp
        · exact absurd (hticket ▸ h.pending p hp) (Nat.not_lt.mpr hnext)
        · cases List.mem_singleton.mp hp
          exact hdeadline rfl }
  exact ⟨_, hbecome.finish _⟩

lemma receive (h : s.Guarded settled next due r) (u : Ticket) :
    ∃ r', (s.onRelay (·.receive u)).2.Guarded settled next due r' := by
  simp only [Session.onRelay, h.connection]
  unfold Relay.receive
  cases r.checkControl with
  | error f =>
    have hsame : Guarded settled next due r { s with connection := .relay r } :=
      h.become h.watched id fun _ => id
    exact ⟨_, hsame.finish _⟩
  | ok _ => exact ⟨_, (h.become_endpoint _).finish _⟩

lemma receiveFrom (h : s.Guarded settled next due r) (hnext : next ≤ t) (shape : Shape)
    (limit : Option Int) :
    ∃ r', (s.receiveFrom t shape limit).2.Guarded settled (t + 1) due r' := by
  unfold Session.receiveFrom startWithin
  cases limit with
  | none => exact (h.start hnext shape none).receive t
  | some l =>
    simp only
    split_ifs
    · exact ⟨r, h.mono (Nat.le_succ_of_le hnext)⟩
    · exact (h.start hnext shape _).receive t

lemma sendTo (h : s.Guarded settled next due r) (u : Ticket) (bs : Bytes) (dest : Option Value) :
    ∃ r', (s.sendTo u bs dest).2.Guarded settled next due r' := by
  obtain ⟨target, -, hperform⟩ | ⟨f, -, hperform⟩ := perform_sendTo h.connection u bs dest
  · have hsend : (s.sendTo u bs dest).2 = _ := congrArg Prod.snd hperform
    rw [hsend]
    exact ⟨_, h.become_endpoint _⟩
  · have hsend : (s.sendTo u bs dest).2 = s := congrArg Prod.snd hperform
    rw [hsend]
    exact ⟨r, h⟩

lemma control (h : s.Guarded settled next [] r) {a : Arrival} (hfair : s.Fair (.control a)) :
    ∃ r', (s.onControl a).2.Guarded settled next [] r' := by
  obtain ⟨hover, harrivals⟩ := hfair r h.connection
  have hdue : s.Guarded settled next [(s.now, a)] r := { h with
    spent := fun hover' => absurd hover' hover
    ends := by
      cases hdata : a.isData with
      | false => simp [harrivals hdata, EndsOnce]
      | true => exact h.ends.cons hdata }
  exact hdue.onControl

lemma perform (h : s.Guarded True next [] r) (hnext : next ≤ t) (hfair : s.Fair step) :
    ∃ r', (s.perform t step).2.Guarded True (t + 1) [] r' := by
  have hlast : next ≤ t + 1 := Nat.le_succ_of_le hnext
  cases step with
  | advance ticks =>
    obtain ⟨r', h', -⟩ :=
      @Lasting.advance _ [] s (guarded_lasting True next) ticks ⟨r, h, by simp⟩
    exact ⟨r', h'.mono hlast⟩
  | cancel u =>
    obtain ⟨r', h', -⟩ := h.abandon (hfair r h.connection) .cancelled
    exact ⟨r', h'.mono hlast⟩
  | isClosing => exact ⟨r, h.mono hlast⟩
  | close =>
    obtain ⟨r', h'⟩ := h.close
    exact ⟨r', h'.mono hlast⟩
  | waitClosed => exact h.waitClosed hnext .nothing
  | leave =>
    obtain ⟨r', h'⟩ := h.close
    exact h'.waitClosed hnext .left
  | atEnd => exact hfair.elim
  | names => exact ⟨r, h.mono hlast⟩
  | read n limit =>
    simp only [Session.perform, h.connection]
    exact h.receiveFrom hnext .payload limit
  | readExactly n =>
    simp only [Session.perform, h.connection]
    exact ⟨r, h.mono hlast⟩
  | write bs =>
    simp only [Session.perform, h.connection]
    obtain ⟨r', h'⟩ := h.sendTo t bs none
    exact ⟨r', h'.mono hlast⟩
  | sendTo bs dest =>
    obtain ⟨r', h'⟩ := h.sendTo t bs dest
    exact ⟨r', h'.mono hlast⟩
  | receiveFrom limit => exact h.receiveFrom hnext .message limit
  | send bs =>
    simp only [Session.perform, Session.send, endpoint?, h.connection]
    split
    · next e _ =>
      obtain ⟨r', h', -⟩ := h.onEndpoint fun _ => ([], e)
      exact ⟨r', h'.mono hlast⟩
    · exact ⟨r, h.mono hlast⟩
  | receive =>
    obtain ⟨r', h', -⟩ := (h.start hnext .bytes none).onEndpoint (·.receive t)
    exact ⟨r', h'⟩
  | info name default => exact ⟨r, h.mono hlast⟩
  | control a =>
    obtain ⟨r', h'⟩ := h.control hfair
    exact ⟨r', h'.mono hlast⟩
  | closeControl =>
    simp only [Session.perform, outside, h.connection]
    exact ⟨_, (h.become h.watched.closeControl id fun _ => id).mono hlast⟩
  | closeEndpoint reason =>
    obtain ⟨r', h', -⟩ := h.onEndpoint (·.close reason)
    exact ⟨r', h'.mono hlast⟩
  | make info =>
    obtain ⟨r', h', -⟩ := h.onEndpoint fun e => ([], e.make info)
    exact ⟨r', h'.mono hlast⟩
  | arrive batch =>
    obtain ⟨r', h', -⟩ := h.onEndpoint (·.arrive batch)
    exact ⟨r', h'.mono hlast⟩
  | report f =>
    obtain ⟨r', h', -⟩ := h.onEndpoint (·.report f)
    exact ⟨r', h'.mono hlast⟩
  | lose f =>
    obtain ⟨r', h', -⟩ := h.onEndpoint (·.lose f)
    exact ⟨r', h'.mono hlast⟩

end Guarded

lemma Guarded.report {step : Step} (h : s.Guarded True next [] r) (hnext : next ≤ t)
    (hfair : s.Fair step) : ∃ r', (s.report t step).2.Guarded True (t + 1) [] r' := by
  obtain ⟨r', h'⟩ := h.perform hnext hfair
  exact ⟨r', h'.congr rfl rfl rfl⟩

/-- The watcher begins its work. -/
lemma Guarded.begin (h : s.Guarded settled next [] r) : ∃ r', s.begin.Guarded True next [] r' := by
  obtain ⟨r', h'⟩ := h.tick s.now
  obtain ⟨⟨buffer, hcontrol⟩, hleaving⟩ := r'.settle_keeps
  have hwatched : r'.settle.2.Watched True :=
    .settle h'.watched.guarded h'.watched.once h'.watched.drained
  have hover : r'.settle.2.control.Over → r'.control.Over := by
    rw [hcontrol]
    exact id
  simp only [Session.begin, onRelay, h'.connection]
  exact ⟨_, (h'.become hwatched hover hleaving).finish _⟩

end Session

end Socks5
