import Mathlib.Algebra.BigOperators.Group.List.Basic
import Mathlib.Algebra.Ring.Nat
import Mathlib.Tactic.Common
import Socks5.Dial.Run

/-!
# Routines on an event loop

What callers do on one event loop is cut into turns. A routine waits until some moment for its next
turn; in it the routine is told the time, and may use and change the dialer that it shares with all
others. The loop lets time pass only when nobody can have a turn before, but leaves it open who
comes first of those whose turns are due. So the runs of the loop are all interleavings of the
routines.

A routine by itself has every turn when it is due. If no routine changes the dialer then, all come
to the same results together as each by itself, whatever the interleaving.
-/

namespace Socks5

variable {α β : Type} {d : Dialer} {now later time i : Nat}

/-! ### Routines -/

/-- What a caller does, turn by turn. -/
inductive Routine (α : Type) where
  /-- It has come to a result. -/
  | done (result : α)
  /-- It waits for its turn; this leaves a dialer and goes on, depending on the time. -/
  | wait (due : Nat) (leaves : Dialer → Nat → Dialer) (next : Dialer → Nat → Routine α)

namespace Routine

/-- A turn that leaves the dialer as it is. -/
def turn (due : Nat) (next : Dialer → Nat → Routine α) : Routine α := .wait due (fun d _ => d) next

/-- Goes on from the result of a routine. -/
def bind : Routine α → (α → Routine β) → Routine β
  | .done a, f => f a
  | .wait due leaves next, f => .wait due leaves fun d now => (next d now).bind f

/-- Makes something of the result of a routine. -/
def map (f : α → β) (r : Routine α) : Routine β := r.bind fun a => .done (f a)

/-- By itself, beginning at some time, a routine comes to a result at a later time, and leaves the
dialer as it was. -/
inductive Runs (d : Dialer) : (now : Nat) → Routine α → α → (later : Nat) → Prop
  | done {now : Nat} (a : α) : Runs d now (.done a) a now
  | wait {now later due : Nat} {leaves : Dialer → Nat → Dialer} {next : Dialer → Nat → Routine α}
      {a : α} (hleaves : leaves d (max now due) = d)
      (hnext : Runs d (max now due) (next d (max now due)) a later) :
      Runs d now (.wait due leaves next) a later

namespace Runs

variable {r : Routine α} {a : α} {due : Nat}

/-- A turn that was due at a time, or is at once. -/
lemma turn {next : Dialer → Nat → Routine α} (htime : max now due = time)
    (h : Runs d time (next d time) a later) : Runs d now (.turn due next) a later := by
  subst htime
  exact .wait rfl h

lemma bind {f : α → Routine β} {b : β} (h : Runs d now r a time) (hf : Runs d time (f a) b later) :
    Runs d now (r.bind f) b later := by
  induction h with
  | done a => exact hf
  | wait hleaves _ ih => exact .wait hleaves (ih hf)

lemma map (h : Runs d now r a later) (f : α → β) : Runs d now (r.map f) (f a) later :=
  h.bind (.done _)

end Runs

/-! ### Waiting longer -/

/-- How many turns a routine has by itself. -/
def turns (d : Dialer) : (now : Nat) → Routine α → Nat
  | _, .done _ => 0
  | now, .wait due _ next => (next d (max now due)).turns d (max now due) + 1

/-- When a routine that waits can have its turn. -/
def ready? (now : Nat) : Routine α → Option Nat
  | .done _ => none
  | .wait due _ _ => some (max now due)

/-- Until its turn a routine does not notice that time passes. -/
lemma Runs.of_later {r : Routine α} {a : α} (h : Runs d now r a later) (hle : now ≤ time)
    (hready : ∀ moment ∈ r.ready? now, time ≤ moment) : ∃ later, Runs d time r a later := by
  cases h with
  | done a => exact ⟨time, .done a⟩
  | @wait _ _ due _ _ _ hleaves hnext =>
    have hmax : max time due = max now due := by
      have htime : time ≤ max now due := hready _ rfl
      omega
    rw [← hmax] at hleaves hnext
    exact ⟨later, .wait hleaves hnext⟩

lemma turns_of_later {r : Routine α} (hle : now ≤ time)
    (hready : ∀ moment ∈ r.ready? now, time ≤ moment) : r.turns d time = r.turns d now := by
  cases r with
  | done a => rfl
  | wait due leaves next =>
    have hmax : max time due = max now due := by
      have htime : time ≤ max now due := hready _ rfl
      omega
    rw [turns, turns, hmax]

end Routine

/-! ### The loop -/

/-- Some routines that share a dialer and a clock. -/
structure Loop (α : Type) where
  /-- The dialer. -/
  dialer : Dialer
  /-- The time. -/
  now : Nat := 0
  /-- The routines. -/
  routines : List (Routine α)

namespace Loop

/-- Gives one routine its turn, if it waits for one and nobody else can have his before. -/
def turn? (i : Nat) (loop : Loop α) : Option (Loop α) :=
  match loop.routines[i]? with
  | some (.wait due leaves next) =>
    let moment := max loop.now due
    if loop.routines.all fun r => (r.ready? loop.now).all (moment ≤ ·) then
      some
        { dialer := leaves loop.dialer moment
          now := moment
          routines := loop.routines.set i (next loop.dialer moment) }
    else none
  | _ => none

/-- Gives routines their turns, one after the other. -/
def run? : (order : List Nat) → Loop α → Option (Loop α)
  | [], loop => some loop
  | i :: rest, loop => (loop.turn? i).bind (run? rest)

/-- How many turns all routines together still have. -/
def turnsLeft (loop : Loop α) : Nat :=
  (loop.routines.map (Routine.turns loop.dialer loop.now)).sum

/-- On a loop with this dialer every routine is on the way to its result. -/
structure Tends (d : Dialer) (results : List α) (loop : Loop α) : Prop where
  dialer : loop.dialer = d
  length : loop.routines.length = results.length
  runs : ∀ (i : Nat) (r : Routine α) (a : α), loop.routines[i]? = some r → results[i]? = some a →
    ∃ later, Routine.Runs d loop.now r a later

variable {loop loop' : Loop α} {results : List α}

/-- What a turn does. -/
lemma turn?_eq_some (h : loop.turn? i = some loop') :
    ∃ due leaves next, loop.routines[i]? = some (.wait due leaves next) ∧
      (∀ r ∈ loop.routines, ∀ moment ∈ r.ready? loop.now, max loop.now due ≤ moment) ∧
      loop' =
        { dialer := leaves loop.dialer (max loop.now due)
          now := max loop.now due
          routines := loop.routines.set i (next loop.dialer (max loop.now due)) } := by
  unfold turn? at h
  split at h
  · next due leaves next hget =>
    simp only at h
    split_ifs at h with hfirst
    cases h
    refine ⟨due, leaves, next, hget, ?_, rfl⟩
    intro r hr moment hmoment
    have hready := List.all_eq_true.mp hfirst r hr
    rw [Option.mem_def.mp hmoment] at hready
    simpa using hready
  · cases h

/-- A turn of one routine changes neither the dialer nor what any routine comes to. -/
lemma Tends.turn? (h : loop.Tends d results) (hturn : loop.turn? i = some loop') :
    loop'.Tends d results := by
  obtain ⟨due, leaves, next, hget, hfirst, rfl⟩ := turn?_eq_some hturn
  obtain ⟨hi, -⟩ := List.getElem?_eq_some_iff.mp hget
  obtain ⟨rfl, hlength, hruns⟩ := h
  have hself (a : α) (ha : results[i]? = some a) :
      leaves loop.dialer (max loop.now due) = loop.dialer ∧ ∃ later,
        Routine.Runs loop.dialer (max loop.now due) (next loop.dialer (max loop.now due)) a
          later := by
    obtain ⟨later, hrun⟩ := hruns i _ a hget ha
    cases hrun with
    | wait hleaves hnext => exact ⟨hleaves, later, hnext⟩
  obtain ⟨a, ha⟩ : ∃ a, results[i]? = some a :=
    ⟨results.get ⟨i, hlength ▸ hi⟩, List.getElem?_eq_getElem _⟩
  refine ⟨(hself a ha).1, by simpa using hlength, fun j r b hr hb => ?_⟩
  simp only [List.getElem?_set] at hr
  split_ifs at hr with hij
  · subst hij
    cases hr
    exact (hself b hb).2
  · -- The others wait until now at least, so they do not notice that time has passed.
    obtain ⟨later, hrun⟩ := hruns j r b hr hb
    exact hrun.of_later (Nat.le_max_left _ _) (hfirst r (List.mem_of_getElem? hr))

lemma Tends.run? {order : List Nat} : ∀ {loop : Loop α}, loop.Tends d results →
    loop.run? order = some loop' → loop'.Tends d results := by
  induction order with
  | nil =>
    rintro loop h ⟨⟩
    exact h
  | cons i rest ih =>
    intro loop h hrun
    obtain ⟨middle, hturn, hrest⟩ := Option.bind_eq_some_iff.mp hrun
    exact ih (h.turn? hturn) hrest

/-! ### Coming to an end -/

lemma sum_map_set {f : β → Nat} {x : β} (y : β) : ∀ {l : List β} {i : Nat}, l[i]? = some x →
    ((l.set i y).map f).sum + f x = (l.map f).sum + f y
  | a :: l, 0, h => by
    obtain rfl : a = x := by simpa using h
    simp only [List.set_cons_zero, List.map_cons, List.sum_cons]
    omega
  | a :: l, i + 1, h => by
    have hrest := sum_map_set y (f := f) (l := l) (i := i) (by simpa using h)
    simp only [List.set_cons_succ, List.map_cons, List.sum_cons]
    omega

/-- Every turn is one of those that were left. -/
lemma Tends.turnsLeft_turn? (h : loop.Tends d results) (hturn : loop.turn? i = some loop') :
    loop'.turnsLeft + 1 = loop.turnsLeft := by
  obtain ⟨due, leaves, next, hget, hfirst, rfl⟩ := turn?_eq_some hturn
  have hdialer : leaves loop.dialer (max loop.now due) = loop.dialer :=
    (h.turn? hturn).dialer.trans h.dialer.symm
  have hothers : loop.routines.map (Routine.turns loop.dialer (max loop.now due)) =
      loop.routines.map (Routine.turns loop.dialer loop.now) :=
    List.map_congr_left fun r hr =>
      Routine.turns_of_later (Nat.le_max_left _ _) (hfirst r hr)
  have hset := sum_map_set (f := Routine.turns loop.dialer (max loop.now due))
    (next loop.dialer (max loop.now due)) hget
  rw [hothers] at hset
  simp only [turnsLeft, hdialer]
  simp only [Routine.turns, Nat.max_assoc, Nat.max_self] at hset ⊢
  omega

/-- As long as a routine waits, some routine can have its turn. -/
lemma exists_turn? {r : Routine α} (hr : r ∈ loop.routines) {moment : Nat}
    (hmoment : r.ready? loop.now = some moment) : ∃ i, (loop.turn? i).isSome := by
  have hmem : moment ∈ loop.routines.filterMap (Routine.ready? loop.now) :=
    List.mem_filterMap.mpr ⟨r, hr, hmoment⟩
  cases hmin : (loop.routines.filterMap (Routine.ready? loop.now)).min? with
  | none =>
    rw [List.min?_eq_none_iff.mp hmin] at hmem
    cases hmem
  | some first =>
    obtain ⟨hfirst, hle⟩ := List.min?_eq_some_iff.mp hmin
    obtain ⟨s, hs, hready⟩ := List.mem_filterMap.mp hfirst
    obtain ⟨i, hi⟩ := List.getElem?_of_mem hs
    cases s with
    | done a => cases hready
    | wait due leaves next =>
      obtain rfl : max loop.now due = first := Option.some.inj hready
      have hall : loop.routines.all fun r =>
          (r.ready? loop.now).all (max loop.now due ≤ ·) := by
        refine List.all_eq_true.mpr fun q hq => ?_
        cases hq' : q.ready? loop.now with
        | none => rfl
        | some u => simpa using hle u (List.mem_filterMap.mpr ⟨q, hq, hq'⟩)
      refine ⟨i, ?_⟩
      simp only [Loop.turn?, hi, if_pos hall, Option.isSome_some]

/-- When nobody can have a turn, all routines have come to their results. -/
lemma Tends.routines_eq (h : loop.Tends d results) (hstill : ∀ i, loop.turn? i = none) :
    loop.routines = results.map .done := by
  refine List.ext_getElem? fun i => ?_
  rw [List.getElem?_map]
  cases hr : loop.routines[i]? with
  | none =>
    have hi : results[i]? = none := by
      rw [List.getElem?_eq_none_iff, ← h.length]
      exact List.getElem?_eq_none_iff.mp hr
    rw [hi]
    rfl
  | some r =>
    obtain ⟨hi, -⟩ := List.getElem?_eq_some_iff.mp hr
    have ha : results[i]? = some (results.get ⟨i, h.length ▸ hi⟩) := List.getElem?_eq_getElem _
    obtain ⟨later, hrun⟩ := h.runs i r _ hr ha
    cases hrun with
    | done a => rw [ha]; rfl
    | wait =>
      obtain ⟨j, hturn⟩ := exists_turn? (List.mem_of_getElem? hr) rfl
      rw [hstill j] at hturn
      cases hturn

lemma Tends.turnsLeft_run? {order : List Nat} : ∀ {loop : Loop α}, loop.Tends d results →
    loop.run? order = some loop' → order.length + loop'.turnsLeft = loop.turnsLeft := by
  induction order with
  | nil =>
    rintro loop - ⟨⟩
    exact Nat.zero_add _
  | cons i rest ih =>
    intro loop h hrun
    obtain ⟨middle, hturn, hrest⟩ := Option.bind_eq_some_iff.mp hrun
    have hmiddle := ih (h.turn? hturn) hrest
    have hfirst := h.turnsLeft_turn? hturn
    rw [List.length_cons]
    omega

/-- Every loop can be carried on until all routines have come to their results. -/
lemma Tends.exists_run? : ∀ {loop : Loop α}, loop.Tends d results →
    ∃ order final, loop.run? order = some final ∧ final.routines = results.map .done := by
  intro loop
  generalize hleft : loop.turnsLeft = left
  induction left generalizing loop with
  | zero =>
    intro h
    refine ⟨[], loop, rfl, h.routines_eq fun i => ?_⟩
    cases hturn : loop.turn? i with
    | none => rfl
    | some next =>
      have hless := h.turnsLeft_turn? hturn
      omega
  | succ left ih =>
    intro h
    by_cases hstill : ∀ i, loop.turn? i = none
    · exact ⟨[], loop, rfl, h.routines_eq hstill⟩
    · obtain ⟨i, hi⟩ := not_forall.mp hstill
      obtain ⟨next, hturn⟩ := Option.ne_none_iff_exists'.mp hi
      have hless := h.turnsLeft_turn? hturn
      obtain ⟨order, final, hrun, hfinal⟩ := ih (by omega) (h.turn? hturn)
      refine ⟨i :: order, final, ?_, hfinal⟩
      rw [Loop.run?, hturn]
      exact hrun

end Loop

end Socks5
