import Mathlib.Tactic.Common
import Socks5.Net.Opening

/-!
# Falling back to the next candidate

Candidates are tried in order, and the first one that passes all stages is used. A candidate that
fails at a stage is passed over, with two exceptions: one without a socket ends the attempt, and so
does one that comes to an interface without a name that can be encoded, whose socket is left open.
`Course` says this without the clock, and no other socket is left open on any course but the one
that is handed out.
-/

namespace Socks5.Net

/-! ### Candidates -/

/-- What can go wrong with a candidate are faults of the system. -/
structure Candidate.Systemic (c : Candidate) : Prop where
  socket : ∀ f ∈ c.socketFault, f.isSystem = true
  mode : ∀ f ∈ c.modeFault, f.isSystem = true
  device : ∀ f ∈ c.deviceFault, f.isSystem = true
  bind : ∀ f ∈ c.bindFault, f.isSystem = true
  connect : ∀ f ∈ c.connectFault, f.isSystem = true

namespace Opener

variable {o : Opener} {sys : System} {network : Network} {stop : Option Nat}

/-- The fault of binding a socket to the interface, whose name is encoded for that. -/
def deviceFault? (o : Opener) (sys : System) (c : Candidate) : Option Fault :=
  if o.interface.isTrue then
    if sys.canBindDevice then match o.interfaceName with
      | .ok _ => c.deviceFault
      | .error f => some f
    else some noDevice
  else none

/-- The fault of the first stage that fails once a candidate has a socket. -/
def laterFault? (o : Opener) (sys : System) (c : Candidate) : Option Fault :=
  c.modeFault.or <| (o.deviceFault? sys c).or <|
    (if o.source.isTrue then c.bindFault else none).or c.connectFault

/-- The fault of the first stage that fails. -/
def fault? (o : Opener) (sys : System) (c : Candidate) : Option Fault :=
  c.socketFault.or (o.laterFault? sys c)

/-- A candidate with a socket comes to an interface without a name that can be encoded: what was
given for it is no text, or it has a surrogate. -/
def Strands (o : Opener) (sys : System) (c : Candidate) (f : Fault) : Prop :=
  c.modeFault = none ∧ sys.canBindDevice = true ∧ o.interface.isTrue = true ∧
    o.interfaceName = .error f

/-- A candidate has a socket and fails at a later stage, but not for the name of the interface. -/
def PassesOver (o : Opener) (sys : System) (c : Candidate) : Prop :=
  c.socketFault = none ∧ o.laterFault? sys c ≠ none ∧ ∀ f, ¬ o.Strands sys c f

/-- What trying candidates is to come to: the number of the first one that passes all stages, or
else the fault of the last one. -/
def answer (o : Opener) (sys : System) (noCandidates : Fault) (cs : List Candidate) :
    Except Failure Nat :=
  match cs.findIdx? fun c => (o.fault? sys c).isNone with
  | some n => .ok n
  | none => .error (.fault ((cs.getLast?.bind (o.fault? sys)).getD noCandidates))

/-- Before any candidate has passed all stages, one cannot have a socket, or it has one and comes to
an interface without a name that can be encoded; the fault says which. -/
def Obstructed (o : Opener) (sys : System) (cs : List Candidate) (f : Fault) : Prop :=
  ∃ pre c post, cs = pre ++ c :: post ∧ (∀ b ∈ pre, o.PassesOver sys b) ∧
    (c.socketFault = some f ∨ c.socketFault = none ∧ o.Strands sys c f)

end Opener

/-! ### Calls -/

namespace Call

/-- The number of the socket that a call is about. -/
def number? : Call → Option Nat
  | socket n _ _ _ | nonBlocking n | bindDevice n _ | bind n _ | connect n _ _ | close n
  | openSocket _ n => some n
  | resolve _ _ _ | openHost _ _ _ _ => none

/-- A call uses a socket that is there, and leaves it open. -/
inductive Uses (number : Nat) : Call → Prop
  | nonBlocking : Uses number (.nonBlocking number)
  | bindDevice (interface : Bytes) : Uses number (.bindDevice number interface)
  | bind (source : Value) : Uses number (.bind number source)
  | connect (network : Network) (address : Value) : Uses number (.connect number network address)

lemma Uses.number? {n : Nat} {call : Call} (h : call.Uses n) : call.number? = some n := by
  cases h <;> rfl

end Call

namespace Opener

variable {o : Opener} {sys : System} {network : Network} {stop : Option Nat}
variable {c : Candidate} {last : Failure} {now number k : Nat} {cs pre post : List Candidate}
variable {outcome : Except Failure Nat} {calls : List Call} {f : Fault}

/-! ### One candidate -/

lemma fault?_of_passesOver (h : o.PassesOver sys c) : o.fault? sys c ≠ none := by
  rw [fault?, h.1]
  exact h.2.1

/-- The system has no part in what keeps a name from being encoded. -/
lemma isSystem_of_interfaceName (h : o.interfaceName = .error f) : f.isSystem = false := by
  unfold interfaceName at h
  cases htext : o.interface.text? with
  | none =>
    rw [htext] at h
    obtain rfl := Except.error.inj h
    rfl
  | some t =>
    rw [htext] at h
    cases hname : t.encodable with
    | ok name => simp [hname] at h
    | error e =>
      simp only [hname] at h
      obtain rfl := Except.error.inj h
      rfl

lemma deviceFault?_of_strands (h : o.Strands sys c f) : o.deviceFault? sys c = some f := by
  obtain ⟨-, hdevice, hgiven, hname⟩ := h
  simp [deviceFault?, hgiven, hdevice, hname]

lemma laterFault?_of_strands (h : o.Strands sys c f) : o.laterFault? sys c = some f := by
  rw [laterFault?, h.1, deviceFault?_of_strands h]
  rfl

lemma isSystem_of_laterFault? (hc : c.Systemic) (hstrands : ∀ f, ¬ o.Strands sys c f)
    (h : o.laterFault? sys c = some f) : f.isSystem = true := by
  simp only [laterFault?, Option.or_eq_some_iff] at h
  obtain h | ⟨hmode, h | ⟨-, h | ⟨-, h⟩⟩⟩ := h
  · exact hc.mode f h
  · unfold deviceFault? at h
    split_ifs at h with hgiven hdevice
    · cases hname : o.interfaceName with
      | ok name =>
        rw [hname] at h
        exact hc.device f h
      | error g => exact absurd ⟨hmode, hdevice, hgiven, hname⟩ (hstrands g)
    · obtain rfl := Option.some.inj h
      rfl
  · split_ifs at h
    exact hc.bind f h
  · exact hc.connect f h

lemma andThen_none {calls : List Call} (second : Option Fault × List Call) :
    andThen (none, calls) second = (second.1, calls ++ second.2) := rfl

lemma andThen_some {calls : List Call} (second : Option Fault × List Call) :
    andThen (some f, calls) second = (some f, calls) := rfl

lemma bindDevice_eq (o : Opener) (sys : System) (number : Nat) (c : Candidate) :
    (o.bindDevice sys number c).1 = o.deviceFault? sys c ∧
      ∀ call ∈ (o.bindDevice sys number c).2, call.Uses number := by
  unfold bindDevice deviceFault?
  cases o.interface.isTrue with
  | false => simp
  | true =>
    cases sys.canBindDevice with
    | false => simp
    | true => cases o.interfaceName <;> simp [Call.Uses.bindDevice]

/-- Preparing a socket fails with the first fault before connecting, and uses the socket only. -/
lemma prepare_eq (o : Opener) (sys : System) (number : Nat) (c : Candidate) :
    ((o.prepare sys number c).1.or c.connectFault = o.laterFault? sys c) ∧
      ∀ call ∈ (o.prepare sys number c).2, call.Uses number := by
  obtain ⟨hdevice, huses⟩ := o.bindDevice_eq sys number c
  unfold prepare laterFault?
  cases c.modeFault with
  | some f => simp [andThen_some, Call.Uses.nonBlocking]
  | none =>
    rw [andThen_none, ← hdevice]
    rcases hbind : o.bindDevice sys number c with ⟨_ | f, calls⟩ <;> rw [hbind] at huses
    · unfold bindSource
      cases o.source.isTrue
      · simpa [andThen_none, Call.Uses.nonBlocking] using huses
      · simpa [andThen_none, Call.Uses.nonBlocking, or_imp, forall_and, Call.Uses.bind] using huses
    · simpa [andThen_some, Call.Uses.nonBlocking] using huses

lemma prepare_of_strands (h : o.Strands sys c f) (number : Nat) :
    (o.prepare sys number c).1 = some f := by
  have hdevice : (o.bindDevice sys number c).1 = some f := by
    rw [(o.bindDevice_eq sys number c).1, deviceFault?_of_strands h]
  unfold prepare
  rw [h.1, andThen_none]
  rcases hbind : o.bindDevice sys number c with ⟨_ | g, calls⟩
  · rw [hbind] at hdevice
    cases hdevice
  · rw [hbind] at hdevice
    exact hdevice

/-- A candidate with a socket passes all later stages and is connected, or fails at the first of
them that fails, unless it is given up while it is connected. -/
lemma tryOne_cases (o : Opener) (sys : System) (network : Network) (stop : Option Nat)
    (now number : Nat) (c : Candidate) :
    (∀ call ∈ (o.tryOne sys network stop now number c).calls, call.Uses number) ∧
      ((o.tryOne sys network stop now number c).outcome = .error .cancelled ∧
          (∀ f, ¬ o.Strands sys c f) ∨
        (o.laterFault? sys c = none ∧ (o.tryOne sys network stop now number c).outcome = .ok () ∧
          .connect number network c.address ∈ (o.tryOne sys network stop now number c).calls) ∨
        ∃ f, o.laterFault? sys c = some f ∧
          (o.tryOne sys network stop now number c).outcome = .error (.fault f)) := by
  obtain ⟨hfault, huses⟩ := o.prepare_eq sys number c
  unfold tryOne
  rcases hprepare : o.prepare sys number c with ⟨_ | f, calls⟩
  · rw [hprepare] at hfault huses
    have hconnect : ∀ call ∈ calls ++ [.connect number network c.address], call.Uses number := by
      intro call hcall
      obtain hcall | hcall := List.mem_append.mp hcall
      · exact huses call hcall
      · obtain rfl := List.mem_singleton.mp hcall
        exact .connect network c.address
    simp only
    split
    · rw [Option.none_or] at hfault
      cases hconnected : c.connectFault with
      | some f => exact ⟨hconnect, .inr (.inr ⟨f, hfault ▸ hconnected, rfl⟩)⟩
      | none => exact ⟨hconnect, .inr (.inl ⟨hfault ▸ hconnected, rfl, by simp⟩)⟩
    · refine ⟨hconnect, .inl ⟨rfl, fun f hstrands => ?_⟩⟩
      have hready := prepare_of_strands hstrands number
      rw [hprepare] at hready
      cases hready
  · rw [hprepare] at hfault huses
    exact ⟨huses, .inr (.inr ⟨f, hfault.symm, rfl⟩)⟩

/-! ### Courses -/

/-- How trying candidates may go: the first of them has this number, and there is a failure in case
that none is left. The clock does not count, but an attempt may be given up on the way. -/
inductive Course (o : Opener) (sys : System) (network : Network) :
    Failure → Nat → List Candidate → Except Failure Nat → List Call → Prop
  | exhausted (last : Failure) (n : Nat) : Course o sys network last n [] (.error last) []
  | unmade {last : Failure} {n : Nat} {c : Candidate} {rest : List Candidate} {f : Fault}
      (hsocket : c.socketFault = some f) :
      Course o sys network last n (c :: rest) (.error (.fault f))
        [.socket n c.family network c.protocol]
  | stranded {last : Failure} {n : Nat} {c : Candidate} {rest : List Candidate}
      {calls : List Call} {f : Fault} (hsocket : c.socketFault = none)
      (hstrands : o.Strands sys c f) (huses : ∀ call ∈ calls, call.Uses n) :
      Course o sys network last n (c :: rest) (.error (.fault f))
        (.socket n c.family network c.protocol :: calls)
  | used {last : Failure} {n : Nat} {c : Candidate} {rest : List Candidate} {calls : List Call}
      (hsocket : c.socketFault = none) (hlater : o.laterFault? sys c = none)
      (huses : ∀ call ∈ calls, call.Uses n) (hconnect : .connect n network c.address ∈ calls) :
      Course o sys network last n (c :: rest) (.ok n)
        (.socket n c.family network c.protocol :: calls)
  | givenUp {last : Failure} {n : Nat} {c : Candidate} {rest : List Candidate} {calls : List Call}
      (hsocket : c.socketFault = none) (hgoes : ∀ f, ¬ o.Strands sys c f)
      (huses : ∀ call ∈ calls, call.Uses n) :
      Course o sys network last n (c :: rest) (.error .cancelled)
        (.socket n c.family network c.protocol :: calls ++ [.close n])
  | passed {last : Failure} {n : Nat} {c : Candidate} {rest : List Candidate} {f : Fault}
      {calls more : List Call} {outcome : Except Failure Nat}
      (hsocket : c.socketFault = none) (hlater : o.laterFault? sys c = some f)
      (hgoes : ∀ g, ¬ o.Strands sys c g) (huses : ∀ call ∈ calls, call.Uses n)
      (hrest : Course o sys network (.fault f) (n + 1) rest outcome more) :
      Course o sys network last n (c :: rest) outcome
        (.socket n c.family network c.protocol :: calls ++ [.close n] ++ more)

/-- Trying candidates takes one of the courses. -/
lemma course_tryAll (hcs : ∀ c ∈ cs, c.Systemic) (last : Failure) (now number : Nat) :
    Course o sys network last number cs (o.tryAll sys network stop last now number cs).outcome
      (o.tryAll sys network stop last now number cs).calls := by
  induction cs generalizing last now number with
  | nil => exact .exhausted last number
  | cons c rest ih =>
    have hc : c.Systemic := hcs c List.mem_cons_self
    rw [tryAll]
    cases hsocket : c.socketFault with
    | some f => exact .unmade hsocket
    | none =>
      obtain ⟨huses, ⟨hcancelled, hgoes⟩ | ⟨hlater, hok, hconnect⟩ | ⟨f, hlater, hfault⟩⟩ :=
        o.tryOne_cases sys network stop now number c
      · simp only [hcancelled, isClosedAfter, goesOn, if_true, Bool.false_eq_true, if_false]
        exact .givenUp hsocket hgoes huses
      · simp only [hok]
        exact .used hsocket hlater huses hconnect
      · by_cases hstrands : ∃ g, o.Strands sys c g
        · obtain ⟨g, hg⟩ := hstrands
          obtain rfl := Option.some.inj (hlater.symm.trans (laterFault?_of_strands hg))
          have hsystem := isSystem_of_interfaceName hg.2.2.2
          simp only [hfault, isClosedAfter, goesOn, hsystem, Bool.false_eq_true, if_false,
            List.append_nil]
          exact .stranded hsocket hg huses
        · rw [not_exists] at hstrands
          have hsystem := isSystem_of_laterFault? hc hstrands hlater
          simp only [hfault, isClosedAfter, goesOn, hsystem, if_true]
          exact .passed hsocket hlater hstrands huses
            (ih (fun b hb => hcs b (List.mem_cons_of_mem c hb)) _ _ _)

namespace Course

/-- Candidates that are passed over leave it to the others what becomes of the attempt. -/
lemma append {rest : List Candidate} (hpre : ∀ b ∈ pre, o.PassesOver sys b)
    (h : Course o sys network last number (pre ++ rest) outcome calls) :
    outcome = .error .cancelled ∨ ∃ calls', Course o sys network
      ((pre.getLast?.bind (o.fault? sys)).elim last .fault) (number + pre.length) rest outcome
        calls' := by
  induction pre generalizing last number calls with
  | nil => exact .inr ⟨calls, h⟩
  | cons b pre ih =>
    obtain ⟨hsocket, hlater, hgoes⟩ := hpre b List.mem_cons_self
    cases h with
    | unmade hsocket' => exact nomatch hsocket.symm.trans hsocket'
    | stranded _ hstrands => exact absurd hstrands (hgoes _)
    | used _ hlater' => exact absurd hlater' hlater
    | givenUp => exact .inl rfl
    | @passed _ _ _ _ f _ _ _ _ hfault _ _ hrest =>
      refine (ih (fun d hd => hpre d (List.mem_cons_of_mem b hd)) hrest).imp_right ?_
      rintro ⟨calls', h⟩
      have hlast : ((b :: pre).getLast?.bind (o.fault? sys)).elim last Failure.fault =
          (pre.getLast?.bind (o.fault? sys)).elim (.fault f) .fault := by
        cases hpre' : pre.getLast? with
        | none =>
          obtain rfl := List.getLast?_eq_none_iff.mp hpre'
          simp [fault?, hsocket, hfault]
        | some d =>
          have hd : d ∈ pre := List.mem_of_getLast? hpre'
          obtain ⟨g, hg⟩ := Option.ne_none_iff_exists'.mp
            (fault?_of_passesOver (hpre d (List.mem_cons_of_mem b hd)))
          simp [List.getLast?_cons, hpre', hg]
      refine ⟨calls', ?_⟩
      rw [hlast, List.length_cons, Nat.add_comm pre.length 1, ← Nat.add_assoc]
      exact h

/-- A candidate that was tried and closed is the only one that its calls are about. -/
lemma number?_of_mem {family : String} {protocol : Int} (huses : ∀ call ∈ calls, call.Uses number)
    {call : Call} (h : call ∈ .socket number family network protocol :: calls ++ [.close number]) :
    call.number? = some number := by
  obtain h | h := List.mem_append.mp h
  · obtain rfl | h := List.mem_cons.mp h
    · rfl
    · exact (huses call h).number?
  · obtain rfl := List.mem_singleton.mp h
    rfl

lemma number?_ne_of_mem {family : String} {protocol : Int}
    (huses : ∀ call ∈ calls, call.Uses number) {call : Call}
    (h : call ∈ .socket number family network protocol :: calls ++ [.close number]) (i : Nat) :
    call.number? ≠ some (number + (i + 1)) := by
  rw [number?_of_mem huses h]
  intro heq
  have hnumber : number = number + (i + 1) := Option.some.inj heq
  omega

/-- What is handed out is a candidate that passed all stages, and no later one was tried. -/
lemma exists_of_ok (h : Course o sys network last number cs outcome calls)
    (hok : outcome = .ok k) : ∃ i c, k = number + i ∧ cs[i]? = some c ∧ o.fault? sys c = none ∧
      .connect k network c.address ∈ calls ∧ ∀ call ∈ calls, ∀ m ∈ call.number?, m ≤ k := by
  induction h with
  | exhausted => cases hok
  | unmade => cases hok
  | stranded => cases hok
  | @used _ n c _ calls hsocket hlater huses hconnect =>
    obtain rfl := Except.ok.inj hok
    refine ⟨0, c, rfl, rfl, ?_, List.mem_cons_of_mem _ hconnect, ?_⟩
    · rw [fault?, hsocket, hlater]
      rfl
    · intro call hcall m hm
      rw [number?_of_mem huses (List.mem_append_left _ hcall)] at hm
      exact Nat.le_of_eq (Option.some.inj hm).symm
  | givenUp => cases hok
  | @passed _ n _ _ _ _ _ _ _ _ _ huses _ ih =>
    obtain ⟨i, c, rfl, hc, hfault, hconnect, hlast⟩ := ih hok
    refine ⟨i + 1, c, by omega, hc, hfault, List.mem_append_right _ hconnect, ?_⟩
    intro call hcall m hm
    obtain hcall | hcall := List.mem_append.mp hcall
    · rw [number?_of_mem huses hcall] at hm
      have hn : n = m := Option.some.inj hm
      omega
    · exact hlast call hcall m hm

lemma close_notMem {family : String} {protocol : Int} (huses : ∀ call ∈ calls, call.Uses number) :
    .close number ∉ .socket number family network protocol :: calls := by
  intro hclose
  obtain hclose | hclose := List.mem_cons.mp hclose
  · cases hclose
  · cases huses _ hclose

/-- Each socket that was made is closed, unless it is handed out or stranded. -/
lemma close_mem_iff (h : Course o sys network last number cs outcome calls) {i : Nat}
    (hc : cs[i]? = some c) (hsocket : c.socketFault = none)
    (hmade : ∃ call ∈ calls, call.number? = some (number + i)) :
    .close (number + i) ∈ calls ↔
      outcome ≠ .ok (number + i) ∧ ∀ f, ¬ o.Strands sys c f := by
  obtain ⟨call, hcall, hnumber⟩ := hmade
  induction h generalizing i with
  | exhausted => cases hc
  | @unmade _ n _ _ _ hunmade =>
    cases i with
    | zero =>
      obtain rfl := Option.some.inj hc
      exact nomatch hunmade.symm.trans hsocket
    | succ i =>
      have huses : ∀ call ∈ ([] : List Call), call.Uses n := List.forall_mem_nil _
      exact absurd hnumber (number?_ne_of_mem huses (List.mem_append_left _ hcall) i)
  | stranded _ hstrands huses =>
    cases i with
    | zero =>
      obtain rfl := Option.some.inj hc
      exact iff_of_false (close_notMem huses) fun hboth => hboth.2 _ hstrands
    | succ i => exact absurd hnumber (number?_ne_of_mem huses (List.mem_append_left _ hcall) i)
  | used _ _ huses =>
    cases i with
    | zero => exact iff_of_false (close_notMem huses) fun hboth => hboth.1 rfl
    | succ i => exact absurd hnumber (number?_ne_of_mem huses (List.mem_append_left _ hcall) i)
  | givenUp _ hgoes huses =>
    cases i with
    | zero =>
      obtain rfl := Option.some.inj hc
      exact iff_of_true (List.mem_append_right _ List.mem_cons_self) ⟨nofun, hgoes⟩
    | succ i => exact absurd hnumber (number?_ne_of_mem huses hcall i)
  | @passed _ n _ _ _ _ _ _ _ _ hgoes huses hrest ih =>
    cases i with
    | zero =>
      obtain rfl := Option.some.inj hc
      refine iff_of_true (List.mem_append_left _ (List.mem_append_right _ List.mem_cons_self))
        ⟨fun hok => ?_, hgoes⟩
      obtain ⟨j, -, hj, -⟩ := hrest.exists_of_ok hok
      omega
    | succ i =>
      have hshift : n + 1 + i = n + (i + 1) := by omega
      -- The calls of this candidate are not about the one that was made.
      have hmore := (List.mem_append.mp hcall).resolve_left fun hcall =>
        number?_ne_of_mem huses hcall i hnumber
      rw [← hshift] at hnumber ⊢
      refine Iff.trans ?_ (ih hc hmore hnumber)
      rw [List.mem_append, or_iff_right]
      intro hclose
      exact number?_ne_of_mem huses hclose i (congrArg some hshift)

/-- A candidate without a socket ends the attempt, and so does one that strands, unless it was given
up before. -/
lemma outcome_of_obstructed (h : Course o sys network last number cs outcome calls)
    (hf : o.Obstructed sys cs f) : outcome = .error .cancelled ∨ outcome = .error (.fault f) := by
  obtain ⟨pre, c, post, rfl, hpre, hunmade | ⟨hmade, hstrands⟩⟩ := hf
  · refine (h.append hpre).imp_right ?_
    rintro ⟨calls', h⟩
    cases h with
    | unmade hsocket => rw [Option.some.inj (hsocket.symm.trans hunmade)]
    | stranded hsocket => exact nomatch hsocket.symm.trans hunmade
    | used hsocket => exact nomatch hsocket.symm.trans hunmade
    | givenUp hsocket => exact nomatch hsocket.symm.trans hunmade
    | passed hsocket => exact nomatch hsocket.symm.trans hunmade
  · refine (h.append hpre).imp_right ?_
    rintro ⟨calls', h⟩
    cases h with
    | unmade hsocket => exact nomatch hsocket.symm.trans hmade
    | stranded _ hstrands' =>
      rw [Except.error.inj (hstrands'.2.2.2.symm.trans hstrands.2.2.2)]
    | used _ hlater => exact nomatch hlater.symm.trans (laterFault?_of_strands hstrands)
    | givenUp _ hgoes => exact absurd hstrands (hgoes f)
    | passed _ _ hgoes => exact absurd hstrands (hgoes f)

end Course

/-! ### Answers -/

/-- A candidate ends the attempt, or one passes all stages, or all are passed over. -/
lemma obstructed_or (o : Opener) (sys : System) (cs : List Candidate) :
    (∃ f, o.Obstructed sys cs f) ∨
      (∃ pre c post, cs = pre ++ c :: post ∧ (∀ b ∈ pre, o.PassesOver sys b) ∧
        o.fault? sys c = none) ∨
      ∀ b ∈ cs, o.PassesOver sys b := by
  induction cs with
  | nil => exact .inr (.inr (List.forall_mem_nil _))
  | cons c rest ih =>
    cases hsocket : c.socketFault with
    | some f => exact .inl ⟨f, [], c, rest, rfl, List.forall_mem_nil _, .inl hsocket⟩
    | none =>
      by_cases hstrands : ∃ f, o.Strands sys c f
      · obtain ⟨f, hf⟩ := hstrands
        exact .inl ⟨f, [], c, rest, rfl, List.forall_mem_nil _, .inr ⟨hsocket, hf⟩⟩
      rw [not_exists] at hstrands
      cases hlater : o.laterFault? sys c with
      | none =>
        refine .inr (.inl ⟨[], c, rest, rfl, List.forall_mem_nil _, ?_⟩)
        rw [fault?, hsocket, hlater]
        rfl
      | some g =>
        have hc : o.PassesOver sys c := ⟨hsocket, by simp [hlater], hstrands⟩
        obtain ⟨f, pre, d, post, rfl, hpre, hd⟩ | ⟨pre, d, post, rfl, hpre, hd⟩ | hrest := ih
        · exact .inl ⟨f, c :: pre, d, post, rfl, List.forall_mem_cons.mpr ⟨hc, hpre⟩, hd⟩
        · exact .inr (.inl ⟨c :: pre, d, post, rfl, List.forall_mem_cons.mpr ⟨hc, hpre⟩, hd⟩)
        · exact .inr (.inr (List.forall_mem_cons.mpr ⟨hc, hrest⟩))

lemma findIdx?_of_passesOver (hcs : ∀ b ∈ cs, o.PassesOver sys b) :
    cs.findIdx? (fun c => (o.fault? sys c).isNone) = none := by
  rw [List.findIdx?_eq_none_iff]
  intro b hb
  rw [Option.isNone_eq_false_iff, Option.isSome_iff_ne_none]
  exact fault?_of_passesOver (hcs b hb)

lemma answer_of_usable (hpre : ∀ b ∈ pre, o.PassesOver sys b) (hc : o.fault? sys c = none)
    (none : Fault) : o.answer sys none (pre ++ c :: post) = .ok pre.length := by
  rw [answer, List.findIdx?_append, findIdx?_of_passesOver hpre, List.findIdx?_cons, hc]
  simp

lemma answer_of_passesOver (hcs : ∀ b ∈ cs, o.PassesOver sys b) (none : Fault) :
    o.answer sys none cs =
      .error ((cs.getLast?.bind (o.fault? sys)).elim (.fault none) .fault) := by
  rw [answer, findIdx?_of_passesOver hcs]
  cases cs.getLast?.bind (o.fault? sys) <;> rfl

/-- Only a candidate that ends the attempt keeps it from the answer that it is to come to. -/
lemma Course.outcome_cases {none : Fault}
    (h : Course o sys network (.fault none) 0 cs outcome calls) :
    outcome = .error .cancelled ∨ (∃ f, o.Obstructed sys cs f) ∨
      outcome = o.answer sys none cs := by
  obtain hf | ⟨pre, c, post, rfl, hpre, hc⟩ | hcs := o.obstructed_or sys cs
  · exact .inr (.inl hf)
  · rw [answer_of_usable hpre hc]
    obtain hcancelled | ⟨calls', h⟩ := h.append hpre
    · exact .inl hcancelled
    · rw [fault?, Option.or_eq_none_iff] at hc
      cases h with
      | unmade hsocket => exact nomatch hsocket.symm.trans hc.1
      | stranded _ hstrands => exact nomatch (laterFault?_of_strands hstrands).symm.trans hc.2
      | used => rw [Nat.zero_add]; exact .inr (.inr rfl)
      | givenUp => exact .inl rfl
      | passed _ hlater => exact nomatch hlater.symm.trans hc.2
  · rw [answer_of_passesOver hcs]
    have hnil : Course o sys network (.fault none) 0 (cs ++ []) outcome calls := by
      rw [List.append_nil]
      exact h
    obtain hcancelled | ⟨calls', h⟩ := hnil.append hcs
    · exact .inl hcancelled
    · cases h
      exact .inr (.inr rfl)

/-! ### Sockets -/

/-- A socket is made once the host is resolved, unless the attempt is given up while it is. -/
lemma makeSocket_cases (o : Opener) (network : Network) (stop : Option Nat)
    (hresolve : sys.resolveFault = none) (host : Text) (port : Int) :
    ((o.makeSocket sys network stop host port).outcome = .error .cancelled ∧
      (o.makeSocket sys network stop host port).calls = [.resolve host port network]) ∨
    ∃ now, (o.makeSocket sys network stop host port).outcome =
        (o.tryAll sys network stop (.fault (noCandidates host)) now 0 sys.candidates).outcome ∧
      (o.makeSocket sys network stop host port).calls = .resolve host port network ::
        (o.tryAll sys network stop (.fault (noCandidates host)) now 0 sys.candidates).calls := by
  unfold makeSocket
  simp only [hresolve]
  split
  · exact .inr ⟨_, rfl, rfl⟩
  · exact .inl ⟨rfl, rfl⟩

/-- An attempt that is not given up comes to its answer if and only if nothing gets in the way that
ends the attempt at once: a candidate without a socket, or an interface without a name that can be
encoded. No candidate after the one that is used is tried, and each socket that was made is closed
at the end, unless it is handed out or was to be bound to such an interface. -/
theorem makeSocket_falls_back_iff (o : Opener) (sys : System) (network : Network)
    (stop : Option Nat) (hresolve : sys.resolveFault = none)
    (hsystemic : ∀ c ∈ sys.candidates, c.Systemic) (host : Text) (port : Int) :
    let r := o.makeSocket sys network stop host port
    let expected := o.answer sys (noCandidates host) sys.candidates
    (r.outcome ≠ .error .cancelled →
      (r.outcome = expected ↔
        ∀ f, o.Obstructed sys sys.candidates f → expected = .error (.fault f)) ∧
      ∀ f, o.Obstructed sys sys.candidates f → r.outcome = .error (.fault f)) ∧
    (∀ k, r.outcome = .ok k →
      (∃ c, sys.candidates[k]? = some c ∧ o.fault? sys c = none ∧
        .connect k network c.address ∈ r.calls) ∧
      ∀ call ∈ r.calls, ∀ m ∈ call.number?, m ≤ k) ∧
    ∀ k c, sys.candidates[k]? = some c → c.socketFault = none →
      (∃ call ∈ r.calls, call.number? = some k) →
      (.close k ∈ r.calls ↔ r.outcome ≠ .ok k ∧ ∀ f, ¬ o.Strands sys c f) := by
  intro r expected
  obtain ⟨houtcome, hcalls⟩ | ⟨now, houtcome, hcalls⟩ :=
    o.makeSocket_cases network stop hresolve host port
  · -- The attempt was given up while the host was resolved, and no socket was made.
    refine ⟨fun h => absurd houtcome h, fun k hk => ?_, ?_⟩
    · exact nomatch houtcome.symm.trans hk
    · rintro k c - - ⟨call, hcall, hk⟩
      rw [hcalls, List.mem_singleton] at hcall
      rw [hcall] at hk
      exact nomatch hk
  · have hcourse : Course o sys network (.fault (noCandidates host)) 0 sys.candidates r.outcome _ :=
      houtcome ▸ course_tryAll hsystemic (.fault (noCandidates host)) now 0
    have hobstructed (hgoes : r.outcome ≠ .error .cancelled) (f : Fault)
        (hf : o.Obstructed sys sys.candidates f) : r.outcome = .error (.fault f) :=
      (hcourse.outcome_of_obstructed hf).resolve_left hgoes
    refine ⟨fun hgoes => ⟨⟨?_, fun h => ?_⟩, hobstructed hgoes⟩, fun k hk => ?_, ?_⟩
    · intro h f hf
      rw [← h]
      exact hobstructed hgoes f hf
    · obtain hcancelled | ⟨f, hf⟩ | hanswer := hcourse.outcome_cases
      · exact absurd hcancelled hgoes
      · rw [h f hf]
        exact hobstructed hgoes f hf
      · exact hanswer
    · obtain ⟨i, c, rfl, hc, hfault, hconnect, hlast⟩ := hcourse.exists_of_ok hk
      rw [Nat.zero_add] at hconnect hlast ⊢
      refine ⟨⟨c, hc, hfault, ?_⟩, ?_⟩
      · rw [hcalls]
        exact List.mem_cons_of_mem _ hconnect
      · rw [hcalls]
        exact List.forall_mem_cons.mpr ⟨nofun, hlast⟩
    · intro k c hc hsocket hmade
      obtain ⟨call, hcall, hnumber⟩ := hmade
      have hclose := hcourse.close_mem_iff hc hsocket
      rw [Nat.zero_add] at hclose
      rw [hcalls] at hcall ⊢
      obtain rfl | hcall := List.mem_cons.mp hcall
      · exact nomatch hnumber
      · rw [List.mem_cons, or_iff_right nofun]
        exact hclose ⟨call, hcall, hnumber⟩

/-- Where no socket can be made for the first candidate, the second one is not tried. An interface
whose name has a surrogate leaves the socket of the first candidate open. -/
theorem makeSocket_falls_back_iff_without_socket :
    let o : Opener := { interface := .text "eth0" }
    let foreign : Opener := { interface := .text (Text.ofString "eth" ++ [.surrogate 0x4ff]) }
    let unavailable : Fault := ⟨.system, "Address family not supported by protocol"⟩
    let second : Candidate := { family := "INET", protocol := 6, address := .null }
    let sys : System :=
      { candidates :=
          [{ family := "INET6", protocol := 6, address := .null, socketFault := some unavailable },
            second] }
    let r := foreign.makeSocket { candidates := [second] } .tcp none "h.example" 80
    ((o.makeSocket sys .tcp none "h.example" 80).outcome = .error (.fault unavailable) ∧
      o.answer sys (noCandidates "h.example") sys.candidates = .ok 1) ∧
    r.outcome = .error (.fault (.ofEncoding ⟨.surrogate 0x4ff, 3, 1⟩)) ∧
      (∃ call ∈ r.calls, call.number? = some 0) ∧ .close 0 ∉ r.calls := by
  intro o foreign unavailable second sys r
  have hsecond : second.Systemic := ⟨nofun, nofun, nofun, nofun, nofun⟩
  have hsystemic : ∀ c ∈ sys.candidates, c.Systemic := by
    intro c hc
    simp only [sys, List.mem_cons, List.not_mem_nil, or_false] at hc
    obtain rfl | rfl := hc
    · exact ⟨fun f hf => Option.some.inj hf ▸ rfl, nofun, nofun, nofun, nofun⟩
    · exact hsecond
  refine ⟨?_, ?_⟩
  · have hobstructed : o.Obstructed sys sys.candidates unavailable :=
      ⟨[], _, _, rfl, List.forall_mem_nil _, .inl rfl⟩
    obtain ⟨houtcome, -⟩ :=
      o.makeSocket_falls_back_iff sys .tcp none rfl hsystemic "h.example" 80
    exact ⟨(houtcome nofun).2 unavailable hobstructed, rfl⟩
  · have hstrands : foreign.Strands { candidates := [second] } second
        (.ofEncoding ⟨.surrogate 0x4ff, 3, 1⟩) := ⟨rfl, rfl, rfl, rfl⟩
    have hmade : ∃ call ∈ r.calls, call.number? = some 0 :=
      ⟨.socket 0 "INET" .tcp 6, List.mem_cons_of_mem _ List.mem_cons_self, rfl⟩
    obtain ⟨houtcome, -, hclosed⟩ := foreign.makeSocket_falls_back_iff { candidates := [second] }
      .tcp none rfl (List.forall_mem_singleton.mpr hsecond) "h.example" 80
    have hobstructed : foreign.Obstructed { candidates := [second] } [second] _ :=
      ⟨[], _, _, rfl, List.forall_mem_nil _, .inr ⟨rfl, hstrands⟩⟩
    refine ⟨(houtcome nofun).2 _ hobstructed, hmade, fun hclose => ?_⟩
    exact ((hclosed 0 second rfl rfl hmade).mp hclose).2 _ hstrands

end Opener

end Socks5.Net
