import Socks5.Proofs.Dial.Octets

/-!
# The courses of a dial

A course is what a dial may have done up to some moment, act after act; how long things take and how
they fail from below is left open, so that a course may be cut off behind every act. What was read
up to the result of a handshake is just what settles that result.
-/

namespace Socks5

variable {α : Type}

/-! ### Acts -/

/-- What a dial does on the network. -/
inductive Act where
  /-- It attempts to open a stream. -/
  | opensStream (host : Text) (port : UInt16)
  /-- It hands octets over to the stream. -/
  | writes (bs : Bytes)
  /-- It has read octets from the stream. -/
  | reads (bs : Bytes)
  /-- It attempts to open an endpoint. -/
  | opensEndpoint (host : Text) (port : UInt16)
  deriving DecidableEq, Repr

namespace Act

/-- The octets that were written. -/
def sent (acts : List Act) : Bytes := acts.flatMap fun
  | writes bs => bs
  | _ => []

/-- The octets that were read. -/
def received (acts : List Act) : Bytes := acts.flatMap fun
  | reads bs => bs
  | _ => []

/-- The attempts to open a stream. -/
def streamCalls (acts : List Act) : List (Text × UInt16) := acts.filterMap fun
  | opensStream host port => some (host, port)
  | _ => none

/-- The attempts to open an endpoint. -/
def endpointCalls (acts : List Act) : List (Text × UInt16) := acts.filterMap fun
  | opensEndpoint host port => some (host, port)
  | _ => none

@[simp] lemma sent_append (acts more : List Act) : sent (acts ++ more) = sent acts ++ sent more :=
  List.flatMap_append

@[simp] lemma received_append (acts more : List Act) :
    received (acts ++ more) = received acts ++ received more := List.flatMap_append

@[simp] lemma streamCalls_append (acts more : List Act) :
    streamCalls (acts ++ more) = streamCalls acts ++ streamCalls more := List.filterMap_append

@[simp] lemma endpointCalls_append (acts more : List Act) :
    endpointCalls (acts ++ more) = endpointCalls acts ++ endpointCalls more :=
  List.filterMap_append

end Act

/-! ### The courses of a handshake -/

namespace Handshake

/-- What a handshake may have done, and its result if it has come to one. -/
inductive Course : Handshake α → List Act → Option α → Prop where
  | cut (h : Handshake α) : Course h [] none
  | done (a : α) : Course (.done a) [] (some a)
  | note {next : Handshake α} {acts : List Act} {result : Option α} (n : Note)
      (h : Course next acts result) : Course (.note n next) acts result
  | send {next : Handshake α} {acts : List Act} {result : Option α} (request : Request)
      (out : Bytes) (h : Course next acts result) :
      Course (.send request out next) (.writes out :: acts) result
  | receive {next : Bytes → Handshake α} {acts : List Act} {result : Option α} (part : Part)
      {count : Nat} {bs : Bytes} (hlength : bs.length = count) (h : Course (next bs) acts result) :
      Course (.receive part count next) (.reads bs :: acts) result

namespace Course

variable {h : Handshake α} {acts past : List Act} {result : Option α}

/-- Whatever was done at an earlier moment is a course as well. -/
lemma earlier (hcourse : Course h acts result) (hpast : past <+: acts) : Course h past none := by
  induction hcourse generalizing past with
  | cut h =>
    rw [List.prefix_nil.mp hpast]
    exact .cut h
  | done a =>
    rw [List.prefix_nil.mp hpast]
    exact .cut _
  | note n _ ih => exact .note n (ih hpast)
  | send request out _ ih =>
    obtain rfl | ⟨past, rfl, hless⟩ := List.prefix_cons_iff.mp hpast
    · exact .cut _
    · exact .send request out (ih hless)
  | receive part hlength _ ih =>
    obtain rfl | ⟨past, rfl, hless⟩ := List.prefix_cons_iff.mp hpast
    · exact .cut _
    · exact .receive part hlength (ih hless)

/-- A handshake opens nothing. -/
lemma opens_nothing (hcourse : Course h acts result) :
    Act.streamCalls acts = [] ∧ Act.endpointCalls acts = [] := by
  induction hcourse with
  | cut h => exact ⟨rfl, rfl⟩
  | done a => exact ⟨rfl, rfl⟩
  | note n _ ih => exact ih
  | send request out _ ih => exact ih
  | receive part _ _ ih => exact ih

/-- What was read up to a result leads to this result, and nothing of it is left. -/
lemma onOctets_received {a : α} (hcourse : Course h acts (some a)) (ends : Bool) :
    h.onOctets ends (Act.received acts) = (.value a, Act.sent acts, []) := by
  generalize hresult : some a = result at hcourse
  induction hcourse with
  | cut h => cases hresult
  | done a' =>
    obtain rfl : a = a' := Option.some.inj hresult
    rfl
  | note n _ ih => exact ih hresult
  | send request out _ ih =>
    exact congrArg (fun r : Ended α × Bytes × Bytes => (r.1, out ++ r.2.1, r.2.2)) (ih hresult)
  | @receive next acts result part count bs hlength _ ih =>
    -- The octets of this act are the first of all that were received.
    have henough : count ≤ (bs ++ Act.received acts).length := by
      rw [List.length_append, hlength]
      exact Nat.le_add_right _ _
    calc (Handshake.receive part count next).onOctets ends (bs ++ Act.received acts)
        = (next ((bs ++ Act.received acts).take count)).onOctets ends
            ((bs ++ Act.received acts).drop count) := if_pos henough
      _ = (next bs).onOctets ends (Act.received acts) := by
        rw [List.take_left' hlength, List.drop_left' hlength]
      _ = (.value a, Act.sent acts, []) := ih hresult

/-- A handshake that only hears writes nothing. -/
lemma sends_nothing (hcourse : Course h acts result) (hears : h.Hears) : Act.sent acts = [] := by
  induction hcourse with
  | cut h => rfl
  | done a => rfl
  | note n _ ih => exact ih hears
  | send request out _ _ => exact hears.1.elim
  | receive part hlength _ ih => exact ih (hears _ hlength)

end Course

/-- Until the proxy has answered with its version, nothing but the negotiation was written. -/
lemma negotiate_course {network : Network} {target : Address} {acts : List Act}
    {result : Option Address} (hcourse : Course (negotiate network target) acts result) :
    (result = none ∧ (Act.sent acts = [] ∨ Act.sent acts = Frame.negotiation)) ∨
      ∃ method reply, Act.sent reply = [] ∧
        acts = .writes Frame.negotiation :: .reads [Frame.version, method] ::
          .writes (Frame.request network.command target) :: reply := by
  cases hcourse with
  | cut => exact .inl ⟨rfl, .inl rfl⟩
  | send _ _ hanswer =>
  cases hanswer with
  | cut => exact .inl ⟨rfl, .inr rfl⟩
  | @receive _ _ _ _ _ front hfront hnext =>
  match front, hfront with
  | [version, method], _ =>
    simp only at hnext
    split_ifs at hnext with hversion
    · cases hnext
      exact .inl ⟨rfl, .inr rfl⟩
    obtain rfl : version = Frame.version := not_not.mp hversion
    -- Two notes are told before the command is sent.
    cases hnext with
    | cut => exact .inl ⟨rfl, .inr rfl⟩
    | note _ hcommand =>
    cases hcommand with
    | cut => exact .inl ⟨rfl, .inr rfl⟩
    | note _ hsend =>
    cases hsend with
    | cut => exact .inl ⟨rfl, .inr rfl⟩
    | send _ _ hreply => exact .inr ⟨method, _, hreply.sends_nothing (readReply_hears network), rfl⟩

end Handshake

/-! ### The courses of a dial -/

namespace Dialer

variable {d : Dialer} {network : Network} {target : Address} {acts past : List Act}

/-- The attempt to open a stream to the proxy. -/
def streamCall (d : Dialer) : Act := .opensStream d.proxy.toPair.1 d.proxy.toPair.2

/-- What a dial of a target may have done. -/
inductive Course (d : Dialer) (network : Network) (target : Address) : List Act → Prop where
  /-- Nothing. -/
  | idle : Course d network target []
  /-- It has attempted to open the stream, and has carried on the handshake to some point. -/
  | talking {talk : List Act} {result : Option Address}
      (h : (Handshake.negotiate network target).Course talk result) :
      Course d network target (d.streamCall :: talk)
  /-- After the handshake it has attempted to open the relay. -/
  | opening {talk : List Act} {bound : Address} (hnetwork : network = .udp)
      (h : (Handshake.negotiate network target).Course talk (some bound)) :
      Course d network target
        (d.streamCall :: (talk ++ [.opensEndpoint (d.relayHost bound) bound.port]))

/-- Whatever a dial had done at an earlier moment is a course as well. -/
lemma Course.earlier (hcourse : Course d network target acts) (hpast : past <+: acts) :
    Course d network target past := by
  cases hcourse with
  | idle =>
    rw [List.prefix_nil.mp hpast]
    exact .idle
  | talking h =>
    obtain rfl | ⟨talk, rfl, htalk⟩ := List.prefix_cons_iff.mp hpast
    · exact .idle
    · exact .talking (h.earlier htalk)
  | opening hnetwork h =>
    obtain rfl | ⟨talk, rfl, htalk⟩ := List.prefix_cons_iff.mp hpast
    · exact .idle
    obtain rfl | htalk := List.prefix_concat_iff.mp htalk
    · exact .opening hnetwork h
    · exact .talking (h.earlier htalk)

end Dialer

end Socks5
