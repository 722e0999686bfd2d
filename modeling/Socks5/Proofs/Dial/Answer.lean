import Socks5.Proofs.Address.Fields
import Socks5.Proofs.Dial.Reading

/-!
# The answer of a proxy as a whole

The handshake reads the answer of a proxy piece by piece. `answer` reads the same octets at once,
with `Address.unpack` for the bound address. `Handshake.Computes` says that a handshake gives on
every line what a function gives on the octets that the line brings; it is shown node by node, and
`negotiate_agrees_answer` puts the nodes together.
-/

namespace Socks5

/-! ### Reading the answer at once -/

/-- What callers can tell of a refusal. -/
structure Refusal where
  /-- The category. -/
  category : Category
  /-- How far things had got. -/
  stage : Option Stage
  /-- The version that was found instead of 5. -/
  version : Option UInt8 := none
  /-- The code with which the proxy refused. -/
  status : Option UInt8 := none
  deriving DecidableEq, Repr

/-- What callers can tell of an error. -/
def Error.refusal (e : Error) : Refusal :=
  { category := e.category, stage := e.stage, version := e.version?, status := e.status? }

/-- Reads the reply to a command; what is behind the bound address is left. -/
def Network.reply (network : Network) : Bytes → Except Refusal (Address × Bytes)
  | version :: status :: reserved :: type :: rest =>
    if version ≠ 5 then
      .error { category := .version, stage := network.stage, version := some version }
    else if status ≠ 0 then
      .error { category := .reply, stage := network.stage, status := some status }
    else if reserved ≠ 0 then .error { category := .protocol, stage := network.stage }
    else (Address.unpack (type :: rest)).mapError fun e =>
      { category := e.category, stage := network.stage }
  | _ => .error { category := .shortReply, stage := network.stage }

/-- Reads the whole answer: that to the negotiation, which is two octets long, and the reply. -/
def Network.answer (network : Network) : Bytes → Except Refusal (Address × Bytes)
  | version :: _ :: reply =>
    if version ≠ 5 then
      .error { category := .version, stage := some .negotiation, version := some version }
    else network.reply reply
  | _ => .error { category := .shortReply, stage := some .negotiation }

/-! ### Handshakes that compute a function -/

/-- A handshake ends as a reading of the whole says: with the same address and the same octets left
on the line, or with an error of which callers can tell the same. -/
def Agrees : Except Refusal (Address × Bytes) → Ended Address × Line → Prop
  | .ok (bound, rest), (ended, l) => ended = .value bound ∧ l.unread = rest
  | .error refusal, (ended, _) => ∃ e : Error, ended = .failure (.error e) ∧ e.refusal = refusal

/-- On every undisturbed line a handshake without time limits ends as a function of the octets says
that the line brings before its end. -/
def Handshake.Computes (h : Handshake Address) (f : Bytes → Except Refusal (Address × Bytes)) :
    Prop :=
  ∀ (l : Line) (bs : Bytes), l.Brings bs true → Agrees (f bs) (h.run none none l)

namespace Handshake

variable {next : Handshake Address} {f g : Bytes → Except Refusal (Address × Bytes)}

lemma Computes.congr (h : next.Computes f) (hfg : ∀ bs, f bs = g bs) : next.Computes g :=
  fun l bs hl => hfg bs ▸ h l bs hl

lemma computes_done (bound : Address) : (done bound).Computes fun bs => .ok (bound, bs) :=
  fun _ _ hl => ⟨rfl, hl.unread_eq⟩

lemma computes_fail (e : Error) : (fail e).Computes fun _ => .error e.refusal :=
  fun _ _ _ => ⟨e, rfl, rfl⟩

lemma Computes.note (n : Note) (h : next.Computes f) : (note n next).Computes f :=
  fun _ _ hl => h _ _ (hl.tell n)

lemma Computes.send (request : Request) (out : Bytes) (h : next.Computes f) :
    (send request out next).Computes f := by
  intro l bs hl
  obtain ⟨l', hwrite, hl'⟩ := hl.write out
  have hrun : (Handshake.send request out next).run none none l = next.run none none l' := by
    simp [run, limitAt, stricter, hwrite]
  exact hrun ▸ h l' bs hl'

/-- A read takes its octets off the front, and comes up short if there are fewer. -/
lemma computes_receive (part : Part) {count : Nat} {next : Bytes → Handshake Address}
    {f : Bytes → Bytes → Except Refusal (Address × Bytes)}
    (h : ∀ front, front.length = count → (next front).Computes (f front)) :
    (receive part count next).Computes fun bs =>
      if count ≤ bs.length then f (bs.take count) (bs.drop count)
      else .error { category := .shortReply, stage := part.stage } := by
  intro l bs hl
  by_cases hcount : count ≤ bs.length
  · obtain ⟨l', hread, hl'⟩ := hl.read_exactly hcount
    have hrun : (receive part count next).run none none l =
        (next (bs.take count)).run none none l' := by
      simp [run, limitAt, stricter, hread]
    simp only [if_pos hcount, hrun]
    exact h _ (List.length_take_of_le hcount) l' _ hl'
  · obtain ⟨l', hread⟩ := hl.read_exactly_incomplete (Nat.not_le.mp hcount)
    have hrun : (receive part count next).run none none l =
        (.failure (.error (.short part)), l') := by
      simp [run, limitAt, stricter, hread, receiveFailure]
    simp only [if_neg hcount, hrun]
    exact ⟨.short part, rfl, rfl⟩

/-! ### The bound address -/

/-- What callers can tell when the bound address is refused. -/
def bindRefusal (network : Network) (e : WireError) : Refusal :=
  { category := e.category, stage := network.stage }

lemma readPort_computes (network : Network) (type : AddressType) (body : Bytes)
    (hlength : ∀ size ∈ type.bodyLength?, body.length = size) :
    (readPort network type body).Computes fun bs =>
      if 2 ≤ bs.length then
        ((Address.ofWire (.ofOctet type.octet) body (bs.take 2)).map (·, bs.drop 2)).mapError
          (bindRefusal network)
      else .error { category := .shortReply, stage := network.stage } := by
  refine computes_receive (.port network) (f := fun port rest =>
    ((Address.ofWire (.ofOctet type.octet) body port).map (·, rest)).mapError
      (bindRefusal network)) fun port hport => ?_
  match port, hport with
  | [hi, lo], _ =>
    simp only [Address.ofWire, TypeNumber.type?_ofOctet, AddressType.ofOctet?_octet]
    cases hfields : Address.ofFields type body (Bytes.toUInt16 hi lo) with
    | ok bound => exact (computes_done bound).note _
    | error e =>
      obtain ⟨reason, rfl⟩ := Address.ofFields_error hlength hfields
      exact computes_fail (.bind network type reason)

lemma readBody_computes (network : Network) (type : AddressType) {size : Nat}
    (hsize : ∀ n ∈ type.bodyLength?, size = n) :
    (readBody network type size).Computes fun bs =>
      (Address.unpackBody (.ofOctet type.octet) size bs).mapError (bindRefusal network) := by
  refine (computes_receive (.body network type) fun body hbody =>
    readPort_computes network type body fun n hn => hbody.trans (hsize n hn)).congr fun bs => ?_
  by_cases hshort : bs.length < size + 2
  · rw [Address.unpackBody, if_pos hshort]
    by_cases hbody : size ≤ bs.length
    · rw [if_pos hbody, if_neg (by rw [List.length_drop]; omega)]
      rfl
    · rw [if_neg hbody]
      rfl
  · rw [Address.unpackBody, if_neg hshort, if_pos (by omega),
      if_pos (by rw [List.length_drop]; omega), List.drop_drop]

/-- Reads a domain name and a port once their length has been read. -/
def named (network : Network) : Bytes → Bytes → Except Refusal (Address × Bytes)
  | [n], bs =>
    if n = 0 then .error { category := .address, stage := network.stage }
    else (Address.unpackBody (.ofOctet AddressType.domain.octet) n.toNat bs).mapError
      (bindRefusal network)
  | _, _ => .error { category := .shortReply, stage := network.stage }

lemma readBound_computes (network : Network) (type : AddressType) :
    (readBound network type).Computes fun bs =>
      (Address.unpack (type.octet :: bs)).mapError (bindRefusal network) := by
  cases type with
  | ipv4 => exact readBody_computes network .ipv4 fun _ hn => Option.some.inj hn
  | ipv6 => exact readBody_computes network .ipv6 fun _ hn => Option.some.inj hn
  | domain =>
    refine (computes_receive (.nameLength network) (f := named network)
      fun length hlength => ?_).congr fun bs => ?_
    · obtain ⟨n, rfl⟩ := List.length_eq_one_iff.mp hlength
      by_cases hzero : n = 0
      · simp only [if_pos hzero]
        exact (computes_fail (.emptyBind network)).congr fun bs => (if_pos hzero).symm
      · have hbody := readBody_computes network .domain
          (show ∀ size ∈ AddressType.domain.bodyLength?, n.toNat = size by
            simp [AddressType.bodyLength?])
        simp only [if_neg hzero]
        exact hbody.congr fun bs => (if_neg hzero).symm
    · cases bs with
      | nil => rfl
      | cons n rest =>
        by_cases hzero : n = 0
        · simp [named, Address.unpack, AddressType.ofOctet?, AddressType.octet,
            AddressType.bodyLength?, hzero, Except.mapError, bindRefusal, WireError.category]
        · simp [named, Address.unpack, AddressType.ofOctet?, AddressType.octet,
            AddressType.bodyLength?, hzero]

/-! ### The whole answer -/

lemma readReply_computes (network : Network) : (readReply network).Computes network.reply := by
  refine (computes_receive (.header network)
    (f := fun header rest => network.reply (header ++ rest)) fun header hheader => ?_).congr
      fun bs => ?_
  · match header, hheader with
    | [version, status, reserved, type], _ =>
      simp only [List.cons_append, List.nil_append, Network.reply]
      change Computes (if version ≠ 5 then _ else _) _
      by_cases hversion : version ≠ 5
      · simp only [if_pos hversion]
        exact computes_fail (.replyVersion network version)
      by_cases hstatus : status ≠ 0
      · simp only [if_neg hversion, if_pos hstatus]
        exact computes_fail (.refused network status)
      by_cases hreserved : reserved ≠ 0
      · simp only [if_neg hversion, if_neg hstatus, if_pos hreserved]
        exact computes_fail (.reserved network reserved)
      simp only [if_neg hversion, if_neg hstatus, if_neg hreserved]
      cases htype : AddressType.ofOctet? type with
      | none =>
        simp only [Address.unpack, htype]
        exact computes_fail (.bindType network type)
      | some t =>
        rw [← AddressType.octet_of_ofOctet? htype]
        exact readBound_computes network t
  · rcases bs with _ | ⟨version, _ | ⟨status, _ | ⟨reserved, _ | ⟨type, rest⟩⟩⟩⟩
    · rfl
    · rfl
    · rfl
    · rfl
    · simp

lemma negotiate_computes (network : Network) (target : Address) :
    (negotiate network target).Computes network.answer := by
  refine ((computes_receive .method
    (f := fun method rest => network.answer (method ++ rest)) fun method hmethod => ?_).congr
      fun bs => ?_).send .negotiation Frame.negotiation
  · match method, hmethod with
    | [version, method], _ =>
      simp only [List.cons_append, List.nil_append, Network.answer]
      change Computes (if version ≠ 5 then _ else _) _
      by_cases hversion : version ≠ 5
      · simp only [if_pos hversion]
        exact computes_fail (.methodVersion version)
      · simp only [if_neg hversion]
        exact (((readReply_computes network).send _ _).note _).note _
  · match bs with
    | [] | [_] => rfl
    | version :: method :: rest => simp

/-- Negotiating without time limits with a proxy that sends some octets and then ends its output
leads to just what reading these octets at once leads to, however they are cut and whenever they
arrive. -/
theorem negotiate_agrees_answer (network : Network) (target : Address) {script : Script}
    {bs : Bytes} (hsends : script.stream.Sends bs true) (hcancel : script.cancelAt = none)
    (now : Nat) (notes : List Note) :
    Agrees (network.answer bs)
      ((negotiate network target).run none none (Dialer.openedLine script now notes)) :=
  negotiate_computes network target _ _ (hsends.brings hcancel now notes)

/-- The pieces need not end where the fields do, and an octet behind the reply stays on the line. -/
theorem negotiate_agrees_answer_in_pieces :
    let script : Script :=
      { stream :=
          { arrivals :=
              [(3, .data [5]), (4, .data [0, 5, 0, 0, 1, 10]), (9, .data [0, 0, 1, 4, 56, 127]),
                (9, .ended)]
            plans := [{ delay := 2 }] } }
    script.stream.Sends [5, 0, 5, 0, 0, 1, 10, 0, 0, 1, 4, 56, 127] true ∧
      script.cancelAt = none ∧
      Agrees (.ok (⟨.ipv4 ⟨10, 0, 0, 1⟩, 1080⟩, [127]))
        ((negotiate .udp ⟨.ipv4 ⟨192, 0, 2, 1⟩, 53⟩).run none none
          (Dialer.openedLine script 0 [])) := by
  intro script
  have hsends : script.stream.Sends [5, 0, 5, 0, 0, 1, 10, 0, 0, 1, 4, 56, 127] true :=
    ⟨⟨[[5], [0, 5, 0, 0, 1, 10], [0, 0, 1, 4, 56, 127]], rfl, rfl⟩, by simp [script]⟩
  have hanswer : Network.answer .udp [5, 0, 5, 0, 0, 1, 10, 0, 0, 1, 4, 56, 127] =
      .ok (⟨.ipv4 ⟨10, 0, 0, 1⟩, 1080⟩, [127]) := rfl
  exact ⟨hsends, rfl, hanswer ▸ negotiate_agrees_answer .udp _ hsends rfl 0 []⟩

end Handshake

end Socks5
