import Socks5.Proofs.Address.RoundTrip
import Socks5.Relay

/-!
# What is read as an address

Octets are read as an address only if they are what would be written for it. There is one exception:
an IPv4 address may also come as the IPv4-mapped IPv6 address, and is then written in its own form.
So reading determines what was read, up to that form, and a datagram that cannot be read says which
of its fields is to blame.
-/

namespace Socks5

namespace Address

variable {type : AddressType} {body : Bytes} {port : UInt16} {a : Address}

/-- The wire form of an IPv4 address that comes as an IPv4-mapped IPv6 address. -/
def mappedForm (v port : Bytes) : Bytes := 4 :: List.replicate 10 0 ++ [0xff, 0xff] ++ v ++ port

/-- An address is written for these octets: they are its own form, or that as a mapped address. -/
def WrittenFor (w : Bytes) (a : Address) : Prop :=
  a.pack = w ∨ ∃ v port : Bytes, v.length = 4 ∧ port.length = 2 ∧
    w = mappedForm v port ∧ a.pack = 1 :: v ++ port

/-! ### From the fields to the address -/

lemma writtenFor_ipv4 (h : ofFields .ipv4 body port = .ok a) :
    WrittenFor (1 :: body ++ Bytes.ofUInt16 port) a := by
  simp only [ofFields] at h
  split at h
  · next v hv =>
    obtain rfl := Ip.V4.ofOctets?_eq_some_iff.mp hv
    cases h
    exact .inl rfl
  · cases h

/-- An address that is not a mapped one is written with the octets it was read from. -/
lemma writtenFor_ipv6 (h : ofFields .ipv6 body port = .ok a) :
    WrittenFor (4 :: body ++ Bytes.ofUInt16 port) a := by
  simp only [ofFields] at h
  split at h
  · next v hv =>
    obtain ⟨rfl, -⟩ := Ip.V6.octets_of_ofOctets? hv
    cases h
    cases hmapped : v.mapped? with
    | none =>
      left
      rw [ofIp, Host.ofIp_of_not_mapped hmapped]
      rfl
    | some w =>
      -- Only here is an address written in another form than it was read in.
      right
      refine ⟨w.octets, Bytes.ofUInt16 port, w.length_octets, rfl, ?_, ?_⟩
      · rw [Ip.V6.octets_of_mapped? hmapped]
        rfl
      · rw [ofIp, Host.ofIp_of_mapped hmapped]
        rfl
  · cases h

lemma writtenFor_name (h : ofFields .domain body port = .ok a) :
    WrittenFor (3 :: UInt8.ofNat body.length :: body ++ Bytes.ofUInt16 port) a := by
  simp only [ofFields] at h
  split at h
  · next text htext =>
    obtain rfl := Bytes.toText?_eq_some_iff.mp htext
    unfold ofName DomainName.ofString at h
    split_ifs at h with hpos hle
    · cases h
      exact .inl rfl
    all_goals cases h
  · cases h

/-- What is read as an address was written for it. -/
lemma exists_writtenFor_of_unpack {d r : Bytes} (h : unpack d = .ok (a, r)) :
    ∃ w, d = w ++ r ∧ WrittenFor w a := by
  obtain ⟨type, body, port, -, hfields, rfl⟩ := exists_fields_of_unpack h
  refine ⟨_, (List.append_assoc _ (body ++ Bytes.ofUInt16 port) r).symm, ?_⟩
  cases type with
  | ipv4 => exact writtenFor_ipv4 hfields
  | ipv6 => exact writtenFor_ipv6 hfields
  | domain => exact writtenFor_name hfields

end Address

/-! ### Datagrams -/

lemma Frame.unpack_of_parseDatagram_error {d : Bytes} {reason : WireError}
    (h : parseDatagram d = .error (.address reason)) :
    ∃ bs, Address.unpack bs = .error reason := by
  match d, h with
  | r₀ :: r₁ :: fragment :: t :: rest, h =>
    simp only [parseDatagram] at h
    split_ifs at h
    · cases h
    · cases h
    · refine ⟨t :: rest, ?_⟩
      cases hunpack : Address.unpack (t :: rest) with
      | ok m =>
        rw [hunpack] at h
        cases h
      | error e =>
        rw [hunpack] at h
        cases h
        rfl

namespace Relay

lemma decode_eq_ok_iff {d payload : Bytes} {source : Address} :
    decode d = .ok (payload, source) ↔ Frame.parseDatagram d = .ok (payload, source) := by
  unfold decode
  cases Frame.parseDatagram d <;> simp [Except.mapError]

/-- A datagram that cannot be read has no fields of a wrong length. -/
lemma decode_error {d : Bytes} {f : Failure} (h : decode d = .error f) :
    ∃ e : Frame.DatagramError, f = .error (.datagram e) ∧ e ≠ .address .bodyLength ∧
      e ≠ .address .portLength := by
  unfold decode at h
  cases hparse : Frame.parseDatagram d with
  | ok m =>
    rw [hparse] at h
    cases h
  | error e =>
    rw [hparse] at h
    cases h
    refine ⟨e, rfl, ?_, ?_⟩
    · rintro rfl
      obtain ⟨bs, hunpack⟩ := Frame.unpack_of_parseDatagram_error hparse
      exact (Address.unpack_error hunpack).1 rfl
    · rintro rfl
      obtain ⟨bs, hunpack⟩ := Frame.unpack_of_parseDatagram_error hparse
      exact (Address.unpack_error hunpack).2 rfl

end Relay

namespace Address

/-- An address is written with the octets it was read from, unless these are the mapped form of an
IPv4 address; and so is the header of a datagram. A datagram that cannot be read is refused with an
error of the relay, because it is too short, breaks the protocol, has a fragment number or an
unknown type of address, or holds no address. -/
theorem decoding_is_canonical (d : Bytes) :
    (∀ a r, unpack d = .ok (a, r) → ∃ w, d = w ++ r ∧
      (a.pack = w ∨ ∃ v port : Bytes, v.length = 4 ∧ port.length = 2 ∧
        w = mappedForm v port ∧ a.pack = 1 :: v ++ port)) ∧
    (∀ p a, Relay.decode d = .ok (p, a) → Frame.datagramHeader a ++ p = d ∨
      ∃ v port : Bytes, v.length = 4 ∧ port.length = 2 ∧
        d = 0 :: 0 :: 0 :: mappedForm v port ++ p ∧
        Frame.datagramHeader a ++ p = 0 :: 0 :: 0 :: (1 :: v ++ port) ++ p) ∧
    (∀ f, Relay.decode d = .error f → ∃ e : Error, f = .error e ∧
      e.category ∈ [.shortReply, .protocol, .unsupported, .address] ∧ e.stage = some .relay ∧
      e ≠ .datagram (.address .bodyLength) ∧ e ≠ .datagram (.address .portLength)) := by
  refine ⟨fun a r h => exists_writtenFor_of_unpack h, ?_, ?_⟩
  · intro p a h
    obtain ⟨rest, rfl, hunpack⟩ :=
      Frame.parseDatagram_eq_ok_iff.mp (Relay.decode_eq_ok_iff.mp h)
    obtain ⟨w, rfl, hw | ⟨v, port, hv, hport, rfl, hpack⟩⟩ := exists_writtenFor_of_unpack hunpack
    · left
      rw [Frame.datagramHeader, hw]
      rfl
    · right
      refine ⟨v, port, hv, hport, rfl, ?_⟩
      rw [Frame.datagramHeader, hpack]
  · intro f h
    obtain ⟨e, rfl, hbody, hport⟩ := Relay.decode_error h
    refine ⟨.datagram e, rfl, ?_, rfl, by simpa using hbody, by simpa using hport⟩
    cases e with
    | short => simp [Error.category, Frame.DatagramError.category]
    | reserved first second => simp [Error.category, Frame.DatagramError.category]
    | fragment number => simp [Error.category, Frame.DatagramError.category]
    | address reason =>
      cases reason <;> simp [Error.category, Frame.DatagramError.category, WireError.category]

/-- A datagram from a mapped address is read, and is written shorter than it came. -/
theorem decoding_is_canonical_but_for_mapped :
    let d : Bytes := [0, 0, 0, 4, 0, 0, 0, 0, 0, 0, 0, 0, 0, 0, 0xff, 0xff, 192, 0, 2, 1, 0, 53, 7]
    let a : Address := ⟨.ipv4 ⟨192, 0, 2, 1⟩, 53⟩
    Relay.decode d = .ok ([7], a) ∧ Frame.datagramHeader a ++ [7] ≠ d ∧
      ∃ v port : Bytes, v.length = 4 ∧ port.length = 2 ∧
        d = 0 :: 0 :: 0 :: mappedForm v port ++ [7] ∧
        Frame.datagramHeader a ++ [7] = 0 :: 0 :: 0 :: (1 :: v ++ port) ++ [7] := by
  intro d a
  have hdecode : Relay.decode d = .ok ([7], a) := rfl
  have hlonger : Frame.datagramHeader a ++ [7] ≠ d := by decide
  obtain ⟨-, hdatagram, -⟩ := decoding_is_canonical d
  exact ⟨hdecode, hlonger, (hdatagram _ _ hdecode).resolve_left hlonger⟩

end Address

end Socks5
