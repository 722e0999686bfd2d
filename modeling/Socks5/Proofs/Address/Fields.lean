import Mathlib.Tactic.Common
import Socks5.Address.Wire

/-!
# The fields of an address on the wire

An address travels as a type octet, a body, which has its length in front if it is a domain name,
and a port. `unpack_fields` reads these fields one after the other, and `exists_fields_of_unpack`
says that nothing else is ever read as an address. Numbers, texts and IP addresses are the same as
their octets, which is what makes both of use.
-/

namespace Socks5

/-! ### Numbers and texts -/

namespace Bytes

lemma toNat_toUInt16 (hi lo : UInt8) : (toUInt16 hi lo).toNat = hi.toNat * 256 + lo.toNat := by
  have hhi := hi.toNat_lt
  have hor : hi.toNat <<< 8 ||| lo.toNat = hi.toNat <<< 8 + lo.toNat :=
    (Nat.shiftLeft_add_eq_or_of_lt lo.toNat_lt _).symm
  have hshift : hi.toNat <<< 8 = hi.toNat * 256 := Nat.shiftLeft_eq _ _
  simp only [toUInt16, UInt16.toNat_or, UInt16.toNat_shiftLeft, UInt8.toNat_toUInt16]
  rw [show (8 : UInt16).toNat % 16 = 8 from rfl, Nat.mod_eq_of_lt (by omega), hor, hshift]

@[simp] lemma toUInt16_ofUInt16 (n : UInt16) : toUInt16 (n >>> 8).toUInt8 n.toUInt8 = n := by
  have hn := n.toNat_lt
  have hshift : n.toNat >>> 8 = n.toNat / 256 := Nat.shiftRight_eq_div_pow _ _
  apply UInt16.toNat_inj.mp
  rw [toNat_toUInt16]
  simp only [UInt16.toNat_toUInt8, UInt16.toNat_shiftRight]
  rw [show (8 : UInt16).toNat % 16 = 8 from rfl, hshift]
  omega

@[simp] lemma ofUInt16_toUInt16 (hi lo : UInt8) : ofUInt16 (toUInt16 hi lo) = [hi, lo] := by
  have hhi := hi.toNat_lt
  have hlo := lo.toNat_lt
  have hfirst : (toUInt16 hi lo >>> 8).toUInt8 = hi := by
    apply UInt8.toNat_inj.mp
    simp only [UInt16.toNat_toUInt8, UInt16.toNat_shiftRight, toNat_toUInt16]
    rw [show (8 : UInt16).toNat % 16 = 8 from rfl, Nat.shiftRight_eq_div_pow]
    omega
  have hsecond : (toUInt16 hi lo).toUInt8 = lo := by
    apply UInt8.toNat_inj.mp
    simp only [UInt16.toNat_toUInt8, toNat_toUInt16]
    omega
  rw [ofUInt16, hfirst, hsecond]

/-- The octets of a text are read as that text, and no other octets are. -/
lemma toText?_eq_some_iff {bs : Bytes} {s : String} : toText? bs = some s ↔ ofText s = bs := by
  constructor
  · intro h
    unfold toText? String.fromUTF8? at h
    split at h
    · cases h
      change bs.toByteArray.data.toList = bs
      rw [List.data_toByteArray]
    · cases h
  · rintro rfl
    have hbytes : (ofText s).toByteArray = s.toByteArray := by
      apply ByteArray.ext
      rw [List.data_toByteArray, ofText, Array.toArray_toList]
    unfold toText? String.fromUTF8?
    rw [hbytes, dif_pos s.isValidUTF8]
    rfl

end Bytes

/-! ### IP addresses -/

namespace Ip

lemma V4.ofOctets?_eq_some_iff {bs : Bytes} {v : V4} : ofOctets? bs = some v ↔ v.octets = bs := by
  constructor
  · intro h
    match bs, h with
    | [a, b, c, d], h =>
      cases h
      rfl
  · rintro rfl
    rfl

namespace V6

lemma groupsOfOctets_flatMap (gs : List UInt16) :
    groupsOfOctets (gs.flatMap Bytes.ofUInt16) = gs := by
  induction gs with
  | nil => rfl
  | cons g gs ih => simp [Bytes.ofUInt16, groupsOfOctets, ih]

lemma flatMap_groupsOfOctets : ∀ {n : Nat} {bs : Bytes}, bs.length = 2 * n →
    (groupsOfOctets bs).flatMap Bytes.ofUInt16 = bs
  | 0, [], _ => rfl
  | n + 1, hi :: lo :: rest, h => by
    have hrest : rest.length = 2 * n := by
      simp only [List.length_cons] at h
      omega
    rw [groupsOfOctets, List.flatMap_cons, Bytes.ofUInt16_toUInt16, flatMap_groupsOfOctets hrest]
    rfl

lemma length_flatMap_ofUInt16 (gs : List UInt16) :
    (gs.flatMap Bytes.ofUInt16).length = 2 * gs.length := by
  induction gs with
  | nil => rfl
  | cons g gs ih =>
    rw [List.flatMap_cons, List.length_append, ih, Bytes.length_ofUInt16, List.length_cons]
    omega

@[simp] lemma length_octets (v : V6) : v.octets.length = 16 := by
  rw [octets, length_flatMap_ofUInt16, v.length_groups]

@[simp] lemma ofOctets?_octets (v : V6) : ofOctets? v.octets = some v.withoutZone := by
  rw [ofOctets?, dif_pos v.length_octets]
  simp only [octets, groupsOfOctets_flatMap, withoutZone]

/-- Sixteen octets are those of the address that they are read as, which has no zone. -/
lemma octets_of_ofOctets? {bs : Bytes} {v : V6} (h : ofOctets? bs = some v) :
    v.octets = bs ∧ v.zone = none := by
  unfold ofOctets? at h
  split_ifs at h with hlength
  cases h
  exact ⟨flatMap_groupsOfOctets (n := 8) hlength, rfl⟩

/-- An IPv4-mapped address is ten zero octets, two octets of ones, and the IPv4 address. -/
lemma octets_of_mapped? {v : V6} {w : V4} (h : v.mapped? = some w) :
    v.octets = List.replicate 10 0 ++ [0xff, 0xff] ++ w.octets := by
  unfold mapped? at h
  split at h
  · next hi lo hgroups =>
    rw [octets, hgroups, V4.ofOctets?_eq_some_iff.mp h]
    rfl
  · cases h

end V6

end Ip

/-! ### Types and bodies -/

namespace AddressType

/-- How many octets the body of a type may have. -/
def Admits : AddressType → Nat → Prop
  | ipv4, size => size = 4
  | domain, size => 0 < size ∧ size ≤ 255
  | ipv6, size => size = 16

/-- What is written in front of a body of some size: the length of a domain name. -/
def lengthField : AddressType → Nat → Bytes
  | domain, size => [UInt8.ofNat size]
  | _, _ => []

/-- The size of a body is the length that its type has, if it has one. -/
lemma Admits.eq_of_bodyLength? {type : AddressType} {size : Nat} (h : type.Admits size) :
    ∀ n ∈ type.bodyLength?, size = n := by
  cases type with
  | ipv4 => exact fun n hn => h.trans (Option.some.inj hn)
  | ipv6 => exact fun n hn => h.trans (Option.some.inj hn)
  | domain => exact fun n hn => nomatch hn

lemma octet_of_ofOctet? {b : UInt8} {type : AddressType} (h : ofOctet? b = some type) :
    type.octet = b := by
  unfold ofOctet? at h
  split_ifs at h with h₁ h₃ h₄ <;> cases h
  · exact h₁.symm
  · exact h₃.symm
  · exact h₄.symm

end AddressType

@[simp] lemma TypeNumber.type?_ofOctet (b : UInt8) :
    (TypeNumber.ofOctet b).type? = AddressType.ofOctet? b := by
  have hnat (n : UInt8) : (b.toNat : Int) = n.toNat ↔ b = n :=
    Int.ofNat_inj.trans UInt8.toNat_inj
  simp only [TypeNumber.type?, TypeNumber.value, TypeNumber.ofOctet, AddressType.ofOctet?]
  rw [show (1 : Int) = (1 : UInt8).toNat from rfl, show (3 : Int) = (3 : UInt8).toNat from rfl,
    show (4 : Int) = (4 : UInt8).toNat from rfl]
  simp only [hnat]

namespace Address

/-- A body of the right length fails to be an address only for what it says. -/
lemma ofFields_error {type : AddressType} {body : Bytes} {port : UInt16} {e : WireError}
    (hlength : ∀ size ∈ type.bodyLength?, body.length = size)
    (h : ofFields type body port = .error e) : ∃ reason, e = .invalid reason := by
  cases type with
  | ipv4 =>
    have hbody : body.length = 4 := hlength 4 rfl
    match body, hbody with
    | [a, b, c, d], _ => simp [ofFields, Ip.V4.ofOctets?] at h
  | ipv6 =>
    have hbody : body.length = 16 := hlength 16 rfl
    simp [ofFields, Ip.V6.ofOctets?, hbody] at h
  | domain =>
    simp only [ofFields] at h
    cases htext : Bytes.toText? body with
    | none =>
      rw [htext] at h
      exact ⟨_, (Except.error.inj h).symm⟩
    | some name =>
      rw [htext] at h
      cases hname : ofName name port with
      | error reason =>
        simp only [hname, Except.mapError] at h
        exact ⟨reason, (Except.error.inj h).symm⟩
      | ok a => simp [hname, Except.mapError] at h

/-! ### Reading the fields -/

variable {type : AddressType} {body rest d : Bytes} {a : Address} {e : WireError}

lemma ofWire_ofUInt16 (type : AddressType) (body : Bytes) (port : UInt16) :
    ofWire (.ofOctet type.octet) body (Bytes.ofUInt16 port) = ofFields type body port := by
  simp [ofWire, Bytes.ofUInt16]

/-- The octets behind a body are cut where the port begins and ends. -/
lemma unpackBody_append (type : AddressType) (body : Bytes) (port : UInt16) (rest : Bytes) :
    unpackBody (.ofOctet type.octet) body.length (body ++ Bytes.ofUInt16 port ++ rest) =
      (ofFields type body port).map (·, rest) := by
  have hlong : ¬ (body ++ Bytes.ofUInt16 port ++ rest).length < body.length + 2 := by
    simp only [List.length_append, Bytes.length_ofUInt16]
    omega
  have htake : (body ++ Bytes.ofUInt16 port ++ rest).take body.length = body := by
    rw [List.append_assoc, List.take_left]
  have hdrop : (body ++ Bytes.ofUInt16 port ++ rest).drop body.length =
      Bytes.ofUInt16 port ++ rest := by
    rw [List.append_assoc, List.drop_left]
  rw [unpackBody, if_neg hlong, htake, ← List.drop_drop, hdrop,
    List.take_left' (Bytes.length_ofUInt16 port), List.drop_left' (Bytes.length_ofUInt16 port),
    ofWire_ofUInt16]

/-- Octets that are long enough are a body of a given length, a port, and a rest. -/
lemma exists_body_port {size : Nat} (h : size + 2 ≤ d.length) :
    ∃ body port rest, body.length = size ∧ d = body ++ Bytes.ofUInt16 port ++ rest := by
  have hbody : (d.take size).length = size := List.length_take_of_le (by omega)
  have hrest : 2 ≤ (d.drop size).length := by
    rw [List.length_drop]
    omega
  match hdrop : d.drop size, hrest with
  | hi :: lo :: rest, _ =>
    refine ⟨d.take size, Bytes.toUInt16 hi lo, rest, hbody, ?_⟩
    conv_lhs => rw [← List.take_append_drop size d, hdrop]
    simp

/-- Nothing but a body and a port is read as these. -/
lemma exists_fields_of_unpackBody (type : AddressType) {size : Nat}
    (h : unpackBody (.ofOctet type.octet) size d = .ok (a, rest)) :
    ∃ body port, body.length = size ∧ ofFields type body port = .ok a ∧
      d = body ++ Bytes.ofUInt16 port ++ rest := by
  by_cases hshort : d.length < size + 2
  · rw [unpackBody, if_pos hshort] at h
    cases h
  obtain ⟨body, port, behind, rfl, rfl⟩ := exists_body_port (Nat.not_lt.mp hshort)
  rw [unpackBody_append] at h
  cases hfields : ofFields type body port with
  | error e =>
    rw [hfields] at h
    cases h
  | ok b =>
    rw [hfields] at h
    cases h
    exact ⟨body, port, rfl, hfields, rfl⟩

lemma unpackBody_error {size : Nat} (hsize : ∀ n ∈ type.bodyLength?, size = n)
    (h : unpackBody (.ofOctet type.octet) size d = .error e) :
    e ≠ .bodyLength ∧ e ≠ .portLength := by
  by_cases hshort : d.length < size + 2
  · rw [unpackBody, if_pos hshort] at h
    cases h
    exact ⟨nofun, nofun⟩
  obtain ⟨body, port, behind, rfl, rfl⟩ := exists_body_port (Nat.not_lt.mp hshort)
  rw [unpackBody_append] at h
  cases hfields : ofFields type body port with
  | ok b =>
    rw [hfields] at h
    cases h
  | error e' =>
    rw [hfields] at h
    cases h
    obtain ⟨reason, rfl⟩ := ofFields_error hsize hfields
    exact ⟨nofun, nofun⟩

/-- Behind a type and a length a body of that size is read. -/
lemma unpack_lengthField {size : Nat} (h : type.Admits size) (bs : Bytes) :
    unpack (type.octet :: type.lengthField size ++ bs) =
      unpackBody (.ofOctet type.octet) size bs := by
  cases type with
  | ipv4 =>
    obtain rfl : size = 4 := h
    rfl
  | ipv6 =>
    obtain rfl : size = 16 := h
    rfl
  | domain =>
    obtain ⟨hpos, hle⟩ : 0 < size ∧ size ≤ 255 := h
    have hnat : (UInt8.ofNat size).toNat = size :=
      UInt8.toNat_ofNat_of_lt (Nat.lt_succ_of_le hle)
    have hzero : UInt8.ofNat size ≠ 0 := by
      intro hzero
      rw [hzero] at hnat
      exact Nat.ne_of_lt hpos hnat
    conv_rhs => rw [← hnat]
    exact if_neg hzero

/-- Octets begin with a type and a length, or end before that, or no octets behind them make them
an address. -/
lemma unpack_cases (d : Bytes) :
    (∃ type size bs, AddressType.Admits type size ∧
      d = type.octet :: type.lengthField size ++ bs) ∨
    (∃ part, (part = .type ∧ d = [] ∨ part = .length ∧ d = [AddressType.domain.octet]) ∧
      unpack d = .error (.short part)) ∨
    ∃ e, ((∃ number, e = .unsupported number) ∨ ∃ reason, e = .invalid reason) ∧
      ∀ t, unpack (d ++ t) = .error e := by
  match d with
  | [] => exact .inr (.inl ⟨.type, .inl ⟨rfl, rfl⟩, rfl⟩)
  | b :: bs =>
  cases htype : AddressType.ofOctet? b with
  | none =>
    refine .inr (.inr ⟨.unsupported (.ofOctet b), .inl ⟨_, rfl⟩, fun t => ?_⟩)
    simp only [List.cons_append, unpack, htype]
  | some type =>
  obtain rfl := AddressType.octet_of_ofOctet? htype
  cases type with
  | ipv4 => exact .inl ⟨.ipv4, 4, bs, rfl, rfl⟩
  | ipv6 => exact .inl ⟨.ipv6, 16, bs, rfl, rfl⟩
  | domain =>
    match bs with
    | [] => exact .inr (.inl ⟨.length, .inr ⟨rfl, rfl⟩, rfl⟩)
    | n :: bs =>
    by_cases hzero : n = 0
    · subst hzero
      exact .inr (.inr ⟨.invalid .zeroLength, .inr ⟨_, rfl⟩, fun t => rfl⟩)
    · have hpos : n.toNat ≠ 0 := fun hn => hzero (UInt8.toNat_inj.mp hn)
      have hlt := n.toNat_lt
      refine .inl ⟨.domain, n.toNat, bs, ⟨by omega, by omega⟩, ?_⟩
      rw [AddressType.lengthField, UInt8.ofNat_toNat]
      rfl

/-- Reading an octet string takes type, body and port off its front. -/
lemma unpack_fields (h : type.Admits body.length) (port : UInt16) (rest : Bytes) :
    unpack (type.octet :: type.lengthField body.length ++ (body ++ Bytes.ofUInt16 port ++ rest)) =
      (ofFields type body port).map (·, rest) := by
  rw [unpack_lengthField h, unpackBody_append]

/-- Whatever is read as an address consists of these fields. -/
lemma exists_fields_of_unpack (h : unpack d = .ok (a, rest)) :
    ∃ type body port, AddressType.Admits type body.length ∧ ofFields type body port = .ok a ∧
      d = type.octet :: type.lengthField body.length ++
        (body ++ Bytes.ofUInt16 port ++ rest) := by
  obtain ⟨type, size, bs, hsize, rfl⟩ | ⟨part, -, hpart⟩ | ⟨e, -, he⟩ := unpack_cases d
  · rw [unpack_lengthField hsize] at h
    obtain ⟨body, port, rfl, hfields, rfl⟩ := exists_fields_of_unpackBody type h
    exact ⟨type, body, port, hsize, hfields, rfl⟩
  · exact nomatch hpart.symm.trans h
  · rw [← List.append_nil d, he] at h
    cases h

/-- Reading an octet string never gives the fields a wrong length. -/
lemma unpack_error (h : unpack d = .error e) : e ≠ .bodyLength ∧ e ≠ .portLength := by
  obtain ⟨type, size, bs, hsize, rfl⟩ | ⟨part, -, hpart⟩ | ⟨e', he, hstands⟩ := unpack_cases d
  · rw [unpack_lengthField hsize] at h
    exact unpackBody_error hsize.eq_of_bodyLength? h
  · obtain rfl := Except.error.inj (hpart.symm.trans h)
    exact ⟨nofun, nofun⟩
  · rw [← List.append_nil d, hstands] at h
    obtain rfl := Except.error.inj h
    obtain ⟨number, rfl⟩ | ⟨reason, rfl⟩ := he <;> exact ⟨nofun, nofun⟩

end Address

end Socks5
