import Socks5.Proofs.Address.Fields
import Socks5.Frame

/-!
# Addresses read back

What was written for an address is read as that address again, whatever stands behind it, and
exactly the octets that were written are taken. Only the zone of an IPv6 address does not come
back, for it is not written. So addresses may follow one another, or stand in front of a payload,
without anything between them.
-/

namespace Socks5

/-! ### Hosts -/

lemma Host.ofIp_of_mapped {v : Ip.V6} {w : Ip.V4} (h : v.mapped? = some w) :
    ofIp (.v6 v) = .ipv4 w := by
  simp only [ofIp]
  split
  · next w' h' => rw [Option.some.inj (h'.symm.trans h)]
  · next h' => exact nomatch h'.symm.trans h

lemma Host.ofIp_of_not_mapped {v : Ip.V6} (h : v.mapped? = none) :
    ofIp (.v6 v) = .ipv6 v h := by
  simp only [ofIp]
  split
  · next h' => exact nomatch h'.symm.trans h
  · rfl

namespace Address

/-- An address comes back as it was just if it has no zone. -/
lemma withoutZone_eq_self_iff (a : Address) :
    a.withoutZone = a ↔ ∀ v h, a.host = .ipv6 v h → v.zone = none := by
  obtain ⟨host, port⟩ := a
  cases host with
  | ipv4 v => simp [withoutZone, Host.withoutZone]
  | name n => simp [withoutZone, Host.withoutZone]
  | ipv6 v hv =>
    obtain ⟨groups, zone, hgroups⟩ := v
    constructor
    · intro h v' hv' hhost
      simp only [withoutZone, Host.withoutZone, Ip.V6.withoutZone, mk.injEq, Host.ipv6.injEq,
        Ip.V6.mk.injEq] at h hhost
      rw [← hhost]
      exact h.1.2.symm
    · intro h
      obtain rfl : zone = none := h _ hv rfl
      rfl

/-! ### One address -/

/-- The body as it is read, without the length octet of a domain name. -/
def content (a : Address) : Bytes :=
  match a.host with
  | .ipv4 v => v.octets
  | .ipv6 v _ => v.octets
  | .name n => n.octets

variable (a : Address)

lemma admits_content : a.type.Admits a.content.length := by
  obtain ⟨host, port⟩ := a
  cases host with
  | ipv4 v => exact v.length_octets
  | ipv6 v _ => exact v.length_octets
  | name n => exact ⟨n.nonempty, n.fits⟩

lemma pack_eq_fields :
    a.pack = a.type.octet :: a.type.lengthField a.content.length ++
      (a.content ++ Bytes.ofUInt16 a.port) := by
  obtain ⟨host, port⟩ := a
  cases host <;> rfl

/-- The fields of an address hold all of it but the zone. -/
lemma ofFields_content : ofFields a.type a.content a.port = .ok a.withoutZone := by
  obtain ⟨host, port⟩ := a
  cases host with
  | ipv4 v => rfl
  | ipv6 v hv =>
    have hzone : v.withoutZone.mapped? = none := hv
    simp only [ofFields, type, content, Ip.V6.ofOctets?_octets, ofIp,
      Host.ofIp_of_not_mapped hzone, withoutZone, Host.withoutZone]
  | name n =>
    have htext : Bytes.toText? n.octets = some n.text := Bytes.toText?_eq_some_iff.mpr rfl
    simp only [ofFields, type, content, htext, ofName, DomainName.ofString_text, withoutZone,
      Host.withoutZone]
    rfl

/-- A written address is read whatever stands behind it, which is left. -/
lemma unpack_pack_append (rest : Bytes) : unpack (a.pack ++ rest) = .ok (a.withoutZone, rest) := by
  rw [pack_eq_fields, List.append_assoc, unpack_fields a.admits_content, ofFields_content]
  rfl

/-! ### Many addresses -/

/-- Reads so many addresses that follow one another, and leaves the rest. -/
def unpackMany : Nat → Bytes → Except WireError (List Address × Bytes)
  | 0, bs => .ok ([], bs)
  | n + 1, bs => do
    let (a, bs) ← unpack bs
    let (others, bs) ← unpackMany n bs
    return (a :: others, bs)

lemma unpackMany_flatMap_pack (as : List Address) (rest : Bytes) :
    unpackMany as.length (as.flatMap pack ++ rest) = .ok (as.map withoutZone, rest) := by
  induction as with
  | nil => rfl
  | cons a as ih =>
    rw [List.flatMap_cons, List.append_assoc, List.length_cons, unpackMany, unpack_pack_append]
    simp only [bind, Except.bind, ih]
    rfl

end Address

/-! ### Frames -/

/-- A datagram is three zero octets, an address that can be read, and the payload. -/
lemma Frame.parseDatagram_eq_ok_iff {d payload : Bytes} {source : Address} :
    parseDatagram d = .ok (payload, source) ↔
      ∃ rest, d = 0 :: 0 :: 0 :: rest ∧ Address.unpack rest = .ok (source, payload) := by
  constructor
  · intro h
    match d, h with
    | r₀ :: r₁ :: fragment :: t :: rest, h =>
      simp only [parseDatagram] at h
      split_ifs at h with hreserved hfragment
      obtain ⟨rfl, rfl⟩ : r₀ = 0 ∧ r₁ = 0 := by simpa using hreserved
      obtain rfl : fragment = 0 := not_not.mp hfragment
      refine ⟨t :: rest, rfl, ?_⟩
      cases hunpack : Address.unpack (t :: rest) with
      | error e =>
        rw [hunpack] at h
        cases h
      | ok r =>
        rw [hunpack] at h
        cases h
        rfl
  · rintro ⟨rest, rfl, hunpack⟩
    cases rest with
    | nil => cases hunpack
    | cons t rest => simp [parseDatagram, hunpack]

namespace Address

end Address

end Socks5
