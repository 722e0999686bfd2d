import Socks5.Proofs.Address.Canonical
import Socks5.Proofs.Address.Grammar
import Socks5.Proofs.Dial.Success

/-!
# The forms of an address

A relay hands out an address as it is, as an endpoint, or as a pair of host text and port, and each
of these may be passed back as a destination. Texts are read again then, and what looks like an IP
address is taken for one. So a name from the wire stands for itself just if it could have been
written by hand: `Host.Plain`.
-/

namespace Socks5

/-! ### The forms -/

/-- An endpoint as a value. -/
def Endpoint.value : Endpoint → Value
  | .resolved ip port => .endpoint ip (.int port.toNat)
  | .named text => .named text

namespace Address

/-- Host text and port as a value. -/
def pair (a : Address) : Value := .tuple [.text a.toPair.1, .int a.toPair.2.toNat]

end Address

namespace Host

/-- The text of an IP address, as a host in front of a colon, stands for that address. -/
lemma spelled_of_disguised {h : Host} {ip : Ip} (hip : ip ∈ h.disguised?) :
    Spelled h.spelling (.ofIp ip) := by
  cases h with
  | name n => exact spelled_of_ofText? hip
  | _ => cases hip

end Host

/-! ### The forms as destinations -/

namespace Address

variable {a : Address} {ip : Ip}

lemma portOf_toNat (port : UInt16) : portOf (.int port.toNat) = .ok port := by
  have hlt : port.toNat < 65536 := port.toNat_lt
  have hrange : (0 : Int) ≤ port.toNat ∧ (port.toNat : Int) ≤ 65535 := by omega
  rw [portOf, if_pos hrange, Int.toNat_natCast, UInt16.ofNat_toNat]

lemma make_ip (ip : Ip) (port : UInt16) : make (.ip ip) (.int port.toNat) = .ok (ofIp ip port) := by
  simp only [make, hostOf, Value.text?, portOf_toNat]
  rfl

lemma make_name (n : DomainName) (port : UInt16) :
    make (.text n.text) (.int port.toNat) = .ok ⟨.name n, port⟩ := by
  have hname : DomainName.ofText n.text = .ok n := DomainName.ofText_eq_ok_iff.mpr rfl
  simp only [make, hostOf, Value.text?, hname, portOf_toNat]
  rfl

lemma destination_text (t : Text) (a : Address) :
    destination (.named t) = .ok a ↔ parse t = .ok a := by
  simp only [destination]
  cases parse t <;> simp [Except.mapError]

/-- An endpoint stands for the address that it was made of, if its name is a plain one. -/
lemma destination_value_iff : destination a.endpoint.value = .ok a ↔ a.host.Plain := by
  obtain ⟨host, port⟩ := a
  cases host with
  | ipv4 v =>
    refine iff_of_true ?_ (Host.plain_ipv4 v)
    simp only [endpoint, Endpoint.value, destination, make_ip]
    rfl
  | ipv6 v hmapped =>
    refine iff_of_true ?_ (Host.plain_ipv6 v hmapped)
    simp only [endpoint, Endpoint.value, destination, make_ip, ofIp,
      Host.ofIp_of_not_mapped hmapped]
    rfl
  | name n =>
    refine (destination_text _ _).trans ⟨fun hparse => ?_, fun hplain => ?_⟩
    · obtain ⟨_, _, -, hspelled, -⟩ := exists_spelled_of_parse hparse
      exact (Host.spelled_name_iff.mp hspelled).2
    · exact parse_text_of_spelled (Host.spelled_name_iff.mpr ⟨rfl, hplain⟩)

lemma destination_value_of_disguised (h : ip ∈ a.host.disguised?) :
    destination a.endpoint.value = .ok (ofIp ip a.port) := by
  obtain ⟨host, port⟩ := a
  cases host with
  | name n =>
    refine (destination_text _ _).mpr ?_
    rw [text_eq]
    exact parse_of_spelled (Host.spelled_of_disguised h) port
  | _ => cases h

/-- A pair stands for the address whose host text is read as an IP address, or else for a name. -/
lemma destination_pair (a : Address) : destination a.pair =
    (match Ip.ofText? a.host.text with
      | some ip => make (.ip ip) (.int a.port.toNat)
      | none => make (.text a.host.text) (.int a.port.toNat)).mapError .ofAddress := by
  simp only [pair, toPair, destination, Value.text?]
  cases Ip.ofText? a.host.text <;> rfl

lemma destination_pair_of_ip {host : Host} (h : Ip.ofText? host.text = some ip)
    (port : UInt16) : destination (pair ⟨host, port⟩) = .ok (ofIp ip port) := by
  simp only [destination_pair, h, make_ip]
  rfl

/-- A pair stands for the address that it was made of, unless its name looks like an IP address. -/
lemma destination_pair_iff (hzone : Ip.V6.LegibleZone a.host.zone?) :
    destination a.pair = .ok a ↔ a.host.disguised? = none := by
  obtain ⟨host, port⟩ := a
  cases host with
  | ipv4 v =>
    have hread : Ip.ofText? (Host.ipv4 v).text = some (.v4 v) := Ip.ofText?_v4 v
    exact iff_of_true (destination_pair_of_ip hread port) rfl
  | ipv6 v hmapped =>
    have hread : Ip.ofText? (Host.ipv6 v hmapped).text = some (.v6 v) := Ip.ofText?_v6 hzone
    refine iff_of_true ((destination_pair_of_ip hread port).trans ?_) rfl
    rw [ofIp, Host.ofIp_of_not_mapped hmapped]
  | name n =>
    cases hread : Ip.ofText? (Host.name n).text with
    | none =>
      refine iff_of_true ?_ hread
      have hname : destination (pair ⟨.name n, port⟩) =
          (make (.text n.text) (.int port.toNat)).mapError .ofAddress := by
        simp only [destination_pair, hread]
        rfl
      rw [hname, make_name]
      rfl
    | some ip =>
      refine iff_of_false (fun h => ?_) fun hnone =>
        Option.some_ne_none ip (hread.symm.trans hnone)
      rw [destination_pair_of_ip hread] at h
      exact Host.ofIp_ne_name ip n (congrArg host (Except.ok.inj h))

lemma destination_pair_of_disguised (h : ip ∈ a.host.disguised?) :
    destination a.pair = .ok (ofIp ip a.port) := by
  obtain ⟨host, port⟩ := a
  cases host with
  | name n =>
    have hread : Ip.ofText? (Host.name n).text = some ip := h
    exact destination_pair_of_ip hread port
  | _ => cases h

/-! ### Where addresses come from -/

/-- What is read off the wire has no zone. -/
lemma zone?_of_unpack {d rest : Bytes} (h : unpack d = .ok (a, rest)) : a.host.zone? = none := by
  obtain ⟨host, port⟩ := a
  cases host with
  | ipv4 v => rfl
  | name n => rfl
  | ipv6 v hmapped =>
    obtain ⟨w, rfl, hpack | ⟨_, _, -, -, -, hpack⟩⟩ := exists_writtenFor_of_unpack h
    · -- Reading what was written for it gives it back without its zone.
      rw [← hpack, unpack_pack_append] at h
      have hsame := congrArg Prod.fst (Except.ok.inj h)
      exact (withoutZone_eq_self_iff _).mp hsame v hmapped rfl
    · cases hpack

/-- Whatever was spelled is plain. -/
lemma plain_of_parse {t : Text} (h : parse t = .ok a) :
    a.host.Plain ∧ Ip.V6.LegibleZone a.host.zone? := by
  obtain ⟨_, _, -, hspelled, -⟩ := exists_spelled_of_parse h
  refine ⟨?_, hspelled.legibleZone⟩
  obtain ⟨host, port⟩ := a
  cases host with
  | ipv4 v => exact Host.plain_ipv4 v
  | ipv6 v hmapped => exact Host.plain_ipv6 v hmapped
  | name n => exact (Host.spelled_name_iff.mp hspelled).2

end Address

namespace Relay

variable {r : Relay} {a : Address}

/-- Only the address counts that a destination stands for. -/
lemma sendTo_of_destination {v : Value} (h : destination v = .ok a) (payload : Bytes) :
    r.sendTo payload (some v) = r.sendTo payload (some (.address a)) := by
  have hresolve : r.resolve (some v) = r.resolve (some (.address a)) := by
    unfold resolve
    cases r.fixed with
    | none => exact h
    | some d =>
      simp only [h]
      rfl
  rw [sendTo, sendTo, hresolve]

lemma sendTo_fixed (h : r.fixed = some a) (payload : Bytes) :
    r.sendTo payload (some (.address a)) = r.sendTo payload none := by
  have haddress : destination (.address a) = .ok a := rfl
  simp only [sendTo, resolve, h, haddress, bind, Except.bind, if_true]

end Relay

/-- Whatever form the source of a datagram is passed back in, it stands for the source again, with
one exception: of names that could not have been written by hand. An endpoint with such a name does
not stand for it, nor does a pair whose name is the text of an IP address; these two stand for the
IP address. The fixed destination of a relay that a dial has given is accepted in all its forms. -/
theorem Dialer.handed_out_forms_denote (d : Dialer) :
    (∀ bs payload source, Relay.decode bs = .ok (payload, source) →
      (destination source.endpoint.value = .ok source ↔ source.host.Plain) ∧
      (destination source.pair = .ok source ↔ source.host.disguised? = none) ∧
      (∀ ip ∈ source.host.disguised?,
        destination source.endpoint.value = .ok (.ofIp ip source.port) ∧
          destination source.pair = .ok (.ofIp ip source.port)) ∧
      ∀ (r : Relay) (reply : Bytes),
        (source.host.Plain → r.sendTo reply (some source.endpoint.value) =
          r.sendTo reply (some (.address source))) ∧
        (source.host.disguised? = none → r.sendTo reply (some source.pair) =
          r.sendTo reply (some (.address source)))) ∧
    ∀ script network address limit s r a,
      (d.dial script network address limit).outcome = .value s → s.connection = .relay r →
      r.fixed = some a →
      destination a.endpoint.value = .ok a ∧ destination a.pair = .ok a ∧
      ∀ (r' : Relay) (payload : Bytes), r'.fixed = some a →
        ∀ form ∈ [.address a, a.endpoint.value, a.pair],
          r'.sendTo payload (some form) = r'.sendTo payload none := by
  constructor
  · intro bs payload source hdecode
    obtain ⟨rest, -, hunpack⟩ :=
      Frame.parseDatagram_eq_ok_iff.mp (Relay.decode_eq_ok_iff.mp hdecode)
    have hzone : Ip.V6.LegibleZone source.host.zone? := by
      rw [Address.zone?_of_unpack hunpack]
      exact nofun
    refine ⟨Address.destination_value_iff, Address.destination_pair_iff hzone, ?_, ?_⟩
    · exact fun ip hip => ⟨Address.destination_value_of_disguised hip,
        Address.destination_pair_of_disguised hip⟩
    · intro r reply
      exact ⟨fun h => Relay.sendTo_of_destination (Address.destination_value_iff.mpr h) reply,
        fun h => Relay.sendTo_of_destination ((Address.destination_pair_iff hzone).mpr h) reply⟩
  · intro script network address limit s r a hdial hrelay hfixed
    obtain ⟨target, l, hparse, rfl, -⟩ := dial_relay_fixed hdial hrelay
    cases hrelay
    obtain rfl : target = a := by
      unfold fixedDestination at hfixed
      split_ifs at hfixed
      exact Option.some.inj hfixed
    obtain ⟨hplain, hzone⟩ := Address.plain_of_parse hparse
    have hvalue := Address.destination_value_iff.mpr hplain
    have hpair := (Address.destination_pair_iff hzone).mpr hplain.undisguised
    refine ⟨hvalue, hpair, fun r' payload hr' form hform => ?_⟩
    have hdenotes : destination form = .ok target := by
      simp only [List.mem_cons, List.not_mem_nil, or_false] at hform
      obtain rfl | rfl | rfl := hform
      · rfl
      · exact hvalue
      · exact hpair
    rw [Relay.sendTo_of_destination hdenotes, Relay.sendTo_fixed hr']

/-- A plain name stands for itself in every form, and so does the fixed destination of a relay. -/
theorem Dialer.handed_out_forms_denote_plainly :
    let d : Dialer := { proxy := ⟨.ipv4 ⟨10, 0, 0, 1⟩, 1080⟩ }
    let script : Script :=
      { stream := { arrivals := [(1, .data [5, 0]), (2, .data [5, 0, 0, 1, 10, 0, 0, 1, 4, 56])] } }
    let a : Address := ⟨.ipv4 ⟨192, 0, 2, 1⟩, 53⟩
    let r : Relay :=
      { control := { written := [5, 1, 0, 5, 3, 0, 1, 192, 0, 2, 1, 0, 53] }
        endpoint := { port := .opened }
        fixed := some a }
    let s : Session := { now := 2, connection := .relay r, shownWritten := 13 }
    let source : Address := ⟨.name ⟨"a.b", by decide, by decide⟩, 53⟩
    (Relay.decode [0, 0, 0, 3, 3, 97, 46, 98, 0, 53, 7] = .ok ([7], source) ∧
      destination source.endpoint.value = .ok source ∧ destination source.pair = .ok source) ∧
    (d.dial script "udp" "192.0.2.1:53" none).outcome = .value s ∧
      r.sendTo [8] (some a.pair) = r.sendTo [8] none := by
  intro d script a r s source
  have hdecode : Relay.decode [0, 0, 0, 3, 3, 97, 46, 98, 0, 53, 7] = .ok ([7], source) := rfl
  have hdial : (d.dial script "udp" "192.0.2.1:53" none).outcome = .value s := rfl
  obtain ⟨hsource, hfixed⟩ := d.handed_out_forms_denote
  obtain ⟨hvalue, hpair, -⟩ := hsource _ _ _ hdecode
  obtain ⟨-, -, hsend⟩ := hfixed script "udp" "192.0.2.1:53" none s r a hdial rfl rfl
  have hplain : source.host.Plain := by
    refine ⟨rfl, ?_, ?_⟩
    · rintro _ ⟨⟩
      decide
    · rintro _ ⟨⟩
      decide
  exact ⟨⟨hdecode, hvalue.mpr hplain, hpair.mpr hplain.undisguised⟩, hdial,
    hsend r [8] rfl a.pair (by simp)⟩

/-- The source of a datagram has a name that is the text of an IP address. Passed back as an
endpoint or as a pair it is taken for that address, and the reply goes out in another datagram. -/
theorem Relay.source_is_taken_for_ip :
    let bs : Bytes := [0, 0, 0, 3, 7, 49, 46, 50, 46, 51, 46, 52, 0, 53, 7]
    let source : Address := ⟨.name ⟨"1.2.3.4", by decide, by decide⟩, 53⟩
    let r : Relay := { control := {}, endpoint := { port := .opened }, fixed := none }
    Relay.decode bs = .ok ([7], source) ∧ destination source.endpoint.value ≠ .ok source ∧
      destination source.pair ≠ .ok source ∧
      r.sendTo [8] (some source.pair) ≠ r.sendTo [8] (some (.address source)) := by
  intro bs source r
  have hip : Ip.v4 ⟨1, 2, 3, 4⟩ ∈ source.host.disguised? := rfl
  have hvalue := Address.destination_value_of_disguised hip
  have hpair := Address.destination_pair_of_disguised hip
  refine ⟨rfl, ?_, ?_, ?_⟩
  · rw [hvalue]
    decide
  · rw [hpair]
    decide
  · intro hsame
    have hsent := congrArg (fun x => x.toOption.map (·.2.endpoint.sent)) hsame
    revert hsent
    decide

end Socks5
