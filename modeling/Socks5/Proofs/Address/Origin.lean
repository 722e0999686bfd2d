import Socks5.Proofs.Relay.Forms

/-!
# Where addresses come from

An address is made of a host value and a port value, read from a text, from wire fields or from a
datagram, or stands for a destination. Each of these ways first takes a host and a port from what it
is given, whatever they are: `Origin.Gives`. Only if both can be encoded there is an address, and it
holds them.
-/

namespace Socks5

/-! ### Hosts and ports before they are checked -/

/-- A host value and a port value that fit the fields of the wire form. -/
structure Encodable (host port : Value) : Prop where
  host : (∃ ip, host = .ip ip) ∨
    ∃ s : String, host.text? = some s ∧ 0 < (Bytes.ofText s).length ∧ (Bytes.ofText s).length ≤ 255
  port : ∃ n : Int, port = .int n ∧ 0 ≤ n ∧ n ≤ 65535

/-- A host is what a value says; an IPv4-mapped address says the IPv4 address inside it. -/
inductive Host.Holds : Host → Value → Prop
  | ipv4 (v : Ip.V4) : Holds (.ipv4 v) (.ip (.v4 v))
  | ipv6 (v : Ip.V6) (h : v.mapped? = none) : Holds (.ipv6 v h) (.ip (.v6 v))
  | mapped {v : Ip.V6} {w : Ip.V4} (h : v.mapped? = some w) : Holds (.ipv4 w) (.ip (.v6 v))
  | name {value : Value} {n : DomainName} (h : value.text? = some (n.text : Text)) :
      Holds (.name n) value

/-- An address is what a host value and a port value say. -/
structure Address.Holds (a : Address) (host port : Value) : Prop where
  host : a.host.Holds host
  port : port = .int a.port.toNat

/-- The texts that say a host in front of the colon of a port: an IPv6 text in brackets, an IP text,
or anything else without a colon, which is taken for a name. -/
inductive Host.Says : Text → Value → Prop
  | bracketed {x : Text} {v : Ip.V6} (hip : Ip.V6.Spells x v) (hclose : .char ']' ∉ x) :
      Says (.char '[' :: x ++ [.char ']']) (.ip (.v6 v))
  | ip {x : Text} {ip : Ip} (hip : Ip.Spells x ip) : Says x (.ip ip)
  | name {x : Text} (hcolon : .char ':' ∉ x) (hopen : x.head? ≠ some (.char '['))
      (hip : ∀ ip, ¬ Ip.Spells x ip) : Says x (.text x)

/-- The bodies that say a host behind a type. -/
inductive AddressType.Says : AddressType → Bytes → Value → Prop
  | ipv4 (v : Ip.V4) : Says .ipv4 v.octets (.ip (.v4 v))
  | ipv6 {v : Ip.V6} (hzone : v.zone = none) : Says .ipv6 v.octets (.ip (.v6 v))
  | domain (s : String) : Says .domain (Bytes.ofText s) (.text s)

/-- The value of a host. -/
def Host.value : Host → Value
  | .ipv4 v => .ip (.v4 v)
  | .ipv6 v _ => .ip (.v6 v)
  | .name n => .text n.text

/-! ### Origins -/

/-- The ways of obtaining an address. -/
inductive Origin where
  /-- An address is made of a host and a port. -/
  | made (host port : Value)
  /-- An address is made of an IP address, which may be given as a text, and a port. -/
  | madeOfIp (host port : Value)
  /-- An address is read from a text. -/
  | parsed (text : Text)
  /-- An address is made of fields that were read one by one. -/
  | wire (type : TypeNumber) (body port : Bytes)
  /-- An address is read from the front of an octet string. -/
  | unpacked (bs : Bytes)
  /-- The source of a datagram. -/
  | datagram (bs : Bytes)
  /-- What a destination stands for. -/
  | destination (v : Value)

namespace Origin

/-- The address that is obtained, if there is no error. -/
def obtain? : Origin → Option Address
  | made host port => (Address.make host port).toOption
  | madeOfIp host port => (Address.makeIp host port).toOption
  | parsed text => (Address.parse text).toOption
  | wire type body port => (Address.ofWire type body port).toOption
  | unpacked bs => (Address.unpack bs).toOption.map (·.1)
  | datagram bs => (Relay.decode bs).toOption.map (·.2)
  | destination v => (Socks5.destination v).toOption

/-- The host and the port that an origin says, whether they can be encoded or not. -/
inductive Gives : Origin → Value → Value → Prop
  | made (host port : Value) : Gives (.made host port) host port
  | madeOfText {host : Value} {s : Text} {ip : Ip} (port : Value) (htext : host.text? = some s)
      (hip : Ip.Spells s ip) : Gives (.madeOfIp host port) (.ip ip) port
  | madeOfIp {host : Value} (port : Value) (htext : host.text? = none) :
      Gives (.madeOfIp host port) host port
  | parsed {x : Text} {p : List Char} {host : Value} {n : Nat} (hhost : Host.Says x host)
      (hport : Text.Numeral 10 p n) (hfew : p.length ≤ Decimal.maxDigits) :
      Gives (.parsed (x ++ .char ':' :: Text.ofChars p)) host (.int n)
  | wire {number : TypeNumber} {type : AddressType} {body : Bytes} {host : Value}
      (htype : number.value = type.octet.toNat) (hbody : type.Says body host) (hi lo : UInt8) :
      Gives (.wire number body [hi, lo]) host (.int (hi.toNat * 256 + lo.toNat : Nat))
  | unpacked {type : AddressType} {body port : Bytes} {h p : Value}
      (hbody : type.Admits body.length) (rest : Bytes)
      (hwire : Gives (.wire (.ofOctet type.octet) body port) h p) :
      Gives (.unpacked (type.octet :: type.lengthField body.length ++ (body ++ port ++ rest))) h p
  | datagram {bs : Bytes} {host port : Value} (h : Gives (.unpacked bs) host port) :
      Gives (.datagram (0 :: 0 :: 0 :: bs)) host port
  | address (a : Address) : Gives (.destination (.address a)) a.host.value (.int a.port.toNat)
  | endpoint (ip : Ip) (port : Value) : Gives (.destination (.endpoint ip port)) (.ip ip) port
  | text {s : Text} {host port : Value} (h : Gives (.parsed s) host port) :
      Gives (.destination (.text s)) host port
  | named {s : Text} {host port : Value} (h : Gives (.parsed s) host port) :
      Gives (.destination (.named s)) host port
  | ipPair {host : Value} {s : Text} {ip : Ip} (n : Int) (more : List Value)
      (htext : host.text? = some s) (hip : Ip.Spells s ip) :
      Gives (.destination (.tuple (host :: .int n :: more))) (.ip ip) (.int n)
  | namePair {host : Value} {s : Text} (n : Int) (more : List Value)
      (htext : host.text? = some s) (hip : ∀ ip, ¬ Ip.Spells s ip) :
      Gives (.destination (.tuple (host :: .int n :: more))) (.text s) (.int n)

end Origin

/-! ### The check -/

namespace Host

lemma holds_ofIp (ip : Ip) : (ofIp ip).Holds (.ip ip) := by
  cases ip with
  | v4 v => exact .ipv4 v
  | v6 v =>
    cases hmapped : v.mapped? with
    | some w =>
      rw [ofIp_of_mapped hmapped]
      exact .mapped hmapped
    | none =>
      rw [ofIp_of_not_mapped hmapped]
      exact .ipv6 v hmapped

lemma holds_ip_iff {h : Host} {ip : Ip} : h.Holds (.ip ip) ↔ h = ofIp ip := by
  constructor
  · intro hholds
    cases hholds with
    | ipv4 => rfl
    | ipv6 v hmapped => exact (ofIp_of_not_mapped hmapped).symm
    | mapped hmapped => exact (ofIp_of_mapped hmapped).symm
    | name htext => cases htext
  · rintro rfl
    exact holds_ofIp ip

lemma holds_text_iff {h : Host} {value : Value} {s : Text} (htext : value.text? = some s) :
    h.Holds value ↔ ∃ n : DomainName, h = .name n ∧ s = n.text := by
  constructor
  · intro hholds
    cases hholds with
    | name hname => exact ⟨_, rfl, Option.some.inj (htext.symm.trans hname)⟩
    | _ => cases htext
  · rintro ⟨n, rfl, rfl⟩
    exact .name htext

end Host

namespace Address

variable {a : Address} {host port : Value}

lemma portOf_eq_ok_iff {n : UInt16} : portOf port = .ok n ↔ port = .int n.toNat := by
  constructor
  · intro h
    unfold portOf at h
    split at h
    · next m =>
      split_ifs at h with hm
      obtain rfl := Except.ok.inj h
      have hlt : m.toNat < UInt16.size := (Int.toNat_lt hm.1).mpr (Int.lt_add_one_of_le hm.2)
      rw [UInt16.toNat_ofNat_of_lt' hlt, Int.toNat_of_nonneg hm.1]
    · cases h
  · rintro rfl
    exact portOf_toNat n

lemma hostOf_eq_ok_iff {h : Host} : hostOf host = .ok h ↔ h.Holds host := by
  cases htext : host.text? with
  | some s =>
    have hhost : hostOf host = (DomainName.ofText s).map .name := by simp only [hostOf, htext]
    rw [hhost, Host.holds_text_iff htext]
    constructor
    · intro h
      cases hname : DomainName.ofText s with
      | error e =>
        rw [hname] at h
        cases h
      | ok n =>
        rw [hname] at h
        cases h
        exact ⟨n, rfl, DomainName.ofText_eq_ok_iff.mp hname⟩
    · rintro ⟨n, rfl, hn⟩
      rw [DomainName.ofText_eq_ok_iff.mpr hn]
      rfl
  | none =>
    simp only [hostOf, htext]
    split
    · next ip => rw [Host.holds_ip_iff, Except.ok.injEq, eq_comm]
    · next hip =>
      constructor
      · intro h
        cases h
      · intro hholds
        cases hholds with
        | name hname => cases htext.symm.trans hname
        | _ => exact absurd rfl (hip _)

/-- The check lets through what an address can hold, and makes it that address. -/
lemma make_eq_ok_iff : make host port = .ok a ↔ a.Holds host port := by
  constructor
  · intro h
    unfold make at h
    cases hhost : hostOf host with
    | error e => simp [hhost, bind, Except.bind] at h
    | ok h' =>
      cases hport : portOf port with
      | error e => simp [hhost, hport, bind, Except.bind] at h
      | ok p =>
        simp only [hhost, hport, bind, Except.bind, pure, Except.pure, Except.ok.injEq] at h
        subst h
        exact ⟨hostOf_eq_ok_iff.mp hhost, portOf_eq_ok_iff.mp hport⟩
  · rintro ⟨hhost, hport⟩
    rw [make, hostOf_eq_ok_iff.mpr hhost, portOf_eq_ok_iff.mpr hport]
    rfl

/-- What fits the fields of the wire form is held by an address, and nothing else is. -/
lemma encodable_iff_exists_holds : Encodable host port ↔ ∃ a : Address, a.Holds host port := by
  constructor
  · rintro ⟨hhost, n, rfl, hpos, hle⟩
    have hlt : n.toNat < UInt16.size := (Int.toNat_lt hpos).mpr (Int.lt_add_one_of_le hle)
    have hport : Value.int n = .int (UInt16.ofNat n.toNat).toNat := by
      rw [UInt16.toNat_ofNat_of_lt' hlt, Int.toNat_of_nonneg hpos]
    obtain ⟨ip, rfl⟩ | ⟨s, htext, hnonempty, hfits⟩ := hhost
    · exact ⟨⟨_, _⟩, Host.holds_ofIp ip, hport⟩
    · exact ⟨⟨.name ⟨s, hnonempty, hfits⟩, _⟩, .name htext, hport⟩
  · rintro ⟨⟨h, p⟩, hhost, rfl⟩
    have hp : p.toNat < 65536 := p.toNat_lt
    refine ⟨?_, p.toNat, rfl, by omega, by omega⟩
    cases hhost with
    | ipv4 v => exact .inl ⟨_, rfl⟩
    | ipv6 v => exact .inl ⟨_, rfl⟩
    | mapped => exact .inl ⟨_, rfl⟩
    | @name _ n htext => exact .inr ⟨_, htext, n.nonempty, n.fits⟩

end Address

/-! ### Texts -/

namespace Host

lemma spelled_iff {x : Text} {h : Host} :
    Spelled x h ↔ ∃ value, Says x value ∧ h.Holds value := by
  constructor
  · intro hspelled
    cases hspelled with
    | bracketed hclose hip =>
      exact ⟨_, .bracketed (Ip.V6.ofText?_eq_some_iff.mp hip) hclose, holds_ofIp _⟩
    | ip _ hip => exact ⟨_, .ip (Ip.ofText?_eq_some_iff.mp hip), holds_ofIp _⟩
    | name hopen hcolon hip hname =>
      have hhead := fun heq => hopen (Option.some.inj heq)
      have htext := DomainName.ofText_eq_ok_iff.mp hname
      exact ⟨_, .name hcolon hhead (Ip.ofText?_eq_none_iff.mp hip), .name (congrArg some htext)⟩
  · rintro ⟨value, hsays, hholds⟩
    cases hsays with
    | bracketed hip hclose =>
      rw [holds_ip_iff.mp hholds]
      exact .bracketed hclose (Ip.V6.ofText?_eq_some_iff.mpr hip)
    | ip hip =>
      rw [holds_ip_iff.mp hholds]
      exact spelled_of_ofText? (Ip.ofText?_eq_some_iff.mpr hip)
    | name hcolon hopen hip =>
      obtain ⟨n, rfl, rfl⟩ := (holds_text_iff rfl).mp hholds
      refine spelled_name_iff.mpr ⟨rfl, Ip.ofText?_eq_none_iff.mpr hip, ?_, ?_⟩
      · rintro _ ⟨⟩ hmem
        exact hcolon (Text.char_mem_ofChars.mpr hmem)
      · rintro _ ⟨⟩ hhead
        exact hopen (head?_ofChars_eq_some_iff.mpr hhead)

end Host

namespace Address

variable {a : Address}

lemma parse_eq_ok_iff {t : Text} : parse t = .ok a ↔
    ∃ (x : Text) (p : List Char), t = x ++ .char ':' :: Text.ofChars p ∧
      Host.Spelled x a.host ∧ p.length ≤ Decimal.maxDigits ∧ Text.Numeral 10 p a.port.toNat := by
  constructor
  · intro h
    obtain ⟨x, port, rfl, hspelled, hport⟩ := exists_spelled_of_parse h
    obtain ⟨p, rfl, hnumeral⟩ := parsePort_eq_ok_iff.mp hport
    exact ⟨x, p, rfl, hspelled, hnumeral⟩
  · rintro ⟨x, p, rfl, hspelled, hfew, hnumeral⟩
    have hdigits : p.all Text.isDigit :=
      List.all_eq_true.mpr fun c hc => hnumeral.isDigit_of_mem hc
    rw [parse_spelled hspelled (colon_not_mem_of_digits hdigits),
      parsePort_eq_ok_iff.mpr ⟨p, rfl, hfew, hnumeral⟩]
    rfl

/-! ### Fields -/

lemma ofFields_eq_ok_iff {type : AddressType} {body : Bytes} {port : UInt16} :
    ofFields type body port = .ok a ↔
      ∃ host, type.Says body host ∧ a.host.Holds host ∧ a.port = port := by
  constructor
  · intro h
    cases type with
    | ipv4 =>
      cases hv : Ip.V4.ofOctets? body with
      | none => simp [ofFields, hv] at h
      | some v =>
        simp only [ofFields, hv, Except.ok.injEq] at h
        obtain rfl := Ip.V4.ofOctets?_eq_some_iff.mp hv
        subst h
        exact ⟨_, .ipv4 v, .ipv4 v, rfl⟩
    | ipv6 =>
      cases hv : Ip.V6.ofOctets? body with
      | none => simp [ofFields, hv] at h
      | some v =>
        simp only [ofFields, hv, Except.ok.injEq] at h
        obtain ⟨rfl, hzone⟩ := Ip.V6.octets_of_ofOctets? hv
        subst h
        exact ⟨_, .ipv6 hzone, Host.holds_ofIp (.v6 v), rfl⟩
    | domain =>
      cases hs : Bytes.toText? body with
      | none => simp [ofFields, hs] at h
      | some s =>
        obtain rfl := Bytes.toText?_eq_some_iff.mp hs
        cases hname : DomainName.ofString s with
        | error e => simp [ofFields, hs, ofName, hname, Except.map, Except.mapError] at h
        | ok n =>
          simp only [ofFields, hs, ofName, hname, Except.map, Except.mapError,
            Except.ok.injEq] at h
          subst h
          obtain rfl := DomainName.text_of_ofString hname
          exact ⟨_, .domain n.text, .name rfl, rfl⟩
  · obtain ⟨h, p⟩ := a
    rintro ⟨host, hsays, hholds, rfl⟩
    cases hsays with
    | ipv4 v =>
      obtain rfl := Host.holds_ip_iff.mp hholds
      rfl
    | @ipv6 v hzone =>
      obtain rfl := Host.holds_ip_iff.mp hholds
      have hsame : v.withoutZone = v := by
        obtain ⟨groups, zone, hgroups⟩ := v
        obtain rfl : zone = none := hzone
        rfl
      simp only [ofFields, Ip.V6.ofOctets?_octets, hsame]
      rfl
    | domain s =>
      obtain ⟨n, rfl, hn⟩ := (Host.holds_text_iff rfl).mp hholds
      obtain rfl := Text.ofString_inj.mp hn
      have htext : Bytes.toText? (Bytes.ofText n.text) = some n.text :=
        Bytes.toText?_eq_some_iff.mpr rfl
      simp only [ofFields, htext, ofName, DomainName.ofString_text]
      rfl

end Address

lemma TypeNumber.type?_eq_some_iff {number : TypeNumber} {type : AddressType} :
    number.type? = some type ↔ number.value = type.octet.toNat := by
  unfold type?
  constructor
  · intro h
    split_ifs at h with h₁ h₃ h₄
    · obtain rfl := Option.some.inj h
      exact h₁
    · obtain rfl := Option.some.inj h
      exact h₃
    · obtain rfl := Option.some.inj h
      exact h₄
  · intro h
    rw [h]
    cases type <;> rfl

/-! ### One origin after the other -/

namespace Origin

variable {a : Address} {host port : Value}

lemma makeIp_eq_ok_iff : Address.makeIp host port = .ok a ↔
    ∃ h p, (madeOfIp host port).Gives h p ∧ a.Holds h p := by
  unfold Address.makeIp
  cases htext : host.text? with
  | none =>
    simp only
    rw [Address.make_eq_ok_iff]
    constructor
    · exact fun hholds => ⟨_, _, .madeOfIp port htext, hholds⟩
    · rintro ⟨h, p, hgives, hholds⟩
      cases hgives with
      | madeOfText _ htext' => exact nomatch htext.symm.trans htext'
      | madeOfIp => exact hholds
  | some s =>
    cases hip : Ip.ofText? s with
    | none =>
      simp only [hip]
      refine iff_of_false nofun ?_
      rintro ⟨h, p, hgives, -⟩
      cases hgives with
      | madeOfText _ htext' hip' =>
        obtain rfl := Option.some.inj (htext.symm.trans htext')
        exact Ip.ofText?_eq_none_iff.mp hip _ hip'
      | madeOfIp _ htext' => exact nomatch htext.symm.trans htext'
    | some ip =>
      simp only [hip]
      rw [Address.make_eq_ok_iff]
      constructor
      · exact fun hholds => ⟨_, _, .madeOfText port htext (Ip.ofText?_eq_some_iff.mp hip), hholds⟩
      · rintro ⟨h, p, hgives, hholds⟩
        cases hgives with
        | madeOfText _ htext' hip' =>
          obtain rfl := Option.some.inj (htext.symm.trans htext')
          obtain rfl := Option.some.inj (hip.symm.trans (Ip.ofText?_eq_some_iff.mpr hip'))
          exact hholds
        | madeOfIp _ htext' => exact nomatch htext.symm.trans htext'

lemma parse_eq_ok_iff {t : Text} :
    Address.parse t = .ok a ↔ ∃ h p, (parsed t).Gives h p ∧ a.Holds h p := by
  rw [Address.parse_eq_ok_iff]
  constructor
  · rintro ⟨x, p, rfl, hspelled, hfew, hnumeral⟩
    obtain ⟨host, hsays, hholds⟩ := Host.spelled_iff.mp hspelled
    exact ⟨host, _, .parsed hsays hnumeral hfew, hholds, rfl⟩
  · rintro ⟨host, _, hgives, hholds⟩
    cases hgives with
    | @parsed x p _ n hsays hnumeral hfew =>
      obtain rfl : n = a.port.toNat := Int.ofNat_inj.mp (Value.int.inj hholds.port)
      exact ⟨x, p, rfl, Host.spelled_iff.mpr ⟨host, hsays, hholds.host⟩, hfew, hnumeral⟩

lemma ofWire_eq_ok_iff {number : TypeNumber} {body bytes : Bytes} :
    Address.ofWire number body bytes = .ok a ↔
      ∃ h p, (wire number body bytes).Gives h p ∧ a.Holds h p := by
  constructor
  · intro h
    unfold Address.ofWire at h
    split at h
    · next hi lo =>
      split at h
      · next type htype =>
        obtain ⟨host, hsays, hholds, hport⟩ := Address.ofFields_eq_ok_iff.mp h
        refine ⟨host, _, .wire (TypeNumber.type?_eq_some_iff.mp htype) hsays hi lo, hholds, ?_⟩
        rw [hport, Bytes.toNat_toUInt16]
      · cases h
    · cases h
  · rintro ⟨host, _, hgives, hholds⟩
    cases hgives with
    | @wire _ type _ _ htype hsays hi lo =>
      have hport : a.port = Bytes.toUInt16 hi lo := by
        apply UInt16.toNat_inj.mp
        rw [Bytes.toNat_toUInt16]
        exact (Int.ofNat_inj.mp (Value.int.inj hholds.port)).symm
      simp only [Address.ofWire, TypeNumber.type?_eq_some_iff.mpr htype]
      exact Address.ofFields_eq_ok_iff.mpr ⟨host, hsays, hholds.host, hport⟩

/-- The fields of an octet string are the ones that are taken off its front. -/
lemma unpack_eq_ok_iff {bs : Bytes} :
    (∃ rest, Address.unpack bs = .ok (a, rest)) ↔
      ∃ h p, (unpacked bs).Gives h p ∧ a.Holds h p := by
  constructor
  · rintro ⟨rest, hunpack⟩
    obtain ⟨type, body, port, hbody, hfields, rfl⟩ := Address.exists_fields_of_unpack hunpack
    rw [← Address.ofWire_ofUInt16] at hfields
    obtain ⟨h, p, hwire, hholds⟩ := ofWire_eq_ok_iff.mp hfields
    exact ⟨h, p, .unpacked hbody rest hwire, hholds⟩
  · rintro ⟨h, p, hgives, hholds⟩
    cases hgives with
    | @unpacked type body port _ _ hbody rest hwire =>
      have hfields := ofWire_eq_ok_iff.mpr ⟨h, p, hwire, hholds⟩
      cases hwire with
      | wire _ _ hi lo =>
        have hbytes : Bytes.ofUInt16 (Bytes.toUInt16 hi lo) = [hi, lo] :=
          Bytes.ofUInt16_toUInt16 hi lo
        rw [← hbytes, Address.ofWire_ofUInt16] at hfields
        refine ⟨rest, ?_⟩
        rw [← hbytes, Address.unpack_fields hbody, hfields]
        rfl

lemma decode_eq_ok_iff {bs : Bytes} :
    (∃ payload, Relay.decode bs = .ok (payload, a)) ↔
      ∃ h p, (datagram bs).Gives h p ∧ a.Holds h p := by
  constructor
  · rintro ⟨payload, hdecode⟩
    obtain ⟨rest, rfl, hunpack⟩ :=
      Frame.parseDatagram_eq_ok_iff.mp (Relay.decode_eq_ok_iff.mp hdecode)
    obtain ⟨h, p, hgives, hholds⟩ := unpack_eq_ok_iff.mp ⟨payload, hunpack⟩
    exact ⟨h, p, .datagram hgives, hholds⟩
  · rintro ⟨h, p, hgives, hholds⟩
    cases hgives with
    | datagram hgives =>
      obtain ⟨payload, hunpack⟩ := unpack_eq_ok_iff.mpr ⟨h, p, hgives, hholds⟩
      exact ⟨payload, Relay.decode_eq_ok_iff.mpr
        (Frame.parseDatagram_eq_ok_iff.mpr ⟨_, rfl, hunpack⟩)⟩

/-- What is said of an address that is there holds for this address only. -/
lemma holds_value_iff {b : Address} : a.Holds b.host.value (.int b.port.toNat) ↔ a = b := by
  obtain ⟨h, p⟩ := a
  obtain ⟨h', p'⟩ := b
  have hport : Value.int p'.toNat = .int p.toNat ↔ p = p' := by
    rw [Value.int.injEq, Int.ofNat_inj, UInt16.toNat_inj, eq_comm]
  have hhost : h.Holds h'.value ↔ h = h' := by
    cases h' with
    | ipv4 v => exact Host.holds_ip_iff
    | ipv6 v hmapped => rw [Host.value, Host.holds_ip_iff, Host.ofIp_of_not_mapped hmapped]
    | name n =>
      rw [Host.holds_text_iff rfl]
      constructor
      · rintro ⟨m, rfl, hm⟩
        have hname := DomainName.ofText_eq_ok_iff.mpr hm
        rw [DomainName.ofText_eq_ok_iff.mpr rfl] at hname
        rw [Except.ok.inj hname]
      · rintro rfl
        exact ⟨n, rfl, rfl⟩
  rw [Address.mk.injEq, ← hhost, ← hport]
  exact ⟨fun hholds => ⟨hholds.host, hholds.port⟩, fun hboth => ⟨hboth.1, hboth.2⟩⟩

lemma mapError_eq_ok_iff {ε ε' α : Type} {f : ε → ε'} {x : Except ε α} {y : α} :
    x.mapError f = .ok y ↔ x = .ok y := by
  cases x <;> simp [Except.mapError]

/-- A tuple says an IP address if its text is one, and a name otherwise. -/
lemma pair_eq_ok_iff {s : Text} {n : Int} {more : List Value} (htext : host.text? = some s) :
    Socks5.destination (.tuple (host :: .int n :: more)) = .ok a ↔
      ∃ h p, (destination (.tuple (host :: .int n :: more))).Gives h p ∧ a.Holds h p := by
  have hmade : Socks5.destination (.tuple (host :: .int n :: more)) = .ok a ↔
      a.Holds ((Ip.ofText? s).elim (.text s) .ip) (.int n) := by
    rw [← Address.make_eq_ok_iff, ← mapError_eq_ok_iff (f := Failure.ofAddress)]
    simp only [Socks5.destination, htext]
    cases Ip.ofText? s <;> rfl
  rw [hmade]
  cases hip : Ip.ofText? s with
  | some ip =>
    constructor
    · exact fun hholds => ⟨_, _, .ipPair n more htext (Ip.ofText?_eq_some_iff.mp hip), hholds⟩
    · rintro ⟨h, p, hgives, hholds⟩
      cases hgives with
      | ipPair _ _ htext' hip' =>
        obtain rfl := Option.some.inj (htext.symm.trans htext')
        obtain rfl := Option.some.inj (hip.symm.trans (Ip.ofText?_eq_some_iff.mpr hip'))
        exact hholds
      | namePair _ _ htext' hip' =>
        obtain rfl := Option.some.inj (htext.symm.trans htext')
        exact absurd (Ip.ofText?_eq_some_iff.mp hip) (hip' ip)
  | none =>
    constructor
    · exact fun hholds => ⟨_, _, .namePair n more htext (Ip.ofText?_eq_none_iff.mp hip), hholds⟩
    · rintro ⟨h, p, hgives, hholds⟩
      cases hgives with
      | ipPair _ _ htext' hip' =>
        obtain rfl := Option.some.inj (htext.symm.trans htext')
        exact absurd hip' (Ip.ofText?_eq_none_iff.mp hip _)
      | namePair _ _ htext' hip' =>
        obtain rfl := Option.some.inj (htext.symm.trans htext')
        exact hholds

lemma destination_eq_ok_iff {v : Value} :
    Socks5.destination v = .ok a ↔ ∃ h p, (destination v).Gives h p ∧ a.Holds h p := by
  constructor
  · intro hdestination
    unfold Socks5.destination at hdestination
    split at hdestination
    · obtain rfl := Except.ok.inj hdestination
      exact ⟨_, _, .address _, holds_value_iff.mpr rfl⟩
    · next ip port =>
      have hmade := Address.make_eq_ok_iff.mp (mapError_eq_ok_iff.mp hdestination)
      exact ⟨_, _, .endpoint ip port, hmade⟩
    · obtain ⟨h, p, hgives, hholds⟩ := parse_eq_ok_iff.mp (mapError_eq_ok_iff.mp hdestination)
      exact ⟨h, p, .text hgives, hholds⟩
    · obtain ⟨h, p, hgives, hholds⟩ := parse_eq_ok_iff.mp (mapError_eq_ok_iff.mp hdestination)
      exact ⟨h, p, .named hgives, hholds⟩
    · next host n more =>
      cases htext : host.text? with
      | some s => exact (pair_eq_ok_iff htext).mp (by rw [Socks5.destination, ← hdestination])
      | none => simp [htext] at hdestination
    · cases hdestination
  · rintro ⟨h, p, hgives, hholds⟩
    cases hgives with
    | address b => rw [Socks5.destination, holds_value_iff.mp hholds]
    | endpoint ip port =>
      exact mapError_eq_ok_iff.mpr (Address.make_eq_ok_iff.mpr hholds)
    | text hgives => exact mapError_eq_ok_iff.mpr (parse_eq_ok_iff.mpr ⟨h, p, hgives, hholds⟩)
    | named hgives => exact mapError_eq_ok_iff.mpr (parse_eq_ok_iff.mpr ⟨h, p, hgives, hholds⟩)
    | ipPair n more htext hip =>
      exact (pair_eq_ok_iff htext).mpr ⟨_, _, .ipPair n more htext hip, hholds⟩
    | namePair n more htext hip =>
      exact (pair_eq_ok_iff htext).mpr ⟨_, _, .namePair n more htext hip, hholds⟩

lemma toOption_eq_some_iff {ε α : Type} {x : Except ε α} {y : α} :
    x.toOption = some y ↔ x = .ok y := by
  cases x <;> simp [Except.toOption]

/-- There is an address just if it holds a host and a port that its origin says. -/
lemma obtain?_eq_some_iff (o : Origin) :
    o.obtain? = some a ↔ ∃ h p, o.Gives h p ∧ a.Holds h p := by
  cases o with
  | made host port =>
    rw [obtain?, toOption_eq_some_iff, Address.make_eq_ok_iff]
    constructor
    · exact fun hholds => ⟨host, port, .made host port, hholds⟩
    · rintro ⟨h, p, ⟨⟩, hholds⟩
      exact hholds
  | madeOfIp host port => rw [obtain?, toOption_eq_some_iff, makeIp_eq_ok_iff]
  | parsed t => rw [obtain?, toOption_eq_some_iff, parse_eq_ok_iff]
  | wire number body port => rw [obtain?, toOption_eq_some_iff, ofWire_eq_ok_iff]
  | unpacked bs =>
    rw [← unpack_eq_ok_iff]
    simp [obtain?, toOption_eq_some_iff]
  | datagram bs =>
    rw [← decode_eq_ok_iff]
    simp [obtain?, toOption_eq_some_iff]
  | destination v => rw [obtain?, toOption_eq_some_iff, destination_eq_ok_iff]

end Origin

/-! ### Wire forms -/

namespace Address

/-- The wire form is a type octet, a body of the length that its type has or that is written in
front of it, and the two octets of the port. -/
lemma exists_pack_eq (a : Address) : ∃ (first : UInt8) (body : Bytes) (hi lo : UInt8),
    a.pack = first :: body ++ [hi, lo] ∧ hi.toNat * 256 + lo.toNat = a.port.toNat ∧
      (TypeNumber.ofOctet first).type? = some a.type ∧
      match a.type.bodyLength? with
      | some size => body.length = size
      | none => ∃ (size : UInt8) (name : Bytes), body = size :: name ∧
        name.length = size.toNat := by
  refine ⟨a.type.octet, a.body, _, _, rfl, ?_, ?_, ?_⟩
  · rw [← Bytes.toNat_toUInt16, Bytes.toUInt16_ofUInt16]
  · rw [TypeNumber.type?_ofOctet, AddressType.ofOctet?_octet]
  · obtain ⟨host, port⟩ := a
    cases host with
    | ipv4 v => exact v.length_octets
    | ipv6 v h => exact v.length_octets
    | name n =>
      have hfits : n.octets.length < 256 := Nat.lt_succ_of_le n.fits
      exact ⟨_, n.octets, rfl, (UInt8.toNat_ofNat_of_lt hfits).symm⟩

lemma length_pack (a : Address) : a.pack.length = match a.host with
    | .ipv4 _ => 7
    | .ipv6 _ _ => 19
    | .name n => 4 + (Bytes.ofText n.text).length := by
  obtain ⟨host, port⟩ := a
  cases host with
  | ipv4 v => rfl
  | ipv6 v h => simp [pack, body]
  | name n => simp [pack, body, DomainName.octets]; omega

lemma length_pack_le (a : Address) : a.pack.length ≤ 259 := by
  rw [length_pack]
  obtain ⟨host, port⟩ := a
  cases host with
  | ipv4 v => exact show 7 ≤ 259 by decide
  | ipv6 v h => exact show 19 ≤ 259 by decide
  | name n => exact Nat.add_le_add_left n.fits 4

lemma pack_withoutZone (a : Address) : a.withoutZone.pack = a.pack := by
  obtain ⟨host, port⟩ := a
  cases host <;> rfl

/-- What is written says everything about an address but its zone. -/
lemma pack_eq_iff {a b : Address} : a.pack = b.pack ↔ a.withoutZone = b.withoutZone := by
  constructor
  · intro h
    have ha := a.unpack_pack_append []
    rw [h, b.unpack_pack_append []] at ha
    exact (congrArg Prod.fst (Except.ok.inj ha)).symm
  · intro h
    rw [← a.pack_withoutZone, h, b.pack_withoutZone]

end Address

namespace Origin

end Origin

end Socks5
