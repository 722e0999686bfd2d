import Socks5.Proofs.Address.RoundTrip
import Socks5.Proofs.Ip.Grammar

/-!
# Address texts that are read again

The text of an address that was read is read as the same address, with its zone. A zone may hold a
closing bracket if the address was read without brackets; its text ends the host too early then, and
is refused.
-/

namespace Socks5

/-! ### Hosts -/

namespace Host

lemma ofIp_ne_name (ip : Ip) (n : DomainName) : ofIp ip ≠ .name n := by
  cases ip with
  | v4 v => exact nofun
  | v6 v =>
    cases hmapped : v.mapped? with
    | some w =>
      rw [ofIp_of_mapped hmapped]
      exact nofun
    | none =>
      rw [ofIp_of_not_mapped hmapped]
      exact nofun

/-- The text of a host in front of the colon of a port. -/
def spelling : Host → Text
  | .ipv6 v _ => .char '[' :: v.text ++ [.char ']']
  | h => h.text

/-- The zone of a host, if it has one. -/
def zone? : Host → Option Text
  | .ipv6 v _ => v.zone
  | _ => none

variable {h : Host} {t : Text} {n : DomainName}

/-- An IP text is well spelled without brackets. -/
lemma spelled_of_ofText? {ip : Ip} (hip : Ip.ofText? t = some ip) : Spelled t (.ofIp ip) := by
  obtain ⟨p, rest, hopen, rfl⟩ := (Ip.ofText?_eq_some_iff.mp hip).exists_cons
  exact .ip hopen hip

lemma spelled_ipv4 (v : Ip.V4) : Spelled (spelling (.ipv4 v)) (.ipv4 v) :=
  spelled_of_ofText? (Ip.ofText?_v4 v)

/-- An IPv6 text is well spelled in brackets, unless its zone holds a bracket. -/
lemma spelled_bracketed {v : Ip.V6} (hzone : Ip.V6.LegibleZone v.zone)
    (hclose : ∀ z ∈ v.zone, .char ']' ∉ z) :
    Spelled (.char '[' :: v.text ++ [.char ']']) (.ofIp (.v6 v)) := by
  have hbracket : .char ']' ∉ v.text := by
    rw [Ip.V6.mem_text_iff (by decide) rfl (by decide)]
    rintro ⟨z, hz, hmem⟩
    exact hclose z hz hmem
  exact .bracketed hbracket (Ip.V6.ofText?_text hzone)

/-- The zone of the host of an IPv6 address is the zone of this address. -/
lemma mem_zone_of_ofIp {v : Ip.V6} {z : Text} (h : z ∈ (ofIp (.v6 v)).zone?) : z ∈ v.zone := by
  cases hmapped : v.mapped? with
  | some w =>
    rw [ofIp_of_mapped hmapped] at h
    cases h
  | none =>
    rw [ofIp_of_not_mapped hmapped] at h
    exact h

/-- A host that was spelled in some way has a zone that can be read, if it has one. -/
lemma Spelled.legibleZone (hspelled : Spelled t h) : Ip.V6.LegibleZone h.zone? := by
  cases hspelled with
  | bracketed _ hip => exact fun z hz => Ip.V6.legibleZone_of_ofText? hip z (mem_zone_of_ofIp hz)
  | name => exact nofun
  | @ip p t ip _ hip =>
    unfold Ip.ofText? at hip
    split at hip
    · cases hip
      exact nofun
    · obtain ⟨v, hv, rfl⟩ := Option.map_eq_some_iff.mp hip
      exact fun z hz => Ip.V6.legibleZone_of_ofText? hv z (mem_zone_of_ofIp hz)

/-! ### Names -/

/-- The IP address whose text a name is. -/
def disguised? : Host → Option Ip
  | .name n => Ip.ofText? n.text
  | _ => none

/-- A host that stands for itself in an address text: a name must not be the text of an IP address,
and it has neither a colon nor an opening bracket in front. -/
structure Plain (h : Host) : Prop where
  undisguised : h.disguised? = none
  colon : ∀ n, h = .name n → ':' ∉ n.text.toList
  bracket : ∀ n, h = .name n → n.text.toList.head? ≠ some '['

lemma plain_ipv4 (v : Ip.V4) : Plain (.ipv4 v) := ⟨rfl, nofun, nofun⟩

lemma plain_ipv6 (v : Ip.V6) (h : v.mapped? = none) : Plain (.ipv6 v h) := ⟨rfl, nofun, nofun⟩

lemma head?_ofChars_eq_some_iff {cs : List Char} {c : Char} :
    (Text.ofChars cs).head? = some (.char c) ↔ cs.head? = some c := by
  cases cs <;> simp

/-- A name is spelled by its own text, and only if it is a plain one. -/
lemma spelled_name_iff : Spelled t (.name n) ↔ t = n.text ∧ Plain (.name n) := by
  constructor
  · intro h
    generalize hhost : Host.name n = host at h
    cases h with
    | bracketed _ _ => exact absurd hhost.symm (ofIp_ne_name _ n)
    | ip _ _ => exact absurd hhost.symm (ofIp_ne_name _ n)
    | @name p t name hopen hcolon hip hname =>
      obtain rfl : n = name := Host.name.inj hhost
      have htext : p :: t = n.text := DomainName.ofText_eq_ok_iff.mp hname
      have hhead : (p :: t).head? ≠ some (.char '[') := by simpa using hopen
      rw [htext] at hcolon hip hhead
      refine ⟨htext, hip, ?_, ?_⟩
      · rintro _ ⟨⟩ hmem
        exact hcolon (Text.char_mem_ofChars.mpr hmem)
      · rintro _ ⟨⟩ hbracket
        exact hhead (head?_ofChars_eq_some_iff.mpr hbracket)
  · rintro ⟨rfl, hplain⟩
    have hopen : (Text.ofString n.text).head? ≠ some (.char '[') := fun hhead =>
      hplain.bracket n rfl (head?_ofChars_eq_some_iff.mp hhead)
    have hcolon : .char ':' ∉ Text.ofString n.text := fun hmem =>
      hplain.colon n rfl (Text.char_mem_ofChars.mp hmem)
    have hip : Ip.ofText? n.text = none := hplain.undisguised
    have hname : DomainName.ofText n.text = .ok n := DomainName.ofText_eq_ok_iff.mpr rfl
    cases htext : Text.ofString n.text with
    | nil =>
      rw [htext] at hname
      cases hname
    | cons p rest =>
      rw [htext] at hopen hcolon hip hname
      exact .name (by simpa using hopen) hcolon hip hname

/-! ### Spellings -/

/-- Whatever host was spelled, its own spelling is one of it again, but for the zone. -/
lemma Spelled.spelling (hspelled : Spelled t h) (hclose : ∀ z ∈ h.zone?, .char ']' ∉ z) :
    Spelled h.spelling h := by
  cases h with
  | ipv4 v => exact spelled_ipv4 v
  | ipv6 v hmapped =>
    have hbracketed := spelled_bracketed hspelled.legibleZone hclose
    rw [ofIp_of_not_mapped hmapped] at hbracketed
    exact hbracketed
  | name n => exact spelled_name_iff.mpr ⟨rfl, (spelled_name_iff.mp hspelled).2⟩

end Host

/-! ### Addresses -/

namespace Address

/-- The digits of a port. -/
def portText (port : UInt16) : Text := .ofChars (Nat.toDigits 10 port.toNat)

lemma text_eq (a : Address) : a.text = a.host.spelling ++ .char ':' :: portText a.port := by
  obtain ⟨host, port⟩ := a
  cases host with
  | ipv4 v => rfl
  | ipv6 v h => simp [text, Host.spelling, portText]
  | name n => rfl

/-- A port is any number that fits, written with not too many digits. -/
lemma portOfChars_eq_ok_iff {p : List Char} {port : UInt16} :
    portOfChars p = .ok port ↔ p.length ≤ Decimal.maxDigits ∧ Text.Numeral 10 p port.toNat := by
  unfold portOfChars
  constructor
  · intro h
    split_ifs at h with hbad hlong
    cases hvalue : Text.readNumeral? 10 p with
    | none => simp [hvalue] at h
    | some n =>
      simp only [hvalue] at h
      split_ifs at h with hn
      obtain rfl := Except.ok.inj h
      refine ⟨Nat.not_lt.mp hlong, ?_⟩
      rw [UInt16.toNat_ofNat_of_lt' (Nat.lt_succ_of_le hn)]
      exact (Text.readNumeral?_eq_some_iff (by decide)).mp hvalue
  · rintro ⟨hfew, hnumeral⟩
    have hport := port.toNat_lt
    have hgood : ¬ (p.isEmpty ∨ ¬ p.all Text.isDigit) := by
      rintro (hempty | hnot)
      · exact hnumeral.ne_nil (List.isEmpty_iff.mp hempty)
      · exact hnot (List.all_eq_true.mpr fun c hc => hnumeral.isDigit_of_mem hc)
    rw [if_neg hgood, if_neg (Nat.not_lt.mpr hfew),
      (Text.readNumeral?_eq_some_iff (by decide)).mpr hnumeral]
    simp only
    rw [if_pos (by omega), UInt16.ofNat_toNat]

/-- A port that is read is made of characters. -/
lemma parsePort_eq_ok_iff {t : Text} {port : UInt16} :
    parsePort t = .ok port ↔ ∃ p, t = .ofChars p ∧ p.length ≤ Decimal.maxDigits ∧
      Text.Numeral 10 p port.toNat := by
  constructor
  · intro h
    unfold parsePort at h
    cases hchars : t.chars? with
    | none =>
      rw [hchars] at h
      cases h
    | some p =>
      rw [hchars] at h
      exact ⟨p, Text.chars?_eq_some_iff.mp hchars, portOfChars_eq_ok_iff.mp h⟩
  · rintro ⟨p, rfl, hport⟩
    rw [parsePort_ofChars]
    exact portOfChars_eq_ok_iff.mpr hport

/-- A port is read again. -/
lemma parsePort_portText (port : UInt16) : parsePort (portText port) = .ok port := by
  have hport : port.toNat < 65536 := port.toNat_lt
  have hshort : (Nat.toDigits 10 port.toNat).length ≤ 5 :=
    (Nat.length_toDigits_le_iff (by decide) (by decide)).mpr (by omega)
  have hnumeral : Text.Numeral 10 (Nat.toDigits 10 port.toNat) port.toNat :=
    (Text.readNumeral?_eq_some_iff (by decide)).mp
      (Text.readNumeral?_toDigits (by decide) (by decide) _)
  exact parsePort_eq_ok_iff.mpr ⟨_, rfl, hshort.trans (by decide), hnumeral⟩

/-- A host that is well spelled is read with every port. -/
lemma parse_of_spelled {t : Text} {h : Host} (hspelled : Host.Spelled t h) (port : UInt16) :
    parse (t ++ .char ':' :: portText port) = .ok ⟨h, port⟩ := by
  have hcolon : .char ':' ∉ portText port := fun hmem =>
    nomatch Text.isDigit_of_mem_toDigits (Text.char_mem_ofChars.mp hmem)
  rw [parse_spelled hspelled hcolon, parsePort_portText]
  rfl

lemma parse_text_of_spelled {a : Address} (h : Host.Spelled a.host.spelling a.host) :
    parse a.text = .ok a := by
  rw [text_eq]
  exact parse_of_spelled h a.port

/-- A text that is read is a well spelled host, a colon and a port. -/
lemma exists_spelled_of_parse {t : Text} {a : Address} (h : parse t = .ok a) :
    ∃ host port, t = host ++ .char ':' :: port ∧ Host.Spelled host a.host ∧
      parsePort port = .ok a.port := by
  obtain ⟨host, port, h', heq, hspelled, hparse⟩ | ⟨-, e, hparse⟩ | ⟨reason, hparse⟩ :=
    parse_cases t
  · rw [hparse] at h
    cases hport : parsePort port with
    | ok p =>
      rw [hport] at h
      cases h
      exact ⟨host, port, heq, hspelled, hport⟩
    | error e =>
      rw [hport] at h
      cases h
  · cases hparse.symm.trans h
  · cases hparse.symm.trans h

/-! ### Brackets in zones -/

/-- Two closing brackets are one too many. -/
lemma parseBracketed_error {host rest : Text} (hhost : .char ']' ∉ host)
    (hrest : .char ']' ∈ rest) :
    ∃ reason, parseBracketed (host ++ .char ']' :: rest) = .error (.invalid reason) := by
  unfold parseBracketed
  rw [Text.splitFirst?_eq_some_iff.mpr ⟨hhost, rfl⟩]
  split
  · next port heq =>
    obtain ⟨rfl, rfl⟩ := Prod.mk.inj (Option.some.inj heq)
    cases Ip.V6.ofText? host with
    | none => exact ⟨_, rfl⟩
    | some v =>
      have hport : .char ']' ∈ port := (List.mem_cons.mp hrest).resolve_left (by decide)
      have hrefused : parsePort port = .error (.invalid .port) := by
        unfold parsePort
        cases hchars : Text.chars? port with
        | none => rfl
        | some p =>
          obtain rfl := Text.chars?_eq_some_iff.mp hchars
          have hdigits : ¬ p.all Text.isDigit := fun hall =>
            nomatch List.all_eq_true.mp hall ']' (Text.char_mem_ofChars.mp hport)
          exact if_pos (.inr hdigits)
      refine ⟨.port, ?_⟩
      simp only [hrefused]
      rfl
  · exact ⟨_, rfl⟩

/-- The first bracket in a zone closes the host, and the one behind the host is left over. -/
lemma parse_text_of_bracket {v : Ip.V6} {hmapped : v.mapped? = none} {port : UInt16} {z : Text}
    (hzone : v.zone = some z) (hbracket : .char ']' ∈ z) :
    ∃ reason, parse (text ⟨.ipv6 v hmapped, port⟩) = .error (.invalid reason) := by
  obtain ⟨front, back, hz, hfront⟩ := List.eq_append_cons_of_mem hbracket
  have htext : text ⟨.ipv6 v hmapped, port⟩ =
      .char '[' :: ((Text.ofChars (Ip.V6.addressChars v.groups) ++ .char '%' :: front) ++
        .char ']' :: (back ++ .char ']' :: .char ':' :: portText port)) := by
    simp [text, Ip.V6.text, hzone, hz, portText]
  rw [htext]
  apply parseBracketed_error
  · rw [List.mem_append, List.mem_cons, Text.char_mem_ofChars]
    rintro (haddress | hpercent | hmem)
    · exact Ip.V6.not_mem_addressChars (by decide) rfl haddress
    · cases hpercent
    · exact hfront hmem
  · exact List.mem_append_right _ List.mem_cons_self

/-- The text of an address that was read is read as this address, the zone included; only if the
zone holds a closing bracket it is refused instead. All IPv4 addresses are read from their texts,
and all IPv6 addresses from theirs in brackets, with every port; the IPv4-mapped ones stand for the
IPv4 addresses inside them. -/
theorem text_reads_back :
    (∀ t a, parse t = .ok a →
      ((∀ z ∈ a.host.zone?, .char ']' ∉ z) → parse a.text = .ok a) ∧
      ((∃ z ∈ a.host.zone?, .char ']' ∈ z) →
        ∃ reason, parse a.text = .error (.invalid reason))) ∧
    (∀ v port, parse (text ⟨.ipv4 v, port⟩) = .ok ⟨.ipv4 v, port⟩) ∧
    ∀ v port, v.zone = none →
      parse (.char '[' :: v.text ++ .char ']' :: .char ':' :: portText port) =
          .ok (ofIp (.v6 v) port) ∧
        parse (text (ofIp (.v6 v) port)) = .ok (ofIp (.v6 v) port) := by
  have hread (t : Text) (a : Address) (hparse : parse t = .ok a)
      (hclose : ∀ z ∈ a.host.zone?, .char ']' ∉ z) : parse a.text = .ok a := by
    obtain ⟨_, _, -, hspelled, -⟩ := exists_spelled_of_parse hparse
    exact parse_text_of_spelled (hspelled.spelling hclose)
  refine ⟨fun t a hparse => ⟨hread t a hparse, ?_⟩, ?_, ?_⟩
  · rintro ⟨z, hz, hbracket⟩
    obtain ⟨host, port⟩ := a
    cases host with
    | ipv4 v => cases hz
    | ipv6 v hmapped => exact parse_text_of_bracket hz hbracket
    | name n => cases hz
  · exact fun v port => parse_text_of_spelled (Host.spelled_ipv4 v)
  · intro v port hzone
    have hnone : ∀ z, z ∉ v.zone := by
      rw [hzone]
      exact nofun
    have hspelled : Host.Spelled (.char '[' :: v.text ++ [.char ']']) (.ofIp (.v6 v)) :=
      Host.spelled_bracketed (fun z hz => absurd hz (hnone z)) fun z hz => absurd hz (hnone z)
    have hparse := parse_of_spelled hspelled port
    rw [List.append_assoc] at hparse
    exact ⟨hparse, hread _ _ hparse fun z hz => absurd (Host.mem_zone_of_ofIp hz) (hnone z)⟩

/-- The first longest run of zeros is left out of a text that is read again; a zone with a bracket
is read where the host has no brackets, and not from the text of the address. -/
theorem text_reads_back_unless_bracketed :
    let groups : List UInt16 := [0x2001, 0xdb8, 0, 0, 1, 0, 0, 1]
    let a : Address := ⟨.ipv6 { groups, length_groups := rfl } rfl, 443⟩
    let b : Address :=
      ⟨.ipv6 { groups, zone := some ("a]b" : Text), length_groups := rfl } rfl, 443⟩
    (parse "2001:db8:0:0:1:0:0:1:443" = .ok a ∧ a.text = "[2001:db8::1:0:0:1]:443" ∧
      parse a.text = .ok a) ∧
    (parse "2001:db8:0:0:1:0:0:1%a]b:443" = .ok b ∧ b.text = "[2001:db8::1:0:0:1%a]b]:443" ∧
      ∃ reason, parse b.text = .error (.invalid reason)) := by
  intro groups a b
  have ha : parse "2001:db8:0:0:1:0:0:1:443" = .ok a := rfl
  have hb : parse "2001:db8:0:0:1:0:0:1%a]b:443" = .ok b := rfl
  obtain ⟨hread, -, -⟩ := text_reads_back
  have hbracket : ∃ z ∈ b.host.zone?, .char ']' ∈ z := ⟨"a]b", rfl, by decide⟩
  exact ⟨⟨ha, by decide, (hread _ a ha).1 nofun⟩, hb, by decide, (hread _ b hb).2 hbracket⟩

end Address

end Socks5
