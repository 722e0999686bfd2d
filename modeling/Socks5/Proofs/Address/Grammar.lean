import Socks5.Proofs.Address.Text

/-!
# The grammar of address texts

An address text is an IPv6 text in brackets, an IP text or a domain name, then a colon and a port.
Exactly the texts of this grammar are read, as long as the port has no more digits than are read as
a number. All others are refused with an address error, but for those with a surrogate in what would
be the domain name: such a name is encoded before anything else is looked at, and cannot be.
-/

namespace Socks5

namespace Address

variable {t port : Text} {p : List Char} {a : Address}

/-- A host that is spelled in one of three ways, a colon, and the digits of a port: an IPv6 text in
brackets, an IP text, or a domain name, which is neither of them and holds no colon. -/
inductive Spells : Text → Address → Prop
  | bracketed {x : Text} {p : List Char} {v : Ip.V6} {port : UInt16} (hip : Ip.V6.Spells x v)
      (hclose : .char ']' ∉ x) (hport : Text.Numeral 10 p port.toNat) :
      Spells (.char '[' :: x ++ .char ']' :: .char ':' :: Text.ofChars p) (ofIp (.v6 v) port)
  | ip {x : Text} {p : List Char} {ip : Ip} {port : UInt16} (hip : Ip.Spells x ip)
      (hport : Text.Numeral 10 p port.toNat) :
      Spells (x ++ .char ':' :: Text.ofChars p) (ofIp ip port)
  | name {p : List Char} {name : DomainName} {port : UInt16} (hcolon : ':' ∉ name.text.toList)
      (hopen : name.text.toList.head? ≠ some '[') (hip : ∀ ip, ¬ Ip.Spells name.text ip)
      (hport : Text.Numeral 10 p port.toNat) :
      Spells (Text.ofString name.text ++ .char ':' :: Text.ofChars p) ⟨.name name, port⟩

/-- The part of a text that is its port: what stands behind the first bracket that closes and a
colon, if the text begins with a bracket, and behind the last colon otherwise. -/
def portPart? : Text → Option Text
  | '[' :: r => match Text.splitFirst? (.char ']') r with
    | some (_, ':' :: p) => some p
    | _ => none
  | t => (Text.splitLast? (.char ':') t).map (·.2)

/-! ### Ports -/

lemma portPart?_of_spelled {host : Text} {h : Host} (hhost : Host.Spelled host h)
    (hcolon : .char ':' ∉ port) : portPart? (host ++ .char ':' :: port) = some port := by
  have hlast : ∀ t, Text.splitLast? (.char ':') (t ++ .char ':' :: port) = some (t, port) :=
    fun t => Text.splitLast?_eq_some_iff.mpr ⟨hcolon, rfl⟩
  have hplain {q : CodePoint} {t : Text} (hopen : q ≠ .char '[') :
      portPart? (q :: t ++ .char ':' :: port) = some port := by
    rw [List.cons_append, portPart?]
    · rw [← List.cons_append, hlast]
      rfl
    · rintro r heq
      exact hopen (List.cons.inj heq).1
  cases hhost with
  | @bracketed t v hclose hip =>
    have hfirst : Text.splitFirst? (.char ']') (t ++ .char ']' :: .char ':' :: port) =
        some (t, .char ':' :: port) := Text.splitFirst?_eq_some_iff.mpr ⟨hclose, rfl⟩
    simp only [List.cons_append, List.append_assoc, List.nil_append, portPart?, hfirst]
  | ip hopen hip => exact hplain hopen
  | name hopen hcolon hip hname => exact hplain hopen

/-- A text is not refused for the number of digits in its port, if there are not so many. -/
lemma not_overlong
    (hfew : ∀ p ∈ portPart? t, (p.filter (·.satisfies Text.isDigit)).length ≤ 4300) (n : Nat) :
    ¬ Overlong n t := by
  rintro ⟨host, h, p, rfl, hhost, hdigits, rfl, hlong⟩
  have hcount := hfew _ (portPart?_of_spelled hhost (colon_not_mem_of_digits hdigits))
  have hall : ∀ q ∈ Text.ofChars p, q.satisfies Text.isDigit := by
    simpa [Text.ofChars, CodePoint.satisfies] using hdigits
  rw [List.filter_eq_self.mpr hall, Text.length_ofChars] at hcount
  exact absurd hlong (Nat.not_lt.mpr hcount)

/-! ### Hosts -/

/-- A well spelled host with a numeral behind the colon is an address text. -/
lemma spells_of_spelled {host : Text} {h : Host} {port : UInt16} (hhost : Host.Spelled host h)
    (hport : Text.Numeral 10 p port.toNat) :
    Spells (host ++ .char ':' :: Text.ofChars p) ⟨h, port⟩ := by
  cases hhost with
  | @bracketed t v hclose hip =>
    have hspells := Spells.bracketed (Ip.V6.ofText?_eq_some_iff.mp hip) hclose hport
    simpa [ofIp] using hspells
  | @ip q t ip hopen hip => exact .ip (Ip.ofText?_eq_some_iff.mp hip) hport
  | @name q t name hopen hcolon hip hname =>
    obtain ⟨htext, hplain⟩ := Host.spelled_name_iff.mp (.name hopen hcolon hip hname)
    rw [htext] at hip ⊢
    exact .name (hplain.colon name rfl) (hplain.bracket name rfl)
      (Ip.ofText?_eq_none_iff.mp hip) hport

/-- An address text is a well spelled host with a numeral behind the colon. -/
lemma Spells.exists_spelled (h : Spells t a) : ∃ host p, t = host ++ .char ':' :: Text.ofChars p ∧
    Host.Spelled host a.host ∧ Text.Numeral 10 p a.port.toNat := by
  cases h with
  | @bracketed x p v port hip hclose hport =>
    refine ⟨.char '[' :: x ++ [.char ']'], p, by simp, ?_, hport⟩
    exact .bracketed hclose (Ip.V6.ofText?_eq_some_iff.mpr hip)
  | @ip x p ip port hip hport =>
    exact ⟨x, p, rfl, Host.spelled_of_ofText? (Ip.ofText?_eq_some_iff.mpr hip), hport⟩
  | @name p name port hcolon hopen hip hport =>
    refine ⟨name.text, p, rfl, Host.spelled_name_iff.mpr ⟨rfl, ?_⟩, hport⟩
    refine ⟨Ip.ofText?_eq_none_iff.mpr hip, ?_, ?_⟩
    · rintro _ ⟨⟩
      exact hcolon
    · rintro _ ⟨⟩
      exact hopen

/-! ### Names -/

/-- A name with a surrogate is the text of no IP address, so it comes to be encoded. -/
lemma parse_of_unencodable (h : Unencodable t) : ∃ e, parse t = .error (.encoding e) := by
  obtain ⟨name, port, rfl, hcolon, hport, hopen, hsurrogate⟩ := h
  obtain ⟨e, he⟩ := Text.encodable_eq_error_iff.mpr hsurrogate
  have hip : Ip.ofText? name = none := by
    rw [Ip.ofText?_eq_none_iff]
    intro ip hspells
    obtain ⟨cs, rfl⟩ := hspells.exists_ofChars hcolon
    obtain ⟨n, hn⟩ := hsurrogate
    simp [Text.ofChars] at hn
  have hname : DomainName.ofText name = .error (.encoding e) := by rw [DomainName.ofText, he]
  have hlast : Text.splitLast? (.char ':') (name ++ .char ':' :: port) = some (name, port) :=
    Text.splitLast?_eq_some_iff.mpr ⟨hport, rfl⟩
  cases name with
  | nil => cases he
  | cons q rest =>
    have hq : q ≠ .char '[' := by simpa using hopen
    refine ⟨e, ?_⟩
    rw [List.cons_append, parse_of_head hq, ← List.cons_append]
    simp only [parsePlain, hlast, hip, hname, if_neg hcolon, List.isEmpty_cons, Bool.false_eq_true,
      if_false]

/-- The encoding is what is wrong with the texts whose name has a surrogate, and with no others. -/
theorem parse_eq_encoding_iff : (∃ e, parse t = .error (.encoding e)) ↔ Unencodable t := by
  refine ⟨?_, parse_of_unencodable⟩
  rintro ⟨e, hparse⟩
  obtain ⟨host, port, h, rfl, hhost, hport⟩ | ⟨h, -⟩ | ⟨reason, hinvalid⟩ := parse_cases t
  · rw [hport] at hparse
    cases hvalue : parsePort port with
    | ok n =>
      rw [hvalue] at hparse
      cases hparse
    | error f =>
      rw [hvalue] at hparse
      obtain rfl := Except.error.inj hparse
      exact absurd hvalue (parsePort_ne_encoding port e)
  · exact h
  · cases hparse.symm.trans hinvalid

/-! ### Texts -/

/-- A text that is read is an address text. -/
lemma spells_of_parse (h : parse t = .ok a) : Spells t a := by
  obtain ⟨host, port, rfl, hspelled, hport⟩ := exists_spelled_of_parse h
  obtain ⟨p, rfl, -, hnumeral⟩ := parsePort_eq_ok_iff.mp hport
  exact spells_of_spelled hspelled hnumeral

/-- An address text is read unless its port has too many digits. -/
lemma Spells.parse (h : Spells t a) (hfew : ∀ n, ¬ Overlong n t) : parse t = .ok a := by
  obtain ⟨host, p, rfl, hspelled, hport⟩ := h.exists_spelled
  have hdigits : p.all Text.isDigit := List.all_eq_true.mpr fun _ hc => hport.isDigit_of_mem hc
  have hshort : p.length ≤ Decimal.maxDigits := by
    by_contra hlong
    exact hfew p.length ⟨host, a.host, p, rfl, hspelled, hdigits, rfl, Nat.not_le.mp hlong⟩
  rw [parse_spelled hspelled (colon_not_mem_of_digits hdigits),
    parsePort_eq_ok_iff.mpr ⟨p, rfl, hshort, hport⟩]
  rfl

/-- With brackets or without, the same IPv6 text and what follows the colon are read alike. -/
lemma parse_bracketed_eq {x : Text} {v : Ip.V6} (hip : Ip.V6.Spells x v)
    (hclose : .char ']' ∉ x) (hcolon : .char ':' ∉ port) :
    parse (.char '[' :: x ++ .char ']' :: .char ':' :: port) =
      parse (x ++ .char ':' :: port) := by
  have hbracketed : .char '[' :: x ++ .char ']' :: .char ':' :: port =
      (.char '[' :: x ++ [.char ']']) ++ .char ':' :: port := by simp
  have hspelled := Host.Spelled.bracketed hclose (Ip.V6.ofText?_eq_some_iff.mpr hip)
  have hbare : Ip.Spells x (.v6 v) := hip
  have hspelled' := Host.spelled_of_ofText? (Ip.ofText?_eq_some_iff.mpr hbare)
  rw [hbracketed, parse_spelled hspelled hcolon, parse_spelled hspelled' hcolon]

end Address

end Socks5
