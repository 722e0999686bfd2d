import Mathlib.Tactic.Common
import Socks5.Address.Parsing

/-!
# Reading address texts

An address text is the spelling of a host, a colon and a port. Whether the text is read, and what is
wrong with it otherwise, is settled by its port once the host is spelled well: `parse_spelled`. A
text with no such host is refused without a look at its port, and so is a name that cannot be
encoded.
-/

namespace Socks5

/-! ### Separators -/

namespace Text

variable {α : Type} [DecidableEq α] {sep : α} {cs a b : List α}

/-- The part in front of the first separator has none. -/
lemma splitFirst?_eq_some_iff :
    splitFirst? sep cs = some (a, b) ↔ sep ∉ a ∧ cs = a ++ sep :: b := by
  induction cs generalizing a with
  | nil => simp [splitFirst?]
  | cons c rest ih =>
    rw [splitFirst?]
    split_ifs with hc
    · subst hc
      constructor
      · rintro ⟨⟩
        simp
      · rintro ⟨hnot, heq⟩
        cases a with
        | nil => simp_all
        | cons d a => simp_all
    · cases a with
      | nil => simp [Prod.ext_iff, hc]
      | cons d a =>
        have hcd : c = d → ¬ sep = d := by
          rintro rfl
          exact Ne.symm hc
        simp only [Option.map_eq_some_iff, Prod.exists, Prod.mk.injEq, List.cons.injEq,
          List.mem_cons, List.cons_append]
        constructor
        · rintro ⟨a', b', h, ⟨rfl, rfl⟩, rfl⟩
          obtain ⟨hnot, rfl⟩ := ih.mp h
          exact ⟨by simp [hcd rfl, hnot], rfl, rfl⟩
        · rintro ⟨hnot, rfl, rfl⟩
          rw [not_or] at hnot
          exact ⟨a, b, ih.mpr ⟨hnot.2, rfl⟩, ⟨rfl, rfl⟩, rfl⟩

lemma splitFirst?_eq_none_iff : splitFirst? sep cs = none ↔ sep ∉ cs := by
  induction cs with
  | nil => simp [splitFirst?]
  | cons c rest ih =>
    rw [splitFirst?, List.mem_cons, not_or, ← ih]
    split_ifs with hc
    · simp [hc]
    · simp [Ne.symm hc]

lemma splitLast?_eq_none_iff : splitLast? sep cs = none ↔ sep ∉ cs := by
  induction cs with
  | nil => simp [splitLast?]
  | cons c rest ih =>
    rw [splitLast?, List.mem_cons, not_or, ← ih]
    cases splitLast? sep rest with
    | none => simp [eq_comm]
    | some parts => simp

/-- The part behind the last separator has none. -/
lemma splitLast?_eq_some_iff :
    splitLast? sep cs = some (a, b) ↔ sep ∉ b ∧ cs = a ++ sep :: b := by
  induction cs generalizing a b with
  | nil => simp [splitLast?]
  | cons c rest ih =>
    rw [splitLast?]
    rcases hsplit : splitLast? sep rest with _ | ⟨a', b'⟩
    · have hnot : sep ∉ rest := splitLast?_eq_none_iff.mp hsplit
      cases a with
      | nil =>
        simp only [Option.ite_none_right_eq_some, Option.some.injEq, Prod.mk.injEq, List.nil_append,
          List.cons.injEq, true_and]
        constructor
        · rintro ⟨rfl, rfl⟩
          exact ⟨hnot, rfl, rfl⟩
        · rintro ⟨-, rfl, rfl⟩
          exact ⟨rfl, rfl⟩
      | cons d a =>
        simp only [List.cons_append, List.cons.injEq]
        constructor
        · intro h
          split_ifs at h
          cases h
        · rintro ⟨-, -, rfl⟩
          simp at hnot
    · obtain ⟨hnot, rfl⟩ := ih.mp hsplit
      simp only [Option.some.injEq, Prod.mk.injEq]
      constructor
      · rintro ⟨rfl, rfl⟩
        exact ⟨hnot, rfl⟩
      · rintro ⟨hb, heq⟩
        cases a with
        | nil =>
          obtain ⟨-, rfl⟩ := List.cons.inj heq
          simp at hb
        | cons d a =>
          obtain ⟨rfl, hrest⟩ := List.cons.inj heq
          have hsame := hsplit.symm.trans (ih.mpr ⟨hb, hrest⟩)
          obtain ⟨rfl, rfl⟩ := Prod.mk.inj (Option.some.inj hsame)
          exact ⟨rfl, rfl⟩

end Text

/-! ### Names -/

namespace DomainName

variable {t : Text} {n : DomainName}

lemma ofText_ofString (s : String) :
    ofText (.ofString s) = (ofString s).mapError .invalid := by
  rw [ofText, Text.encodable_ofString]

lemma text_of_ofString {s : String} (h : ofString s = .ok n) : n.text = s := by
  unfold ofString at h
  split_ifs at h
  cases h
  rfl

/-- A name is read from its own text, and from no other. -/
lemma ofText_eq_ok_iff : ofText t = .ok n ↔ t = .ofString n.text := by
  constructor
  · intro h
    unfold ofText at h
    cases hencode : t.encodable with
    | error e =>
      rw [hencode] at h
      cases h
    | ok s =>
      rw [hencode] at h
      cases hname : ofString s with
      | error reason =>
        simp only [hname] at h
        cases h
      | ok m =>
        simp only [hname] at h
        cases h
        rw [text_of_ofString hname, Text.encodable_eq_ok_iff.mp hencode]
  · rintro rfl
    rw [ofText_ofString, ofString_text]
    rfl

/-- A text that is no name cannot be encoded, or has the wrong length. -/
lemma ofText_error {f : AddressFailure} (h : ofText t = .error f) :
    (∃ e, t.encodable = .error e ∧ f = .encoding e) ∨ ∃ reason, f = .invalid reason := by
  unfold ofText at h
  cases hencode : t.encodable with
  | error e =>
    rw [hencode] at h
    exact .inl ⟨e, rfl, (Except.error.inj h).symm⟩
  | ok s =>
    rw [hencode] at h
    cases hname : ofString s with
    | error reason =>
      simp only [hname] at h
      exact .inr ⟨reason, (Except.error.inj h).symm⟩
    | ok m =>
      simp only [hname] at h
      cases h

end DomainName

/-! ### Hosts -/

/-- The texts that stand for a host in front of the colon of a port. -/
inductive Host.Spelled : Text → Host → Prop
  | bracketed {t : Text} {v : Ip.V6} (hclose : .char ']' ∉ t) (hip : Ip.V6.ofText? t = some v) :
      Spelled (.char '[' :: t ++ [.char ']']) (.ofIp (.v6 v))
  | ip {p : CodePoint} {t : Text} {ip : Ip} (hopen : p ≠ .char '[')
      (hip : Ip.ofText? (p :: t) = some ip) : Spelled (p :: t) (.ofIp ip)
  | name {p : CodePoint} {t : Text} {name : DomainName} (hopen : p ≠ .char '[')
      (hcolon : .char ':' ∉ p :: t) (hip : Ip.ofText? (p :: t) = none)
      (hname : DomainName.ofText (p :: t) = .ok name) : Spelled (p :: t) (.name name)

namespace Address

variable {t host port : Text} {h : Host} {n : Nat}

/-- A text whose only colon stands behind a name that cannot be encoded, as it holds a surrogate. -/
def Unencodable (t : Text) : Prop :=
  ∃ name port : Text, t = name ++ .char ':' :: port ∧ .char ':' ∉ name ∧ .char ':' ∉ port ∧
    name.head? ≠ some (.char '[') ∧ ∃ n, .surrogate n ∈ name

lemma parse_of_head {p : CodePoint} (hp : p ≠ .char '[') :
    parse (p :: t) = parsePlain (p :: t) := by
  unfold parse
  split
  · next heq => exact absurd (List.cons.inj heq).1 hp
  · rfl

/-- A well spelled host leaves it to the port whether there is an address. -/
lemma parse_spelled (hhost : Host.Spelled host h) (hport : .char ':' ∉ port) :
    parse (host ++ .char ':' :: port) = (parsePort port).map (⟨h, ·⟩) := by
  have hlast : ∀ t, Text.splitLast? (.char ':') (t ++ .char ':' :: port) = some (t, port) :=
    fun t => Text.splitLast?_eq_some_iff.mpr ⟨hport, rfl⟩
  cases hhost with
  | @bracketed t v hclose hip =>
    have hfirst : Text.splitFirst? (.char ']') (t ++ .char ']' :: .char ':' :: port) =
        some (t, .char ':' :: port) := Text.splitFirst?_eq_some_iff.mpr ⟨hclose, rfl⟩
    simp only [List.cons_append, List.append_assoc, List.nil_append, parse, parseBracketed,
      hfirst, hip]
    rfl
  | @ip p t ip hopen hip =>
    rw [List.cons_append, parse_of_head hopen, ← List.cons_append]
    simp only [parsePlain, hlast, hip, List.isEmpty_cons, Bool.false_eq_true, if_false]
    rfl
  | @name p t name hopen hcolon hip hname =>
    rw [List.cons_append, parse_of_head hopen, ← List.cons_append]
    simp only [parsePlain, hlast, hip, hname, if_neg hcolon, List.isEmpty_cons, Bool.false_eq_true,
      if_false]

/-- A text has a well spelled host in front of its last colon, or a name that cannot be encoded, or
it is no address whatever follows the colon. -/
lemma parse_cases (t : Text) :
    (∃ host port h, t = host ++ .char ':' :: port ∧ Host.Spelled host h ∧
      parse t = (parsePort port).map (⟨h, ·⟩)) ∨
    (Unencodable t ∧ ∃ e, parse t = .error (.encoding e)) ∨
    ∃ reason, parse t = .error (.invalid reason) := by
  by_cases hhead : t.head? = some (.char '[')
  · obtain ⟨rest, rfl⟩ := List.head?_eq_some_iff.mp hhead
    simp only [parse]
    unfold parseBracketed
    split
    · next host port hsplit =>
      obtain ⟨hclose, rfl⟩ := Text.splitFirst?_eq_some_iff.mp hsplit
      cases hip : Ip.V6.ofText? host with
      | none => exact .inr (.inr ⟨_, rfl⟩)
      | some v =>
        refine .inl ⟨.char '[' :: host ++ [.char ']'], port, _, ?_, .bracketed hclose hip, rfl⟩
        simp
    · exact .inr (.inr ⟨_, rfl⟩)
  · have hplain : parse t = parsePlain t := by
      cases t with
      | nil => rfl
      | cons p rest => exact parse_of_head fun hp => hhead (by rw [hp]; rfl)
    rw [hplain, parsePlain]
    rcases hsplit : Text.splitLast? (.char ':') t with _ | ⟨host, port⟩ <;> simp only [hsplit]
    · exact .inr (.inr ⟨_, rfl⟩)
    obtain ⟨hport, rfl⟩ := Text.splitLast?_eq_some_iff.mp hsplit
    cases host with
    | nil => exact .inr (.inr ⟨_, rfl⟩)
    | cons p host =>
      have hopen : p ≠ .char '[' := fun hp => hhead (by rw [hp]; rfl)
      simp only [List.isEmpty_cons, Bool.false_eq_true, if_false]
      cases hip : Ip.ofText? (p :: host) with
      | some ip => exact .inl ⟨_, port, _, rfl, .ip hopen hip, rfl⟩
      | none =>
        simp only
        split_ifs with hcolon
        · exact .inr (.inr ⟨_, rfl⟩)
        cases hname : DomainName.ofText (p :: host) with
        | ok name => exact .inl ⟨_, port, _, rfl, .name hopen hcolon hip hname, rfl⟩
        | error f =>
          obtain ⟨e, he, rfl⟩ | ⟨reason, rfl⟩ := DomainName.ofText_error hname
          · have hsurrogate := Text.encodable_eq_error_iff.mp ⟨e, he⟩
            exact .inr (.inl ⟨⟨_, port, rfl, hcolon, hport, hhead, hsurrogate⟩, e, rfl⟩)
          · exact .inr (.inr ⟨reason, rfl⟩)

/-! ### Ports -/

lemma parsePort_ofChars (cs : List Char) : parsePort (.ofChars cs) = portOfChars cs := by
  rw [parsePort, Text.chars?_ofChars]

lemma colon_not_mem_of_digits {p : List Char} (h : p.all Text.isDigit) :
    .char ':' ∉ Text.ofChars p := fun hmem =>
  nomatch List.all_eq_true.mp h ':' (Text.char_mem_ofChars.mp hmem)

/-- A port has too many digits if it has more than are read as a number, and nothing but digits. -/
lemma portOfChars_eq_digits_iff {p : List Char} :
    portOfChars p = .error (.digits n) ↔
      p.all Text.isDigit ∧ p.length = n ∧ Decimal.maxDigits < n := by
  unfold portOfChars
  split_ifs with hdigits hlong
  · constructor
    · rintro ⟨⟩
    · rintro ⟨hall, rfl, hlong⟩
      obtain hempty | hnot := hdigits
      · simp [List.isEmpty_iff.mp hempty] at hlong
      · exact absurd hall hnot
  · rw [not_or, not_not] at hdigits
    constructor
    · rintro ⟨⟩
      exact ⟨hdigits.2, rfl, hlong⟩
    · rintro ⟨-, rfl, -⟩
      rfl
  · constructor
    · intro h
      split at h
      · split_ifs at h
        cases h
      · cases h
    · rintro ⟨-, rfl, h⟩
      exact absurd h hlong

/-- Whatever is wrong with a port, it is not how it is encoded. -/
lemma parsePort_ne_encoding (port : Text) (e : EncodingError) :
    parsePort port ≠ .error (.encoding e) := by
  unfold parsePort portOfChars
  split
  · split_ifs
    · exact nofun
    · exact nofun
    · split
      · split_ifs <;> exact nofun
      · exact nofun
  · exact nofun

/-- A text whose host is well spelled and whose port has so many digits, more than are read as a
number. -/
def Overlong (n : Nat) (t : Text) : Prop :=
  ∃ host h port, t = host ++ .char ':' :: Text.ofChars port ∧ Host.Spelled host h ∧
    port.all Text.isDigit ∧ port.length = n ∧ Decimal.maxDigits < n

lemma map_parsePort_eq_digits_iff :
    (parsePort port).map (Address.mk h) = .error (.digits n) ↔
      ∃ p, port = .ofChars p ∧ p.all Text.isDigit ∧ p.length = n ∧ Decimal.maxDigits < n := by
  constructor
  · intro hport
    unfold parsePort at hport
    cases hchars : port.chars? with
    | none =>
      rw [hchars] at hport
      cases hport
    | some p =>
      simp only [hchars] at hport
      refine ⟨p, Text.chars?_eq_some_iff.mp hchars, portOfChars_eq_digits_iff.mp ?_⟩
      cases hvalue : portOfChars p with
      | ok n =>
        rw [hvalue] at hport
        cases hport
      | error f =>
        rw [hvalue] at hport
        cases hport
        rfl
  · rintro ⟨p, rfl, hdigits⟩
    rw [parsePort_ofChars, portOfChars_eq_digits_iff.mpr hdigits]
    rfl

/-- The number of digits is what is wrong with the overlong texts, and with no others. -/
theorem parse_eq_digits_iff : parse t = .error (.digits n) ↔ Overlong n t := by
  constructor
  · intro hparse
    obtain ⟨host, port, h, rfl, hhost, hport⟩ | ⟨-, e, he⟩ | ⟨reason, hinvalid⟩ := parse_cases t
    · rw [hport] at hparse
      obtain ⟨p, rfl, hdigits⟩ := map_parsePort_eq_digits_iff.mp hparse
      exact ⟨host, h, p, rfl, hhost, hdigits⟩
    · cases hparse.symm.trans he
    · cases hparse.symm.trans hinvalid
  · rintro ⟨host, h, p, rfl, hhost, hdigits⟩
    rw [parse_spelled hhost (colon_not_mem_of_digits hdigits.1)]
    exact map_parsePort_eq_digits_iff.mpr ⟨p, rfl, hdigits⟩

end Address

end Socks5
