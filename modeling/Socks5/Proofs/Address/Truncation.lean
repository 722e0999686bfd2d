import Socks5.Proofs.Address.RoundTrip

/-!
# Addresses that come in pieces

Octets that stop within an address are said to end too early, and nothing else is said of them. All
else that is said of octets is said of them whatever follows: the address that was read, or the
reason why there is none. This is their `Verdict`. Octets without one can be continued to octets
that have one (`verdict_or_endsEarly`).
-/

namespace Socks5

namespace AddressType

/-- Between the type octet and the port there are at least two octets, and at most 256. -/
lemma Admits.length_lengthField {type : AddressType} {size : Nat} (h : type.Admits size) :
    2 ≤ (type.lengthField size).length + size ∧ (type.lengthField size).length + size ≤ 256 := by
  cases type with
  | ipv4 =>
    obtain rfl : size = 4 := h
    exact ⟨by decide, by decide⟩
  | ipv6 =>
    obtain rfl : size = 16 := h
    exact ⟨by decide, by decide⟩
  | domain =>
    obtain ⟨hpos, hle⟩ : 0 < size ∧ size ≤ 255 := h
    rw [lengthField, List.length_singleton]
    omega

end AddressType

namespace Address

/-! ### Verdicts -/

/-- Reading says that the octets end too early. -/
def EndsEarly (d : Bytes) : Prop := ∃ part, unpack d = .error (.short part)

/-- What reading says of octets, and of all octets that begin with them. -/
inductive Verdict (d : Bytes) : Prop
  /-- An address is read, and what follows is left. -/
  | read (a : Address) (rest : Bytes) (shortest : rest.length + (1 + 1 + 1 + 2) ≤ d.length)
      (longest : d.length ≤ rest.length + 259) (stands : ∀ t, unpack (d ++ t) = .ok (a, rest ++ t))
  /-- The octets are no address, and no others behind them make them one. -/
  | refused (e : WireError)
      (kind : (∃ number, e = .unsupported number) ∨ ∃ reason, e = .invalid reason)
      (stands : ∀ t, unpack (d ++ t) = .error e)

variable {type : AddressType} {size : Nat} {d rest : Bytes} {a : Address} {e : WireError}

/-- What is said whatever follows is said if nothing follows. -/
lemma unpack_eq_of_stands {f : Bytes → Except WireError (Address × Bytes)}
    (h : ∀ t, unpack (d ++ t) = f t) : unpack d = f [] := by
  rw [← h, List.append_nil]

lemma Verdict.not_endsEarly (h : Verdict d) : ¬ EndsEarly d := by
  rintro ⟨part, hpart⟩
  cases h with
  | read a rest _ _ stands => exact nomatch hpart.symm.trans (unpack_eq_of_stands stands)
  | refused e kind stands =>
    obtain rfl := Except.error.inj (hpart.symm.trans (unpack_eq_of_stands stands))
    obtain ⟨number, h⟩ | ⟨reason, h⟩ := kind <;> cases h

/-- Complete fields are an address, or say why they are none, and no octet behind them counts. -/
lemma verdict_of_fields {body : Bytes} (h : type.Admits body.length) (port : UInt16)
    (rest : Bytes) :
    Verdict (type.octet :: type.lengthField body.length ++
      (body ++ Bytes.ofUInt16 port ++ rest)) := by
  have hread (t : Bytes) :
      unpack (type.octet :: type.lengthField body.length ++
        (body ++ Bytes.ofUInt16 port ++ rest) ++ t) =
        (ofFields type body port).map (·, rest ++ t) := by
    rw [List.append_assoc _ _ t, List.append_assoc _ rest t, unpack_fields h]
  cases hfields : ofFields type body port with
  | ok a =>
    rw [hfields] at hread
    obtain ⟨hmin, hmax⟩ := h.length_lengthField
    refine .read a rest ?_ ?_ hread <;>
    · simp only [List.cons_append, List.length_cons, List.length_append, Bytes.length_ofUInt16]
      omega
  | error e =>
    rw [hfields] at hread
    exact .refused e (.inr (ofFields_error h.eq_of_bodyLength? hfields)) hread

lemma verdict_of_le (h : type.Admits size) {bs : Bytes} (hlong : size + 2 ≤ bs.length) :
    Verdict (type.octet :: type.lengthField size ++ bs) := by
  obtain ⟨body, port, rest, rfl, rfl⟩ := exists_body_port hlong
  exact verdict_of_fields h port rest

/-- Octets have a verdict, or they end too early and others behind them bring one. -/
lemma verdict_or_endsEarly (d : Bytes) :
    Verdict d ∨ EndsEarly d ∧ ∃ more, Verdict (d ++ more) := by
  obtain ⟨type, size, bs, h, rfl⟩ | ⟨part, hd, hpart⟩ | ⟨e, kind, stands⟩ := unpack_cases d
  · by_cases hlong : size + 2 ≤ bs.length
    · exact .inl (verdict_of_le h hlong)
    · -- Any octets will do for those that are missing.
      refine .inr ⟨⟨.body, ?_⟩, List.replicate (size + 2) 0, ?_⟩
      · rw [unpack_lengthField h, unpackBody, if_pos (Nat.not_le.mp hlong)]
      · rw [List.append_assoc]
        refine verdict_of_le h ?_
        rw [List.length_append, List.length_replicate]
        exact Nat.le_add_left _ _
  · refine .inr ⟨⟨part, hpart⟩, [0], ?_⟩
    obtain ⟨-, rfl⟩ | ⟨-, rfl⟩ := hd
    · exact .refused (.unsupported (.ofOctet 0)) (.inl ⟨_, rfl⟩) fun t => rfl
    · exact .refused (.invalid .zeroLength) (.inr ⟨_, rfl⟩) fun t => rfl
  · exact .inl (.refused e kind stands)

lemma verdict_of_not_endsEarly (h : ¬ EndsEarly d) : Verdict d :=
  (verdict_or_endsEarly d).resolve_right fun hd => h hd.1

/-! ### More octets, and fewer -/

/-- An address that was read is the same whatever follows. -/
lemma unpack_append_of_ok (h : unpack d = .ok (a, rest)) :
    (∀ t, unpack (d ++ t) = .ok (a, rest ++ t)) ∧
      rest.length + (1 + 1 + 1 + 2) ≤ d.length ∧ d.length ≤ rest.length + 259 := by
  have hd : ¬ EndsEarly d := by
    rintro ⟨part, hpart⟩
    exact nomatch h.symm.trans hpart
  cases verdict_of_not_endsEarly hd with
  | read b r shortest longest stands =>
    have hb := unpack_eq_of_stands stands
    rw [List.append_nil, h] at hb
    cases hb
    exact ⟨stands, shortest, longest⟩
  | refused e _ stands => exact nomatch h.symm.trans (unpack_eq_of_stands stands)

/-- Octets that are no address end too early, or are none whatever follows. -/
lemma unpack_append_of_error (h : unpack d = .error e) :
    (∃ part, e = .short part) ∨
      ((∃ number, e = .unsupported number) ∨ ∃ reason, e = .invalid reason) ∧
        ∀ t, unpack (d ++ t) = .error e := by
  obtain hverdict | ⟨⟨part, hpart⟩, -⟩ := verdict_or_endsEarly d
  · right
    cases hverdict with
    | read b r _ _ stands => exact nomatch h.symm.trans (unpack_eq_of_stands stands)
    | refused e' kind stands =>
      obtain rfl := Except.error.inj (h.symm.trans (unpack_eq_of_stands stands))
      exact ⟨kind, stands⟩
  · exact .inl ⟨part, Except.error.inj (h.symm.trans hpart)⟩

/-- What was written for an address ends too early wherever it is cut. -/
lemma endsEarly_of_proper (h : d <+: a.pack) (hne : d ≠ a.pack) : EndsEarly d := by
  obtain ⟨t, ht⟩ := h
  have hpack : unpack (d ++ t) = .ok (a.withoutZone, []) := by
    rw [ht, ← List.append_nil a.pack, unpack_pack_append]
  by_contra hd
  cases verdict_of_not_endsEarly hd with
  | read b r _ _ stands =>
    -- All octets of the address are needed, so nothing was cut off.
    have hrest : r ++ t = [] := congrArg Prod.snd (Except.ok.inj ((stands t).symm.trans hpack))
    obtain ⟨-, rfl⟩ := List.append_eq_nil_iff.mp hrest
    rw [List.append_nil] at ht
    exact hne ht
  | refused e _ stands => exact nomatch (stands t).symm.trans hpack

/-- What is said of octets is said of them whatever follows, unless it is that they end too early,
which others behind them can always mend. The octets of an address end too early wherever they are
cut, and nothing is ever said of octets that are no address but that they end too early, that their
type is unknown, or that they hold no address. -/
theorem unpack_verdict_stands (d : Bytes) :
    (∀ a rest, unpack d = .ok (a, rest) →
      (∀ t, unpack (d ++ t) = .ok (a, rest ++ t)) ∧
        rest.length + (1 + 1 + 1 + 2) ≤ d.length ∧ d.length ≤ rest.length + 259) ∧
      (∀ e, unpack d = .error e → (∀ part, e ≠ .short part) →
        ∀ t, unpack (d ++ t) = .error e) ∧
      (∀ part, unpack d = .error (.short part) →
        ∃ more, ∀ part', unpack (d ++ more) ≠ .error (.short part')) ∧
      (∀ a : Address, d <+: a.pack → d ≠ a.pack → ∃ part, unpack d = .error (.short part)) ∧
      (∀ e, unpack d = .error e → (∃ part, e = .short part) ∨
        (∃ number, e = .unsupported number) ∨ ∃ reason, e = .invalid reason) := by
  refine ⟨fun a rest => unpack_append_of_ok, fun e h he => ?_, fun part h => ?_,
    fun a => endsEarly_of_proper, fun e h => (unpack_append_of_error h).imp_right And.left⟩
  · obtain ⟨part, hpart⟩ | ⟨-, stands⟩ := unpack_append_of_error h
    · exact absurd hpart (he part)
    · exact stands
  · obtain hverdict | ⟨-, more, hmore⟩ := verdict_or_endsEarly d
    · exact absurd ⟨part, h⟩ hverdict.not_endsEarly
    · exact ⟨more, fun part' hpart' => hmore.not_endsEarly ⟨part', hpart'⟩⟩

/-- A name that is cut within a letter ends too early, and is no other letter. -/
theorem unpack_verdict_stands_within_letter :
    let a : Address := ⟨.name ⟨"é", by decide, by decide⟩, 53⟩
    let d : Bytes := [3, 2, 0xc3]
    d <+: a.pack ∧ d ≠ a.pack ∧ (∃ part, unpack d = .error (.short part)) ∧
      ∃ more, ∀ part, unpack (d ++ more) ≠ .error (.short part) := by
  intro a d
  have hbegins : d <+: a.pack := ⟨[0xa9, 0, 53], by decide⟩
  have hne : d ≠ a.pack := by decide
  obtain ⟨-, -, hmore, hcut, -⟩ := unpack_verdict_stands d
  obtain ⟨part, hpart⟩ := hcut a hbegins hne
  exact ⟨hbegins, hne, ⟨part, hpart⟩, hmore part hpart⟩

end Address

end Socks5
