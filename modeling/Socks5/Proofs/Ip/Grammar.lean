import Mathlib.Data.List.Induction
import Socks5.Proofs.Ip.Text

/-!
# The grammar of IP texts

What an IP text is, said without reading it: which digits stand for a number, which numbers make up
an IPv4 text, and which groups an IPv6 text. Exactly the texts of the grammar are read, each as the
address that it stands for.
-/

namespace Socks5

/-! ### Numerals -/

namespace Text

variable {b n d acc : Nat} {c : Char} {cs : List Char}

/-- A digit of a base up to sixteen; a letter may be of either case. -/
def IsDigitOf (b : Nat) (c : Char) (d : Nat) : Prop :=
  d < b ∧ (c = d.digitChar ∨ c = d.digitChar.toUpper)

/-- Digits that stand for a number, the most significant one in front. -/
inductive Numeral (b : Nat) : List Char → Nat → Prop
  | digit {c : Char} {d : Nat} (h : IsDigitOf b c d) : Numeral b [c] d
  | append {cs : List Char} {n : Nat} {c : Char} {d : Nat} (front : Numeral b cs n)
      (h : IsDigitOf b c d) : Numeral b (cs ++ [c]) (b * n + d)

lemma digitValue?_eq_some_iff : digitValue? c = some d ↔ IsDigitOf 16 c d := by
  constructor
  · intro h
    have hascii : c.toNat < 103 := by
      unfold digitValue? at h
      split_ifs at h <;> omega
    have hall : ∀ n < 103, ∀ d ∈ digitValue? (Char.ofNat n), d < 16 ∧
        (Char.ofNat n = d.digitChar ∨ Char.ofNat n = d.digitChar.toUpper) := by
      decide
    have hdigit := hall c.toNat hascii d
    rw [Char.ofNat_toNat] at hdigit
    exact hdigit h
  · rintro ⟨hd, rfl | rfl⟩
    · exact digitValue?_digitChar hd
    · interval_cases d <;> rfl

lemma numeralValue?_singleton (hb : b ≤ 16) :
    numeralValue? b acc [c] = some n ↔ ∃ d, IsDigitOf b c d ∧ n = b * acc + d := by
  rw [numeralValue?]
  constructor
  · intro h
    cases hvalue : digitValue? c with
    | none => simp [hvalue] at h
    | some d =>
      simp only [hvalue, numeralValue?] at h
      split_ifs at h with hd
      exact ⟨d, ⟨hd, (digitValue?_eq_some_iff.mp hvalue).2⟩, (Option.some.inj h).symm⟩
  · rintro ⟨d, ⟨hd, hc⟩, rfl⟩
    have hvalue : digitValue? c = some d :=
      digitValue?_eq_some_iff.mpr ⟨Nat.lt_of_lt_of_le hd hb, hc⟩
    simp [hvalue, hd, numeralValue?]

/-- A numeral is read as the number that its digits stand for. -/
lemma readNumeral?_eq_some_iff (hb : b ≤ 16) : readNumeral? b cs = some n ↔ Numeral b cs n := by
  have hread : ∀ cs c, readNumeral? b (cs ++ [c]) = numeralValue? b 0 (cs ++ [c]) := by
    intro cs c
    cases cs <;> rfl
  constructor
  · intro h
    induction cs using List.reverseRecOn generalizing n with
    | nil => cases h
    | append_singleton cs c ih =>
      rw [hread, numeralValue?_append] at h
      obtain ⟨m, hm, hlast⟩ := Option.bind_eq_some_iff.mp h
      obtain ⟨d, hd, rfl⟩ := (numeralValue?_singleton hb).mp hlast
      cases cs with
      | nil =>
        cases hm
        simpa using Numeral.digit hd
      | cons c' cs => exact .append (ih hm) hd
  · intro h
    induction h with
    | digit h => exact (numeralValue?_singleton hb).mpr ⟨_, h, by simp⟩
    | @append cs n c d front h ih =>
      have hfront : numeralValue? b 0 cs = some n := by
        cases cs with
        | nil => cases ih
        | cons c' cs => exact ih
      rw [hread, numeralValue?_append, hfront]
      exact (numeralValue?_singleton hb).mpr ⟨d, h, rfl⟩

namespace Numeral

lemma ne_nil (h : Numeral b cs n) : cs ≠ [] := by
  cases h <;> simp

lemma exists_digit (h : Numeral b cs n) (hc : c ∈ cs) : ∃ d, IsDigitOf b c d := by
  induction h with
  | digit h =>
    obtain rfl := List.mem_singleton.mp hc
    exact ⟨_, h⟩
  | append front h ih =>
    obtain hfront | hlast := List.mem_append.mp hc
    · exact ih hfront
    · obtain rfl := List.mem_singleton.mp hlast
      exact ⟨_, h⟩

lemma isHexDigit_of_mem (hb : b ≤ 16) (h : Numeral b cs n) (hc : c ∈ cs) : isHexDigit c := by
  obtain ⟨d, hd, hdigit⟩ := h.exists_digit hc
  rw [isHexDigit, digitValue?_eq_some_iff.mpr ⟨Nat.lt_of_lt_of_le hd hb, hdigit⟩]
  rfl

lemma isDigit_of_mem (h : Numeral 10 cs n) (hc : c ∈ cs) : isDigit c := by
  obtain ⟨d, hd, rfl | rfl⟩ := h.exists_digit hc <;> interval_cases d <;> rfl

/-- A numeral is less than the power of its base that has one more digit. -/
lemma lt_pow (h : Numeral b cs n) : n < b ^ cs.length := by
  induction h with
  | digit h => simpa using h.1
  | @append cs n c d front h ih =>
    have hmul : b * (n + 1) ≤ b * b ^ cs.length := Nat.mul_le_mul_left b ih
    have hd := h.1
    rw [List.length_append, List.length_singleton, Nat.pow_succ']
    rw [Nat.mul_succ] at hmul
    omega

end Numeral

end Text

namespace Ip

/-! ### IPv4 -/

namespace V4

variable {cs : List Char} {o : UInt8} {v : V4}

/-- One to three decimal digits without a leading zero that stand for an octet. -/
structure IsOctet (cs : List Char) (o : UInt8) : Prop where
  numeral : Text.Numeral 10 cs o.toNat
  short : cs.length ≤ 3
  leading : cs.head? = some '0' → cs = ['0']

/-- Four octets with dots between them. -/
def Spells (cs : List Char) (v : V4) : Prop :=
  ∃ a b c d, cs = a ++ '.' :: (b ++ '.' :: (c ++ '.' :: d)) ∧
    IsOctet a v.a ∧ IsOctet b v.b ∧ IsOctet c v.c ∧ IsOctet d v.d

lemma octet?_eq_some_iff : octet? cs = some o ↔ IsOctet cs o := by
  unfold octet?
  constructor
  · intro h
    split_ifs at h with hbad
    simp only [not_or, not_not, not_and] at hbad
    obtain ⟨-, -, hshort, hleading⟩ := hbad
    cases hvalue : Text.readNumeral? 10 cs with
    | none => simp [hvalue] at h
    | some n =>
      simp only [hvalue] at h
      split_ifs at h with hn
      obtain rfl := Option.some.inj h
      have htoNat : (UInt8.ofNat n).toNat = n := UInt8.toNat_ofNat_of_lt (Nat.lt_succ_of_le hn)
      refine ⟨?_, Nat.not_lt.mp hshort, hleading⟩
      rw [htoNat]
      exact (Text.readNumeral?_eq_some_iff (by decide)).mp hvalue
  · rintro ⟨hnumeral, hshort, hleading⟩
    have ho := o.toNat_lt
    have hgood : ¬ (cs.isEmpty ∨ ¬ cs.all Text.isDigit ∨ 3 < cs.length ∨
        (cs.head? = some '0' ∧ cs ≠ ['0'])) := by
      rintro (hempty | hnot | hlong | ⟨hhead, hmore⟩)
      · exact hnumeral.ne_nil (List.isEmpty_iff.mp hempty)
      · exact hnot (List.all_eq_true.mpr fun c hc => hnumeral.isDigit_of_mem hc)
      · exact absurd hlong (Nat.not_lt.mpr hshort)
      · exact hmore (hleading hhead)
    rw [if_neg hgood, (Text.readNumeral?_eq_some_iff (by decide)).mpr hnumeral]
    simp only
    rw [if_pos (by omega), UInt8.ofNat_toNat]

lemma IsOctet.not_mem {c : Char} (h : IsOctet cs o) (hc : Text.isDigit c = false) : c ∉ cs :=
  fun hmem => Bool.false_ne_true (hc.symm.trans (h.numeral.isDigit_of_mem hmem))

/-- Exactly the texts of the grammar are read. -/
lemma ofChars?_eq_some_iff : ofChars? cs = some v ↔ Spells cs v := by
  unfold ofChars?
  constructor
  · intro h
    have hjoin := Text.join_fields '.' cs
    split at h
    · next a b c d hfields =>
      rw [hfields] at hjoin
      simp only [Option.bind_eq_bind, Option.bind_eq_some_iff, octet?_eq_some_iff] at h
      obtain ⟨oa, ha, ob, hb, oc, hc, od, hd, hv⟩ := h
      obtain rfl := Option.some.inj hv
      exact ⟨a, b, c, d, by simpa [Text.join] using hjoin.symm, ha, hb, hc, hd⟩
    · cases h
  · rintro ⟨a, b, c, d, rfl, ha, hb, hc, hd⟩
    have hdot {cs : List Char} {o : UInt8} (h : IsOctet cs o) : '.' ∉ cs := h.not_mem rfl
    rw [Text.fields_append_cons (hdot ha), Text.fields_append_cons (hdot hb),
      Text.fields_append_cons (hdot hc), Text.fields_of_not_mem (hdot hd)]
    simp only [octet?_eq_some_iff.mpr ha, octet?_eq_some_iff.mpr hb, octet?_eq_some_iff.mpr hc,
      octet?_eq_some_iff.mpr hd]
    rfl

lemma Spells.isDigit_of_mem {c : Char} (h : Spells cs v) (hc : c ∈ cs) :
    c = '.' ∨ Text.isDigit c := by
  obtain ⟨a, b, c', d, rfl, ha, hb, hc', hd⟩ := h
  simp only [List.mem_append, List.mem_cons] at hc
  obtain h | h | h | h | h | h | h := hc
  · exact .inr (ha.numeral.isDigit_of_mem h)
  · exact .inl h
  · exact .inr (hb.numeral.isDigit_of_mem h)
  · exact .inl h
  · exact .inr (hc'.numeral.isDigit_of_mem h)
  · exact .inl h
  · exact .inr (hd.numeral.isDigit_of_mem h)

lemma Spells.not_mem {c : Char} (h : Spells cs v) (hdot : c ≠ '.') (hc : Text.isDigit c = false) :
    c ∉ cs := fun hmem =>
  (h.isDigit_of_mem hmem).elim hdot fun hdigit => Bool.false_ne_true (hc.symm.trans hdigit)

lemma Spells.dot_mem (h : Spells cs v) : '.' ∈ cs := by
  obtain ⟨a, b, c, d, rfl, -⟩ := h
  simp

end V4

/-! ### IPv6 -/

namespace V6

variable {cs f a b : List Char} {g : UInt16} {gs : List UInt16} {v : V6} {c : Char} {last : Prop}

/-- One to four hexadecimal digits that stand for a group. -/
def IsGroup (cs : List Char) (g : UInt16) : Prop := Text.Numeral 16 cs g.toNat ∧ cs.length ≤ 4

/-- Groups with colons between them. Those that are the `last` of an address may have an IPv4 text
in place of the last two. -/
inductive Groups (last : Prop) : List Char → List UInt16 → Prop
  | group {cs : List Char} {g : UInt16} (h : IsGroup cs g) : Groups last cs [g]
  | quad {cs : List Char} {v : V4} (hlast : last) (h : V4.Spells cs v) :
      Groups last cs [Bytes.toUInt16 v.a v.b, Bytes.toUInt16 v.c v.d]
  | cons {f cs : List Char} {g : UInt16} {gs : List UInt16} (head : IsGroup f g)
      (rest : Groups last cs gs) : Groups last (f ++ ':' :: cs) (g :: gs)

/-- Any number of groups, also none. -/
def AnyGroups (last : Prop) (cs : List Char) (gs : List UInt16) : Prop :=
  (cs = [] ∧ gs = []) ∨ Groups last cs gs

/-- The eight groups of an address, or fewer with two colons in place of one or more zeros. -/
inductive SpellsGroups : List Char → List UInt16 → Prop
  | whole {cs : List Char} {gs : List UInt16} (h : Groups True cs gs) (hall : gs.length = 8) :
      SpellsGroups cs gs
  | gap {a b : List Char} {hi lo : List UInt16} (before : AnyGroups False a hi)
      (after : AnyGroups True b lo) (hfewer : hi.length + lo.length < 8) :
      SpellsGroups (a ++ ':' :: ':' :: b)
        (hi ++ List.replicate (8 - (hi.length + lo.length)) 0 ++ lo)

/-- An address and the zone behind a percent sign, if there is one. A zone is not empty and holds
neither a percent sign nor a slash. -/
def Spells (t : Text) (v : V6) : Prop :=
  ∃ address, SpellsGroups address v.groups ∧ LegibleZone v.zone ∧
    t = .ofChars address ++ v.zone.elim [] fun z => .char '%' :: z

/-! #### Groups -/

lemma group?_eq_some_iff : group? cs = some g ↔ IsGroup cs g := by
  unfold group?
  constructor
  · intro h
    split_ifs at h with hbad
    simp only [not_or, not_not] at hbad
    obtain ⟨-, -, hshort⟩ := hbad
    obtain ⟨n, hn, rfl⟩ := Option.map_eq_some_iff.mp h
    have hnumeral : Text.Numeral 16 cs n := (Text.readNumeral?_eq_some_iff le_rfl).mp hn
    have hpow : (16 : Nat) ^ cs.length ≤ 16 ^ 4 :=
      Nat.pow_le_pow_right (by decide) (Nat.not_lt.mp hshort)
    have hlt : n < 65536 := Nat.lt_of_lt_of_le hnumeral.lt_pow hpow
    refine ⟨?_, Nat.not_lt.mp hshort⟩
    rwa [UInt16.toNat_ofNat_of_lt' hlt]
  · rintro ⟨hnumeral, hshort⟩
    have hgood : ¬ (cs.isEmpty ∨ ¬ cs.all Text.isHexDigit ∨ 4 < cs.length) := by
      rintro (hempty | hnot | hlong)
      · exact hnumeral.ne_nil (List.isEmpty_iff.mp hempty)
      · exact hnot (List.all_eq_true.mpr fun c hc => hnumeral.isHexDigit_of_mem le_rfl hc)
      · exact absurd hlong (Nat.not_lt.mpr hshort)
    rw [if_neg hgood, (Text.readNumeral?_eq_some_iff le_rfl).mpr hnumeral, Option.map_some,
      UInt16.ofNat_toNat]

lemma IsGroup.not_mem (h : IsGroup f g) (hc : Text.isHexDigit c = false) : c ∉ f := fun hmem =>
  Bool.false_ne_true (hc.symm.trans (h.1.isHexDigit_of_mem le_rfl hmem))

/-- A text of groups begins with a digit. -/
lemma Groups.exists_cons (h : Groups last cs gs) : ∃ c rest, c ≠ ':' ∧ cs = c :: rest := by
  have hgroup {f : List Char} {g : UInt16} (h : IsGroup f g) : ∃ c r, c ≠ ':' ∧ f = c :: r := by
    obtain ⟨c, r, rfl⟩ := List.exists_cons_of_ne_nil h.1.ne_nil
    refine ⟨c, r, ?_, rfl⟩
    rintro rfl
    exact h.not_mem rfl List.mem_cons_self
  cases h with
  | group h => exact hgroup h
  | @quad cs v hlast h =>
    obtain ⟨c, r, rfl⟩ := List.exists_cons_of_ne_nil (List.ne_nil_of_mem h.dot_mem)
    refine ⟨c, r, ?_, rfl⟩
    rintro rfl
    exact h.not_mem (by decide) rfl List.mem_cons_self
  | @cons f cs g gs head rest =>
    obtain ⟨c, r, hc, rfl⟩ := hgroup head
    exact ⟨c, r ++ ':' :: cs, hc, rfl⟩

/-- What a text of groups is made of. -/
lemma Groups.mem_cases (h : Groups last cs gs) (hc : c ∈ cs) :
    Text.isHexDigit c ∨ c = ':' ∨ c = '.' := by
  induction h with
  | group h => exact .inl (h.1.isHexDigit_of_mem le_rfl hc)
  | quad hlast h =>
    obtain hdot | hdigit := h.isDigit_of_mem hc
    · exact .inr (.inr hdot)
    · left
      obtain ⟨hlow, hhigh⟩ := of_decide_eq_true hdigit
      simp [Text.isHexDigit, Text.digitValue?, hlow, hhigh]
  | cons head rest ih =>
    obtain hhead | hcolon | hrest := by simpa using hc
    · exact .inl (head.1.isHexDigit_of_mem le_rfl hhead)
    · exact .inr (.inl hcolon)
    · exact ih hrest

/-- Without a dot there is no IPv4 text among the groups. -/
lemma Groups.not_last (h : Groups last cs gs) (hdot : '.' ∉ cs) : Groups False cs gs := by
  induction h with
  | group h => exact .group h
  | quad hlast h => exact absurd h.dot_mem hdot
  | cons head rest ih =>
    simp only [List.mem_append, List.mem_cons, not_or] at hdot
    exact .cons head (ih hdot.2.2)

lemma Groups.mono (h : Groups last cs gs) : Groups True cs gs := by
  induction h with
  | group h => exact .group h
  | quad hlast h => exact .quad trivial h
  | cons head rest ih => exact .cons head ih

lemma Groups.dot_not_mem (h : Groups False cs gs) : '.' ∉ cs := by
  induction h with
  | group h => exact h.not_mem rfl
  | quad hlast h => exact hlast.elim
  | cons head rest ih =>
    simp only [List.mem_append, List.mem_cons, not_or]
    exact ⟨head.not_mem rfl, by decide, ih⟩

lemma groups_of_fields {fs : List (List Char)} (hne : fs ≠ []) (h : groupsOfFields? fs = some gs) :
    Groups True (Text.join [':'] fs) gs := by
  induction fs generalizing gs with
  | nil => exact absurd rfl hne
  | cons f fs ih =>
    cases fs with
    | nil =>
      rw [groupsOfFields?] at h
      split_ifs at h
      · obtain ⟨v, hv, rfl⟩ := Option.map_eq_some_iff.mp h
        exact .quad trivial (V4.ofChars?_eq_some_iff.mp hv)
      · obtain ⟨g, hg, rfl⟩ := Option.map_eq_some_iff.mp h
        exact .group (group?_eq_some_iff.mp hg)
    | cons f' fs =>
      rw [groupsOfFields?] at h
      simp only [Option.bind_eq_bind, Option.bind_eq_some_iff] at h
      obtain ⟨g, hg, rest, hrest, hgs⟩ := h
      obtain rfl := Option.some.inj hgs
      rw [Text.join_cons_cons]
      exact .cons (group?_eq_some_iff.mp hg) (ih (List.cons_ne_nil f' fs) hrest)

lemma Groups.groupsOfFields? (h : Groups last cs gs) :
    groupsOfFields? (Text.fields ':' cs) = some gs := by
  induction h with
  | @group cs g h =>
    have hdot : '.' ∉ cs := h.not_mem rfl
    rw [Text.fields_of_not_mem (h.not_mem rfl), V6.groupsOfFields?, if_neg hdot,
      group?_eq_some_iff.mpr h]
    rfl
  | @quad cs v hlast h =>
    rw [Text.fields_of_not_mem (h.not_mem (by decide) rfl), V6.groupsOfFields?, if_pos h.dot_mem,
      V4.ofChars?_eq_some_iff.mpr h]
    rfl
  | @cons f cs g gs head rest ih =>
    rw [Text.fields_append_cons (head.not_mem rfl)]
    cases hfields : Text.fields ':' cs with
    | nil => exact absurd hfields (Text.fields_ne_nil ':' cs)
    | cons f' fs =>
      rw [hfields] at ih
      rw [V6.groupsOfFields?, group?_eq_some_iff.mpr head, ih]
      rfl

lemma groupsOfChars?_eq_some_iff : groupsOfChars? cs = some gs ↔ AnyGroups True cs gs := by
  unfold groupsOfChars?
  constructor
  · intro h
    split_ifs at h with hempty
    · exact .inl ⟨List.isEmpty_iff.mp hempty, (Option.some.inj h).symm⟩
    · have hgroups := groups_of_fields (Text.fields_ne_nil ':' cs) h
      rw [Text.join_fields] at hgroups
      exact .inr hgroups
  · rintro (⟨rfl, rfl⟩ | h)
    · rfl
    · obtain ⟨c, rest, -, rfl⟩ := h.exists_cons
      exact h.groupsOfFields?

/-! #### The gap -/

/-- A text of groups has no gap; the gap is in what follows. -/
lemma Groups.splitGap?_append (h : Groups last a gs) (cs : List Char) :
    splitGap? (a ++ cs) = (splitGap? cs).map fun (x, y) => (a ++ x, y) := by
  induction h with
  | group h => exact V6.splitGap?_append (h.not_mem rfl) cs
  | quad hlast h => exact V6.splitGap?_append (h.not_mem (by decide) rfl) cs
  | @cons f rest g gs head h ih =>
    obtain ⟨c, front, hc, rfl⟩ := h.exists_cons
    have hsingle : splitGap? (':' :: ((c :: front) ++ cs)) =
        (splitGap? ((c :: front) ++ cs)).map fun (x, y) => (':' :: x, y) := by
      rw [List.cons_append, splitGap?]
      rintro _ - heq
      exact absurd (List.cons.inj heq).1 hc
    rw [List.append_assoc, List.cons_append, V6.splitGap?_append (head.not_mem rfl), hsingle, ih,
      Option.map_map, Option.map_map]
    simp only [Function.comp_def, List.append_assoc, List.cons_append]

lemma eq_of_splitGap? (h : splitGap? cs = some (a, b)) : cs = a ++ ':' :: ':' :: b := by
  induction cs using splitGap?.induct generalizing a with
  | case1 rest =>
    obtain ⟨rfl, rfl⟩ := Prod.mk.inj (Option.some.inj h)
    rfl
  | case2 => cases h
  | case3 c rest hgap ih =>
    rw [splitGap?.eq_3 _ _ hgap] at h
    obtain ⟨⟨a', b'⟩, hsplit, heq⟩ := Option.map_eq_some_iff.mp h
    obtain ⟨rfl, rfl⟩ := Prod.mk.inj heq
    exact congrArg (c :: ·) (ih hsplit)

/-- The eight groups of an address text are read. -/
lemma addressGroups?_eq_some_iff :
    (addressGroups? cs = some gs ∧ gs.length = 8) ↔ SpellsGroups cs gs := by
  unfold addressGroups?
  constructor
  · rintro ⟨h, hall⟩
    rcases hgap : splitGap? cs with _ | ⟨a, b⟩ <;> rw [hgap] at h
    · obtain ⟨-, rfl⟩ | hgroups := groupsOfChars?_eq_some_iff.mp h
      · cases hall
      · exact .whole hgroups hall
    · obtain rfl := eq_of_splitGap? hgap
      by_cases hdot : '.' ∈ a
      · simp [hdot] at h
      simp only [if_neg hdot, Option.bind_eq_bind, Option.bind_eq_some_iff] at h
      obtain ⟨hi, hhi, lo, hlo, h⟩ := h
      split_ifs at h with hfewer
      obtain rfl := Option.some.inj h
      refine .gap ?_ (groupsOfChars?_eq_some_iff.mp hlo) (Nat.lt_succ_of_le hfewer)
      exact (groupsOfChars?_eq_some_iff.mp hhi).imp_right fun h => h.not_last hdot
  · intro h
    cases h with
    | whole h hall =>
      have hnone : splitGap? cs = none := by simpa [splitGap?] using h.splitGap?_append []
      rw [hnone]
      exact ⟨groupsOfChars?_eq_some_iff.mpr (.inr h), hall⟩
    | @gap a b hi lo before after hfewer =>
      have hgap : splitGap? (a ++ ':' :: ':' :: b) = some (a, b) := by
        obtain ⟨rfl, -⟩ | h := before
        · rfl
        · simp [h.splitGap?_append, splitGap?]
      have hdot : '.' ∉ a := by
        obtain ⟨rfl, -⟩ | h := before
        · exact List.not_mem_nil
        · exact h.dot_not_mem
      have hhi : groupsOfChars? a = some hi :=
        groupsOfChars?_eq_some_iff.mpr (before.imp_right Groups.mono)
      simp only [hgap, if_neg hdot, hhi, groupsOfChars?_eq_some_iff.mpr after,
        Option.bind_eq_bind, Option.bind_some]
      rw [if_pos (Nat.le_of_lt_succ hfewer)]
      refine ⟨rfl, ?_⟩
      simp only [List.length_append, List.length_replicate]
      omega

/-! #### Zones -/

lemma SpellsGroups.not_mem (h : SpellsGroups cs gs) (hhex : Text.isHexDigit c = false)
    (hcolon : c ≠ ':') (hdot : c ≠ '.') : c ∉ cs := by
  have hgroups {last : Prop} {cs : List Char} {gs : List UInt16} (h : AnyGroups last cs gs) :
      c ∉ cs := by
    obtain ⟨rfl, -⟩ | h := h
    · exact List.not_mem_nil
    · intro hmem
      obtain hc | hc | hc := h.mem_cases hmem
      · exact Bool.false_ne_true (hhex.symm.trans hc)
      · exact hcolon hc
      · exact hdot hc
  cases h with
  | whole h hall => exact hgroups (.inr h)
  | gap before after hfewer =>
    simp only [List.mem_append, List.mem_cons, not_or]
    exact ⟨hgroups before, hcolon, hcolon, hgroups after⟩

/-- The characters of an address do not end at a mark that is none of them. -/
lemma SpellsGroups.char_not_mem (h : SpellsGroups cs gs) (hhex : Text.isHexDigit c = false)
    (hcolon : c ≠ ':') (hdot : c ≠ '.') : .char c ∉ Text.ofChars cs := fun hmem =>
  h.not_mem hhex hcolon hdot (Text.char_mem_ofChars.mp hmem)

lemma splitZone?_eq_some_iff {t address : Text} {zone : Option Text} :
    splitZone? t = some (address, zone) ↔ .char '%' ∉ address ∧
      (∀ z ∈ zone, z ≠ [] ∧ .char '%' ∉ z) ∧
      t = address ++ zone.elim [] fun z => .char '%' :: z := by
  unfold splitZone?
  constructor
  · intro h
    rcases hsplit : Text.splitFirst? (.char '%') t with _ | ⟨front, back⟩ <;>
      simp only [hsplit] at h
    · obtain ⟨rfl, rfl⟩ := Prod.mk.inj (Option.some.inj h)
      exact ⟨Text.splitFirst?_eq_none_iff.mp hsplit, nofun, by simp⟩
    · split_ifs at h with hbad
      obtain ⟨hempty, hpercent⟩ := not_or.mp hbad
      obtain ⟨rfl, rfl⟩ := Prod.mk.inj (Option.some.inj h)
      obtain ⟨hfront, rfl⟩ := Text.splitFirst?_eq_some_iff.mp hsplit
      refine ⟨hfront, ?_, by simp⟩
      rintro z ⟨⟩
      exact ⟨fun hnil => hempty (List.isEmpty_iff.mpr hnil), hpercent⟩
  · rintro ⟨hfront, hzone, rfl⟩
    cases zone with
    | none => simp [Text.splitFirst?_eq_none_iff.mpr hfront]
    | some z =>
      obtain ⟨hempty, hpercent⟩ := hzone z rfl
      have hgood : ¬ (z.isEmpty ∨ .char '%' ∈ z) := by simp [hempty, hpercent]
      rw [Option.elim_some, Text.splitFirst?_eq_some_iff.mpr ⟨hfront, rfl⟩]
      simp only [if_neg hgood]

/-- Exactly the texts of the grammar are read. -/
lemma ofText?_eq_some_iff {t : Text} : ofText? t = some v ↔ Spells t v := by
  constructor
  · intro h
    have hlegible := legibleZone_of_ofText? h
    unfold ofText? at h
    split_ifs at h
    rcases hzone : splitZone? t with _ | ⟨address, zone⟩ <;> simp only [hzone] at h
    · cases h
    rcases hchars : address.chars? with _ | cs <;>
      simp only [hchars, Option.bind_none, Option.bind_some] at h
    · cases h
    rcases hgroups : addressGroups? cs with _ | gs <;> simp only [hgroups] at h
    · cases h
    split_ifs at h with hall
    obtain rfl := Option.some.inj h
    obtain rfl := Text.chars?_eq_some_iff.mp hchars
    obtain ⟨-, -, ht⟩ := splitZone?_eq_some_iff.mp hzone
    exact ⟨cs, addressGroups?_eq_some_iff.mp ⟨hgroups, hall⟩, hlegible, ht⟩
  · rintro ⟨address, haddress, hlegible, rfl⟩
    have hslash : .char '/' ∉ Text.ofChars address ++ v.zone.elim [] fun z => .char '%' :: z := by
      rw [List.mem_append, not_or]
      refine ⟨haddress.char_not_mem rfl (by decide) (by decide), ?_⟩
      cases hzone : v.zone with
      | none => exact List.not_mem_nil
      | some z => simp [(hlegible z hzone).2.2]
    have hsplit : splitZone? (.ofChars address ++ v.zone.elim [] fun z => .char '%' :: z) =
        some (.ofChars address, v.zone) :=
      splitZone?_eq_some_iff.mpr ⟨haddress.char_not_mem rfl (by decide) (by decide),
        fun z hz => ⟨(hlegible z hz).1, (hlegible z hz).2.1⟩, rfl⟩
    obtain ⟨hgroups, hall⟩ := addressGroups?_eq_some_iff.mpr haddress
    simp only [ofText?, if_neg hslash, hsplit, Text.chars?_ofChars, Option.bind_some, hgroups,
      dif_pos hall]

lemma Groups.colon_mem (h : Groups last cs gs) (hall : gs.length = 8) : ':' ∈ cs := by
  cases h with
  | group h => cases hall
  | quad hlast h => cases hall
  | cons head rest => simp

lemma SpellsGroups.colon_mem (h : SpellsGroups cs gs) : ':' ∈ cs := by
  cases h with
  | whole h hall => exact h.colon_mem hall
  | gap before after hfewer => simp

/-- An address holds a colon, and begins with a digit, a colon or a dot. -/
lemma Spells.exists_cons {t : Text} (h : Spells t v) :
    .char ':' ∈ t ∧ ∃ c rest, t = .char c :: rest ∧ (Text.isHexDigit c ∨ c = ':' ∨ c = '.') := by
  obtain ⟨address, haddress, -, rfl⟩ := h
  have hcolon := haddress.colon_mem
  obtain ⟨c, rest, rfl⟩ := List.exists_cons_of_ne_nil (List.ne_nil_of_mem hcolon)
  refine ⟨List.mem_append_left _ (Text.char_mem_ofChars.mpr hcolon), c, _, rfl, ?_⟩
  by_contra hmark
  simp only [not_or, Bool.not_eq_true] at hmark
  exact haddress.not_mem hmark.1 hmark.2.1 hmark.2.2 List.mem_cons_self

end V6

/-! ### Either version -/

/-- The texts that stand for an IP address. -/
def Spells (t : Text) : Ip → Prop
  | .v4 v => ∃ cs, t = .ofChars cs ∧ V4.Spells cs v
  | .v6 v => V6.Spells t v

variable {t : Text} {ip : Ip}

lemma V4.ofText?_eq_some_iff {v : V4} :
    V4.ofText? t = some v ↔ ∃ cs, t = .ofChars cs ∧ V4.Spells cs v := by
  simp only [V4.ofText?, Option.bind_eq_some_iff, Text.chars?_eq_some_iff, V4.ofChars?_eq_some_iff]

/-- Exactly the texts of the grammar are read. -/
lemma ofText?_eq_some_iff : ofText? t = some ip ↔ Spells t ip := by
  unfold ofText?
  cases hv4 : V4.ofText? t with
  | some v =>
    obtain ⟨cs, rfl, hspells⟩ := V4.ofText?_eq_some_iff.mp hv4
    cases ip with
    | v4 w => simp only [Spells, ← V4.ofText?_eq_some_iff, hv4, Option.some.injEq, v4.injEq]
    | v6 w =>
      -- A text with a colon is no IPv4 text.
      have hcolon : ':' ∉ cs := hspells.not_mem (by decide) rfl
      simpa [Spells] using fun h : V6.Spells (.ofChars cs) w =>
        hcolon (Text.char_mem_ofChars.mp h.exists_cons.1)
  | none =>
    cases ip with
    | v4 w => simp [Spells, ← V4.ofText?_eq_some_iff, hv4]
    | v6 w => simp [Spells, ← V6.ofText?_eq_some_iff]

lemma ofText?_eq_none_iff : ofText? t = none ↔ ∀ ip, ¬ Spells t ip := by
  simp only [← ofText?_eq_some_iff]
  exact Option.eq_none_iff_forall_ne_some

lemma ofText?_v4 (v : V4) : ofText? v.text = some (.v4 v) := by
  rw [ofText?, V4.text, V4.ofText?_ofChars, V4.ofChars?_chars]

lemma ofText?_v6 {v : V6} (h : V6.LegibleZone v.zone) : ofText? v.text = some (.v6 v) :=
  ofText?_eq_some_iff.mpr (V6.ofText?_eq_some_iff.mp (V6.ofText?_text h))

/-- An IP text does not begin with a bracket. -/
lemma Spells.exists_cons (h : Spells t ip) : ∃ p rest, p ≠ .char '[' ∧ t = p :: rest := by
  cases ip with
  | v4 v =>
    obtain ⟨cs, rfl, h⟩ := h
    obtain ⟨c, rest, rfl⟩ := List.exists_cons_of_ne_nil (List.ne_nil_of_mem h.dot_mem)
    refine ⟨.char c, Text.ofChars rest, ?_, rfl⟩
    rintro ⟨⟩
    exact h.not_mem (by decide) rfl List.mem_cons_self
  | v6 v =>
    obtain ⟨-, c, rest, rfl, hc⟩ := V6.Spells.exists_cons h
    refine ⟨.char c, rest, ?_, rfl⟩
    rintro ⟨⟩
    revert hc
    decide

/-- Without a colon only a text of characters stands for an IP address. -/
lemma Spells.exists_ofChars (h : Spells t ip) (hcolon : .char ':' ∉ t) : ∃ cs, t = .ofChars cs := by
  cases ip with
  | v4 v =>
    obtain ⟨cs, ht, -⟩ := h
    exact ⟨cs, ht⟩
  | v6 v => exact absurd (V6.Spells.exists_cons h).1 hcolon

end Ip

end Socks5
