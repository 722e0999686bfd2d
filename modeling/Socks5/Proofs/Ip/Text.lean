import Mathlib.Data.List.TakeWhile
import Socks5.Ip.Any
import Socks5.Proofs.Address.Parsing
import Socks5.Proofs.Text.Numeral

/-!
# IP texts that are read again

The text of an IP address is read as that address. For IPv6 the text has a `::` in place of its
first longest run of zero groups: a run is within the groups and all zero, the `::` is where the gap
is found again, and the groups on either side are as many as are left.
-/

namespace Socks5

namespace Ip

/-! ### IPv4 -/

namespace V4

lemma octet?_toDigits (o : UInt8) : octet? (Nat.toDigits 10 o.toNat) = some o := by
  have ho : o.toNat < 256 := o.toNat_lt
  have hdigits : (Nat.toDigits 10 o.toNat).all Text.isDigit :=
    List.all_eq_true.mpr fun c hc => Text.isDigit_of_mem_toDigits hc
  have hshort : (Nat.toDigits 10 o.toNat).length ≤ 3 :=
    (Nat.length_toDigits_le_iff (by decide) (by decide)).mpr (by omega)
  have hzero : (Nat.toDigits 10 o.toNat).head? = some '0' → Nat.toDigits 10 o.toNat = ['0'] := by
    intro hhead
    rw [Text.eq_zero_of_head?_toDigits (by decide) (by decide) _ hhead]
    rfl
  have hwell : ¬ ((Nat.toDigits 10 o.toNat).isEmpty ∨ ¬ (Nat.toDigits 10 o.toNat).all Text.isDigit ∨
      3 < (Nat.toDigits 10 o.toNat).length ∨
      ((Nat.toDigits 10 o.toNat).head? = some '0' ∧ Nat.toDigits 10 o.toNat ≠ ['0'])) := by
    rintro (hempty | hnot | hlong | ⟨hhead, hmore⟩)
    · exact Nat.toDigits_ne_nil (List.isEmpty_iff.mp hempty)
    · exact hnot hdigits
    · omega
    · exact hmore (hzero hhead)
  rw [octet?, if_neg hwell, Text.readNumeral?_toDigits (by decide) (by decide)]
  simp only
  rw [if_pos (by omega), UInt8.ofNat_toNat]

@[simp] lemma ofText?_ofChars (cs : List Char) : ofText? (.ofChars cs) = ofChars? cs := by
  rw [ofText?, Text.chars?_ofChars, Option.bind_some]

/-- Four octets are read again. -/
@[simp] lemma ofChars?_chars (v : V4) : ofChars? v.chars = some v := by
  have hfields : Text.fields '.' v.chars = v.octets.map fun o => Nat.toDigits 10 o.toNat := by
    refine Text.fields_join (List.cons_ne_nil _ _) fun f hf hdot => ?_
    obtain ⟨o, -, rfl⟩ := List.mem_map.mp hf
    cases Text.isDigit_of_mem_toDigits hdot
  simp only [ofChars?, hfields, octets, List.map_cons, List.map_nil, octet?_toDigits]
  rfl

end V4

/-! ### Groups -/

namespace V6

variable {c : Char} {gs : List UInt16}

lemma groupChars_ne_nil (g : UInt16) : groupChars g ≠ [] := Nat.toDigits_ne_nil

lemma isHexDigit_of_mem_groupChars {g : UInt16} (h : c ∈ groupChars g) : Text.isHexDigit c :=
  Text.isHexDigit_of_mem_toDigits h

lemma not_mem_groupChars (hc : Text.isHexDigit c = false) (g : UInt16) : c ∉ groupChars g :=
  fun h => Bool.false_ne_true (hc.symm.trans (isHexDigit_of_mem_groupChars h))

lemma group?_groupChars (g : UInt16) : group? (groupChars g) = some g := by
  have hg : g.toNat < 65536 := g.toNat_lt
  have hshort : (groupChars g).length ≤ 4 :=
    (Nat.length_toDigits_le_iff (by decide) (by decide)).mpr (by omega)
  have hwell : ¬ ((groupChars g).isEmpty ∨ ¬ (groupChars g).all Text.isHexDigit ∨
      4 < (groupChars g).length) := by
    rintro (hempty | hnot | hlong)
    · exact groupChars_ne_nil g (List.isEmpty_iff.mp hempty)
    · exact hnot (List.all_eq_true.mpr fun c hc => isHexDigit_of_mem_groupChars hc)
    · omega
  rw [group?, if_neg hwell, groupChars, Text.readNumeral?_toDigits (by decide) (by decide),
    Option.map_some, UInt16.ofNat_toNat]

lemma groupsOfFields?_map (gs : List UInt16) : groupsOfFields? (gs.map groupChars) = some gs := by
  induction gs with
  | nil => rfl
  | cons g gs ih =>
    cases gs with
    | nil =>
      have hdot : '.' ∉ groupChars g := not_mem_groupChars rfl g
      simp [groupsOfFields?, hdot, group?_groupChars]
    | cons h gs =>
      rw [List.map_cons] at ih
      simp only [List.map_cons, groupsOfFields?, group?_groupChars, ih]
      rfl

lemma not_mem_groupsChars (hcolon : c ≠ ':') (hc : Text.isHexDigit c = false) :
    c ∉ groupsChars gs := by
  intro h
  obtain ⟨f, hf, hmem⟩ := (Text.mem_join h).resolve_left hcolon
  obtain ⟨g, -, rfl⟩ := List.mem_map.mp hf
  exact not_mem_groupChars hc g hmem

lemma groupsChars_cons_cons (g h : UInt16) (gs : List UInt16) :
    groupsChars (g :: h :: gs) = groupChars g ++ ':' :: groupsChars (h :: gs) :=
  Text.join_cons_cons _ _ _

/-- A text of groups begins with a digit. -/
lemma exists_groupsChars_cons (g : UInt16) (gs : List UInt16) :
    ∃ c cs, c ≠ ':' ∧ groupsChars (g :: gs) = c :: cs := by
  obtain ⟨c, cs, hcs⟩ := List.exists_cons_of_ne_nil (groupChars_ne_nil g)
  have hc : c ≠ ':' := by
    rintro rfl
    exact not_mem_groupChars rfl g (hcs ▸ List.mem_cons_self)
  cases gs with
  | nil => exact ⟨c, cs, hc, hcs⟩
  | cons h gs =>
    rw [groupsChars_cons_cons, hcs]
    exact ⟨c, _, hc, rfl⟩

lemma groupsOfChars?_groupsChars (gs : List UInt16) :
    groupsOfChars? (groupsChars gs) = some gs := by
  cases gs with
  | nil => rfl
  | cons g gs =>
    obtain ⟨c, cs, -, hcs⟩ := exists_groupsChars_cons g gs
    have hfields : Text.fields ':' (groupsChars (g :: gs)) = (g :: gs).map groupChars := by
      refine Text.fields_join (List.cons_ne_nil _ _) fun f hf => ?_
      obtain ⟨g, -, rfl⟩ := List.mem_map.mp hf
      exact not_mem_groupChars rfl g
    have hfull : ¬ (groupsChars (g :: gs)).isEmpty := by simp [hcs]
    rw [groupsOfChars?, if_neg hfull, hfields, groupsOfFields?_map]

/-! ### The gap -/

lemma splitGap?_append {f : List Char} (h : ':' ∉ f) (cs : List Char) :
    splitGap? (f ++ cs) = (splitGap? cs).map fun (a, b) => (f ++ a, b) := by
  induction f with
  | nil => simp
  | cons c f ih =>
    obtain ⟨hc, hf⟩ := List.ne_and_not_mem_of_not_mem_cons h
    have hnext : splitGap? (c :: (f ++ cs)) =
        (splitGap? (f ++ cs)).map fun (a, b) => (c :: a, b) := by
      rw [splitGap?]
      exact fun _ heq _ => hc heq.symm
    rw [List.cons_append, hnext, ih hf, Option.map_map]
    rfl

/-- A text of groups has no gap; the gap is in what follows. -/
lemma splitGap?_groupsChars (gs : List UInt16) (cs : List Char) :
    splitGap? (groupsChars gs ++ cs) =
      (splitGap? cs).map fun (a, b) => (groupsChars gs ++ a, b) := by
  have hcolon (g : UInt16) : ':' ∉ groupChars g := not_mem_groupChars rfl g
  induction gs with
  | nil => simp [groupsChars, Text.join]
  | cons g gs ih =>
    cases gs with
    | nil => exact splitGap?_append (hcolon g) cs
    | cons h gs =>
      obtain ⟨c, front, hc, hfront⟩ := exists_groupsChars_cons h gs
      have hsingle : splitGap? (':' :: (groupsChars (h :: gs) ++ cs)) =
          (splitGap? (groupsChars (h :: gs) ++ cs)).map fun (a, b) => (':' :: a, b) := by
        rw [hfront, List.cons_append, splitGap?]
        rintro _ - heq
        exact absurd (List.cons.inj heq).1 hc
      rw [groupsChars_cons_cons, List.append_assoc, splitGap?_append (hcolon g), List.cons_append,
        hsingle, ih, Option.map_map, Option.map_map]
      simp only [Function.comp_def, List.append_assoc, List.cons_append]

/-! ### The longest run of zeros -/

/-- A run of groups at some position is all zero. -/
def ZerosAt (gs : List UInt16) (start len : Nat) : Prop :=
  ∃ front back, gs = front ++ List.replicate len 0 ++ back ∧ front.length = start

lemma zerosAt_zeroRun (gs : List UInt16) : ZerosAt gs 0 (zeroRun gs) := by
  have hzeros : gs.takeWhile (· = 0) = List.replicate (zeroRun gs) 0 :=
    List.eq_replicate_of_mem fun g hg => by simpa using List.mem_takeWhile_imp hg
  refine ⟨[], gs.dropWhile (· = 0), ?_, rfl⟩
  rw [← hzeros, List.nil_append, List.takeWhile_append_dropWhile]

/-- The run that is found is all zero. -/
lemma longestZeroRun_zerosAt (gs : List UInt16) : ∀ start : Nat, ∃ k,
    (longestZeroRun start gs).1 = start + k ∧ ZerosAt gs k (longestZeroRun start gs).2 := by
  induction gs with
  | nil => exact fun start => ⟨0, rfl, [], [], rfl, rfl⟩
  | cons g gs ih =>
    intro start
    rw [longestZeroRun]
    split_ifs
    · exact ⟨0, rfl, zerosAt_zeroRun (g :: gs)⟩
    · obtain ⟨k, hstart, front, back, hgs, hfront⟩ := ih (start + 1)
      refine ⟨k + 1, by rw [hstart]; omega, g :: front, back, ?_, by simp [hfront]⟩
      rw [List.cons_append, List.cons_append, ← hgs]

/-! ### The groups of an address -/

lemma not_mem_addressChars (hcolon : c ≠ ':') (hc : Text.isHexDigit c = false) :
    c ∉ addressChars gs := by
  unfold addressChars
  simp only
  split_ifs
  · simp only [List.mem_append, not_or]
    exact ⟨⟨not_mem_groupsChars hcolon hc, by simp [hcolon]⟩, not_mem_groupsChars hcolon hc⟩
  · exact not_mem_groupsChars hcolon hc

/-- Eight groups are read again, whether a run of zeros was left out or not. -/
lemma addressGroups?_addressChars (h : gs.length = 8) :
    addressGroups? (addressChars gs) = some gs := by
  obtain ⟨start, hstart, front, back, hgs, hfront⟩ := longestZeroRun_zerosAt gs 0
  rw [Nat.zero_add] at hstart
  unfold addressChars
  simp only [hstart]
  generalize (longestZeroRun 0 gs).2 = len at hgs ⊢
  split_ifs with hlen
  · have htake : gs.take start = front := by
      rw [hgs, List.append_assoc, List.take_left' hfront]
    have hdrop : gs.drop (start + len) = back := by
      rw [hgs, List.drop_left' (by simp [hfront])]
    have hgap : splitGap? (groupsChars front ++ [':', ':'] ++ groupsChars back) =
        some (groupsChars front, groupsChars back) := by
      rw [List.append_assoc, splitGap?_groupsChars]
      simp [splitGap?]
    have hdot : '.' ∉ groupsChars front := not_mem_groupsChars (by decide) rfl
    have hsum : front.length + len + back.length = 8 := by
      rw [← h, hgs, List.length_append, List.length_append, List.length_replicate]
    rw [htake, hdrop, addressGroups?, hgap]
    simp only [if_neg hdot, groupsOfChars?_groupsChars, Option.bind_eq_bind, Option.bind_some]
    rw [if_pos (by omega), show 8 - (front.length + back.length) = len by omega, ← hgs]
    rfl
  · have hgap : splitGap? (groupsChars gs) = none := by
      simpa [splitGap?] using splitGap?_groupsChars gs []
    rw [addressGroups?, hgap]
    exact groupsOfChars?_groupsChars gs

/-! ### Zones -/

/-- A zone that can be read: it is not empty, and holds neither a percent sign nor a slash. -/
def LegibleZone (zone : Option Text) : Prop :=
  ∀ z ∈ zone, z ≠ [] ∧ .char '%' ∉ z ∧ .char '/' ∉ z

lemma legibleZone_of_ofText? {t : Text} {v : V6} (h : ofText? t = some v) :
    LegibleZone v.zone := by
  unfold ofText? at h
  split_ifs at h with hslash
  rcases hzone : splitZone? t with _ | ⟨address, zone⟩ <;> rw [hzone] at h
  · cases h
  obtain rfl : zone = v.zone := by
    cases hgroups : address.chars?.bind addressGroups? with
    | none => simp [hgroups] at h
    | some gs =>
      simp only [hgroups] at h
      split_ifs at h
      cases h
      rfl
  unfold splitZone? at hzone
  rcases hsplit : Text.splitFirst? (.char '%') t with _ | ⟨front, zone⟩ <;>
    simp only [hsplit] at hzone
  · obtain ⟨-, hnone⟩ := Prod.mk.inj (Option.some.inj hzone)
    rw [← hnone]
    exact nofun
  · split_ifs at hzone with hbad
    obtain ⟨hempty, hpercent⟩ := not_or.mp hbad
    obtain ⟨-, hsome⟩ := Prod.mk.inj (Option.some.inj hzone)
    obtain ⟨-, rfl⟩ := Text.splitFirst?_eq_some_iff.mp hsplit
    rw [← hsome]
    rintro z ⟨⟩
    refine ⟨?_, hpercent, ?_⟩
    · rintro rfl
      exact hempty rfl
    · exact fun hmem => hslash (List.mem_append_right _ (List.mem_cons_of_mem _ hmem))

/-- A sign that is no part of an address is in the text of an address only if it is in its zone. -/
lemma mem_text_iff (hcolon : c ≠ ':') (hc : Text.isHexDigit c = false) (hpercent : c ≠ '%')
    {v : V6} : .char c ∈ v.text ↔ ∃ z ∈ v.zone, .char c ∈ z := by
  have haddress : c ∉ addressChars v.groups := not_mem_addressChars hcolon hc
  unfold text
  cases hzone : v.zone with
  | none => simp [haddress]
  | some z => simp [haddress, hpercent]

lemma splitZone?_text {v : V6} (h : LegibleZone v.zone) :
    splitZone? v.text = some (.ofChars (addressChars v.groups), v.zone) := by
  have hpercent : .char '%' ∉ Text.ofChars (addressChars v.groups) := fun hmem =>
    not_mem_addressChars (by decide) rfl (Text.char_mem_ofChars.mp hmem)
  unfold splitZone? text
  cases hzone : v.zone with
  | none => simp only [List.append_nil, Text.splitFirst?_eq_none_iff.mpr hpercent]
  | some z =>
    obtain ⟨hempty, hmore, -⟩ := h z hzone
    have hwell : ¬ (z.isEmpty ∨ .char '%' ∈ z) := by simp [hempty, hmore]
    have hsplit := Text.splitFirst?_eq_some_iff.mpr
      ⟨hpercent, (rfl : _ = Text.ofChars (addressChars v.groups) ++ .char '%' :: z)⟩
    simp only [hsplit, if_neg hwell]

/-- An address is read again with its zone, if that can be read at all. -/
lemma ofText?_text {v : V6} (h : LegibleZone v.zone) : ofText? v.text = some v := by
  have hslash : .char '/' ∉ v.text := by
    rw [mem_text_iff (by decide) rfl (by decide)]
    rintro ⟨z, hz, hmem⟩
    exact (h z hz).2.2 hmem
  simp only [ofText?, if_neg hslash, splitZone?_text h, Text.chars?_ofChars, Option.bind_some,
    addressGroups?_addressChars v.length_groups, dif_pos v.length_groups]

end V6

end Ip

end Socks5
