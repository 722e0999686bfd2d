import Mathlib.Data.List.Basic
import Mathlib.Tactic.IntervalCases
import Socks5.Text.Fields
import Socks5.Text.Numeral

/-!
# Numerals and fields that are read again

A numeral without leading zeros is read as the number that it was written for, and the fields of a
text are those that were joined to it, as long as no field holds the separator.
-/

namespace Socks5.Text

/-! ### Digits -/

variable {b d n acc : Nat} {c : Char}

lemma digitValue?_digitChar (h : d < 16) : digitValue? d.digitChar = some d := by
  interval_cases d <;> rfl

lemma isDigit_digitChar (h : d < 10) : isDigit d.digitChar := by
  interval_cases d <;> rfl

/-- A numeral is made of the digits of its base. -/
lemma exists_of_mem_toDigits (hb : 1 < b) (n : Nat) :
    c ∈ Nat.toDigits b n → ∃ d < b, c = d.digitChar := by
  induction n using Nat.strong_induction_on with
  | h n ih =>
    rw [Nat.toDigits_eq_if hb]
    split_ifs with hn
    · intro hc
      exact ⟨n, hn, List.mem_singleton.mp hc⟩
    · intro hc
      obtain hfront | hlast := List.mem_append.mp hc
      · exact ih (n / b) (Nat.div_lt_self (by omega) hb) hfront
      · exact ⟨n % b, Nat.mod_lt _ (by omega), List.mem_singleton.mp hlast⟩

lemma isDigit_of_mem_toDigits (h : c ∈ Nat.toDigits 10 n) : isDigit c := by
  obtain ⟨d, hd, rfl⟩ := exists_of_mem_toDigits (by decide) n h
  exact isDigit_digitChar hd

lemma isHexDigit_of_mem_toDigits (h : c ∈ Nat.toDigits 16 n) : isHexDigit c := by
  obtain ⟨d, hd, rfl⟩ := exists_of_mem_toDigits (by decide) n h
  rw [isHexDigit, digitValue?_digitChar hd]
  rfl

/-- Only the numeral of zero begins with a zero. -/
lemma eq_zero_of_head?_toDigits (hb : 1 < b) (hle : b ≤ 16) (n : Nat) :
    (Nat.toDigits b n).head? = some '0' → n = 0 := by
  induction n using Nat.strong_induction_on with
  | h n ih =>
    rw [Nat.toDigits_eq_if hb]
    split_ifs with hn
    · intro hhead
      have hdigit : n.digitChar = Nat.digitChar 0 := Option.some.inj hhead
      have hvalue := congrArg digitValue? hdigit
      rw [digitValue?_digitChar (by omega), digitValue?_digitChar (by omega)] at hvalue
      exact Option.some.inj hvalue
    · rw [List.head?_append_of_ne_nil _ Nat.toDigits_ne_nil]
      intro hhead
      have hfront := ih (n / b) (Nat.div_lt_self (by omega) hb) hhead
      have hless := (Nat.div_eq_zero_iff_lt (by omega)).mp hfront
      exact absurd hless hn

/-! ### Numerals -/

lemma numeralValue?_append (front : List Char) : ∀ acc : Nat, ∀ rest : List Char,
    numeralValue? b acc (front ++ rest) =
      (numeralValue? b acc front).bind fun m => numeralValue? b m rest := by
  induction front with
  | nil => exact fun acc rest => rfl
  | cons c front ih =>
    intro acc rest
    rw [List.cons_append, numeralValue?, numeralValue?]
    cases digitValue? c with
    | none => rfl
    | some d =>
      simp only
      split_ifs
      · exact ih _ _
      · rfl

lemma numeralValue?_toDigits (hb : 1 < b) (hle : b ≤ 16) (n : Nat) :
    numeralValue? b 0 (Nat.toDigits b n) = some n := by
  have hdigit (acc d : Nat) (hd : d < b) :
      numeralValue? b acc [d.digitChar] = some (b * acc + d) := by
    rw [numeralValue?, digitValue?_digitChar (by omega)]
    simp [hd, numeralValue?]
  induction n using Nat.strong_induction_on with
  | h n ih =>
    rw [Nat.toDigits_eq_if hb]
    split_ifs with hn
    · rw [hdigit 0 n hn, Nat.mul_zero, Nat.zero_add]
    · rw [numeralValue?_append, ih (n / b) (Nat.div_lt_self (by omega) hb), Option.bind_some,
        hdigit _ _ (Nat.mod_lt _ (by omega)), Nat.div_add_mod]

/-- A numeral is read as what it was written for. -/
lemma readNumeral?_toDigits (hb : 1 < b) (hle : b ≤ 16) (n : Nat) :
    readNumeral? b (Nat.toDigits b n) = some n := by
  rw [← numeralValue?_toDigits hb hle n]
  cases hdigits : Nat.toDigits b n with
  | nil => exact absurd hdigits Nat.toDigits_ne_nil
  | cons c rest => rfl

/-! ### Fields -/

variable {sep : Char} {f rest : List Char}

lemma fields_of_not_mem (h : sep ∉ f) : fields sep f = [f] := by
  induction f with
  | nil => rfl
  | cons c f ih =>
    obtain ⟨hc, hf⟩ := List.ne_and_not_mem_of_not_mem_cons h
    rw [fields, if_neg (Ne.symm hc), ih hf]

lemma fields_append_cons (h : sep ∉ f) :
    fields sep (f ++ sep :: rest) = f :: fields sep rest := by
  induction f with
  | nil => exact if_pos rfl
  | cons c f ih =>
    obtain ⟨hc, hf⟩ := List.ne_and_not_mem_of_not_mem_cons h
    rw [List.cons_append, fields, if_neg (Ne.symm hc), ih hf]

lemma join_cons_cons (f g : List Char) (fs : List (List Char)) :
    join [sep] (f :: g :: fs) = f ++ sep :: join [sep] (g :: fs) :=
  List.append_assoc f [sep] _

/-- Fields that do not hold the separator are found again. -/
lemma fields_join {fs : List (List Char)} (hne : fs ≠ []) (h : ∀ f ∈ fs, sep ∉ f) :
    fields sep (join [sep] fs) = fs := by
  induction fs with
  | nil => exact absurd rfl hne
  | cons f fs ih =>
    have hf : sep ∉ f := h f List.mem_cons_self
    cases fs with
    | nil => exact fields_of_not_mem hf
    | cons g fs =>
      rw [join_cons_cons, fields_append_cons hf,
        ih (List.cons_ne_nil g fs) fun f hmem => h f (List.mem_cons_of_mem _ hmem)]

/-- What is in a joined text is the separator or in one of the fields. -/
lemma mem_join {fs : List (List Char)} (h : c ∈ join [sep] fs) : c = sep ∨ ∃ f ∈ fs, c ∈ f := by
  induction fs with
  | nil => cases h
  | cons f fs ih =>
    cases fs with
    | nil => exact .inr ⟨f, List.mem_cons_self, h⟩
    | cons g fs =>
      rw [join_cons_cons, List.mem_append, List.mem_cons] at h
      obtain hf | rfl | hrest := h
      · exact .inr ⟨f, List.mem_cons_self, hf⟩
      · exact .inl rfl
      · obtain heq | ⟨f', hmem, hc⟩ := ih hrest
        · exact .inl heq
        · exact .inr ⟨f', List.mem_cons_of_mem _ hmem, hc⟩

end Socks5.Text
