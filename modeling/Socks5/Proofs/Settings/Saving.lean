import Mathlib.Data.List.DropRight
import Mathlib.Data.List.Forall2
import Socks5.Proofs.Address.Parsing
import Socks5.Proofs.Settings.File
import Socks5.Proofs.Text.Numeral

/-!
# Settings that are saved

The settings of a dialer are read from a section, and written to a section that is read as the same
settings again. Only the source of connections may change: it is written as one text, and brackets
around its host mean nothing there. The order of entries in a settings file does not count, so what
was saved to a file is loaded again if its text is read as the same value but for that order.
-/

namespace Socks5

/-! ### Integers that are read again -/

namespace Text

variable {cs : List Char}

lemma toAsciiNumeral_of_ascii (h : ∀ c ∈ cs, c.toNat < 128) : toAsciiNumeral cs = cs := by
  rw [toAsciiNumeral]
  refine (List.map_congr_left fun c hc => ?_).trans (List.map_id cs)
  exact if_pos (h c hc)

lemma dropWhile_of_not_blank (h : ∀ c ∈ cs, isBlank c = false) : cs.dropWhile isBlank = cs := by
  cases cs with
  | nil => rfl
  | cons c rest => rw [List.dropWhile_cons_of_neg (by simp [h c List.mem_cons_self])]

lemma strip_of_not_blank (h : ∀ c ∈ cs, isBlank c = false) : strip cs = cs := by
  have hreverse : ∀ c ∈ cs.reverse, isBlank c = false := fun c hc => h c (List.mem_reverse.mp hc)
  rw [strip, dropWhile_of_not_blank h, dropWhile_of_not_blank hreverse, List.reverse_reverse]

/-- A numeral has no characters but a sign and digits. -/
lemma mem_signedNumeral {n : Int} {c : Char} (h : c ∈ signedNumeral n) :
    c = '-' ∨ ∃ d < 10, c = Nat.digitChar d := by
  cases n with
  | ofNat n => exact .inr (exists_of_mem_toDigits (by decide) n h)
  | negSucc n =>
    exact (List.mem_cons.mp h).imp_right (exists_of_mem_toDigits (by decide) (n + 1))

lemma of_mem_signedNumeral {n : Int} {c : Char} (h : c ∈ signedNumeral n) :
    c.toNat < 128 ∧ isBlank c = false ∧ c ≠ '_' ∧ c ≠ ':' := by
  obtain rfl | ⟨d, hd, rfl⟩ := mem_signedNumeral h
  · decide
  · interval_cases d <;> decide

end Text

namespace Decimal

variable {cs : List Char}

lemma dropUnderscores?_of_not_mem {previous : Char} (hprevious : previous ≠ '_') (h : '_' ∉ cs) :
    dropUnderscores? previous cs = some cs := by
  induction cs generalizing previous with
  | nil => simp [dropUnderscores?, hprevious]
  | cons c rest ih =>
    rw [List.mem_cons, not_or] at h
    simp [dropUnderscores?, hprevious, Ne.symm h.1, ih (Ne.symm h.1) h.2]

/-- A number with not too many digits is read from its digits, with any sign in front. -/
lemma integer?_of_digits {negative : Bool} {n : Nat} (hchars : ∀ c ∈ cs,
      c.toNat < 128 ∧ Text.isBlank c = false ∧ c ≠ '_' ∧ c ≠ ':')
    (hsign : splitSign cs = (negative, Nat.toDigits 10 n))
    (hfew : (Nat.toDigits 10 n).length ≤ maxDigits) :
    integer? cs = .ok (if negative then -(n : Int) else n) := by
  have hascii : Text.toAsciiNumeral cs = cs :=
    Text.toAsciiNumeral_of_ascii fun c hc => (hchars c hc).1
  have hstrip : Text.strip cs = cs := Text.strip_of_not_blank fun c hc => (hchars c hc).2.1
  have hdrop : dropUnderscores? ' ' cs = some cs :=
    dropUnderscores?_of_not_mem (by decide) fun hmem => (hchars _ hmem).2.2.1 rfl
  have hdigits : (Nat.toDigits 10 n).takeWhile Text.isDigit = Nat.toDigits 10 n :=
    List.takeWhile_eq_self_iff.mpr fun c hc => Text.isDigit_of_mem_toDigits hc
  rw [integer?, hascii, hstrip, hdrop]
  simp only [hsign, hdigits, if_neg (Nat.not_lt.mpr hfew), lt_self_iff_false, if_false,
    Text.readNumeral?_toDigits (show 1 < 10 by decide) (show 10 ≤ 16 by decide)]

lemma integer?_signedNumeral {n : Int} (h : (Nat.toDigits 10 n.natAbs).length ≤ maxDigits) :
    integer? (Text.signedNumeral n) = .ok n := by
  have hchars := fun c => Text.of_mem_signedNumeral (n := n) (c := c)
  cases n with
  | ofNat n =>
    have hsign : splitSign (Nat.toDigits 10 n) = (false, Nat.toDigits 10 n) := by
      cases hdigits : Nat.toDigits 10 n with
      | nil => rfl
      | cons c rest =>
        have hdigit : Text.isDigit c :=
          Text.isDigit_of_mem_toDigits (hdigits ▸ List.mem_cons_self)
        unfold splitSign
        split
        · next heq =>
          rw [(List.cons.inj heq).1] at hdigit
          exact absurd hdigit (by decide)
        · next heq =>
          rw [(List.cons.inj heq).1] at hdigit
          exact absurd hdigit (by decide)
        · rfl
    exact integer?_of_digits hchars hsign h
  | negSucc n => exact integer?_of_digits hchars rfl h

end Decimal

/-! ### Ends that are trimmed -/

namespace Text

variable {α : Type}

lemma trimBoth_eq (p : α → Bool) (cs : List α) :
    trimBoth p cs = (cs.dropWhile p).rdropWhile p := rfl

@[simp] lemma trimBoth_trimBoth (p : α → Bool) (cs : List α) :
    trimBoth p (trimBoth p cs) = trimBoth p cs := by
  have hfront : (trimBoth p cs).dropWhile p = trimBoth p cs := by
    -- What is left begins as it began when the front was trimmed.
    obtain ⟨rest, hrest⟩ := List.rdropWhile_prefix p (cs.dropWhile p)
    rw [← trimBoth_eq] at hrest
    cases htrimmed : trimBoth p cs with
    | nil => rfl
    | cons c more =>
      have hself := List.dropWhile_idempotent p cs
      rw [← hrest, htrimmed, List.cons_append] at hself
      by_cases hc : p c
      · rw [List.dropWhile_cons_of_pos hc] at hself
        have hlength := (List.dropWhile_suffix p (l := more ++ rest)).length_le
        rw [hself, List.length_cons] at hlength
        omega
      · rw [List.dropWhile_cons_of_neg hc]
  rw [trimBoth_eq p (trimBoth p cs), hfront, trimBoth_eq, List.rdropWhile_idempotent]

end Text

/-! ### Values that are the same but for the order of entries -/

namespace Value

/-- The same value, but for the order in which mappings and sets hold what they hold. -/
inductive Alike : Value → Value → Prop
  | refl (v : Value) : Alike v v
  | list {a b : List Value} (h : List.Forall₂ Alike a b) : Alike (.list a) (.list b)
  | tuple {a b : List Value} (h : List.Forall₂ Alike a b) : Alike (.tuple a) (.tuple b)
  | set {a b : List Value} (h : a.Perm b) : Alike (.set a) (.set b)
  | dict {a b c : List (Value × Value)} (hperm : a.Perm b) (hkeys : b.map (·.1) = c.map (·.1))
      (hvalues : List.Forall₂ Alike (b.map (·.2)) (c.map (·.2))) : Alike (.dict a) (.dict c)

/-- No two entries stand under the same text. -/
def Distinct (entries : List (Value × Value)) : Prop :=
  entries.Pairwise fun e f => e.1.text? ≠ f.1.text?

variable {a b : List (Value × Value)} {v w : Value} {key : Text}

lemma lookup?_cons (e : Value × Value) (rest : List (Value × Value)) (key : Text) :
    lookup? key (e :: rest) = if e.1.text? = some key then some e.2 else lookup? key rest := by
  rw [lookup?]
  cases e.1.text? <;> simp

/-- Where texts are distinct, an entry is found just if it is there. -/
lemma Distinct.lookup?_eq_some_iff (h : Distinct a) :
    lookup? key a = some v ↔ ∃ k, (k, v) ∈ a ∧ k.text? = some key := by
  induction a with
  | nil => simp [lookup?]
  | cons e rest ih =>
    obtain ⟨hne, hrest⟩ := List.pairwise_cons.mp h
    rw [lookup?_cons]
    split_ifs with he
    · constructor
      · rintro ⟨⟩
        exact ⟨e.1, List.mem_cons_self, he⟩
      · rintro ⟨k, hmem, hk⟩
        obtain rfl | hmem := List.mem_cons.mp hmem
        · rfl
        · exact absurd (he.trans hk.symm) (hne _ hmem)
    · rw [ih hrest]
      constructor
      · rintro ⟨k, hmem, hk⟩
        exact ⟨k, List.mem_cons_of_mem _ hmem, hk⟩
      · rintro ⟨k, hmem, hk⟩
        obtain rfl | hmem := List.mem_cons.mp hmem
        · exact absurd hk he
        · exact ⟨k, hmem, hk⟩

lemma Distinct.lookup?_perm (h : Distinct a) (hperm : a.Perm b) (key : Text) :
    lookup? key a = lookup? key b := by
  have hb : Distinct b := (hperm.pairwise_iff Ne.symm).mp h
  apply Option.ext
  intro v
  simp only [h.lookup?_eq_some_iff, hb.lookup?_eq_some_iff, hperm.mem_iff]

namespace Alike

lemma lookup? (hkeys : a.map (·.1) = b.map (·.1))
    (hvalues : List.Forall₂ Alike (a.map (·.2)) (b.map (·.2))) (key : Text) :
    Option.Rel Alike (lookup? key a) (lookup? key b) := by
  induction a generalizing b with
  | nil =>
    cases b with
    | nil => exact .none
    | cons f b => cases hkeys
  | cons e a ih =>
    cases b with
    | nil => cases hkeys
    | cons f b =>
      obtain ⟨hkey, hkeys⟩ := List.cons.inj hkeys
      obtain ⟨hvalue, hvalues⟩ := List.forall₂_cons.mp hvalues
      have hkey : e.1 = f.1 := hkey
      rw [lookup?_cons, lookup?_cons, hkey]
      split_ifs
      · exact .some hvalue
      · exact ih hkeys hvalues

/-- What is like a mapping is one, and under each text there is the like, if there is anything. -/
lemma exists_dict (h : Alike (.dict a) w) (hdistinct : Distinct a) :
    ∃ b, w = .dict b ∧ b.length = a.length ∧
      ∀ key, Option.Rel Alike (Value.lookup? key a) (Value.lookup? key b) := by
  cases h with
  | refl =>
    refine ⟨a, rfl, rfl, fun key => ?_⟩
    cases Value.lookup? key a with
    | none => exact .none
    | some v => exact .some (.refl v)
  | @dict _ b c hperm hkeys hvalues =>
    refine ⟨c, rfl, ?_, fun key => ?_⟩
    · have hlength := congrArg List.length hkeys
      rw [List.length_map, List.length_map] at hlength
      rw [← hlength, hperm.length_eq]
    · rw [hdistinct.lookup?_perm hperm]
      exact Alike.lookup? hkeys hvalues key

lemma eq_of_simple (h : Alike v w) (hv : v = .null ∨ (∃ x, v = .float x) ∨ ∃ s, v = .text s) :
    w = v := by
  obtain rfl | ⟨x, rfl⟩ | ⟨s, rfl⟩ := hv <;> cases h <;> rfl

lemma isTrue_eq (h : Alike v w) : v.isTrue = w.isTrue := by
  have hitems {a b : List Value} (h : List.Forall₂ Alike a b) : a.isEmpty = b.isEmpty := by
    cases h <;> rfl
  cases h with
  | refl => rfl
  | list h => simp [isTrue, hitems h]
  | tuple h => simp [isTrue, hitems h]
  | set h => simp [isTrue, h.isEmpty_eq]
  | dict hperm hkeys _ =>
    have hempty := congrArg List.isEmpty hkeys
    rw [List.isEmpty_map, List.isEmpty_map] at hempty
    simp [isTrue, hperm.isEmpty_eq, hempty]

end Alike

mutual

/-- Whether two values of texts, mappings and nothing else are one. -/
def isCopy : Value → Value → Bool
  | null, null => true
  | text s, text t => s = t
  | dict a, dict b => areCopies a b
  | _, _ => false

/-- Whether the entries of two mappings are the same, in the same order. -/
def areCopies : List (Value × Value) → List (Value × Value) → Bool
  | [], [] => true
  | (k, v) :: a, (l, w) :: b => isCopy k l && isCopy v w && areCopies a b
  | _, _ => false

end

mutual

lemma eq_of_isCopy (v w : Value) (h : isCopy v w = true) : v = w := by
  match v, w with
  | null, null => rfl
  | text s, text t => rw [of_decide_eq_true h]
  | dict a, dict b => rw [eq_of_areCopies a b h]

lemma eq_of_areCopies (a b : List (Value × Value)) (h : areCopies a b = true) : a = b := by
  match a, b with
  | [], [] => rfl
  | (k, v) :: a, (l, w) :: b =>
    simp only [areCopies, Bool.and_eq_true] at h
    rw [eq_of_isCopy k l h.1.1, eq_of_isCopy v w h.1.2, eq_of_areCopies a b h.2]

end

lemma eq_ok_of_isCopy {ε : Type} {x : Except ε Value} (h : x.toOption.any (isCopy · v) = true) :
    x = .ok v := by
  cases x with
  | error e => cases h
  | ok w => rw [eq_of_isCopy w v h]

end Value

/-! ### Reading -/

/-- None of the variables is set that prevail over the settings of a dialer. -/
def Environment.LeavesDialer (env : Environment) : Prop :=
  ∀ name ∈ ["SOCKS_PROXY", "SOCKS_TIMEOUT", "SOCKS_HANDSHAKE_TIMEOUT", "SOCKS_INTERFACE"],
    env.lookup name = none

namespace DialerSettings

open Value

variable {env : Environment} {v w : Value} {s : DialerSettings}

/-- Without the environment, settings are read entry by entry. -/
lemma ofValue_eq_ok_iff (henv : env.LeavesDialer) : ofValue env v = .ok s ↔
    ∃ entries, v.sectionEntries = .ok entries ∧
      s.proxy = entryOr entries "proxy" (.text "127.0.0.1:1080") ∧
      secondsOf (entryOr entries "timeout" (.float 5)) = .ok s.timeout ∧
      secondsOf (entryOr entries "handshake_timeout" (.float 10)) = .ok s.stepTimeout ∧
      (s.interface = if (entryOr entries "interface" .null).isTrue then
        entryOr entries "interface" .null else .null) ∧
      sourceOf (entryOr entries "local_address" .null) = .ok s.source := by
  obtain ⟨hproxy, htimeout, hstep, hinterface⟩ :
      env.lookup "SOCKS_PROXY" = none ∧ env.lookup "SOCKS_TIMEOUT" = none ∧
        env.lookup "SOCKS_HANDSHAKE_TIMEOUT" = none ∧ env.lookup "SOCKS_INTERFACE" = none := by
    simpa [Environment.LeavesDialer] using henv
  obtain ⟨proxy, timeout, stepTimeout, interface, source⟩ := s
  simp only [ofValue, Environment.valueOr, hproxy, htimeout, hstep, hinterface, bind_eq_ok_iff,
    pure, Except.pure, Except.ok.injEq, mk.injEq]
  constructor
  · rintro ⟨entries, hentries, _, htimeout, _, hstep, _, hsource, rfl, rfl, rfl, rfl, rfl⟩
    exact ⟨entries, hentries, rfl, htimeout, hstep, rfl, hsource⟩
  · rintro ⟨entries, hentries, rfl, htimeout, hstep, rfl, hsource⟩
    exact ⟨entries, hentries, _, htimeout, _, hstep, _, hsource, rfl, rfl, rfl, rfl, rfl⟩

lemma secondsOf_cases (h : secondsOf v = .ok w) : w = .null ∨ ∃ x, w = .float x := by
  unfold secondsOf at h
  split at h
  · exact .inl (Except.ok.inj h).symm
  · split_ifs at h
    · exact .inl (Except.ok.inj h).symm
    · cases hfloat : v.toFloat with
      | error f => simp [hfloat, Except.map] at h
      | ok x =>
        simp only [hfloat, Except.map, Except.ok.injEq] at h
        exact .inr ⟨x, h.symm⟩

lemma secondsOf_of_simple (h : v = .null ∨ ∃ x, v = .float x) : secondsOf v = .ok v := by
  obtain rfl | ⟨x, rfl⟩ := h <;> rfl

/-- The host of a source without brackets around it. -/
def bareSource : Value → Value
  | .tuple [.text host, port] =>
    .tuple [.text (Text.trimBoth isBracket host), port]
  | v => v

/-- A source is nothing, or a host and a port; only one that was given by items has brackets. -/
lemma sourceOf_cases (h : sourceOf v = .ok w) :
    (w = .null ∨ ∃ host n, w = .tuple [.text host, .int n]) ∧
      (bareSource w = w ∨ ∃ items, v.opened = .list items ∨ v.opened = .tuple items) := by
  have hitems {items : List Value} (h : sourceOfItems items = .ok w) :
      ∃ host n, w = .tuple [.text host, .int n] := by
    unfold sourceOfItems at h
    split at h
    · obtain ⟨n, -, hw⟩ := bind_eq_ok_iff.mp h
      exact ⟨_, n, (Except.ok.inj hw).symm⟩
    · split_ifs at h
  unfold sourceOf at h
  split_ifs at h
  · obtain rfl := Except.ok.inj h
    exact ⟨.inl rfl, .inl rfl⟩
  · split at h
    · next items hopened => exact ⟨.inr (hitems h), .inr ⟨items, .inl hopened⟩⟩
    · next items hopened => exact ⟨.inr (hitems h), .inr ⟨items, .inr hopened⟩⟩
    · unfold sourceOfText at h
      split at h
      · cases h
      · obtain ⟨n, -, hw⟩ := bind_eq_ok_iff.mp h
        obtain rfl := Except.ok.inj hw
        exact ⟨.inr ⟨_, n, rfl⟩, .inl (by simp [bareSource])⟩

/-- What settings are like that were read. -/
structure Proper (s : DialerSettings) : Prop where
  timeout : s.timeout = .null ∨ ∃ x, s.timeout = .float x
  stepTimeout : s.stepTimeout = .null ∨ ∃ x, s.stepTimeout = .float x
  interface : s.interface.isTrue = false → s.interface = .null
  source : s.source = .null ∨ ∃ host n, s.source = .tuple [.text host, .int n]

lemma proper_of_ofValue (henv : env.LeavesDialer) (h : ofValue env v = .ok s) : s.Proper := by
  obtain ⟨entries, -, -, htimeout, hstep, hinterface, hsource⟩ := (ofValue_eq_ok_iff henv).mp h
  refine ⟨secondsOf_cases htimeout, secondsOf_cases hstep, fun hfalse => ?_,
    (sourceOf_cases hsource).1⟩
  rw [hinterface] at hfalse ⊢
  split_ifs at hfalse ⊢ with htrue
  · exact absurd htrue (Bool.eq_false_iff.mp hfalse)
  · rfl

/-! ### Writing -/

/-- The text of a source. -/
def sourceText : Value → Value
  | .tuple (host :: port :: _) => .text (host.plain ++ ":" ++ port.plain)
  | _ => .null

/-- The entries of the section that holds settings. -/
def entries (s : DialerSettings) : List (Value × Value) :=
  [(.text "proxy", s.proxy), (.text "timeout", s.timeout),
      (.text "handshake_timeout", s.stepTimeout)] ++
    (if s.interface.isTrue then [(.text "interface", s.interface)] else []) ++
    (if s.source.isTrue then [(.text "local_address", sourceText s.source)] else [])

lemma toValue_eq (hs : s.Proper) : s.toValue = .ok (.dict s.entries) := by
  obtain hsource | ⟨host, n, hsource⟩ := hs.source
  · simp [toValue, entries, hsource, Value.isTrue, pure, Except.pure, bind, Except.bind]
  · simp [toValue, entries, hsource, Value.isTrue, sourceParts, opened, sourceText, pure,
      Except.pure, bind, Except.bind]

lemma distinct_entries (s : DialerSettings) : Distinct s.entries := by
  unfold entries
  split_ifs <;> simp [Distinct, text?]

lemma entryOr_entries (hs : s.Proper) (v : Value) :
    entryOr s.entries "proxy" v = s.proxy ∧ entryOr s.entries "timeout" v = s.timeout ∧
      entryOr s.entries "handshake_timeout" v = s.stepTimeout ∧
      entryOr s.entries "interface" .null = s.interface ∧
      entryOr s.entries "local_address" .null = sourceText s.source := by
  obtain ⟨-, -, hinterface, hsource⟩ := hs
  have habsent : s.source.isTrue = false → sourceText s.source = .null := by
    obtain h | ⟨host, n, h⟩ := hsource <;> rw [h]
    · exact fun _ => rfl
    · exact nofun
  unfold entryOr entries
  split_ifs <;> simp_all [lookup?_cons, lookup?, text?]

/-- The text of a source is read as this source, but for brackets. -/
lemma sourceOf_text {host : Text} {n : Int}
    (hfew : (Nat.toDigits 10 n.natAbs).length ≤ Decimal.maxDigits) :
    sourceOf (sourceText (.tuple [.text host, .int n])) =
      .ok (bareSource (.tuple [.text host, .int n])) := by
  have htext : sourceText (.tuple [.text host, .int n]) =
      .text (host ++ .char ':' :: Text.ofChars (Text.signedNumeral n)) := by
    have hport : (Value.int n).plain = Text.ofChars (Text.signedNumeral n) := rfl
    rw [sourceText, hport, List.append_assoc]
    rfl
  have hcolon : .char ':' ∉ Text.ofChars (Text.signedNumeral n) := fun hmem =>
    (Text.of_mem_signedNumeral (Text.char_mem_ofChars.mp hmem)).2.2.2 rfl
  have hsplit : Text.splitLast? (.char ':')
      (host ++ .char ':' :: Text.ofChars (Text.signedNumeral n)) =
        some (host, Text.ofChars (Text.signedNumeral n)) :=
    Text.splitLast?_eq_some_iff.mpr ⟨hcolon, rfl⟩
  have hport : integerOfText (Text.ofChars (Text.signedNumeral n)) = .ok n := by
    rw [integerOfText, Text.numeralChars_ofChars, integerOf, Decimal.integer?_signedNumeral hfew]
  rw [htext]
  simp [sourceOf, Value.isTrue, opened, plain, sourceOfText, hsplit, hport, bareSource, bind,
    Except.bind, pure, Except.pure]

/-! ### Reading what was written -/

/-- The settings with no brackets around the host of the source. -/
def bare (s : DialerSettings) : DialerSettings := { s with source := bareSource s.source }

/-- The same settings, but for the order in which mappings and sets hold what they hold. -/
structure Alike (s t : DialerSettings) : Prop where
  proxy : Value.Alike s.proxy t.proxy
  timeout : s.timeout = t.timeout
  stepTimeout : s.stepTimeout = t.stepTimeout
  interface : Value.Alike s.interface t.interface
  source : s.source = t.source

/-- The port of the source can be written and read. -/
def PortFits (s : DialerSettings) : Prop :=
  ∀ host n, s.source = .tuple [host, .int n] → (Nat.toDigits 10 n.natAbs).length ≤ 4300

lemma entryOr_alike {a b : List (Value × Value)} {key : Text} (d : Value)
    (h : Option.Rel Value.Alike (lookup? key a) (lookup? key b)) :
    (entryOr a key d).Alike (entryOr b key d) := by
  unfold entryOr
  generalize lookup? key a = x at h
  generalize lookup? key b = y at h
  cases h with
  | none => exact .refl d
  | some h => exact h

/-- Entries like the ones that were written are read as settings like the ones that these are, and
these without brackets. -/
lemma ofValue_of_alike (henv : env.LeavesDialer) (hs : s.Proper) (hport : s.PortFits)
    {b : List (Value × Value)} (hb : b ≠ [])
    (hlike : ∀ key v, (entryOr s.entries key v).Alike (entryOr b key v)) :
    ofValue env (.dict b) = .ok { s.bare with
      proxy := entryOr b "proxy" (.text "127.0.0.1:1080")
      interface := if (entryOr b "interface" .null).isTrue then entryOr b "interface" .null
        else .null } := by
  obtain ⟨-, -, -, -, hsource⟩ := entryOr_entries hs .null
  have htimeout : entryOr b "timeout" (.float 5) = s.timeout := by
    have h := hlike "timeout" (.float 5)
    rw [(entryOr_entries hs _).2.1] at h
    exact h.eq_of_simple (hs.timeout.imp_right .inl)
  have hstep : entryOr b "handshake_timeout" (.float 10) = s.stepTimeout := by
    have h := hlike "handshake_timeout" (.float 10)
    rw [(entryOr_entries hs _).2.2.1] at h
    exact h.eq_of_simple (hs.stepTimeout.imp_right .inl)
  have htext : entryOr b "local_address" .null = sourceText s.source := by
    have h := hlike "local_address" .null
    rw [hsource] at h
    refine h.eq_of_simple ?_
    obtain hnull | ⟨host, n, hpair⟩ := hs.source
    · exact .inl (by rw [hnull]; rfl)
    · exact .inr (.inr ⟨_, by rw [hpair]; rfl⟩)
  rw [ofValue_eq_ok_iff henv]
  refine ⟨b, ?_, rfl, ?_, ?_, rfl, ?_⟩
  · cases b with
    | nil => exact absurd rfl hb
    | cons e b => rfl
  · rw [htimeout]
    exact secondsOf_of_simple hs.timeout
  · rw [hstep]
    exact secondsOf_of_simple hs.stepTimeout
  · rw [htext]
    obtain hnull | ⟨host, n, hpair⟩ := hs.source
    · simp only [bare, hnull]
      rfl
    · simp only [bare, hpair]
      exact sourceOf_text (hport _ n hpair)

/-- What was written is read as these settings without brackets. -/
lemma ofValue_entries (henv : env.LeavesDialer) (hs : s.Proper) (hport : s.PortFits) :
    ofValue env (.dict s.entries) = .ok s.bare := by
  obtain ⟨hproxy, -, -, hinterface, -⟩ := entryOr_entries hs (.text "127.0.0.1:1080")
  have hne : s.entries ≠ [] := nofun
  rw [ofValue_of_alike henv hs hport hne fun _ _ => .refl _, hproxy, hinterface]
  cases htrue : s.interface.isTrue with
  | true => rfl
  | false => rw [if_neg Bool.false_ne_true, ← hs.interface htrue]; rfl

lemma bareSource_bareSource (v : Value) : bareSource (bareSource v) = bareSource v := by
  fun_cases bareSource v with
  | case1 host port => simp [bareSource]
  | case2 v hv => exact bareSource.eq_2 v hv

lemma bare_bare (s : DialerSettings) : s.bare.bare = s.bare := by
  rw [bare, bare, bareSource_bareSource]

lemma Proper.bare (hs : s.Proper) : s.bare.Proper := by
  refine ⟨hs.timeout, hs.stepTimeout, hs.interface, ?_⟩
  obtain hnull | ⟨host, n, hpair⟩ := hs.source
  · exact .inl (by rw [DialerSettings.bare, hnull]; rfl)
  · exact .inr ⟨_, n, by rw [DialerSettings.bare, hpair]; rfl⟩

lemma PortFits.bare (hs : s.Proper) (hport : s.PortFits) : s.bare.PortFits := by
  intro host n hsource
  obtain hnull | ⟨host', n', hpair⟩ := hs.source
  · rw [DialerSettings.bare, hnull] at hsource
    cases hsource
  · rw [DialerSettings.bare, hpair] at hsource
    cases hsource
    exact hport _ _ hpair

/-- The section of a settings file that is like the one that was written is read as settings like
these, without brackets. -/
lemma dialer_of_alike (henv : env.LeavesDialer) (hs : s.Proper) (hport : s.PortFits)
    (hlike : (Value.dict [(.text "dialer", .dict s.entries)]).Alike w) :
    ∃ t, Settings.dialer env w = .ok t ∧ s.bare.Alike t := by
  have hsingle : Distinct [(.text "dialer", .dict s.entries)] := List.pairwise_singleton _ _
  obtain ⟨b, rfl, -, hlookup⟩ := hlike.exists_dict hsingle
  have hsection := entryOr_alike .null (hlookup "dialer")
  obtain ⟨c, hc, hlength, hlookup⟩ := hsection.exists_dict s.distinct_entries
  have hne : c ≠ [] := by
    rintro rfl
    cases hlength
  have hlike := fun key v => entryOr_alike v (hlookup key)
  have hread := ofValue_of_alike henv hs hport hne hlike
  have hdialer : Settings.dialer env (.dict b) = ofValue env (.dict c) := by
    rw [← hc]
    rfl
  refine ⟨_, hdialer.trans hread, ?_, rfl, rfl, ?_, rfl⟩
  · have h := hlike "proxy" (.text "127.0.0.1:1080")
    rw [(entryOr_entries hs _).1] at h
    exact h
  · have h := hlike "interface" .null
    rw [(entryOr_entries hs .null).2.2.2.1] at h
    simp only
    rw [← h.isTrue_eq]
    split_ifs with htrue
    · exact h
    · rw [bare, hs.interface (Bool.eq_false_iff.mpr htrue)]
      exact .refl _

/-- Settings that were read are written as a section that is read as the same settings, but for
brackets around the host of the source, which only a source can have that was given by items. A
second time nothing changes. So when they are saved, and the text that was written is read as what
it was written for, but for the order of entries, then these settings are loaded from the file. -/
theorem settings_survive_saving (henv : env.LeavesDialer) (h : ofValue env v = .ok s)
    (hport : s.PortFits) :
    (∃ d, s.toValue = .ok d ∧ ofValue env d = .ok s.bare) ∧
    (∃ d, s.bare.toValue = .ok d ∧ ofValue env d = .ok s.bare) ∧
    (s.bare = s ∨ ∃ entries items, v.sectionEntries = .ok entries ∧
      ((entryOr entries "local_address" .null).opened = .list items ∨
        (entryOr entries "local_address" .null).opened = .tuple items)) ∧
    ∃ document, Settings.ofDialer s = .ok document ∧ ∀ loaded, document.Alike loaded →
      ∃ t, Settings.dialer env loaded = .ok t ∧ s.bare.Alike t ∧
        (Yaml.parse (Yaml.write document).toList = .ok loaded →
          ∀ fs path saved, Settings.save fs path document = .ok saved →
            Settings.load saved path = .ok loaded ∧
              Settings.loadDialer env saved path = .ok t) := by
  have hs := proper_of_ofValue henv h
  refine ⟨⟨_, toValue_eq hs, ofValue_entries henv hs hport⟩, ⟨_, toValue_eq hs.bare, ?_⟩, ?_,
    ⟨.dict [(.text "dialer", .dict s.entries)], ?_, fun loaded hlike => ?_⟩⟩
  · rw [ofValue_entries henv hs.bare (hport.bare hs), bare_bare]
  · obtain ⟨entries, hentries, -, -, -, -, hsource⟩ := (ofValue_eq_ok_iff henv).mp h
    obtain hbare | ⟨items, hitems⟩ := (sourceOf_cases hsource).2
    · exact .inl (by rw [bare, hbare])
    · exact .inr ⟨entries, items, hentries, hitems⟩
  · rw [Settings.ofDialer, toValue_eq hs]
    rfl
  · obtain ⟨t, ht, halike⟩ := dialer_of_alike henv hs hport hlike
    refine ⟨t, ht, halike, fun hparse fs path saved hsave => ?_⟩
    have hload := Settings.load_of_save hsave hparse (hlike.isTrue_eq ▸ rfl)
    exact ⟨hload, bind_eq_ok_iff.mpr ⟨loaded, hload, ht⟩⟩

/-- A host in brackets that is given by items comes back without them, also from a file, which has
its entries in another order. -/
theorem settings_survive_saving_but_for_brackets :
    let entries (source : Value) : List (Value × Value) :=
      [(.text "proxy", .text "h.example:1080"), (.text "timeout", .null),
        (.text "handshake_timeout", .null), (.text "local_address", source)]
    let s : DialerSettings :=
      { proxy := .text "h.example:1080", timeout := .null, stepTimeout := .null
        source := .tuple [.text "[::1]", .int 53] }
    let document : Value := .dict [(.text "dialer", .dict (entries (.text "[::1]:53")))]
    ofValue [] (.dict (entries (.list [.text "[::1]", .int 53]))) = .ok s ∧
      s.toValue = .ok (.dict (entries (.text "[::1]:53"))) ∧
      ofValue [] (.dict (entries (.text "[::1]:53"))) =
        .ok { s with source := .tuple [.text "::1", .int 53] } ∧
      ∃ saved t, Settings.save {} "settings.yaml" document = .ok saved ∧
        Settings.loadDialer [] saved "settings.yaml" = .ok t ∧ s.bare.Alike t := by
  intro entries s document
  have hread : ofValue [] (.dict (entries (.list [.text "[::1]", .int 53]))) = .ok s := rfl
  have hwritten : s.toValue = .ok (.dict (entries (.text "[::1]:53"))) := rfl
  have hbare : s.bare = { s with source := .tuple [.text "::1", .int 53] } := rfl
  have hport : s.PortFits := by
    rintro host n ⟨⟩
    decide
  obtain ⟨⟨d, hd, hagain⟩, -, -, _, hdocument, hloads⟩ :=
    settings_survive_saving (fun _ _ => rfl) hread hport
  obtain rfl := Except.ok.inj (hwritten.symm.trans hd)
  obtain rfl : document = _ := Except.ok.inj hdocument
  let loaded : Value :=
    .dict [(.text "dialer", .dict
      [(.text "handshake_timeout", .null), (.text "local_address", .text "[::1]:53"),
        (.text "proxy", .text "h.example:1080"), (.text "timeout", .null)])]
  have hitems (items : List Value) : List.Forall₂ Value.Alike items items :=
    List.forall₂_same.mpr fun v _ => .refl v
  have hsection : (Value.dict (entries (.text "[::1]:53"))).Alike _ :=
    .dict (@List.perm_append_comm _ [_, _] [_, _]) rfl (hitems _)
  obtain ⟨t, -, halike, hfile⟩ := hloads loaded (.dict .rfl rfl (.cons hsection .nil))
  have hparse : Yaml.parse (Yaml.write document).toList = .ok loaded :=
    Value.eq_ok_of_isCopy (by decide +kernel)
  obtain ⟨-, hload⟩ := hfile hparse {} "settings.yaml" _ rfl
  exact ⟨hread, hwritten, hbare ▸ hagain, _, t, rfl, hload, halike⟩

end DialerSettings

end Socks5
