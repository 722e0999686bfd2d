/-!
# Texts

A text is a sequence of code points. Most of them are characters, but a surrogate, which is half of
a pair and no character by itself, may stand in a text too: that is how octets that are no UTF-8
come through where the system hands out texts. Texts of characters alone are those of the type
`String`, and stand for themselves.
-/

namespace Socks5

/-- A code point: a character, or a surrogate by its distance from U+D800, the first of them. -/
inductive CodePoint where
  | char (c : Char)
  | surrogate (n : Fin 2048)
  deriving DecidableEq, Repr

namespace CodePoint

instance : Coe Char CodePoint := ⟨char⟩

def toNat : CodePoint → Nat
  | char c => c.toNat
  | surrogate n => 0xd800 + n

def isSurrogate : CodePoint → Bool
  | char _ => false
  | surrogate _ => true

/-- Whether a code point has no place in the name of a file: a surrogate that stands for no octet.
-/
def isForeign : CodePoint → Bool
  | char _ => false
  | surrogate n => n.val < 0x480 ∨ 0x500 ≤ n.val

def char? : CodePoint → Option Char
  | char c => some c
  | surrogate _ => none

/-- Whether a code point is a character of a kind. -/
def satisfies (p : Char → Bool) : CodePoint → Bool
  | char c => p c
  | surrogate _ => false

/-- A code point with its character replaced, if it is one. -/
def map (f : Char → Char) : CodePoint → CodePoint
  | char c => f c
  | surrogate n => surrogate n

/-- The code point with a number; beyond the last one there is none. -/
def ofNat? (n : Nat) : Option CodePoint :=
  if h : n.isValidChar then some (char (Char.ofNatAux n h))
  else if h : 0xd800 ≤ n ∧ n < 0xe000 then some (surrogate ⟨n - 0xd800, by omega⟩)
  else none

end CodePoint

/-- A text: characters, and surrogates that stand alone. -/
abbrev Text := List CodePoint

namespace Text

/-! ### Characters -/

def ofChars (cs : List Char) : Text := cs.map .char

def ofString (s : String) : Text := ofChars s.toList

instance : Coe String Text := ⟨ofString⟩

/-- The characters of a text without surrogates. -/
def chars? : Text → Option (List Char)
  | [] => some []
  | .char c :: r => (chars? r).map (c :: ·)
  | .surrogate _ :: _ => none

@[simp] theorem ofChars_nil : ofChars [] = [] := rfl

@[simp] theorem ofChars_cons (c : Char) (cs : List Char) :
    ofChars (c :: cs) = .char c :: ofChars cs := rfl

@[simp] theorem char_mem_ofChars {c : Char} {cs : List Char} : .char c ∈ ofChars cs ↔ c ∈ cs := by
  simp [ofChars]

@[simp] theorem length_ofChars (cs : List Char) : (ofChars cs).length = cs.length :=
  List.length_map _

theorem chars?_eq_some_iff {t : Text} {cs : List Char} : t.chars? = some cs ↔ t = ofChars cs := by
  induction t generalizing cs with
  | nil => cases cs <;> simp [chars?]
  | cons p r ih =>
    cases p with
    | char c =>
      cases cs with
      | nil => simp [chars?]
      | cons d ds =>
        simp only [chars?, Option.map_eq_some_iff, ih, ofChars_cons, List.cons.injEq,
          CodePoint.char.injEq]
        constructor
        · rintro ⟨a, h, rfl, rfl⟩
          exact ⟨rfl, h⟩
        · rintro ⟨rfl, h⟩
          exact ⟨ds, h, rfl, rfl⟩
    | surrogate n => cases cs <;> simp [chars?]

theorem chars?_eq_none_iff {t : Text} : t.chars? = none ↔ ∃ n, .surrogate n ∈ t := by
  induction t with
  | nil => simp [chars?]
  | cons p r ih => cases p <;> simp [chars?, ih]

@[simp] theorem chars?_ofChars (cs : List Char) : (ofChars cs).chars? = some cs :=
  chars?_eq_some_iff.mpr rfl

@[simp] theorem chars?_ofString (s : String) : (ofString s).chars? = some s.toList :=
  chars?_ofChars _

theorem ofChars_inj {cs ds : List Char} : ofChars cs = ofChars ds ↔ cs = ds := by
  rw [← chars?_eq_some_iff, chars?_ofChars, Option.some_inj]

@[simp] theorem ofString_inj {s t : String} : ofString s = ofString t ↔ s = t :=
  ofChars_inj.trans String.toList_inj

/-- The characters of a text, where a surrogate becomes a character that is in no number. -/
def numeralChars (t : Text) : List Char :=
  t.map fun
    | .char c => c
    | .surrogate _ => Char.ofNat 0xfffd

@[simp] theorem numeralChars_ofChars (cs : List Char) : numeralChars (ofChars cs) = cs := by
  simp [numeralChars, ofChars, Function.comp_def]

end Text

end Socks5
