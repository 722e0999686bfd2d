import Socks5.Text.Quoted

/-!
# The octets of texts

A text travels as UTF-8, in which surrogates have no form. Names of files may hold those surrogates
that stand for single octets, the ones from U+DC80 to U+DCFF, and no others.
-/

namespace Socks5

/-- Where a text cannot be encoded: at a surrogate, which is the first one of a run. -/
structure EncodingError where
  first : CodePoint
  position : Nat
  length : Nat
  deriving DecidableEq, Repr

def EncodingError.message (e : EncodingError) : String :=
  let decimal (n : Nat) := String.ofList (Nat.toDigits 10 n)
  "'utf-8' codec can't encode " ++
    (if e.length = 1 then
      "character '" ++ String.ofList (Text.escape e.first.toNat) ++ "' in position " ++
        decimal e.position
    else
      "characters in position " ++ decimal e.position ++ "-" ++
        decimal (e.position + e.length - 1)) ++
    ": surrogates not allowed"

namespace Text

/-- The first code point of a kind, and the run of surrogates from there on. The text begins at a
position of a longer one. -/
def findError? (isBad : CodePoint → Bool) (position : Nat := 0) : Text → Option EncodingError
  | [] => none
  | p :: r =>
    if isBad p then some ⟨p, position, ((p :: r).takeWhile CodePoint.isSurrogate).length⟩
    else findError? isBad (position + 1) r

/-- The text as it is if it can be encoded in UTF-8. -/
def encodable (t : Text) : Except EncodingError String :=
  match t.findError? CodePoint.isSurrogate with
  | some e => .error e
  | none => .ok (String.ofList (t.filterMap CodePoint.char?))

theorem findError?_ofChars (cs : List Char) (position : Nat) :
    findError? CodePoint.isSurrogate position (ofChars cs) = none := by
  induction cs generalizing position with
  | nil => rfl
  | cons c cs ih => exact ih (position + 1)

/-- The characters of a text with nothing else in it. -/
theorem ofChars_of_findError? {t : Text} {position : Nat}
    (h : t.findError? CodePoint.isSurrogate position = none) :
    ofChars (t.filterMap CodePoint.char?) = t := by
  induction t generalizing position with
  | nil => rfl
  | cons p r ih =>
    cases p with
    | char c => exact congrArg (CodePoint.char c :: ·) (ih h)
    | surrogate n => cases h

theorem encodable_eq_ok_iff {t : Text} {s : String} : t.encodable = .ok s ↔ t = ofString s := by
  unfold encodable
  constructor
  · intro h
    cases hfind : t.findError? CodePoint.isSurrogate with
    | some e =>
      rw [hfind] at h
      cases h
    | none =>
      rw [hfind] at h
      obtain rfl := Except.ok.inj h
      rw [ofString, String.toList_ofList, ofChars_of_findError? hfind]
  · rintro rfl
    have hchars : (ofString s).filterMap CodePoint.char? = s.toList := by
      simp [ofString, ofChars, List.filterMap_map, Function.comp_def, CodePoint.char?]
    rw [ofString, findError?_ofChars, ← ofString, hchars, String.ofList_toList]

theorem encodable_eq_error_iff {t : Text} :
    (∃ e, t.encodable = .error e) ↔ ∃ n, .surrogate n ∈ t := by
  rw [← chars?_eq_none_iff]
  constructor
  · rintro ⟨e, he⟩
    rw [Option.eq_none_iff_forall_ne_some]
    intro cs hchars
    have hok : t.encodable = .ok (String.ofList cs) := by
      rw [encodable_eq_ok_iff, ofString, String.toList_ofList, chars?_eq_some_iff.mp hchars]
    cases he.symm.trans hok
  · intro hnone
    cases hencode : t.encodable with
    | error e => exact ⟨e, rfl⟩
    | ok s =>
      rw [encodable_eq_ok_iff.mp hencode, chars?_ofString] at hnone
      cases hnone

@[simp] theorem encodable_ofString (s : String) : (ofString s).encodable = .ok s :=
  encodable_eq_ok_iff.mpr rfl

end Text

end Socks5
