import Socks5.Value.Equality
import Socks5.Value.Conversion
import Socks5.Decimal.Places
import Socks5.Text.WordCharacter

/-!
# Templates

A template is a text with conversions in it, each of which begins with a percent sign, names a field
in parentheses and says how the field's value is written. Templates are cut into pieces before they
are filled in; a conversion that is not well formed is a piece too, and fails where it stands.
-/

namespace Socks5.Log

/-! ### Pieces -/

/-- The width or the precision of a conversion. -/
inductive Size where
  | absent
  | given (n : Nat)
  | open
  deriving DecidableEq, Repr

/-- How a value is written. -/
structure Conversion where
  isLeft : Bool := false
  hasPlus : Bool := false
  hasBlank : Bool := false
  /-- Whether a number shows its base, or its point in any case. -/
  isMarked : Bool := false
  hasZeros : Bool := false
  width : Size := .absent
  precision : Size := .absent
  /-- The letter that says what kind of text is written, unless the template ends before it. -/
  letter : Option CodePoint
  deriving DecidableEq, Repr

/-- A piece of a template. -/
inductive Piece where
  | text (t : Text)
  /-- The value of a field, or of all of them without a name; the letter of the conversion stands at
  an index of the template. -/
  | conversion (name : Option Text) (conversion : Conversion) (index : Nat)
  | open
  deriving DecidableEq, Repr

/-- A template that is being cut into pieces: what is left of it, and how much was read. -/
structure Template.Rest where
  text : Text
  index : Nat

namespace Template

def Rest.span (p : CodePoint → Bool) (r : Rest) : Text × Rest :=
  let run := r.text.takeWhile p
  (run, ⟨r.text.drop run.length, r.index + run.length⟩)

/-- Goes behind the next character if it is the given one. -/
def Rest.skip? (c : Char) (r : Rest) : Option Rest :=
  if r.text.head? = some (.char c) then some ⟨r.text.tail, r.index + 1⟩ else none

/-- Reads a name up to the parenthesis that ends it; those in between come in pairs. -/
def nameOf (depth : Nat) : Text → Option Text
  | [] => none
  | c :: r =>
    if c = ')' then if depth = 0 then some [] else (nameOf (depth - 1) r).map (c :: ·)
    else (nameOf (if c = '(' then depth + 1 else depth) r).map (c :: ·)

/-- Reads a width or precision: a number, or an asterisk if it is left to another value. -/
def sizeOf (r : Rest) : Size × Rest :=
  match r.skip? '*' with
  | some r => (.open, r)
  | none =>
    let (digits, r) := r.span (CodePoint.satisfies Text.isDigit)
    (match Text.readNumeral? 10 digits.numeralChars with
      | some n => .given n
      | none => .absent, r)

/-- Reads a precision, which begins with a point and is nothing if there is only that. -/
def precisionOf (r : Rest) : Size × Rest :=
  match r.skip? '.' with
  | none => (.absent, r)
  | some r => match sizeOf r with
    | (.absent, r) => (.given 0, r)
    | p => p

def isFlag (p : CodePoint) : Bool := p.satisfies (· ∈ "#0-+ ".toList)

/-- Reads what stands behind the name of a conversion. -/
def conversionOf (r : Rest) : Conversion × Rest :=
  let (flags, r) := r.span isFlag
  let (width, r) := sizeOf r
  let (precision, r) := precisionOf r
  let r : Rest := match r.text with
    | p :: rest => if p.satisfies (· ∈ ['h', 'l', 'L']) then ⟨rest, r.index + 1⟩ else r
    | [] => r
  ({ isLeft := .char '-' ∈ flags, hasPlus := .char '+' ∈ flags, hasBlank := .char ' ' ∈ flags
     isMarked := .char '#' ∈ flags, hasZeros := .char '0' ∈ flags, width, precision
     letter := r.text.head? },
    ⟨r.text.drop 1, r.index + 1⟩)

/-- The piece that begins with a percent sign and, if there is one, a name, and what is left. -/
def namedPiece (name : Option Text) (r : Rest) : Piece × Rest :=
  let (c, rest) := conversionOf r
  (.conversion name c (rest.index - 1), rest)

/-- The piece that begins with a percent sign, and what is left. -/
def conversionPiece (r : Rest) : Piece × Rest :=
  match r.text with
  | '%' :: t => (.text "%", ⟨t, r.index + 1⟩)
  | '(' :: t => match nameOf 0 t with
    | some n => namedPiece (some n) ⟨t.drop (n.length + 1), r.index + n.length + 2⟩
    | none => (.open, ⟨[], 0⟩)
  | _ => namedPiece none r

/-- The pieces of a template of which at most a given number of characters is left. -/
def piecesFrom : (fuel : Nat) → Rest → List Piece
  | 0, _ => []
  | fuel + 1, r => match r.text with
    | [] => []
    | '%' :: t =>
      let (piece, rest) := conversionPiece ⟨t, r.index + 1⟩
      piece :: piecesFrom fuel rest
    | _ =>
      let (run, rest) := r.span (· ≠ '%')
      .text run :: piecesFrom fuel rest

def pieces (t : Text) : List Piece := piecesFrom t.length ⟨t, 0⟩

/-! ### Recognising templates -/

/-- Leaves out a width or precision in front of a text: decimal digits of any script, or an
asterisk. -/
def skipSize? (t : Text) : Option Text :=
  match t with
  | '*' :: r => some r
  | _ =>
    let r := t.dropWhile (CodePoint.satisfies fun c => (Text.decimalValue? c).isSome)
    if r.length < t.length then some r else none

/-- The letters of conversions, in either case; the Turkish forms of the letter i and the long s
count too. -/
def isLetter (p : CodePoint) : Bool :=
  p.satisfies fun c => c.toLower ∈ "diouxefgcrsa%".toList ∨ c ∈ ['İ', 'ı', 'ſ']

/-- Whether a text goes on with a named conversion, behind the percent sign. -/
def beginsConversion (t : Text) : Bool :=
  match t with
  | '(' :: t =>
    let name := t.takeWhile (CodePoint.satisfies Text.isWordCharacter)
    match t.drop name.length with
    | ')' :: t =>
      let t := t.dropWhile isFlag
      let t := (skipSize? t).getD t
      let t := match t with
        | '.' :: r => (skipSize? r).getD t
        | _ => t
      !name.isEmpty ∧ t.head?.any isLetter
    | _ => false
  | _ => false

/-- Whether a text has a named conversion somewhere. -/
def hasConversion : Text → Bool
  | [] => false
  | c :: r => (c = '%' ∧ beginsConversion r) ∨ hasConversion r

/-! ### Writing values -/

/-- The fault of a value that has the wrong type for its conversion. -/
def wrongType : Fault := ⟨.type, "wrong type for a conversion"⟩

/-- A text in the literal form with ASCII characters alone. -/
def asciiLiteral (cs : List Char) : List Char :=
  cs.flatMap fun c => if c.toNat < 128 then [c] else Text.escape c.toNat

def lengthLimit : Nat := Nat.pow 2 36

/-- The fault of a text for which there is no room. -/
def noRoom : Fault := ⟨.memory, ""⟩

/-- How many characters are missing up to the width of a conversion. -/
def missing (c : Conversion) (length : Nat) : Except Fault Nat :=
  match c.width with
  | .given n => if n ≤ length ∨ n ≤ lengthLimit then .ok (n - length) else .error noRoom
  | _ => .ok 0

/-- The precision of a conversion, if it has one. -/
def precision? (c : Conversion) : Option Nat :=
  match c.precision with
  | .given n => some n
  | _ => none

/-- A number with a sign, the mark of its base and digits, filled up to its width. -/
def fillNumber (c : Conversion) (isNegative : Bool) (mark digits : List Char) :
    Except Fault (List Char) := do
  let sign : List Char :=
    if isNegative then ['-'] else if c.hasPlus then ['+'] else if c.hasBlank then [' '] else []
  let body := sign ++ mark ++ digits
  let missing ← missing c body.length
  return if c.isLeft then body ++ List.replicate missing ' '
    else if c.hasZeros then sign ++ mark ++ List.replicate missing '0' ++ digits
    else List.replicate missing ' ' ++ body

/-- A text cut to its precision and filled up to its width. -/
def fillText (c : Conversion) (t : Text) : Except Fault Text := do
  let t := match precision? c with
    | some n => t.take n
    | none => t
  let fill : Text := List.replicate (← missing c t.length) ' '
  return if c.isLeft then t ++ fill else fill ++ t

def greatestPlaces : Nat := Nat.pow 2 31 - 4

def integerText (c : Conversion) (base : Nat) (mark : List Char) (n : Int) :
    Except Fault (List Char) :=
  let places := (precision? c).getD 0
  let numeral := Nat.toDigits base n.natAbs
  if greatestPlaces < places then .error ⟨.overflow, "precision too large"⟩
  else fillNumber c (n < 0) (if c.isMarked then mark else [])
    (List.replicate (places - numeral.length) '0' ++ numeral)

/-- A double has at most this many digits. -/
def mostDigits : Nat := 800

/-- A floating-point number; a small letter stands for the notation, and capital letters may be
asked for. -/
def floatText (c : Conversion) (style : Char) (isCapital : Bool) (x : Float) :
    Except Fault (List Char) :=
  let digits :=
    if Decimal.isNaN x then "nan".toList
    else if !Decimal.isFinite x then "inf".toList
    else
      let places := (precision? c).getD 6
      match style with
      | 'f' => Decimal.positional c.isMarked places x
      | 'e' => Decimal.scientific c.isMarked places x
      | _ => Decimal.general c.isMarked (if c.isMarked then places else min places mostDigits) x
  let digits := if isCapital then digits.map Char.toUpper else digits
  fillNumber c (Decimal.signBit x ∧ !Decimal.isNaN x) [] digits

/-- The integer that a value holds; the fraction of a floating-point number is cut off. -/
def integerOf (mayCut : Bool) : Value → Except Fault Int
  | .float x => if mayCut then integerOfFloat x else .error wrongType
  | v => match v.integer? with
    | some n => .ok n
    | none => .error wrongType

/-- The floating-point number that a value holds. -/
def floatOf (v : Value) : Except Fault Float :=
  match v with
  | .float x => .ok x
  | v => match v.integer? with
    | some n => floatOfInteger n
    | none => .error wrongType

/-- The only code point of a value, or the one with a value's number. -/
def pointOf (v : Value) : Except Fault CodePoint :=
  match v.text?, v.integer? with
  | some [p], _ => .ok p
  | none, some n => match if 0 ≤ n then CodePoint.ofNat? n.toNat else none with
    | some p => .ok p
    | none => .error ⟨.overflow, "%c arg not in range(0x110000)"⟩
  | _, _ => .error wrongType

/-- The fault of a letter that is no conversion, at an index of the template. -/
def badLetter (letter : CodePoint) (index : Nat) : Fault :=
  let shown := if 31 ≤ letter.toNat ∧ letter.toNat ≤ 126 then letter else '?'
  ⟨.value, "unsupported format character '" ++ [shown] ++ "' (0x" ++
    String.ofList (Nat.toDigits 16 letter.toNat) ++ ") at index " ++
    String.ofList (Nat.toDigits 10 index)⟩

/-- A value written by a conversion with a letter. -/
def convert (c : Conversion) (letter : CodePoint) (index : Nat) (v : Value) : Except Fault Text :=
  let number (r : Except Fault (List Char)) : Except Fault Text := r.map .ofChars
  let isCapital := letter.satisfies Char.isUpper
  match letter with
  | 's' => fillText c v.plain
  | 'r' => fillText c (.ofChars v.literal)
  | 'a' => fillText c (.ofChars (asciiLiteral v.literal))
  | 'd' | 'i' | 'u' => number do integerText c 10 [] (← integerOf true v)
  | 'o' => number do integerText c 8 ['0', 'o'] (← integerOf false v)
  | 'x' => number do integerText c 16 ['0', 'x'] (← integerOf false v)
  | 'X' => number do return (← integerText c 16 ['0', 'x'] (← integerOf false v)).map Char.toUpper
  | 'f' | 'F' => number do floatText c 'f' isCapital (← floatOf v)
  | 'e' | 'E' => number do floatText c 'e' isCapital (← floatOf v)
  | 'g' | 'G' => number do floatText c 'g' isCapital (← floatOf v)
  | 'c' => do fillText { c with precision := .absent } [← pointOf v]
  | _ => .error (badLetter letter index)

/-! ### Filling in -/

/-- The fault of a field that there is not. -/
def missingField (name : Text) : Fault :=
  ⟨.value, "Formatting field not found in record: " ++ String.ofList (Text.quoted name)⟩

def fieldOf (fields : List (Text × Value)) (name : Text) : Except Fault Value :=
  match fields.lookup name with
  | some v => .ok v
  | none => .error (missingField name)

/-- A bound of sizes. -/
structure SizeLimit where
  bits : Nat
  tooBig : String
  tooLarge : String

def widthLimit : SizeLimit :=
  ⟨63, "width too big", "Python int too large to convert to C ssize_t"⟩

def precisionLimit : SizeLimit :=
  ⟨31, "precision too big", "Python int too large to convert to C int"⟩

/-- Checks a size, and says which value is left to be written. A size that is left to a value uses
it up. -/
def checkSize (limit : SizeLimit) (size : Size) (spare : Except Fault Value) :
    Except Fault (Except Fault Value) :=
  let bound : Nat := Nat.pow 2 limit.bits
  match size with
  | .absent => .ok spare
  | .given n => if n < bound then .ok spare else .error ⟨.value, limit.tooBig⟩
  | .open => do
    match (← spare).integer? with
    | none => .error wrongType
    | some n =>
      if -(bound : Int) ≤ n ∧ n < bound then .ok (.error wrongType)
      else .error ⟨.overflow, limit.tooLarge⟩

def fillConversion (c : Conversion) (index : Nat) (spare : Except Fault Value) :
    Except Fault Text := do
  let spare ← checkSize widthLimit c.width spare
  let spare ← checkSize precisionLimit c.precision spare
  match c.letter with
  | none => .error ⟨.value, "incomplete format"⟩
  | some letter => convert c letter index (← spare)

/-- A piece with the values of fields filled in. A piece without a name takes the value that is
spare. -/
def fillPiece (fields : List (Text × Value)) (spare : Except Fault Value) :
    Piece → Except Fault Text
  | .text t => .ok t
  | .conversion (some name) c index => do fillConversion c index (.ok (← fieldOf fields name))
  | .conversion none c index => fillConversion c index spare
  | .open => .error ⟨.value, "incomplete format key"⟩

/-- Pieces with the values of fields filled in. Only the first conversion takes what is spare. -/
def fillAll (fields : List (Text × Value)) :
    (spare : Except Fault Value) → List Piece → Except Fault Text
  | _, [] => .ok []
  | spare, p :: rest => do
    let t ← fillPiece fields spare p
    let spare := if p matches .text _ then spare else .error wrongType
    return t ++ (← fillAll fields spare rest)

/-- A template with the values of fields filled in. What is spare are all fields together. -/
def fill (fields : List (Text × Value)) (template : Text) : Except Fault Text :=
  fillAll fields (.ok (.dict (fields.map fun (name, v) => (.text name, v)))) (pieces template)

end Template

end Socks5.Log
