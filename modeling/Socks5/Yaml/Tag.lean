import Socks5.Text.Numeral
import Socks5.Text.Fields

/-!
# Tags

A tag says what kind of value a node denotes. A plain scalar without a tag has the kind that its
text looks like: nothing, a truth value, an integer, a floating-point number or a date, else a text.
-/

namespace Socks5.Yaml

/-- The kinds of value. -/
inductive Tag where
  | null
  | bool
  | int
  | float
  | binary
  | timestamp
  | omap
  | pairs
  | set
  | str
  | seq
  | map
  | merge
  | value
  | other (uri : String)
  deriving DecidableEq, Repr

namespace Tag

/-- The beginning of the tags that are known here. -/
def known : String := "tag:yaml.org,2002:"

/-- The tags that are known here, by what stands behind their common beginning. -/
def table : List (String × Tag) :=
  [("null", null), ("bool", bool), ("int", int), ("float", float), ("binary", binary),
    ("timestamp", timestamp), ("omap", omap), ("pairs", pairs), ("set", set), ("str", str),
    ("seq", seq), ("map", map), ("merge", merge), ("value", value)]

def ofUri (uri : String) : Tag :=
  match table.find? fun e => known ++ e.1 = uri with
  | some e => e.2
  | none => other uri

end Tag

/-! ### Plain scalars -/

namespace Plain

open Text (isDigit)

def isDigitOrUnderscore (c : Char) : Bool := isDigit c ∨ c = '_'

/-- Without a sign at the front. -/
def unsigned : List Char → List Char
  | '-' :: r => r
  | '+' :: r => r
  | cs => cs

/-- Whether a text is a run of at least one character of a class. -/
def isRun (p : Char → Bool) (cs : List Char) : Bool := !cs.isEmpty ∧ cs.all p

/-- Whether a text is a number below sixty: one digit, or two of which the first is at most 5. -/
def isSixtieth : List Char → Bool
  | [d] => isDigit d
  | [t, d] => '0' ≤ t ∧ t ≤ '5' ∧ isDigit d
  | _ => false

/-- Whether a text is a number in base sixty: several parts with colons between them. -/
def isSexagesimal (first : Char → Bool) (cs : List Char) : Bool :=
  match Text.fields ':' cs with
  | (d :: r) :: p :: ps => first d ∧ r.all isDigitOrUnderscore ∧ (p :: ps).all isSixtieth
  | _ => false

/-- Whether a text looks like an integer. -/
def isInt (cs : List Char) : Bool :=
  match unsigned cs with
  | ['0'] => true
  | '0' :: 'b' :: r => isRun (fun c => c = '0' ∨ c = '1' ∨ c = '_') r
  | '0' :: 'x' :: r => isRun (fun c => Text.isHexDigit c ∨ c = '_') r
  | '0' :: r => isRun (fun c => ('0' ≤ c ∧ c ≤ '7') ∨ c = '_') r
  | d :: r =>
    isDigit d ∧ (r.all isDigitOrUnderscore ∨ isSexagesimal (fun c => '1' ≤ c ∧ c ≤ '9') (d :: r))
  | [] => false

/-- Whether a text is empty or an exponent with a sign. -/
def isExponent : List Char → Bool
  | [] => true
  | e :: s :: r => (e = 'e' ∨ e = 'E') ∧ (s = '-' ∨ s = '+') ∧ isRun isDigit r
  | _ => false

/-- Whether a text is digits and an exponent, as behind a decimal point. -/
def isFraction (cs : List Char) : Bool := isExponent (cs.dropWhile isDigitOrUnderscore)

/-- Whether a text is infinity or not a number, behind a point. -/
def isSpecial (cs : List Char) : Bool :=
  cs ∈ [".nan".toList, ".NaN".toList, ".NAN".toList] ∨
    unsigned cs ∈ [".inf".toList, ".Inf".toList, ".INF".toList]

/-- Whether the parts before and behind a point make a number, perhaps one in base sixty. -/
def isPointed (whole fraction : List Char) : Bool :=
  match whole with
  | d :: r =>
    isDigit d ∧
      ((r.all isDigitOrUnderscore ∧ isFraction fraction) ∨
        (isSexagesimal isDigit (d :: r) ∧ fraction.all isDigitOrUnderscore))
  | [] => false

/-- Whether a text looks like a floating-point number; one that begins with the point has no
sign. -/
def isFloat (cs : List Char) : Bool :=
  isSpecial cs || match cs with
    | '.' :: d :: r => isDigit d ∧ isFraction r
    | cs => match Text.splitFirst? '.' (unsigned cs) with
      | some (whole, fraction) => isPointed whole fraction
      | none => false

/-- Whether a text looks like a truth value. -/
def isBool (cs : List Char) : Bool :=
  String.ofList cs ∈ ["yes", "Yes", "YES", "no", "No", "NO", "true", "True", "TRUE", "false",
    "False", "FALSE", "on", "On", "ON", "off", "Off", "OFF"]

/-- Whether a text looks like nothing. -/
def isNull (cs : List Char) : Bool := String.ofList cs ∈ ["", "~", "null", "Null", "NULL"]

end Plain

/-! ### Dates -/

/-- The parts of a date with or without a time of day, as they are written. -/
structure DateParts where
  year : List Char
  month : List Char
  day : List Char
  /-- Hour, minute, second and the digits of a fraction. -/
  time : Option (List Char × List Char × List Char × List Char)
  /-- The zone: a sign with hours and minutes, or nothing for universal time. -/
  zone : Option (Option (Char × List Char × List Char))

namespace DateParts

open Text (isDigit)

def shortDigits? (cs : List Char) : Option (List Char × List Char) :=
  match cs.takeWhile isDigit, cs.dropWhile isDigit with
  | [a], r => some ([a], r)
  | [a, b], r => some ([a, b], r)
  | _, _ => none

def twoDigits? : List Char → Option (List Char × List Char)
  | a :: b :: r => if isDigit a ∧ isDigit b then some ([a, b], r) else none
  | _ => none

def zone? (cs : List Char) : Option (Option (Option (Char × List Char × List Char))) :=
  match cs.dropWhile fun c => c = ' ' ∨ c = '\t' with
  | [] => if cs.isEmpty then some none else none
  | ['Z'] => some (some none)
  | s :: r =>
    if s = '-' ∨ s = '+' then do
      let (hours, r) ← shortDigits? r
      match r with
      | [] => some (some (some (s, hours, [])))
      | ':' :: r => match twoDigits? r with
        | some (minutes, []) => some (some (some (s, hours, minutes)))
        | _ => none
      | _ => none
    else none

/-- Reads the time of day and the zone. -/
def time? (year month day cs : List Char) : Option DateParts := do
  let cs ← match cs with
    | 'T' :: r => some r
    | 't' :: r => some r
    | c :: r =>
      if c = ' ' ∨ c = '\t' then some (r.dropWhile fun c => c = ' ' ∨ c = '\t') else none
    | [] => none
  let (hour, cs) ← shortDigits? cs
  match cs with
  | ':' :: cs => do
    let (minute, cs) ← twoDigits? cs
    match cs with
    | ':' :: cs => do
      let (second, cs) ← twoDigits? cs
      let (fraction, cs) := match cs with
        | '.' :: r => (r.takeWhile isDigit, r.dropWhile isDigit)
        | r => ([], r)
      let zone ← zone? cs
      return { year, month, day, time := some (hour, minute, second, fraction), zone }
    | _ => none
  | _ => none

/-- Reads a date, with or without a time of day. -/
def ofChars? (cs : List Char) : Option DateParts := do
  let (year, cs) := (cs.take 4, cs.drop 4)
  if year.length = 4 ∧ year.all isDigit then
    match cs with
    | '-' :: cs => do
      let (month, cs) ← shortDigits? cs
      match cs with
      | '-' :: cs => do
        let (day, cs) ← shortDigits? cs
        if cs.isEmpty then return { year, month, day, time := none, zone := none }
        else time? year month day cs
      | _ => none
    | _ => none
  else none

/-- Whether a text looks like a date; a date alone has two digits for month and day. -/
def isDate (cs : List Char) : Bool :=
  match ofChars? cs with
  | some p => p.time.isSome ∨ (p.month.length = 2 ∧ p.day.length = 2)
  | none => false

end DateParts

/-- The kind that a plain scalar looks like. -/
def Tag.ofPlain (cs : List Char) : Tag :=
  if Plain.isBool cs then .bool
  else if Plain.isFloat cs then .float
  else if Plain.isInt cs then .int
  else if cs = ['<', '<'] then .merge
  else if Plain.isNull cs then .null
  else if DateParts.isDate cs then .timestamp
  else if cs = ['='] then .value
  else if cs ∈ [['!'], ['&'], ['*']] then .other (Tag.known ++ "yaml")
  else .str

/-- A text without the line feed that ends it. -/
def withoutLastBreak (cs : List Char) : List Char :=
  if cs.length ≠ 1 ∧ cs.getLast? = some '\n' then cs.dropLast else cs

/-- The kind that a scalar looks like if it may be a whole line. -/
def Tag.ofLine (cs : List Char) : Tag := .ofPlain (withoutLastBreak cs)

end Socks5.Yaml
