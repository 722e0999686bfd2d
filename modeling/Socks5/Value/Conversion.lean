import Socks5.Fault
import Socks5.Decimal.Reading

/-!
# Numbers from values

The integer or floating-point number that a value stands for: a number as it is, or the number that
a text or an octet string holds.
-/

namespace Socks5

/-! ### Integers -/

/-- The fault of a text that is no integer; at most 200 characters of it are shown. -/
def badInteger (base : Nat) (literal : List Char) : Fault :=
  ⟨.value, "invalid literal for int() with base " ++ String.ofList (Nat.toDigits 10 base) ++
    ": " ++ String.ofList (literal.take 200)⟩

/-- The fault of an integer with too many digits. -/
def tooManyDigits (count : Nat) : Fault :=
  ⟨.value, "Exceeds the limit (4300 digits) for integer string conversion: value has " ++
    String.ofList (Nat.toDigits 10 count) ++
    " digits; use sys.set_int_max_str_digits() to increase the limit"⟩

/-- The integer that characters stand for; a fault shows the given literal form. -/
def integerOf (literal cs : List Char) : Except Fault Int :=
  match Decimal.integer? cs with
  | .ok n => .ok n
  | .error .literal => .error (badInteger 10 literal)
  | .error (.digits n) => .error (tooManyDigits n)

/-- The integer that a text stands for. -/
def integerOfText (t : Text) : Except Fault Int := integerOf (Text.quoted t) t.numeralChars

/-- The characters of octets; what is no ASCII becomes a character that is in no number. -/
def asciiChars (bs : Bytes) : List Char :=
  bs.map fun b => if b < 128 then Char.ofNat b.toNat else Char.ofNat 0xfffd

/-- The integer part of a floating-point number. -/
def integerOfFloat (x : Float) : Except Fault Int :=
  if Decimal.isFinite x then .ok (Decimal.truncate x)
  else if Decimal.isNaN x then .error ⟨.value, "cannot convert float NaN to integer"⟩
  else .error ⟨.overflow, "cannot convert float infinity to integer"⟩

/-- The integer that a value stands for. -/
def Value.toInteger : Value → Except Fault Int
  | .bool b => .ok (if b then 1 else 0)
  | .int n => .ok n
  | .float x => integerOfFloat x
  | .text s => integerOfText s
  | .named s => integerOfText s
  | .bytes bs => integerOf (Text.quotedBytes bs) (asciiChars bs)
  | .ip (.v4 a) => .ok (a.octets.foldl (fun (n : Nat) b => 256 * n + b.toNat) 0 : Nat)
  | .ip (.v6 a) => .ok (a.octets.foldl (fun (n : Nat) b => 256 * n + b.toNat) 0 : Nat)
  | _ => .error ⟨.type, "no integer"⟩

/-! ### Floating-point numbers -/

/-- The number that characters stand for; a fault shows the given literal form. -/
def floatOf (literal cs : List Char) : Except Fault Float :=
  match Decimal.float? cs with
  | some x => .ok x
  | none => .error ⟨.value, "could not convert string to float: " ++ String.ofList literal⟩

/-- The floating-point number that a text stands for. -/
def floatOfText (t : Text) : Except Fault Float := floatOf (Text.quoted t) t.numeralChars

/-- The floating-point number nearest to an integer. -/
def floatOfInteger (n : Int) : Except Fault Float :=
  match Decimal.ofInt? n with
  | some x => .ok x
  | none => .error ⟨.overflow, "int too large to convert to float"⟩

/-- The floating-point number that a value stands for. -/
def Value.toFloat : Value → Except Fault Float
  | .bool b => floatOfInteger (if b then 1 else 0)
  | .int n => floatOfInteger n
  | .float x => .ok x
  | .text s => floatOfText s
  | .named s => floatOfText s
  | .bytes bs => floatOf (Text.quotedBytes bs) (asciiChars bs)
  | _ => .error ⟨.type, "no number"⟩

end Socks5
