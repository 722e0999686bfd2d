import Socks5.Value.Basic
import Socks5.Decimal.Shortest
import Socks5.Text.Numeral
import Socks5.Text.Quoted

/-!
# Texts of values

A value has a literal form, in which texts stand in quotes, and a plain form, in which a text stands
for itself. Inside lists, tuples and mappings the literal form is used, in which dots stand for a
value inside itself.
-/

namespace Socks5

open Text

private def commas (items : List (List Char)) : List Char := join [',', ' '] items

/-! ### Dates -/

namespace Date

/-- Year, month and day with hyphens. -/
def chars (d : Date) : List Char :=
  paddedNumeral 4 d.year ++ '-' :: paddedNumeral 2 d.month ++ '-' :: paddedNumeral 2 d.day

/-- The date as a constructor call. -/
def literal (d : Date) : List Char :=
  "datetime.date(".toList ++ commas ([d.year, d.month, d.day].map (Nat.toDigits 10)) ++ [')']

end Date

namespace Moment

/-- The offset from universal time: sign, hours and minutes. -/
def offsetChars (minutes : Int) : List Char :=
  (if minutes < 0 then '-' else '+') :: paddedNumeral 2 (minutes.natAbs / 60) ++
    ':' :: paddedNumeral 2 (minutes.natAbs % 60)

/-- Date and time of day with a given character between them. -/
def chars (separator : Char) (m : Moment) : List Char :=
  m.date.chars ++ separator :: paddedNumeral 2 m.hour ++ ':' :: paddedNumeral 2 m.minute ++
    ':' :: paddedNumeral 2 m.second ++
    (if m.micro = 0 then [] else '.' :: paddedNumeral 6 m.micro) ++
    (m.offset.map offsetChars).getD []

/-- The offset from universal time as a constructor call. -/
private def offsetLiteral (minutes : Int) : List Char :=
  if minutes = 0 then "datetime.timezone.utc".toList
  else
    let days := if minutes < 0 then "days=-1, ".toList else []
    let seconds := (60 * minutes % 86400).toNat
    "datetime.timezone(datetime.timedelta(".toList ++ days ++ "seconds=".toList ++
      Nat.toDigits 10 seconds ++ "))".toList

/-- The moment as a constructor call, which leaves out seconds and their parts when they are zero.
-/
def literal (m : Moment) : List Char :=
  let tail :=
    if m.micro ≠ 0 then [m.second, m.micro] else if m.second ≠ 0 then [m.second] else []
  let numbers := [m.date.year, m.date.month, m.date.day, m.hour, m.minute] ++ tail
  let zone := match m.offset with
    | some o => ["tzinfo=".toList ++ offsetLiteral o]
    | none => []
  "datetime.datetime(".toList ++ commas (numbers.map (Nat.toDigits 10) ++ zone) ++ [')']

end Moment

/-! ### IP addresses -/

/-- An IP address as a constructor call. -/
def Ip.literal (ip : Ip) : List Char :=
  let name := match ip with
    | .v4 _ => "IPv4Address("
    | .v6 _ => "IPv6Address("
  name.toList ++ quoted ip.text ++ [')']

/-- A SOCKS address as a constructor call. -/
def Address.literal (a : Address) : List Char :=
  let host := match a.host with
    | .ipv4 v => Ip.literal (.v4 v)
    | .ipv6 v _ => Ip.literal (.v6 v)
    | .name n => quoted n.text
  "SocksAddr(host=".toList ++ host ++ ", port=".toList ++ Nat.toDigits 10 a.port.toNat ++ [')']

/-! ### Links -/

/-- Dots in the brackets of the value that a link refers to. -/
def Link.dots (l : Link) : List Char :=
  match l.brackets with
  | .square => "[...]".toList
  | .round => "(...)".toList
  | .curly => "\x7b...\x7d".toList

/-- How a link is written inside the values at the given places of a knot, each of whose values has
a form that depends on how links are written. Dots stand for a value inside itself. -/
def Link.literal (forms : List ((Link → List Char) → List Char)) :
    (fuel : Nat) → (around : List Nat) → Link → List Char
  | 0, _, l => l.dots
  | fuel + 1, around, l =>
    if l.place ∈ around then l.dots
    else match forms[l.place]? with
      | some form => form (Link.literal forms fuel (l.place :: around))
      | none => l.dots

/-! ### Values -/

namespace Value

/-- Brackets around the items of a tuple; a single item is followed by a comma. -/
private def tupleChars : List (List Char) → List Char
  | [item] => '(' :: item ++ [',', ')']
  | items => '(' :: commas items ++ [')']

mutual

/-- The literal form of a value, in which links are written in the given way. -/
def form : Value → (Link → List Char) → List Char
  | null, _ => "None".toList
  | bool b, _ => if b then "True".toList else "False".toList
  | int n, _ => signedNumeral n
  | float x, _ => Decimal.chars x
  | text s, _ => quoted s
  | bytes bs, _ => quotedBytes bs
  | list items, links => '[' :: commas (itemForms items links) ++ [']']
  | tuple items, links => tupleChars (itemForms items links)
  | dict entries, links => '{' :: commas (entryForms entries links) ++ ['}']
  | set items, links =>
    if items.isEmpty then "set()".toList else '{' :: commas (itemForms items links) ++ ['}']
  | ip a, _ => a.literal
  | address a, _ => a.literal
  | endpoint a port, links =>
    "UDPAddr(ip=".toList ++ a.literal ++ ", port=".toList ++ port.form links ++ [')']
  | named s, _ => quoted s
  | date d, _ => d.literal
  | moment m, _ => m.literal
  | knot values l, _ => l.literal (forms values) (values.length + 1) []
  | link l, links => links l

/-- The literal forms of several values, in which links are written in the given way. -/
def itemForms : List Value → (Link → List Char) → List (List Char)
  | [], _ => []
  | v :: r, links => v.form links :: itemForms r links

/-- The literal forms of the entries of a mapping, in which links are written in the given way. -/
def entryForms : List (Value × Value) → (Link → List Char) → List (List Char)
  | [], _ => []
  | (k, v) :: r, links => (k.form links ++ ':' :: ' ' :: v.form links) :: entryForms r links

/-- The literal forms of several values, each for all ways to write links. -/
def forms : List Value → List ((Link → List Char) → List Char)
  | [] => []
  | v :: r => v.form :: forms r

end

def literal (v : Value) : List Char := v.form Link.dots

def plain : Value → Text
  | text s => s
  | named s => s
  | ip a => a.text
  | address a => a.text
  | endpoint (.v4 a) port => a.text ++ .char ':' :: port.plain
  | endpoint (.v6 a) port => .char '[' :: a.text ++ .char ']' :: .char ':' :: port.plain
  | date d => .ofChars d.chars
  | moment m => .ofChars (m.chars ' ')
  | v => .ofChars v.literal

end Value

end Socks5
