import Socks5.Address.Basic

/-!
# Dynamic values

Settings files, destinations and log contexts hold values whose type is known only when the program
runs. A mapping keeps its entries in the order in which they were put in. Values that hold each
other, so that none of them is a finite tree, make a knot.
-/

namespace Socks5

/-! ### Dates -/

/-- A calendar date. -/
structure Date where
  year : Nat
  month : Nat
  day : Nat
  deriving DecidableEq, Repr

/-- A date with a time of day. -/
structure Moment where
  date : Date
  hour : Nat
  minute : Nat
  second : Nat
  micro : Nat
  /-- How many minutes the clock is ahead of universal time, if that is known. -/
  offset : Option Int
  deriving DecidableEq, Repr

/-! ### Links -/

/-- The brackets around the literal form of a list, a tuple or a mapping. -/
inductive Brackets where
  | square
  | round
  | curly
  deriving DecidableEq, Repr

/-- A reference to one of the values of a knot. -/
structure Link where
  /-- The place of the value among those of the knot. -/
  place : Nat
  brackets : Brackets
  deriving DecidableEq, Repr

/-! ### Values -/

/-- A value of one of the types that settings and callers use. -/
inductive Value where
  | null
  | bool (b : Bool)
  | int (n : Int)
  | float (x : Float)
  | text (s : Text)
  | bytes (bs : Bytes)
  | list (items : List Value)
  | tuple (items : List Value)
  | dict (entries : List (Value × Value))
  | set (items : List Value)
  | ip (ip : Ip)
  | address (a : Address)
  | endpoint (ip : Ip) (port : Value)
  /-- An endpoint with a name that nobody looked up. -/
  | named (text : Text)
  | date (d : Date)
  | moment (m : Moment)
  /-- One of several values that hold each other: the one that the link refers to. -/
  | knot (values : List Value) (l : Link)
  /-- As a member of a value of a knot, the value of the knot that the link refers to. -/
  | link (l : Link)
  deriving Inhabited

/-- The name in messages of the type of what stands in brackets. -/
def Brackets.typeName : Brackets → String
  | square => "list"
  | round => "tuple"
  | curly => "dict"

namespace Value

/-- The name of a value's type in messages. -/
def typeName : Value → String
  | null => "NoneType"
  | bool _ => "bool"
  | int _ => "int"
  | float _ => "float"
  | text _ => "str"
  | bytes _ => "bytes"
  | list _ => "list"
  | tuple _ => "tuple"
  | dict _ => "dict"
  | set _ => "set"
  | ip (.v4 _) => "IPv4Address"
  | ip (.v6 _) => "IPv6Address"
  | address _ => "SocksAddr"
  | endpoint _ _ => "UDPAddr"
  | named _ => "UDPFqdnAddr"
  | date _ => "date"
  | moment _ => "datetime"
  | knot _ l => l.brackets.typeName
  | link l => l.brackets.typeName

/-- Whether a value counts as true: zero and what is empty do not. -/
def isTrue : Value → Bool
  | null => false
  | bool b => b
  | int n => n ≠ 0
  | float x => x != 0
  | text s => !s.isEmpty
  | bytes bs => !bs.isEmpty
  | list items => !items.isEmpty
  | tuple items => !items.isEmpty
  | dict entries => !entries.isEmpty
  | set items => !items.isEmpty
  | named s => !s.isEmpty
  | _ => true

/-- The value as a text, if it is one; a named endpoint is a text too. -/
def text? : Value → Option Text
  | text s => some s
  | named s => some s
  | _ => none

/-- The entry of a mapping under a text. -/
def lookup? (key : Text) : List (Value × Value) → Option Value
  | [] => none
  | (k, v) :: r => match k.text? with
    | some s => if s = key then some v else lookup? key r
    | none => lookup? key r

end Value

end Socks5
