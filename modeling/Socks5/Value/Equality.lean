import Socks5.Value.Basic
import Socks5.Decimal.Binary64

/-!
# Equality of values

Numbers are equal when they denote the same number, whatever their types; truth values count as 0
and 1. Mappings and sets are equal when they have equal members, in whatever order.
-/

namespace Socks5.Value

/-! ### Numbers -/

/-- The integer that a value denotes, for integers and truth values. -/
def integer? : Value → Option Int
  | bool b => some (if b then 1 else 0)
  | int n => some n
  | _ => none

/-- Whether a floating-point number denotes an integer exactly. -/
def floatIsInt (x : Float) (n : Int) : Bool :=
  Decimal.isInteger x ∧ Decimal.truncate x = n

/-! ### Values -/

mutual

/-- Whether two values are equal. -/
def same : Value → Value → Bool
  | null, null => true
  | float x, float y => x == y
  | float x, v => match v.integer? with
    | some n => floatIsInt x n
    | none => false
  | text s, v => v.text? = some s
  | named s, v => v.text? = some s
  | bytes a, bytes b => a = b
  | list a, list b => sameItems a b
  | tuple a, tuple b => sameItems a b
  | dict a, dict b => a.length = b.length ∧ entriesWithin a b
  | set a, set b => a.length = b.length ∧ itemsWithin a b
  | ip a, ip b => a = b
  | address a, address b => a = b
  | endpoint a p, endpoint b q => a = b ∧ same p q
  | date a, date b => a = b
  | moment a, moment b => a = b
  | knot a l, knot b m => l = m ∧ sameItems a b
  | link l, link m => l = m
  | a, float y => match a.integer? with
    | some n => floatIsInt y n
    | none => false
  | a, b => a.integer?.isSome ∧ a.integer? = b.integer?

/-- Whether two lists have equal items in the same order. -/
def sameItems : List Value → List Value → Bool
  | [], [] => true
  | a :: r, b :: s => same a b && sameItems r s
  | _, _ => false

/-- Whether every entry of the first mapping is one of the second. -/
def entriesWithin : List (Value × Value) → List (Value × Value) → Bool
  | [], _ => true
  | (k, v) :: r, b => b.any (fun e => same k e.1 && same v e.2) && entriesWithin r b

/-- Whether every member of the first set is one of the second. -/
def itemsWithin : List Value → List Value → Bool
  | [], _ => true
  | v :: r, b => b.any (fun w => same v w) && itemsWithin r b

end

/-! ### Keys -/

/-- Sets the entry under a key; an equal key keeps its place and its form. -/
def put (key value : Value) : List (Value × Value) → List (Value × Value)
  | [] => [(key, value)]
  | (k, v) :: r => if same k key then (k, value) :: r else (k, v) :: put key value r

/-- The entries of a mapping put in one after the other. -/
def putAll (entries : List (Value × Value)) : List (Value × Value) :=
  entries.foldl (fun m e => put e.1 e.2 m) []

mutual

/-- Whether a value may be a key: lists, mappings and sets may not, nor tuples that hold one, nor
values that hold each other, as one of those is a list or mapping. -/
def isKey : Value → Bool
  | list _ => false
  | dict _ => false
  | set _ => false
  | knot _ _ => false
  | link _ => false
  | tuple items => areKeys items
  | endpoint _ port => isKey port
  | _ => true

/-- Whether all of these values may be keys. -/
def areKeys : List Value → Bool
  | [] => true
  | v :: rest => isKey v && areKeys rest

end

end Socks5.Value
