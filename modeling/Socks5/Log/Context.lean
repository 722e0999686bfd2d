import Socks5.Settings.Log

/-!
# Contexts

The context of a log says what its records are about: it has fields, and the last value that was
given to each of them.
-/

namespace Socks5.Log

/-- What records are about. -/
structure Context where
  fields : Value
  /-- The values that were given, the last one first. -/
  given : List (Text × Value) := []

namespace Context

/-- Values that may be given: there is no field called `self`. -/
def checked (values : List (Text × Value)) : Except Fault (List (Text × Value)) :=
  if values.any (·.1 = "self") then .error ⟨.type, "no field"⟩ else .ok values

def add (c : Context) (values : List (Text × Value)) : Context :=
  { c with given := values.reverse ++ c.given }

def clear (c : Context) : Context := { c with given := [] }

/-- The names of the fields one by one. -/
def names (c : Context) : Except Fault (List Value) :=
  if !c.fields.isTrue then .ok []
  else match c.fields.opened with
    | .list items => .ok items
    | .tuple items => .ok items
    | .set items => .ok items
    | .dict entries => .ok (entries.map (·.1))
    | .bytes bs => .ok (bs.map fun b => .int b.toNat)
    | v => match v.text? with
      | some s => .ok (s.map fun p => .text [p])
      | none => .error ⟨.type, "no names"⟩

/-- The value of a field, or a hyphen if none was given. -/
def valueOf (c : Context) (name : Value) : Except Fault Value :=
  if name.isKey then .ok ((name.text?.bind fun s => c.given.lookup s).getD (.text "-"))
  else .error ⟨.type, "no name"⟩

def part (c : Context) (name : Value) : Except Fault Text := do
  return name.plain ++ .char '=' :: (← c.valueOf name).plain

/-- The fields with their values, with bars between them. -/
def text (c : Context) : Except Fault Text := do
  let parts ← (← c.names).mapM c.part
  return Text.join " | " parts

end Context

end Socks5.Log
