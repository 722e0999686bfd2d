import Socks5.Log.Record

/-!
# Formatters

A formatter makes a line of a record: it fills in its template. A record that says nothing of its
context is given one, and the name of its level may be coloured in the line, but not in the record.
-/

namespace Socks5.Log

/-- How records are written. -/
structure Formatter where
  template : Text
  datePattern : Value := .null
  isColoured : Bool := false

namespace Formatter

def messageTemplate : Text := "%(message)s"

def logDates : Value := .text "%Y-%m-%d %H:%M:%S"

/-- The formatter with a template, which has to have a conversion with a name. -/
def make (template datePattern : Value) (isColoured : Bool) : Except Fault Formatter :=
  match (if template.isTrue then template else .text messageTemplate).text? with
  | none => .error ⟨.type, "no template"⟩
  | some s =>
    if Template.hasConversion s then .ok { template := s, datePattern, isColoured }
    else .error ⟨.value, "Invalid format '" ++ s ++ "' for '%' style"⟩

/-- The codes of the colours of levels' names. -/
def colours : List (Text × Nat) :=
  [("DEBUG", 36), ("INFO", 32), ("WARNING", 33), ("ERROR", 31), ("CRITICAL", 35)]

/-- A name between the codes that begin and end a colour, if it has one. -/
def coloured (name : Text) : Text :=
  match colours.lookup name with
  | some code => "\x1b[" ++ String.ofList (Nat.toDigits 10 code) ++ "m" ++ name ++ "\x1b[0m"
  | none => name

/-- Whether a template asks for the time. -/
def asksForTime : (template : Text) → Bool
  | [] => false
  | p :: r => (Text.ofString "%(asctime)").isPrefixOf (p :: r) || asksForTime r

/-- The line of a record as it stands. -/
def line (f : Formatter) (r : Record) : Except Fault Text := do
  let time ← if asksForTime f.template then (r.time f.datePattern).map some else pure none
  Template.fill (r.fields time) f.template

/-- The record as it is left behind, which has a context, and its line. The name of the level is
set for the line alone, and is put back whether there is a line or not. -/
def format (f : Formatter) (r : Record) : Record × Except Fault Text :=
  let r := { r with context := some (r.context.getD "-") }
  let levelName := r.levelName
  let r := if f.isColoured then { r with levelName := coloured r.levelName } else r
  let line := f.line r
  ({ r with levelName }, line)

end Formatter

end Socks5.Log
