import Socks5.Log.Template
import Socks5.Calendar.Pattern

/-!
# Records

A record is one event that was told to the log. Levels are numbers, some of which have names.
-/

namespace Socks5.Log

/-! ### Levels -/

def levels : List (Int × String) :=
  [(50, "CRITICAL"), (40, "ERROR"), (30, "WARNING"), (20, "INFO"), (10, "DEBUG"), (0, "NOTSET")]

/-- The level of what goes as it should. -/
def infoLevel : Int := 20

/-- The level from which on records are written where nobody says how. -/
def warningLevel : Int := 30

def levelName (level : Int) : String :=
  match levels.lookup level with
  | some name => name
  | none => "Level " ++ String.ofList (Text.signedNumeral level)

/-- The level with a name in capital letters; any other name is that of the usual level. -/
def levelOfName (name : String) : Except Fault Int :=
  if name = "BASIC_FORMAT" then
    .error ⟨.value, "Unknown level: '%(levelname)s:%(name)s:%(message)s'"⟩
  else if name = "_STYLES" then .error ⟨.type, "no level"⟩
  else if name = "WARN" then .ok warningLevel
  else if name = "FATAL" then .ok 50
  else match levels.find? (·.2 = name) with
    | some (level, _) => .ok level
    | none => .ok infoLevel

def levelOf (v : Value) : Except Fault Int :=
  match v with
  | .bytes _ => .error ⟨.type, "no name"⟩
  | v => match v.text? with
    | some s => match s.chars? with
      | some cs => levelOfName (String.ofList (cs.flatMap Text.upperChar))
      | none => .ok infoLevel
    | none => .error ⟨.attribute, "no name"⟩

/-! ### Records -/

/-- The channel that has no name of its own. -/
def rootChannel : Text := "root"

/-- An event that was told to the log. -/
structure Record where
  channel : Text
  level : Int
  levelName : Text := Log.levelName level
  message : Text
  second : Int
  context : Option Text := none

namespace Record

/-- The time of a record after a pattern, or else to the thousandth of a second. -/
def time (r : Record) (pattern : Value) : Except Fault (List Char) :=
  if !pattern.isTrue then
    .ok (Calendar.write r.second "%Y-%m-%d %H:%M:%S".toList ++ ",000".toList)
  else match pattern.text? with
    | none => .error ⟨.type, "no pattern"⟩
    | some t => match t.encodable with
      | .error e => .error (.ofEncoding e)
      | .ok s =>
        if Char.ofNat 0 ∈ s.toList then .error ⟨.value, "embedded null character"⟩
        else .ok (Calendar.write r.second s.toList)

/-- The fields of a record, among them its time if it is given. -/
def fields (r : Record) (time : Option (List Char)) : List (Text × Value) :=
  let second : Value := match floatOfInteger r.second with
    | .ok x => .float x
    | .error _ => .null
  let always : List (Text × Value) :=
    [("name", .text r.channel), ("msg", .text r.message), ("args", .tuple []),
      ("levelname", .text r.levelName), ("levelno", .int r.level), ("exc_info", .null),
      ("exc_text", .null), ("stack_info", .null), ("created", second), ("msecs", .float 0),
      ("threadName", .text "MainThread"), ("processName", .text "MainProcess"),
      ("message", .text r.message)]
  always ++ (time.map fun cs => (("asctime" : Text), Value.text (.ofChars cs))).toList ++
    (r.context.map fun c => (("context" : Text), Value.text c)).toList

end Record

end Socks5.Log
