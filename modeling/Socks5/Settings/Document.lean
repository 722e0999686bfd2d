import Socks5.Files
import Socks5.Settings.Log
import Socks5.Yaml.Document
import Socks5.Yaml.Layout

/-!
# Settings files

A settings file is a YAML document whose value is a mapping with a section for the dialer and one
for the log. A file that is missing or malformed counts as an empty one.
-/

namespace Socks5.Settings

/-- A text with every line break written as a line feed. -/
def lineFeeds : List Char → List Char
  | '\r' :: '\n' :: r => '\n' :: lineFeeds r
  | '\r' :: r => '\n' :: lineFeeds r
  | c :: r => c :: lineFeeds r
  | [] => []

/-- The value of the document that octets stand for; nothing counts as an empty mapping. -/
def ofBytes (bs : Bytes) : Except Fault Value :=
  match Bytes.toText? bs with
  | none => .error ⟨.decoding, ""⟩
  | some s => match Yaml.parse (lineFeeds s.toList) with
    -- Not only an empty document is replaced, but every value that counts as false.
    | .ok v => .ok (if v.isTrue then v else .dict [])
    | .error .malformed => .ok (.dict [])
    | .error (.fault f) => .error f

def load (fs : Files) (path : Text) : Except Fault Value :=
  match fs.read path with
  | .ok bs => ofBytes bs
  | .error f => if f.kind = .fileMissing then .ok (.dict []) else .error f

/-- A section of the value of a settings file. -/
def sectionOf (v : Value) (key : Text) : Except Fault Value :=
  match v.opened with
  | .dict entries => .ok (Value.entryOr entries key .null)
  | _ => .error ⟨.attribute, "no section"⟩

/-- The settings of the dialer in the value of a settings file. -/
def dialer (env : Environment) (v : Value) : Except Fault DialerSettings :=
  sectionOf v "dialer" >>= DialerSettings.ofValue env

/-- The settings of the log in the value of a settings file. -/
def log (env : Environment) (v : Value) : Except Fault LogSettings :=
  sectionOf v "logging" >>= LogSettings.ofValue env

/-- The settings of the dialer in a settings file. -/
def loadDialer (env : Environment) (fs : Files) (path : Text) : Except Fault DialerSettings :=
  load fs path >>= dialer env

/-- The value whose section for the dialer holds the given settings. -/
def ofDialer (s : DialerSettings) : Except Fault Value := do
  return .dict [(.text "dialer", ← s.toValue)]

/-- Writes a value to a settings file. -/
def save (fs : Files) (path : Text) (v : Value) : Except Fault Files :=
  fs.write path (Bytes.ofText (Yaml.write v))

end Socks5.Settings
