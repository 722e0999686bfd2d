import Socks5.Value.Conversion
import Socks5.Value.Equality
import Socks5.Value.Knot
import Socks5.Text.Fields

/-!
# Settings of a dialer

Which proxy to use, how long to wait, and where connections start from. Settings come from a
mapping, and some of them from the environment, which prevails.
-/

namespace Socks5

abbrev Environment := List (String × Text)

namespace Environment

/-- The value of a variable, or another value if it is not set. -/
def valueOr (env : Environment) (name : String) (value : Value) : Value :=
  match env.lookup name with
  | some s => .text s
  | none => value

end Environment

namespace Value

/-- The entries of a section of settings: an empty one has none. -/
def sectionEntries (v : Value) : Except Fault (List (Value × Value)) :=
  if !v.isTrue then .ok []
  else match v.opened with
    | .dict entries => .ok entries
    | _ => .error ⟨.attribute, "no section"⟩

/-- The entry of a mapping under a text, or another value if there is none. -/
def entryOr (entries : List (Value × Value)) (key : Text) (value : Value) : Value :=
  (lookup? key entries).getD value

end Value

/-- The settings of a dialer. -/
structure DialerSettings where
  proxy : Value := .text "127.0.0.1:1080"
  /-- How many seconds a transport connection may take to open. -/
  timeout : Value := .float 5
  /-- How many seconds each step of a handshake may take. -/
  stepTimeout : Value := .float 10
  interface : Value := .null
  source : Value := .null

namespace DialerSettings

/-! ### Reading -/

/-- The seconds that a value stands for; nothing stands for no limit. -/
def secondsOf (v : Value) : Except Fault Value :=
  match v with
  | .null => .ok .null
  | v => if v.text? = some [] then .ok .null else v.toFloat.map .float

def isBracket (c : CodePoint) : Bool := c = '[' ∨ c = ']'

/-- The host and port of two items. -/
def sourceOfItems : List Value → Except Fault Value
  | [host, port] => do return .tuple [.text host.plain, .int (← port.toInteger)]
  | items =>
    if items.length < 2 then
      .error ⟨.value, "not enough values to unpack (expected 2, got " ++
        String.ofList (Nat.toDigits 10 items.length) ++ ")"⟩
    else .error ⟨.value, "too many values to unpack (expected 2)"⟩

/-- The host and port that a text has around its last colon; brackets around the host mean
nothing. -/
def sourceOfText (t : Text) : Except Fault Value :=
  match Text.splitLast? (.char ':') t with
  | none => .error ⟨.value, "invalid local_address: " ++ t⟩
  | some (host, port) => do
    return .tuple [.text (Text.trimBoth isBracket host), .int (← integerOfText port)]

/-- The host and port where connections start from. -/
def sourceOf (v : Value) : Except Fault Value :=
  if !v.isTrue then .ok .null
  else match v.opened with
    | .list items => sourceOfItems items
    | .tuple items => sourceOfItems items
    | _ => sourceOfText v.plain

/-- The settings in a section, after what the environment says. -/
def ofValue (env : Environment) (v : Value) : Except Fault DialerSettings := do
  let entries ← v.sectionEntries
  let std : DialerSettings := {}
  let get := Value.entryOr entries
  let proxy := env.valueOr "SOCKS_PROXY" (get "proxy" std.proxy)
  let timeout ← secondsOf (env.valueOr "SOCKS_TIMEOUT" (get "timeout" std.timeout))
  let stepTimeout ← secondsOf
    (env.valueOr "SOCKS_HANDSHAKE_TIMEOUT" (get "handshake_timeout" std.stepTimeout))
  let interface := env.valueOr "SOCKS_INTERFACE" (get "interface" .null)
  let source ← sourceOf (get "local_address" .null)
  return { proxy, timeout, stepTimeout, source
           interface := if interface.isTrue then interface else .null }

/-! ### Writing -/

/-- The two parts of a value that has a host and a port in front. -/
def sourceParts (v : Value) : Except Fault (Value × Value) :=
  match v.opened with
  | .list (host :: port :: _) => .ok (host, port)
  | .tuple (host :: port :: _) => .ok (host, port)
  | .list _ => .error ⟨.index, "list index out of range"⟩
  | .tuple _ => .error ⟨.index, "tuple index out of range"⟩
  | v => match v.text? with
    | some (a :: b :: _) => .ok (.text [a], .text [b])
    | some _ => .error ⟨.index, "string index out of range"⟩
    | none => .error ⟨.type, "no parts"⟩

/-- The section that holds the settings. -/
def toValue (s : DialerSettings) : Except Fault Value := do
  let entry (key : Text) (v : Value) : Value × Value := (.text key, v)
  let source ←
    if s.source.isTrue then do
      let (host, port) ← sourceParts s.source
      pure [entry "local_address" (.text (host.plain ++ ":" ++ port.plain))]
    else pure []
  return .dict (
    [entry "proxy" s.proxy, entry "timeout" s.timeout, entry "handshake_timeout" s.stepTimeout] ++
      (if s.interface.isTrue then [entry "interface" s.interface] else []) ++ source)

def same (s t : DialerSettings) : Bool :=
  s.proxy.same t.proxy ∧ s.timeout.same t.timeout ∧ s.stepTimeout.same t.stepTimeout ∧
    s.interface.same t.interface ∧ s.source.same t.source

end DialerSettings

end Socks5
