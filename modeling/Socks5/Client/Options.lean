import Socks5.Client.Switch
import Socks5.Decimal.Reading
import Socks5.Fault
import Socks5.Frame

/-!
# Options

What a command line asks for: one target, and switches with or without values in any order.
Everything behind two hyphens that stand alone is no switch.
-/

namespace Socks5.Client

/-- What a command line asks for. -/
structure Options where
  target : Text
  config : Text := "config.yaml"
  /-- The address of the proxy; an empty one leaves that to the settings. -/
  proxy : Text := []
  network : Network := .tcp
  timeout : Option Float := none
  wait : Float := 5
  data : Text := []
  isHex : Bool := false
  isDebug : Bool := false

/-- Why a command line does not lead to a run. -/
inductive Refusal where
  | help
  | misuse
  deriving DecidableEq, Repr

/-- A command line that is being read. -/
structure Draft where
  options : Options := { target := [] }
  hasTarget : Bool := false
  endsWithTarget : Bool := false
  hasSurplus : Bool := false

namespace Draft

/-! ### Single words -/

/-- The first plain word is the target, and there is no use for another one. -/
def addPlain (text : Text) (d : Draft) : Draft :=
  if d.hasTarget then { d with endsWithTarget := false, hasSurplus := true }
  else { d with options := { d.options with target := text }, hasTarget := true
                endsWithTarget := true }

/-- Turns a switch without a value on. -/
def turnOn (s : Switch) (d : Draft) : Except Refusal Draft :=
  match s with
  | .hex => .ok { d with options := { d.options with isHex := true } }
  | .debug => .ok { d with options := { d.options with isDebug := true } }
  | _ => .error .help

/-- The number of seconds that a value stands for. -/
def secondsOf (value : Text) : Except Refusal Float :=
  match Decimal.float? value.numeralChars with
  | some x => .ok x
  | none => .error .misuse

def give (s : Switch) (value : Text) (d : Draft) : Except Refusal Draft := do
  let o := d.options
  let o ← match s with
    | .config => pure { o with config := value }
    | .proxy => pure { o with proxy := value }
    | .network => match Network.ofName? value with
      | some network => pure { o with network }
      | none => .error .misuse
    | .timeout => do pure { o with timeout := some (← secondsOf value) }
    | .wait => do pure { o with wait := ← secondsOf value }
    | .data => pure { o with data := value }
    | .help | .hex | .debug => .error .misuse
  return { d with options := o }

/-- Takes in what a word says about one switch. -/
def addItem (d : Draft) : Item → Except Refusal Draft
  | .flag s => d.turnOn s
  | .given s value => d.give s value
  | .bare _ => .error .misuse

/-! ### The whole line -/

/-- The last switch of a word, if it takes its value from the next word. -/
def bareSwitch? (items : List Item) : Option Switch :=
  match items.getLast? with
  | some (.bare s) => some s
  | _ => none

/-- Reads words in order. A switch that takes its value from the next word needs a plain one. -/
def readWords : List Word → Draft → Except Refusal Draft
  | [], d => .ok d
  | .plain text :: rest, d => readWords rest (d.addPlain text)
  | .misused :: _, _ => .error .misuse
  | .unknown :: rest, d => readWords rest { d with endsWithTarget := false, hasSurplus := true }
  | .switches items :: rest, d =>
    let d := { d with endsWithTarget := false }
    match bareSwitch? items with
    | none => items.foldlM addItem d >>= readWords rest
    | some s => match rest with
      | .plain value :: rest =>
        (items.dropLast ++ [Item.given s value]).foldlM addItem d >>= readWords rest
      | _ => .error .misuse

/-- Takes in what stands behind two hyphens: the target, unless it stands just before them. -/
def addRest (rest : List Text) (d : Draft) : Draft :=
  match rest with
  | [] => { d with hasSurplus := d.hasSurplus || !d.endsWithTarget }
  | text :: more => if more.isEmpty then d.addPlain text else { d with hasSurplus := true }

/-- The options of a draft with a target and without words that mean nothing. -/
def finish (d : Draft) : Except Refusal Options :=
  if d.hasTarget ∧ !d.hasSurplus then .ok d.options else .error .misuse

end Draft

/-- The fault of data that are no hexadecimal digits from a position on. -/
def notHexadecimal (position : Nat) : Fault :=
  ⟨.value, "non-hexadecimal number found in fromhex() arg at position " ++
    String.ofList (Nat.toDigits 10 position)⟩

namespace Options

def ofWords (words : List Text) : Except Refusal Options := do
  let front := words.takeWhile (· ≠ ("--" : Text))
  match front.mapM Word.ofText? with
  | none => .error .misuse
  | some front =>
    let d ← Draft.readWords front {}
    match words.dropWhile (· ≠ ("--" : Text)) with
    | [] => d.finish
    | _ :: rest => (d.addRest rest).finish

/-- The octets to send: what the hexadecimal digits of the data stand for, or else the data
themselves. -/
def payload (o : Options) : Except Fault Bytes :=
  if o.isHex then (Bytes.ofHexText o.data).mapError notHexadecimal
  else (o.data.encodable.map Bytes.ofText).mapError .ofEncoding

end Options

end Socks5.Client
