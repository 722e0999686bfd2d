import Socks5.Text.CodePoint
import Socks5.Text.Unicode

/-!
# Switches

The switches that a command line may use, and what a single word of a command line is. A switch has
a long name after two hyphens, which may be cut short while it stays unique, and some also have a
short name of one letter after one hyphen. A value follows a long name after an equals sign, and a
short name directly or after an equals sign. Short names may stand side by side.
-/

namespace Socks5.Client

/-- The switches of a command line. -/
inductive Switch where
  | help
  | config
  | proxy
  | network
  | timeout
  | wait
  | data
  | hex
  | debug
  deriving DecidableEq, Repr

namespace Switch

def all : List Switch := [help, config, proxy, network, timeout, wait, data, hex, debug]

def long : Switch → Text
  | help => "help"
  | config => "config"
  | proxy => "proxy"
  | network => "network"
  | timeout => "timeout"
  | wait => "wait"
  | data => "data"
  | hex => "hex"
  | debug => "debug"

/-- The short name, if there is one. -/
def short? : Switch → Option Char
  | help => some 'h'
  | config => some 'c'
  | network => some 'n'
  | timeout => some 't'
  | wait => some 'w'
  | debug => some 'd'
  | proxy | data | hex => none

def takesValue : Switch → Bool
  | help | hex | debug => false
  | _ => true

def ofShort? (p : CodePoint) : Option Switch := all.find? fun s => s.short?.any (p = .char ·)

/-- The switches whose long names begin with the given characters, or the one that they spell. -/
def ofLong (name : Text) : List Switch :=
  match all.find? (·.long = name) with
  | some s => [s]
  | none => all.filter fun s => name.isPrefixOf s.long

end Switch

/-! ### Words -/

/-- What a word says about one switch. -/
inductive Item where
  | flag (s : Switch)
  | given (s : Switch) (value : Text)
  | bare (s : Switch)

/-- What a word of a command line is. -/
inductive Word where
  | plain (text : Text)
  | switches (items : List Item)
  | unknown
  | misused

namespace Word

/-- The switches of a word, unless one of them has a value that it must not have. -/
def ofItems : Option (List Item) → Word
  | some items => switches items
  | none => misused

/-- What a switch says to which nothing belongs but the next word. -/
def alone (s : Switch) : Item := if s.takesValue then .bare s else .flag s

/-- What a long name and the characters behind it say. -/
def longItems (s : Switch) : Text → Option (List Item)
  | [] => some [alone s]
  | _ :: value => if s.takesValue then some [.given s value] else none

/-- What a short name and the characters directly behind it say: they are the value of the switch,
or short names of further switches. -/
def glued (s : Switch) : Text → Option (List Item)
  | [] => some [alone s]
  | p :: r =>
    if s.takesValue then some [.given s (p :: r)]
    else match Switch.ofShort? p with
      | some t => (glued t r).map (.flag s :: ·)
      | none => none

/-- What the first short name of a word and the characters behind it say. An equals sign may stand
in between if something follows, and also in front of an empty value. -/
def shortItems (s : Switch) : Text → Option (List Item)
  | ['='] => if s.takesValue then some [.given s []] else none
  | '=' :: r => glued s r
  | r => glued s r

/-- Whether what follows a hyphen is a number with or without a fraction; a line feed may end it. -/
def isNumber (t : Text) : Bool :=
  let isDigit := CodePoint.satisfies fun c => (Text.decimalValue? c).isSome
  let t := if t.getLast? = some (.char '\n') then t.dropLast else t
  match t.dropWhile isDigit with
  | [] => !t.isEmpty
  | '.' :: fraction => !fraction.isEmpty && fraction.all isDigit
  | _ => false

/-- What a word is that begins with a hyphen but has no name of a switch: negative numbers and what
holds a space are no switches. -/
def unnamed (t : Text) : Word :=
  if isNumber (t.drop 1) ∨ .char ' ' ∈ t then .plain t else .unknown

/-- The word with the given text after two hyphens, unless several switches may be meant. -/
def ofLong? (t : Text) : Option Word :=
  let (name, value) := (t.takeWhile (· ≠ .char '='), t.dropWhile (· ≠ .char '='))
  match Switch.ofLong name with
  | [] => some (unnamed ('-' :: '-' :: t))
  | [s] => some (ofItems (longItems s value))
  | _ => none

/-- The word with the given text after one hyphen. -/
def ofShort (p : CodePoint) (t : Text) : Word :=
  match Switch.ofShort? p with
  | some s => ofItems (shortItems s t)
  | none => unnamed ('-' :: p :: t)

/-- The word that a text is, unless it may mean several switches. -/
def ofText? : Text → Option Word
  | '-' :: '-' :: t => ofLong? t
  | '-' :: p :: t => some (ofShort p t)
  | t => some (.plain t)

end Word

end Socks5.Client
