import Socks5.Yaml.Tag
import Socks5.Yaml.Style
import Socks5.Value.Text
import Socks5.Text.Base64
import Socks5.Text.Order

/-!
# Written documents

The text of a value. Every item and every entry has a line of its own, entries are sorted by their
keys, and what is nested stands two columns further to the right, but for the items of a sequence
that is the value of an entry.
-/

namespace Socks5.Yaml

/-! ### Nodes of values -/

/-- A node of a written document. -/
inductive Node where
  | scalar (tag : Tag) (text : Text)
  | sequence (tag : Tag) (items : List Node)
  | mapping (tag : Tag) (entries : List (Node × Node))

def tupleTag : Tag := .other (Tag.known ++ "python/tuple")

/-- The tag of values that are made by calling something by its name. -/
def callTag (name : String) : Tag := .other (Tag.known ++ "python/object/apply:" ++ name)

/-- The tag of values that are made of parts by their type's name. -/
def newTag (name : String) : Tag := .other (Tag.known ++ "python/object/new:" ++ name)

/-- The tag of values whose parts have names. -/
def partsTag (name : String) : Tag := .other (Tag.known ++ "python/object:" ++ name)

/-- The text of a floating-point number, which always has a point. -/
def floatText (x : Float) : String :=
  if Decimal.isNaN x then ".nan"
  else if x == Decimal.infinity then ".inf"
  else if x == Decimal.negInfinity then "-.inf"
  else
    let cs := Decimal.chars x
    if '.' ∈ cs then String.ofList cs
    else String.ofList (cs.flatMap fun c => if c = 'e' then ['.', '0', 'e'] else [c])

namespace Node

def keyText? : Node → Option Text
  | .scalar .str text => some text
  | _ => none

/-- The text by which an entry is put in order. -/
def sortKey (e : Node × Node) : Text := e.1.keyText?.getD []

/-- Puts an entry in front of the first one that its key does not come after. -/
def insertSorted (e : Node × Node) : List (Node × Node) → List (Node × Node)
  | [] => [e]
  | f :: rest => if Text.notAfter (sortKey e) (sortKey f) then e :: f :: rest
    else f :: insertSorted e rest

/-- Entries in the order of their keys, if those are texts. -/
def sorted (entries : List (Node × Node)) : List (Node × Node) :=
  if entries.all fun e => e.1.keyText?.isSome then entries.foldr insertSorted [] else entries

def ofText (t : Text) : Node := .scalar .str t

/-- The node that denotes an IP address. -/
def ofIp : Ip → Node
  | .v4 a => .sequence (callTag "ipaddress.IPv4Address") [ofText (Ip.v4 a).text]
  | .v6 a => .sequence (callTag "ipaddress.IPv6Address") [ofText (Ip.v6 a).text]

/-- The node that denotes the host of an address. -/
def ofHost : Host → Node
  | .ipv4 a => ofIp (.v4 a)
  | .ipv6 a _ => ofIp (.v6 a)
  | .name n => ofText n.text

def ofInt (n : Int) : Node := .scalar .int (.ofChars (Text.signedNumeral n))

def null : Node := .scalar .null "null"

mutual

/-- The node that denotes a value. Nothing stands for a value that is no finite tree. -/
def ofValue : Value → Node
  | .null => null
  | .bool b => .scalar .bool (if b then "true" else "false")
  | .int n => ofInt n
  | .float x => .scalar .float (floatText x)
  | .text s => ofText s
  | .bytes bs => .scalar .binary (.ofChars (Text.Base64.encodeLines (bs.length + 1) bs))
  | .list items => .sequence .seq (ofItems items)
  | .tuple items => .sequence tupleTag (ofItems items)
  | .dict entries => .mapping .map (sorted (ofEntries entries))
  | .set items => .mapping .set (sorted ((ofItems items).map fun n => (n, null)))
  | .date d => .scalar .timestamp (.ofChars d.chars)
  | .moment m => .scalar .timestamp (.ofChars (m.chars ' '))
  | .ip a => ofIp a
  | .address a =>
    .mapping (partsTag "socks_protocol.core.SocksAddr")
      [(ofText "host", ofHost a.host), (ofText "port", ofInt a.port.toNat)]
  | .endpoint a port =>
    .mapping (partsTag "socks_protocol.core.UDPAddr")
      [(ofText "ip", ofIp a), (ofText "port", ofValue port)]
  | .named s => .sequence (newTag "socks_protocol.core.UDPFqdnAddr") [ofText s]
  | .knot _ _ | .link _ => null

def ofItems : List Value → List Node
  | [] => []
  | v :: rest => ofValue v :: ofItems rest

def ofEntries : List (Value × Value) → List (Node × Node)
  | [] => []
  | (k, v) :: rest => (ofValue k, ofValue v) :: ofEntries rest

end

/-! ### Keys -/

def tagText (t : Tag) : List Char :=
  match t with
  | .other uri =>
    if Tag.known.toList.isPrefixOf uri.toList then
      '!' :: '!' :: uri.toList.drop Tag.known.length
    else '!' :: '<' :: uri.toList ++ ['>']
  | t => match Tag.table.find? (·.2 = t) with
    | some (name, _) => '!' :: '!' :: name.toList
    | none => []

/-- Whether a node may stand in front of a colon: it is short and in one line. -/
def isSimpleKey : Node → Bool
  | .scalar t text =>
    (tagText t).length + text.length < 128 ∧ !text.isEmpty ∧
      !text.any (CodePoint.satisfies isScalarBreak)
  | .sequence _ items => items.isEmpty
  | .mapping _ entries => entries.isEmpty

/-! ### Writing -/

/-- Where a node stands. -/
inductive Place where
  | document
  | item
  | key
  /-- It is the value of an entry, or a key behind a mark of its own. -/
  | part
  deriving DecidableEq, Repr

def deeper : (column : Option Nat) → Nat
  | none => 0
  | some n => n + 2

/-- Writes a mark with a space in front of it if need be. -/
def putMark (cs : List Char) (isApart isFresh : Bool) (p : Page) : Page :=
  p.setApart.mark cs isApart isFresh

/-- Writes the tag of a node, unless it goes without saying. -/
def putTag (isImplicit : Bool) (t : Tag) (p : Page) : Page :=
  if isImplicit then p else putMark (tagText t) false false p

def putScalar (place : Place) (column : Option Nat) (t : Tag) (text : Text) (p : Page) : Page :=
  let style := Style.choose (place = .key) t text
  let isImplicit : Bool :=
    if style = .plain then text.chars?.any (Tag.ofPlain · = t) else t = .str
  let p := putTag isImplicit t p
  let p := p.scalar style (place ≠ .key) ((column.getD 0) + 2) text
  { p with isOpen := style = .plain ∧ place = .document }

def putEmpty (opening closing : Char) (p : Page) : Page :=
  (putMark [opening] true false p).mark [closing] false false

mutual

/-- Writes a node at a place in a block that begins in a column. -/
def put (place : Place) (column : Option Nat) : Node → Page → Page
  | .scalar t text, p => putScalar place column t text p
  | .sequence t items, p =>
    let p := putTag (t = .seq) t p
    if items.isEmpty then putEmpty '[' ']' p
    else if place = .part ∧ !p.isFresh then putItems (column.getD 0) items p
    else putItems (deeper column) items p
  | .mapping t entries, p =>
    let p := putTag (t = .map) t p
    if entries.isEmpty then putEmpty '\x7b' '\x7d' p
    else putEntries (deeper column) entries p

def putItems (column : Nat) : List Node → Page → Page
  | [], p => p
  | n :: rest, p =>
    putItems column rest (put .item (some column) n (putMark ['-'] false true (p.indent column)))

/-- Writes entries; a key that may not stand in front of a colon has a mark of its own. -/
def putEntries (column : Nat) : List (Node × Node) → Page → Page
  | [], p => p
  | (k, v) :: rest, p =>
    let p := p.indent column
    let p :=
      if k.isSimpleKey then (put .key (some column) k p).mark [':'] false false
      else
        let p := put .part (some column) k (putMark ['?'] false true p)
        putMark [':'] false true (p.indent column)
    putEntries column rest (put .part (some column) v p)

end

def render (n : Node) : List Char :=
  let p := (put .document none n {}).indent 0
  (if p.isOpen then (putMark ['.', '.', '.'] false false p).indent 0 else p).chars

end Node

def write (v : Value) : String := String.ofList (Node.ofValue v).render

end Socks5.Yaml
