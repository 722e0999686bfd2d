import Socks5.Yaml.Token.Cursor

/-!
# Cutting a text into tokens

The tokens of a text in their order. A scalar may turn out to be a key only when the colon behind it
is seen; then the token for a key is put in front of it. Blocks begin where the indentation grows
and end where it shrinks, except inside brackets and braces.
-/

namespace Socks5.Yaml

/-- A text that was cut into tokens. -/
structure Cut where
  tokens : List Token
  /-- Why there are no more of them, unless the text ends there. -/
  error : Option YamlError

/-- A place at which a key may have begun. -/
structure PossibleKey where
  position : Nat
  /-- Whether it must be a key, because nothing else may stand at this indentation. -/
  isRequired : Bool
  index : Nat
  line : Nat
  column : Nat

/-- A text that has been cut up to the cursor. -/
structure Lexer where
  cursor : Cursor
  tokens : List Token := []
  depth : Nat := 0
  indent : Int := -1
  /-- The indentations of the blocks around it, the innermost first. -/
  outer : List Int := []
  /-- The places at which keys may have begun, by depth. -/
  keys : List (Nat × PossibleKey) := []
  keyAllowed : Bool := true

namespace Lexer

/-! ### Blocks and keys -/

def push (t : Token) (l : Lexer) : Lexer := { l with tokens := t :: l.tokens }

/-- Puts tokens at a position among those that stand there. -/
def insert (position : Nat) (ts : List Token) (l : Lexer) : Lexer :=
  let behind := l.tokens.length - position
  { l with tokens := l.tokens.take behind ++ ts.reverse ++ l.tokens.drop behind }

/-- Ends the blocks that are indented more than a column. -/
def endBlocks (column : Int) : (outer : List Int) → Lexer → Lexer
  | [], l => l
  | i :: outer, l =>
    if l.indent > column then
      endBlocks column outer { l with tokens := .blockEnd :: l.tokens, indent := i, outer }
    else l

/-- Ends the blocks that do not reach a column; brackets and braces hold blocks open. -/
def unwind (column : Int) (l : Lexer) : Lexer :=
  if l.depth = 0 then l.endBlocks column l.outer else l

/-- Begins a block at a column unless one has begun there. -/
def indentTo (column : Nat) (start : Token) (l : Lexer) : Lexer :=
  if l.indent < column then
    { l with tokens := start :: l.tokens, indent := column, outer := l.indent :: l.outer }
  else l

/-- The place at which a key may have begun at the present depth. -/
def key? (l : Lexer) : Option PossibleKey := (l.keys.find? (·.1 = l.depth)).map (·.2)

/-- Forgets a possible key of the present depth, which must not have been required. -/
def dropKey (l : Lexer) : Except YamlError Lexer :=
  if l.key?.any (·.isRequired) then .error .malformed
  else .ok { l with keys := l.keys.filter (·.1 ≠ l.depth) }

/-- Remembers that a key may begin here. -/
def saveKey (l : Lexer) : Except YamlError Lexer := do
  if l.keyAllowed then
    let l ← l.dropKey
    let c := l.cursor
    let isRequired := l.depth = 0 ∧ l.indent = c.column
    let key : PossibleKey := ⟨l.tokens.length, isRequired, c.index, c.line, c.column⟩
    return { l with keys := (l.depth, key) :: l.keys }
  else return l

/-- Whether a possible key lies too far back: on another line or more than 1024 characters. -/
def isStale (c : Cursor) (k : PossibleKey) : Bool := k.line ≠ c.line ∨ k.index + 1024 < c.index

/-- Forgets possible keys that lie too far back, none of which must have been required. -/
def dropStale (l : Lexer) : Except YamlError Lexer :=
  let stale := l.keys.filter fun k => isStale l.cursor k.2
  if stale.any (·.2.isRequired) then .error .malformed
  else .ok { l with keys := l.keys.filter fun k => !isStale l.cursor k.2 }

/-! ### Single tokens -/

/-- Adds a token of so many characters. -/
def mark (t : Token) (length : Nat) (l : Lexer) : Lexer :=
  { l with tokens := t :: l.tokens, cursor := l.cursor.forward length }

/-- Adds a token that was read with the cursor. -/
def scanned (r : Except YamlError (Token × Cursor)) (l : Lexer) : Except YamlError Lexer := do
  let (t, cursor) ← r
  return { l with tokens := t :: l.tokens, cursor }

def finish (l : Lexer) : Except YamlError Lexer := do
  let l ← (l.unwind (-1)).dropKey
  return l.push .streamEnd

def addDirective (l : Lexer) : Except YamlError Lexer := do
  let l ← (l.unwind (-1)).dropKey
  scanned l.cursor.directive { l with keyAllowed := false }

/-- Adds the beginning or end of a document. -/
def addMarker (t : Token) (l : Lexer) : Except YamlError Lexer := do
  let l ← (l.unwind (-1)).dropKey
  return mark t 3 { l with keyAllowed := false }

def openFlow (t : Token) (l : Lexer) : Except YamlError Lexer := do
  let l ← l.saveKey
  return mark t 1 { l with depth := l.depth + 1, keyAllowed := true }

def closeFlow (t : Token) (l : Lexer) : Except YamlError Lexer := do
  let l ← l.dropKey
  if l.depth = 0 then .error .malformed
  else return mark t 1 { l with depth := l.depth - 1, keyAllowed := false }

def addComma (l : Lexer) : Except YamlError Lexer := do
  let l ← { l with keyAllowed := true }.dropKey
  return l.mark .flowEntry 1

/-- Begins a block at the cursor where keys are allowed; inside brackets nothing is begun. -/
def beginBlock (start : Token) (l : Lexer) : Except YamlError Lexer :=
  if l.depth ≠ 0 then .ok l
  else if l.keyAllowed then .ok (l.indentTo l.cursor.column start)
  else .error .malformed

/-- Adds a hyphen in front of an item. -/
def addEntry (l : Lexer) : Except YamlError Lexer := do
  let l ← l.beginBlock .blockSequenceStart
  let l ← { l with keyAllowed := true }.dropKey
  return l.mark .blockEntry 1

/-- Adds a question mark in front of a key. -/
def addKey (l : Lexer) : Except YamlError Lexer := do
  let l ← l.beginBlock .blockMappingStart
  let l ← { l with keyAllowed := l.depth = 0 }.dropKey
  return l.mark .key 1

/-- Adds a colon in front of a value; what stands before may become a key by that. -/
def addValue (l : Lexer) : Except YamlError Lexer :=
  match l.key? with
  | some k =>
    -- The first key of a block mapping begins it, where the key itself began.
    let begins := l.depth = 0 ∧ l.indent < k.column
    let l := l.insert k.position (if begins then [.blockMappingStart, .key] else [.key])
    let l := if begins then { l with indent := k.column, outer := l.indent :: l.outer } else l
    .ok (mark .value 1 { l with keys := l.keys.filter (·.1 ≠ l.depth), keyAllowed := false })
  | none => do
    let l ← l.beginBlock .blockMappingStart
    let l ← { l with keyAllowed := l.depth = 0 }.dropKey
    return l.mark .value 1

/-- Adds the use or the definition of a name. -/
def addName (f : String → Token) (l : Lexer) : Except YamlError Lexer := do
  let l ← l.saveKey
  let (name, cursor) ← l.cursor.anchorName
  return { l with tokens := f name :: l.tokens, cursor, keyAllowed := false }

/-- Adds a token that may be or begin a key. -/
def addScanned (f : Cursor → Except YamlError (Token × Cursor)) (l : Lexer) :
    Except YamlError Lexer := do
  let l ← l.saveKey
  scanned (f l.cursor) { l with keyAllowed := false }

def addBlockScalar (l : Lexer) : Except YamlError Lexer := do
  let l ← { l with keyAllowed := true }.dropKey
  scanned (l.cursor.blockScalar l.indent) l

/-- Adds a plain scalar; a key may follow it if it ends behind a line break. -/
def addPlain (l : Lexer) : Except YamlError Lexer := do
  let l ← l.saveKey
  let c := l.cursor
  let (cs, keyAllowed, cursor) :=
    c.plainRuns (l.depth ≠ 0) (l.indent + 1) (c.rest.length + 1) [] false
  return { l with tokens := .scalar (.ofChars cs) true :: l.tokens, cursor, keyAllowed }

/-! ### All tokens -/

/-- Leaves out spaces, comments and line breaks; behind a line break a key may begin. -/
def skipBlanks : (fuel : Nat) → Lexer → Lexer
  | 0, l => l
  | fuel + 1, l =>
    let c := l.cursor.skipSpaces
    let c := if c.here = '#' then c.skipLine else c
    match c.lineBreak? with
    | some (_, c) =>
      skipBlanks fuel { l with cursor := c, keyAllowed := l.keyAllowed || l.depth = 0 }
    | none => { l with cursor := c }

/-- Whether a plain scalar may begin with a character, given the next one. -/
def beginsPlain (inFlow : Bool) (x next : Char) : Bool :=
  (!isBlankOrEnd x ∧ x ∉ "-?:,[]\x7b\x7d#&*!|>'\"%@`".toList) ∨
    (!isBlankOrEnd next ∧ (x = '-' ∨ (!inFlow ∧ (x = '?' ∨ x = ':'))))

/-- Adds the token at the cursor, which is not the end of the text. -/
def addToken (l : Lexer) : Except YamlError Lexer :=
  let c := l.cursor
  let x := c.here
  let next := c.peek 1
  let inFlow : Bool := l.depth ≠ 0
  if x = '%' ∧ c.column = 0 then l.addDirective
  else if x = '-' ∧ c.column = 0 ∧ c.atMarker then l.addMarker .documentStart
  else if x = '.' ∧ c.column = 0 ∧ c.atMarker then l.addMarker .documentEnd
  else if x = '[' then l.openFlow .flowSequenceStart
  else if x = '\x7b' then l.openFlow .flowMappingStart
  else if x = ']' then l.closeFlow .flowSequenceEnd
  else if x = '\x7d' then l.closeFlow .flowMappingEnd
  else if x = ',' then l.addComma
  else if x = '-' ∧ isBlankOrEnd next then l.addEntry
  else if x = '?' ∧ (inFlow ∨ isBlankOrEnd next) then l.addKey
  else if x = ':' ∧ (inFlow ∨ isBlankOrEnd next) then l.addValue
  else if x = '*' then l.addName .alias
  else if x = '&' then l.addName .anchor
  else if x = '!' then l.addScanned Cursor.tag
  else if (x = '|' ∨ x = '>') ∧ !inFlow then l.addBlockScalar
  else if x = '\'' ∨ x = '"' then l.addScanned Cursor.quotedScalar
  else if beginsPlain inFlow x next then l.addPlain
  else .error .malformed

/-- Adds the next token, and what stands in front of it. -/
def addNext (l : Lexer) : Except YamlError Lexer := do
  let l ← (l.skipBlanks (l.cursor.rest.length + 1)).dropStale
  let l := l.unwind l.cursor.column
  if l.cursor.here = endMark then l.finish else l.addToken

/-- The tokens in front of the first one that may still turn out to be a key. -/
def settled (l : Lexer) : List Token :=
  let pending := l.keys.filter fun k => !isStale l.cursor k.2
  l.tokens.reverse.take (pending.foldl (fun n k => min n k.2.position) l.tokens.length)

/-- The tokens up to the end, or up to what cannot be read. -/
def cut : (fuel : Nat) → Lexer → Cut
  | 0, l => ⟨l.settled, some .malformed⟩
  | fuel + 1, l => match l.addNext with
    | .error e => ⟨l.settled, some e⟩
    | .ok l =>
      if l.tokens.head? = some .streamEnd then ⟨l.tokens.reverse, none⟩ else cut fuel l

end Lexer

def Cut.ofChars (cs : List Char) : Cut :=
  if !cs.all isAllowed then ⟨[], some .malformed⟩
  else
    let cursor : Cursor := { rest := cs }
    let cursor := if cursor.here = byteOrderMark then cursor.step else cursor
    Lexer.cut (cs.length + 2) { cursor }

end Socks5.Yaml
