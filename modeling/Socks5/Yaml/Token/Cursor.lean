import Socks5.Yaml.Token
import Socks5.Value.Conversion
import Socks5.Text.Numeral
import Socks5.Bytes

/-!
# Reading the parts of tokens

A cursor is a place in a text, with its line and its column. The functions here read what stands at
the cursor as a part of a token: names, tags, quoted, plain and block scalars.
-/

namespace Socks5.Yaml

/-- A place in a text. -/
structure Cursor where
  rest : List Char
  index : Nat := 0
  line : Nat := 0
  column : Nat := 0

namespace Cursor

/-! ### Moving -/

def peek (k : Nat) (c : Cursor) : Char := (c.rest.drop k).headD endMark

def here (c : Cursor) : Char := c.rest.headD endMark

def step (c : Cursor) : Cursor :=
  match c.rest with
  | [] => c
  | x :: r =>
    if isBreak x ∧ ¬ (x = '\r' ∧ r.head? = some '\n') then
      ⟨r, c.index + 1, c.line + 1, 0⟩
    else ⟨r, c.index + 1, c.line, if x = byteOrderMark then c.column else c.column + 1⟩

def forward : Nat → Cursor → Cursor
  | 0, c => c
  | n + 1, c => forward n c.step

/-- The characters of a class at the cursor. -/
def span (p : Char → Bool) (c : Cursor) : List Char × Cursor :=
  let found := c.rest.takeWhile p
  (found, c.forward found.length)

def skipSpaces (c : Cursor) : Cursor := (c.span (· = ' ')).2

/-- Leaves out the rest of the line. -/
def skipLine (c : Cursor) : Cursor := (c.span fun x => !isBreakOrEnd x).2

/-- Reads a line break if there is one; most breaks count as a line feed. -/
def lineBreak? (c : Cursor) : Option (Char × Cursor) :=
  if isBreak c.here then
    if c.here.toNat = 0x2028 ∨ c.here.toNat = 0x2029 then some (c.here, c.step)
    else if c.here = '\r' ∧ c.peek 1 = '\n' then some ('\n', c.forward 2)
    else some ('\n', c.step)
  else none

/-- Whether a marker of a document, three hyphens or three dots, stands here. -/
def atMarker (c : Cursor) : Bool :=
  (c.rest.take 3 = ['-', '-', '-'] ∨ c.rest.take 3 = ['.', '.', '.']) ∧ isBlankOrEnd (c.peek 3)

/-! ### Names and tags -/

def word (c : Cursor) : Except YamlError (String × Cursor) :=
  match c.span isWord with
  | ([], _) => .error .malformed
  | (w, c) => .ok (String.ofList w, c)

def number (c : Cursor) : Except YamlError (Int × Cursor) :=
  let (digits, c) := c.span Text.isDigit
  if digits.isEmpty then .error .malformed
  else ((integerOfText (.ofChars digits)).mapError .fault).map fun n => (n, c)

/-- Reads the name behind an ampersand or asterisk. -/
def anchorName (c : Cursor) : Except YamlError (String × Cursor) := do
  let (name, c) ← c.step.word
  if isBlankOrEnd c.here ∨ c.here ∈ "?:,]\x7d%@`".toList then return (name, c)
  else .error .malformed

/-- Reads octets that are written as percent signs with two hexadecimal digits. -/
def uriOctets : (fuel : Nat) → Cursor → Except YamlError (Bytes × Cursor)
  | 0, c => .ok ([], c)
  | fuel + 1, c =>
    if c.here = '%' then
      match Bytes.hexValue? (c.peek 1), Bytes.hexValue? (c.peek 2) with
      | some h, some l => do
        let (more, c) ← uriOctets fuel (c.forward 3)
        return (UInt8.ofNat (16 * h + l) :: more, c)
      | _, _ => .error .malformed
    else .ok ([], c)

/-- Reads the characters of a tag, some of which may be written as octets. -/
def uriChars : (fuel : Nat) → Cursor → Except YamlError (List Char × Cursor)
  | 0, c => .ok ([], c)
  | fuel + 1, c =>
    if c.here = '%' then do
      let (octets, c) ← uriOctets c.rest.length c
      match Bytes.toText? octets with
      | some s =>
        let (more, c) ← uriChars fuel c
        return (s.toList ++ more, c)
      | none => .error .malformed
    else if isUri c.here then do
      let x := c.here
      let (more, c) ← uriChars fuel c.step
      return (x :: more, c)
    else .ok ([], c)

/-- Reads the non-empty text of a tag. -/
def uri (c : Cursor) : Except YamlError (String × Cursor) := do
  let (cs, c) ← uriChars c.rest.length c
  if cs.isEmpty then .error .malformed else return (String.ofList cs, c)

/-- Reads a handle: an exclamation mark in front of a space, or a word between two of them, which
may be empty. -/
def tagHandle (c : Cursor) : Except YamlError (String × Cursor) :=
  if c.here ≠ '!' then .error .malformed
  else
    let c := c.step
    if c.here = ' ' then .ok ("!", c)
    else
      let (w, c) := c.span isWord
      if c.here = '!' then .ok (String.ofList ('!' :: w ++ ['!']), c.step) else .error .malformed

def tag (c : Cursor) : Except YamlError (Token × Cursor) := do
  let (t, c) ←
    if c.peek 1 = '<' then do
      let (suffix, c) ← (c.forward 2).uri
      if c.here = '>' then .ok (Token.tag none suffix, c.step) else .error .malformed
    else if isBlankOrEnd (c.peek 1) then .ok (Token.tag none "!", c.step)
    else do
      let ahead := (c.rest.drop 1).takeWhile fun x => !isSpaceOrEnd x
      let (handle, c) ← if '!' ∈ ahead then c.tagHandle else .ok ("!", c.step)
      let (suffix, c) ← c.uri
      .ok (Token.tag (some handle) suffix, c)
  if isSpaceOrEnd c.here then return (t, c) else .error .malformed

/-! ### Directives -/

/-- Reads the end of a directive or a header: blanks, a comment, a line break. -/
def restOfLine (c : Cursor) : Except YamlError Cursor :=
  let c := c.skipSpaces
  let c := if c.here = '#' then c.skipLine else c
  match c.lineBreak? with
  | some (_, c) => .ok c
  | none => if c.here = endMark then .ok c else .error .malformed

def directive (c : Cursor) : Except YamlError (Token × Cursor) := do
  let (name, c) ← c.step.word
  if !isSpaceOrEnd c.here then .error .malformed
  else if name = "YAML" then do
    let (major, c) ← c.skipSpaces.number
    if c.here ≠ '.' then .error .malformed
    else
      let (_, c) ← c.step.number
      if !isSpaceOrEnd c.here then .error .malformed
      else return (.version major, ← c.restOfLine)
  else if name = "TAG" then do
    let (handle, c) ← c.skipSpaces.tagHandle
    if c.here ≠ ' ' then .error .malformed
    else
      let (beginning, c) ← c.skipSpaces.uri
      if !isSpaceOrEnd c.here then .error .malformed
      else return (.handle handle beginning, ← c.restOfLine)
  else return (.directive, ← c.skipLine.restOfLine)

/-! ### Quoted scalars -/

def escapeOf? (c : Char) : Option Char :=
  match c with
  | '0' => some (Char.ofNat 0)
  | 'a' => some (Char.ofNat 7)
  | 'b' => some (Char.ofNat 8)
  | 't' => some '\t'
  | '\t' => some '\t'
  | 'n' => some '\n'
  | 'v' => some (Char.ofNat 11)
  | 'f' => some (Char.ofNat 12)
  | 'r' => some '\r'
  | 'e' => some (Char.ofNat 27)
  | ' ' => some ' '
  | '"' => some '"'
  | '\\' => some '\\'
  | '/' => some '/'
  | 'N' => some (Char.ofNat 0x85)
  | '_' => some (Char.ofNat 0xa0)
  | 'L' => some (Char.ofNat 0x2028)
  | 'P' => some (Char.ofNat 0x2029)
  | _ => none

/-- How many hexadecimal digits follow a letter of an escape. -/
def escapeLength? (c : Char) : Option Nat :=
  if c = 'x' then some 2 else if c = 'u' then some 4 else if c = 'U' then some 8 else none

/-- The code point with a number; a number beyond the last one is a fault. -/
def pointOf (n : Nat) : Except YamlError CodePoint :=
  match CodePoint.ofNat? n with
  | some p => .ok p
  | none =>
    if n < 0x80000000 then .error (.fault ⟨.value, "chr() arg not in range(0x110000)"⟩)
    else .error (.fault ⟨.overflow, "Python int too large to convert to C int"⟩)

/-- Reads line breaks and the blanks around them inside a quoted scalar. -/
def quotedBreaks : (fuel : Nat) → Cursor → Except YamlError (List Char × Cursor)
  | 0, c => .ok ([], c)
  | fuel + 1, c =>
    if c.atMarker then .error .malformed
    else
      let c := (c.span isSpaceOrTab).2
      match c.lineBreak? with
      | some (b, c) => do
        let (more, c) ← quotedBreaks fuel c
        return (b :: more, c)
      | none => .ok ([], c)

/-- What a first line break and those after it are folded into. -/
def folded (first : Char) (breaks : List Char) : List Char :=
  if first ≠ '\n' then first :: breaks else if breaks.isEmpty then [' '] else breaks

/-- The number with which an escape of four digits goes on, if that is the second half of a pair. -/
def lowHalf? (rest : List Char) : Option Nat :=
  match rest with
  | '\\' :: 'u' :: a :: b :: c :: d :: _ =>
    (Text.readNumeral? 16 [a, b, c, d]).filter fun n => 0xdc00 ≤ n ∧ n < 0xe000
  | _ => none

/-- The character whose number two halves make up together. -/
def joinHalves (high low : Nat) : Char :=
  Char.ofNat (0x10000 + 0x400 * (high - 0xd800) + (low - 0xdc00))

/-- Reads an escape behind its backslash. Two escapes for the halves of a pair give one character.
-/
def escape (c : Cursor) : Except YamlError (Text × Cursor) :=
  match escapeOf? c.here with
  | some x => .ok ([x], c.step)
  | none => match escapeLength? c.here with
    | some length =>
      let digits := c.step.rest.take length
      match if digits.length = length then Text.readNumeral? 16 digits else none with
      | some n =>
        let c := c.step.forward length
        match if 0xd800 ≤ n ∧ n < 0xdc00 then lowHalf? c.rest else none with
        | some low => .ok ([joinHalves n low], c.forward 6)
        | none => do return ([← pointOf n], c)
      | none => .error .malformed
    | none => match c.lineBreak? with
      | some (_, c) => (quotedBreaks c.rest.length c).map fun (cs, c) => (.ofChars cs, c)
      | none => .error .malformed

/-- Reads a quoted scalar up to its closing quote. -/
def quotedText (double : Bool) : (fuel : Nat) → Cursor → Except YamlError (Text × Cursor)
  | 0, _ => .error .malformed
  | fuel + 1, c =>
    let quote := if double then '"' else '\''
    let x := c.here
    if x = endMark then .error .malformed
    else if x = quote then
      if !double ∧ c.peek 1 = quote then do
        let (more, c) ← quotedText double fuel (c.forward 2)
        return (quote :: more, c)
      else .ok ([], c.step)
    else if double ∧ x = '\\' then do
      let (t, c) ← c.step.escape
      let (more, c) ← quotedText double fuel c
      return (t ++ more, c)
    else if isSpaceOrTab x ∨ isBreak x then do
      let (blanks, c) := c.span isSpaceOrTab
      match c.lineBreak? with
      | some (b, c) =>
        let (breaks, c) ← quotedBreaks c.rest.length c
        let (more, c) ← quotedText double fuel c
        return (.ofChars (folded b breaks) ++ more, c)
      | none =>
        let (more, c) ← quotedText double fuel c
        return (.ofChars blanks ++ more, c)
    else do
      let (more, c) ← quotedText double fuel c.step
      return (x :: more, c)

def quotedScalar (c : Cursor) : Except YamlError (Token × Cursor) := do
  let (t, c) ← quotedText (c.here = '"') (c.rest.length + 1) c.step
  return (.scalar t false, c)

/-! ### Plain scalars -/

/-- Whether a plain scalar is interrupted by a character, given the next one. -/
def endsPlain (inFlow : Bool) (x next : Char) : Bool :=
  isBlankOrEnd x ∨
    (x = ':' ∧ (isBlankOrEnd next ∨ (inFlow ∧ next ∈ ",[]\x7b\x7d".toList))) ∨
    (inFlow ∧ x ∈ ",?[]\x7b\x7d".toList)

/-- The characters of a plain scalar up to the next interruption. -/
def plainRun (inFlow : Bool) : List Char → List Char
  | [] => []
  | x :: r => if endsPlain inFlow x (r.headD endMark) then [] else x :: plainRun inFlow r

/-- Reads the line breaks inside a plain scalar; nothing is read into a new document. -/
def plainBreaks : (fuel : Nat) → Cursor → Option (List Char) × Cursor
  | 0, c => (some [], c)
  | fuel + 1, c =>
    let c := c.skipSpaces
    match c.lineBreak? with
    | some (b, c) =>
      if c.atMarker then (none, c)
      else
        let (more, c) := plainBreaks fuel c
        (more.map (b :: ·), c)
    | none => (some [], c)

/-- Reads the blanks inside a plain scalar: what they become, and whether a line ended. -/
def plainSpaces (c : Cursor) : List Char × Bool × Cursor :=
  let (spaces, c) := c.span (· = ' ')
  match c.lineBreak? with
  | some (b, c) =>
    if c.atMarker then ([], true, c)
    else match plainBreaks c.rest.length c with
      | (some breaks, c) => (folded b breaks, true, c)
      | (none, c) => ([], true, c)
  | none => (spaces, false, c)

/-- Reads the runs of a plain scalar; also tells whether it ended behind a line break. -/
def plainRuns (inFlow : Bool) (indent : Int) :
    (fuel : Nat) → (spaces : List Char) → (brokeLine : Bool) → Cursor → List Char × Bool × Cursor
  | 0, _, brokeLine, c => ([], brokeLine, c)
  | fuel + 1, spaces, brokeLine, c =>
    let run := plainRun inFlow c.rest
    if c.here = '#' ∨ run.isEmpty then ([], brokeLine, c)
    else
      let (next, brokeLine, c) := (c.forward run.length).plainSpaces
      if next.isEmpty ∨ c.here = '#' ∨ (!inFlow ∧ (c.column : Int) < indent) then
        (spaces ++ run, brokeLine, c)
      else
        let (more, brokeLine, c) := plainRuns inFlow indent fuel next brokeLine c
        (spaces ++ run ++ more, brokeLine, c)

/-! ### Block scalars -/

/-- What is done with the line breaks at the end of a block scalar. -/
inductive Chomping where
  | strip
  | clip
  | keep
  deriving DecidableEq, Repr

/-- The chomping that a sign asks for. -/
def chompingOf? (c : Char) : Option Chomping :=
  if c = '+' then some .keep else if c = '-' then some .strip else none

/-- The indentation that a digit asks for; zero is refused. -/
def incrementOf? (c : Char) : Option (Except YamlError Nat) :=
  if Text.isDigit c then
    some (if c = '0' then .error .malformed else .ok (c.toNat - 48))
  else none

/-- Reads the header of a block scalar: chomping and indentation in either order. -/
def blockHeader (c : Cursor) : Except YamlError ((Chomping × Option Nat) × Cursor) := do
  let (found, c) ← match chompingOf? c.here with
    | some chomping => do
      let c := c.step
      match incrementOf? c.here with
      | some n => do
        let n ← n
        pure ((chomping, some n), c.step)
      | none => pure ((chomping, none), c)
    | none => match incrementOf? c.here with
      | some n => do
        let n ← n
        let c := c.step
        match chompingOf? c.here with
        | some chomping => pure ((chomping, some n), c.step)
        | none => pure ((.clip, some n), c)
      | none => pure ((.clip, none), c)
  if isSpaceOrEnd c.here then return (found, ← c.restOfLine) else .error .malformed

/-- Reads leading empty lines, and the greatest indentation among them and the next line. -/
def blockIndentation : (fuel : Nat) → (greatest : Nat) → Cursor → List Char × Nat × Cursor
  | 0, greatest, c => ([], greatest, c)
  | fuel + 1, greatest, c =>
    if c.here = ' ' then
      let c := c.step
      blockIndentation fuel (max greatest c.column) c
    else match c.lineBreak? with
      | some (b, c) =>
        let (more, greatest, c) := blockIndentation fuel greatest c
        (b :: more, greatest, c)
      | none => ([], greatest, c)

/-- Leaves out spaces up to an indentation. -/
def skipIndent : (fuel : Nat) → (indent : Nat) → Cursor → Cursor
  | 0, _, c => c
  | fuel + 1, indent, c =>
    if c.column < indent ∧ c.here = ' ' then skipIndent fuel indent c.step else c

/-- Reads empty lines, whose indentation may be smaller. -/
def blockBreaks : (fuel : Nat) → (indent : Nat) → Cursor → List Char × Cursor
  | 0, _, c => ([], c)
  | fuel + 1, indent, c =>
    let c := skipIndent indent indent c
    match c.lineBreak? with
    | some (b, c) =>
      let (more, c) := blockBreaks fuel indent c
      (b :: more, c)
    | none => ([], c)

/-- The end of a block scalar: the last line break and the empty lines behind it. -/
def chomped (chomping : Chomping) (last breaks : List Char) : List Char :=
  match chomping with
  | .strip => []
  | .clip => last
  | .keep => last ++ breaks

/-- Reads the lines of a block scalar, of which the empty lines in front have been read. -/
def blockLines (fold : Bool) (chomping : Chomping) (indent : Nat) :
    (fuel : Nat) → (breaks : List Char) → Cursor → List Char × Cursor
  | 0, _, c => ([], c)
  | fuel + 1, breaks, c =>
    if c.column = indent ∧ c.here ≠ endMark then
      let indented := isSpaceOrTab c.here
      let (text, c) := c.span fun x => !isBreakOrEnd x
      let (last, c) := match c.lineBreak? with
        | some (b, c) => ([b], c)
        | none => ([], c)
      let (next, c) := blockBreaks c.rest.length indent c
      if c.column = indent ∧ c.here ≠ endMark then
        let joint :=
          if fold ∧ last = ['\n'] ∧ !indented ∧ !isSpaceOrTab c.here then
            if next.isEmpty then [' '] else []
          else last
        let (more, c) := blockLines fold chomping indent fuel next c
        (breaks ++ text ++ joint ++ more, c)
      else (breaks ++ text ++ chomped chomping last next, c)
    else (chomped chomping [] breaks, c)

/-- Reads a block scalar in a block with the given indentation. -/
def blockScalar (indent : Int) (c : Cursor) : Except YamlError (Token × Cursor) := do
  let fold := c.here = '>'
  let ((chomping, increment), c) ← c.step.blockHeader
  let least := (max 1 (indent + 1)).toNat
  let (breaks, indent, c) := match increment with
    | some n =>
      let indent := least + n - 1
      let (breaks, c) := blockBreaks c.rest.length indent c
      (breaks, indent, c)
    | none =>
      let (breaks, greatest, c) := blockIndentation c.rest.length 0 c
      (breaks, max least greatest, c)
  let (cs, c) := blockLines fold chomping indent (c.rest.length + 1) breaks c
  return (.scalar (.ofChars cs) false, c)

end Cursor

end Socks5.Yaml
