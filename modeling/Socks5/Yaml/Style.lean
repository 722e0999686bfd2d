import Socks5.Text.CodePoint
import Socks5.Yaml.Page
import Socks5.Yaml.Tag

/-!
# Styles of scalars

A scalar is written without quotes if it can be read back that way, else in single quotes, and in
double quotes, where every character can be escaped, if nothing else will do. Octets stand in a
block of their own.
-/

namespace Socks5.Yaml

/-! ### Characters -/

/-- The line breaks that scalars may hold. -/
def isScalarBreak (c : Char) : Bool := c ≠ '\r' ∧ isBreak c

/-- Characters that can stand only as escapes. -/
def needsEscape (c : Char) : Bool :=
  c ≠ '\n' ∧ (c.toNat = 9 ∨ c = '\r' ∨ c = byteOrderMark ∨ c.toNat = 0x10ffff ∨ !isAllowed c)

/-- Whether a text begins with a blank or is empty. -/
def beginsBlank : List Char → Bool
  | [] => true
  | c :: _ => isBlankOrEnd c

/-! ### Plain scalars -/

/-- Whether a text, going on behind a character, holds a mark that would end a plain scalar. -/
def marksWithin (previous : Char) : List Char → Bool
  | [] => false
  | c :: r => (c = ':' ∧ beginsBlank r) ∨ (c = '#' ∧ isBlankOrEnd previous) ∨ marksWithin c r

/-- Whether a text begins with a mark, or holds one that would end a plain scalar. -/
def hasMarks (cs : List Char) : Bool :=
  match cs with
  | [] => false
  | c :: r =>
    cs.take 3 = ['-', '-', '-'] ∨ cs.take 3 = ['.', '.', '.'] ∨
      c ∈ "#,[]{}&*!|>'\"%@`".toList ∨ (c ∈ ['?', ':', '-'] ∧ beginsBlank r) ∨ marksWithin c r

/-- Whether a text begins or ends with a space or line break. -/
def hasLooseEnds (cs : List Char) : Bool :=
  let isLoose (c : Char) : Bool := c = ' ' ∨ isScalarBreak c
  cs.head?.any isLoose ∨ cs.getLast?.any isLoose

/-- Whether a text can be written without quotes. -/
def fitsPlain (cs : List Char) : Bool :=
  !(hasMarks cs ∨ hasLooseEnds cs ∨ cs.any isScalarBreak ∨ cs.any needsEscape)

/-! ### Quoted scalars -/

/-- Whether a space stands next to a line break on the given side. -/
def hasSpaceBeside (isBefore : Bool) (cs : List Char) : Bool :=
  (cs.zip cs.tail).any fun (a, b) =>
    if isBefore then a = ' ' ∧ isScalarBreak b else isScalarBreak a ∧ b = ' '

/-- Whether a text can be written in single quotes. -/
def fitsSingle (cs : List Char) : Bool :=
  !(cs.any needsEscape ∨ hasSpaceBeside true cs ∨ hasSpaceBeside false cs)

/-- Whether a text can be written in a block of its own. -/
def fitsBlock (cs : List Char) : Bool :=
  !(cs.isEmpty ∨ cs.getLast? = some ' ' ∨ cs.any needsEscape ∨ hasSpaceBeside true cs)

/-! ### Choosing -/

/-- The ways to write a scalar. -/
inductive Style where
  | plain
  | single
  | double
  | block
  deriving DecidableEq, Repr

/-- The style of characters with a tag; the key of an entry stands in one line. -/
def Style.ofChars (isKey : Bool) (tag : Tag) (cs : List Char) : Style :=
  let fitsKey := !(isKey ∧ cs.any isScalarBreak)
  if tag = .binary then if fitsBlock cs ∧ !isKey then .block else .double
  else if Tag.ofPlain cs = tag ∧ fitsPlain cs ∧ !(isKey ∧ cs.isEmpty) then .plain
  else if fitsSingle cs ∧ fitsKey then .single
  else .double

/-- The style of a scalar with a tag. Surrogates can stand only as escapes. -/
def Style.choose (isKey : Bool) (tag : Tag) (t : Text) : Style :=
  t.chars?.elim .double (Style.ofChars isKey tag)

/-! ### Writing -/

namespace Page

/-- The kinds of character by which a text is cut into runs. -/
def charKind (c : Char) : Nat := if c = ' ' then 1 else if isScalarBreak c then 2 else 0

/-- The runs of spaces, of line breaks and of other characters that make up a text. -/
def runs (cs : List Char) : List (List Char) := cs.splitBy fun a b => charKind a = charKind b

/-- Writes the runs of a plain scalar; a single space gives way to a line break in a full line. -/
def plainRuns (mayFold : Bool) (column : Nat) : List (List Char) → Page → Page
  | [], p => p
  | run :: rest, p =>
    if run = [' '] ∧ p.isFull ∧ mayFold then
      plainRuns mayFold column rest { p.indent column with isApart := false, isFresh := false }
    else plainRuns mayFold column rest (p.write run)

def plain (mayFold : Bool) (column : Nat) (cs : List Char) (p : Page) : Page :=
  if cs.isEmpty then p else plainRuns mayFold column (runs cs) p.setApart

/-- Writes line breaks; between lines of a quoted scalar the first line feed is doubled. -/
def breaks (column : Nat) (run : List Char) (p : Page) : Page :=
  let p := if run.head? = some '\n' then p.breakLine '\n' else p
  (run.foldl (fun p c => p.breakLine c) p).indent column

/-- Writes the runs of a scalar in single quotes; a single space between other runs gives way to a
line break in a full line. -/
def singleRuns (mayFold : Bool) (column : Nat) : (isFirst : Bool) → List (List Char) → Page → Page
  | _, [], p => p
  | isFirst, run :: rest, p =>
    if run = [' '] ∧ p.isFull ∧ mayFold ∧ !isFirst ∧ !rest.isEmpty then
      singleRuns mayFold column false rest (p.indent column)
    else if run.head?.any isScalarBreak then
      singleRuns mayFold column false rest (p.breaks column run)
    else
      let doubled := run.flatMap fun c => if c = '\'' then ['\'', '\''] else [c]
      singleRuns mayFold column false rest (p.write doubled)

def single (mayFold : Bool) (column : Nat) (cs : List Char) (p : Page) : Page :=
  let p := p.setApart.mark ['\''] false false
  (singleRuns mayFold column true (runs cs) p).mark ['\''] false false

/-- The letters that stand for characters behind a backslash. -/
def escapeLetters : List (Nat × Char) :=
  [(0, '0'), (7, 'a'), (8, 'b'), (9, 't'), (10, 'n'), (11, 'v'), (12, 'f'), (13, 'r'), (27, 'e'),
    (34, '"'), (92, '\\'), (0x85, 'N'), (0xa0, '_'), (0x2028, 'L'), (0x2029, 'P')]

/-- A number in upper-case hexadecimal, filled up with zeros. -/
def upperHex (width n : Nat) : List Char :=
  let digits := (Nat.toDigits 16 n).map Char.toUpper
  List.replicate (width - digits.length) '0' ++ digits

def escapeOf (p : CodePoint) : List Char :=
  match escapeLetters.find? (·.1 = p.toNat) with
  | some (_, l) => ['\\', l]
  | none =>
    if p.toNat ≤ 0xff then '\\' :: 'x' :: upperHex 2 p.toNat
    else if p.toNat ≤ 0xffff then '\\' :: 'u' :: upperHex 4 p.toNat
    else '\\' :: 'U' :: upperHex 8 p.toNat

/-- Whether a character stands for itself in double quotes. -/
def isVerbatim (c : Char) : Bool :=
  let n := c.toNat
  c ∉ ['"', '\\', byteOrderMark] ∧ n ≠ 0x2028 ∧ n ≠ 0x2029 ∧
    ((0x20 ≤ n ∧ n ≤ 0x7e) ∨ (0xa0 ≤ n ∧ n ≤ 0xd7ff) ∨ (0xe000 ≤ n ∧ n ≤ 0xfffd))

/--
Writes the code points of a scalar in double quotes. Those that wait to be written are characters,
given with the last one first. A full line is broken behind a backslash, in front of a space or
behind an escape; another backslash then keeps a space at the beginning of the new line.
-/
def doublePoints (mayFold : Bool) (column : Nat) :
    (isFirst : Bool) → (waiting : List Char) → Text → Page → Page
  | _, waiting, [], p => p.write waiting.reverse
  | isFirst, waiting, point :: rest, p =>
    let fold (next : Option CodePoint) (waiting : List Char) (p : Page) : Page :=
      let p := (p.write (waiting.reverse ++ ['\\'])).indent column
      let p := { p with isApart := false, isFresh := false }
      if next = some (.char ' ') then p.write ['\\'] else p
    let mayBreak := mayFold ∧ !isFirst ∧ !rest.isEmpty
    match point.char?.filter isVerbatim with
    | some c =>
      if mayBreak ∧ (c = ' ' ∨ waiting.isEmpty) ∧ width < p.column + waiting.length then
        doublePoints mayFold column false [c] rest (fold (some c) waiting p)
      else doublePoints mayFold column false (c :: waiting) rest p
    | none =>
      let p := p.write (waiting.reverse ++ escapeOf point)
      if mayBreak ∧ width + 1 < p.column then
        doublePoints mayFold column false [] rest (fold rest.head? [] p)
      else doublePoints mayFold column false [] rest p

def double (mayFold : Bool) (column : Nat) (t : Text) (p : Page) : Page :=
  let p := p.setApart.mark ['"'] false false
  (doublePoints mayFold column true [] t p).mark ['"'] false false

/-- Writes the lines of a block of its own, in which empty lines are not indented. -/
def blockRuns (column : Nat) : List (List Char) → Page → Page
  | [], p => p
  | run :: rest, p =>
    if run.head?.any isScalarBreak then
      blockRuns column rest (run.foldl (fun p c => p.breakLine c) p)
    else if rest.isEmpty then (((p.indent column).write run).breakLine '\n')
    else blockRuns column rest ((p.indent column).write run)

/-- Writes a scalar that is one line after the other, the last one ended by a line feed, in a block
of its own. -/
def block (column : Nat) (cs : List Char) (p : Page) : Page :=
  blockRuns column (cs.splitBy fun a b => isScalarBreak a = isScalarBreak b)
    ((p.setApart.mark ['|'] false false).breakLine '\n')

/-- Writes a scalar in a style; only in double quotes there may be surrogates. -/
def scalar (style : Style) (mayFold : Bool) (column : Nat) (t : Text) (p : Page) : Page :=
  let cs := t.filterMap CodePoint.char?
  match style with
  | .plain => p.plain mayFold column cs
  | .single => p.single mayFold column cs
  | .double => p.double mayFold column t
  | .block => p.block column cs

end Page

end Socks5.Yaml
