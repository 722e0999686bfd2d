import Socks5.Yaml.Character

/-!
# Pages

A page is a text that is being written from top to bottom. It knows its column and what the last
characters were, so that the marks of a YAML text are set apart from what stands in front of them,
and lines are broken and indented only where that is needed.
-/

namespace Socks5.Yaml

/-- A text that is being written. -/
structure Page where
  /-- The characters that were written, the last one first. -/
  reversed : List Char := []
  column : Nat := 0
  /-- Whether the next mark need not be set apart by a space. -/
  isApart : Bool := true
  /-- Whether the line holds nothing but spaces and marks behind which a block may begin. -/
  isFresh : Bool := true
  /-- Whether only a mark of its own tells where the document ends. -/
  isOpen : Bool := false

namespace Page

/-- The width beyond which lines are broken. -/
def width : Nat := 80

def chars (p : Page) : List Char := p.reversed.reverse

/-- Writes characters that are part of a scalar. -/
def write (cs : List Char) (p : Page) : Page :=
  { p with
    reversed := cs.reverseAux p.reversed, column := p.column + cs.length
    isApart := false, isFresh := false }

/-- Ends the line with a given line break. -/
def breakLine (c : Char) (p : Page) : Page :=
  { p with reversed := c :: p.reversed, column := 0, isApart := true, isFresh := true }

/-- Goes to a column of a line that holds nothing else, which is a new one if need be. -/
def indent (column : Nat) (p : Page) : Page :=
  let p :=
    if !p.isFresh ∨ column < p.column ∨ (p.column = column ∧ !p.isApart) then p.breakLine '\n'
    else p
  if p.column < column then
    { p with
      reversed := List.replicate (column - p.column) ' ' ++ p.reversed, column, isApart := true }
  else p

/-- Writes a space if the next mark has to be set apart. -/
def setApart (p : Page) : Page :=
  if p.isApart then p else { p with reversed := ' ' :: p.reversed, column := p.column + 1 }

/-- Writes a mark; another one may have to be set apart from it, or a block may begin behind it. -/
def mark (cs : List Char) (isApart isFresh : Bool) (p : Page) : Page :=
  { reversed := cs.reverseAux p.reversed, column := p.column + cs.length
    isApart, isFresh := p.isFresh ∧ isFresh, isOpen := false }

/-- Whether the line is so long that it should be broken. -/
def isFull (p : Page) : Bool := width < p.column

end Page

end Socks5.Yaml
