import Socks5.Yaml.Token.Reading
import Socks5.Yaml.Graph

/-!
# Graphs from tokens

A name stands for the vertex that it was given to, even while that vertex is being read, so that a
sequence or mapping may be inside itself. A text holds at most one document.
-/

namespace Socks5.Yaml

/-! ### Reading vertices from tokens -/

/-- The tokens that are left, and what has been defined. -/
structure Reader where
  tokens : List Token
  /-- Why there are no more tokens, unless the text ends there. -/
  error : Option YamlError := none
  handles : List (String × String) := []
  graph : Graph := #[]
  names : List (String × Nat) := []

/-- Reads something from tokens. -/
abbrev Parse (α : Type) := StateT Reader (Except YamlError) α

namespace Parse

def refuse {α : Type} : Parse α := fun _ => .error .malformed

def next : Parse Token := fun r =>
  match r.tokens, r.error with
  | t :: _, _ => .ok (t, r)
  | [], some e => .error e
  | [], none => .ok (.streamEnd, r)

def skip : Parse Unit := fun r => .ok ((), { r with tokens := r.tokens.tail })

/-- Goes behind the next token if it is the given one. -/
def skip? (t : Token) : Parse Bool := do
  if (← next) = t then
    skip
    return true
  else return false

/-- Goes behind the next token, which has to be the given one. -/
def expect (t : Token) : Parse Unit := do
  if (← skip? t) then return else refuse

def resolveTag (handle : Option String) (suffix : String) : Parse String := do
  match handle with
  | none => return suffix
  | some h => match (← get).handles.find? (·.1 = h) with
    | some (_, beginning) => return beginning ++ suffix
    | none => refuse

def add (v : Vertex) : Parse Nat := fun r =>
  .ok (r.graph.size, { r with graph := r.graph.push v })

def complete (n : Nat) (v : Vertex) : Parse Unit :=
  modify fun r => { r with graph := r.graph.setIfInBounds n v }

/-- Defines a name, which must not be defined yet. -/
def define (anchor : Option String) (n : Nat) : Parse Unit := do
  match anchor with
  | none => pure ()
  | some name =>
    if (← get).names.any (·.1 = name) then refuse
    else modify fun r => { r with names := (name, n) :: r.names }

/-- The vertex that a name stands for. -/
def named (name : String) : Parse Nat := do
  match (← get).names.find? (·.1 = name) with
  | some (_, n) => return n
  | none => refuse

/-- Reads the tag of a node, if there is one. -/
def tag? : Parse (Option String) := do
  match (← next) with
  | .tag handle suffix => do
    skip
    return some (← resolveTag handle suffix)
  | _ => return none

/-- Reads the name that is defined for a node, if there is one. -/
def anchor? : Parse (Option String) := do
  match (← next) with
  | .anchor name => do
    skip
    return some name
  | _ => return none

/-- Reads name and tag of a node in either order. -/
def properties : Parse (Option String × Option String) := do
  match (← anchor?) with
  | some a => return (some a, ← tag?)
  | none => do
    let t ← tag?
    return (← anchor?, t)

/-- The tag of a scalar: without one, or with the one that leaves the choice, it is what a plain
scalar looks like, and a text if it is quoted. -/
def scalarTag (tag : Option String) (isPlain : Bool) (text : Text) : Tag :=
  match tag with
  | none => if isPlain then text.chars?.elim .str .ofPlain else .str
  | some uri => if uri = "!" then text.chars?.elim .str .ofLine else .ofUri uri

/-- The tag of a sequence or mapping. -/
def collectionTag (tag : Option String) (default : Tag) : Tag :=
  match tag with
  | none => default
  | some uri => if uri = "!" then default else .ofUri uri

/-- Where a node stands, which decides what may begin there. -/
inductive Place where
  | flow
  | block
  /-- In a block mapping, where the items of a sequence need no indentation. -/
  | entry
  deriving DecidableEq, Repr

mutual

/-- Reads a node. What follows its name and tag is looked at before its name is. -/
def node (place : Place) : (fuel : Nat) → Parse Nat
  | 0 => refuse
  | fuel + 1 => do
    match (← next) with
    | .alias name => do
      skip
      named name
    | _ => do
      let (anchor, tag) ← properties
      let _ ← next
      let n ← add .empty
      define anchor n
      complete n (← vertex place anchor tag fuel)
      return n

/-- Reads what stands behind name and tag. -/
def vertex (place : Place) (anchor tag : Option String) : (fuel : Nat) → Parse Vertex
  | 0 => refuse
  | fuel + 1 => do
    let t ← next
    if place = .entry ∧ t = .blockEntry then
      return ⟨collectionTag tag .seq, .sequence (← indentlessItems fuel)⟩
    else match t with
      | .scalar text isPlain => do
        skip
        return ⟨scalarTag tag isPlain text, .scalar text⟩
      | .flowSequenceStart => do
        skip
        return ⟨collectionTag tag .seq, .sequence (← flowItems true fuel)⟩
      | .flowMappingStart => do
        skip
        return ⟨collectionTag tag .map, .mapping (← flowEntries true fuel)⟩
      | .blockSequenceStart =>
        if place = .flow then refuse
        else do
          skip
          return ⟨collectionTag tag .seq, .sequence (← blockItems fuel)⟩
      | .blockMappingStart =>
        if place = .flow then refuse
        else do
          skip
          return ⟨collectionTag tag .map, .mapping (← blockEntries fuel)⟩
      | _ =>
        if anchor.isSome ∨ tag.isSome then return ⟨scalarTag tag true [], .scalar []⟩
        else refuse

/-- Reads a node unless one of the given tokens shows that nothing is written. -/
def nodeUnless (place : Place) (stops : List Token) : (fuel : Nat) → Parse Nat
  | 0 => refuse
  | fuel + 1 => do
    if (← next) ∈ stops then add .empty else node place fuel

/-- Reads the items of a block sequence. -/
def blockItems : (fuel : Nat) → Parse (List Nat)
  | 0 => refuse
  | fuel + 1 => do
    if (← skip? .blockEntry) then do
      let item ← nodeUnless .block [.blockEntry, .blockEnd] fuel
      return item :: (← blockItems fuel)
    else do
      expect .blockEnd
      return []

/-- Reads the items of a sequence that is not indented. -/
def indentlessItems : (fuel : Nat) → Parse (List Nat)
  | 0 => refuse
  | fuel + 1 => do
    if (← skip? .blockEntry) then do
      let item ← nodeUnless .block [.blockEntry, .key, .value, .blockEnd] fuel
      return item :: (← indentlessItems fuel)
    else return []

/-- Reads the entries of a block mapping. -/
def blockEntries : (fuel : Nat) → Parse (List (Nat × Nat))
  | 0 => refuse
  | fuel + 1 => do
    if (← skip? .key) then do
      let key ← nodeUnless .entry [.key, .value, .blockEnd] fuel
      let value ←
        if (← skip? .value) then nodeUnless .entry [.key, .value, .blockEnd] fuel
        else add .empty
      return (key, value) :: (← blockEntries fuel)
    else do
      expect .blockEnd
      return []

/-- Reads the value of an entry inside brackets or braces, if there is one. -/
def flowValue (stops : List Token) : (fuel : Nat) → Parse Nat
  | 0 => refuse
  | fuel + 1 => do
    if (← skip? .value) then nodeUnless .flow stops fuel else add .empty

/-- Reads the items between brackets; an entry of a mapping may be an item. -/
def flowItems (isFirst : Bool) : (fuel : Nat) → Parse (List Nat)
  | 0 => refuse
  | fuel + 1 => do
    if (← skip? .flowSequenceEnd) then return []
    else do
      if !isFirst then expect .flowEntry
      if (← skip? .flowSequenceEnd) then return []
      else if (← skip? .key) then do
        let key ← nodeUnless .flow [.value, .flowEntry, .flowSequenceEnd] fuel
        let value ← flowValue [.flowEntry, .flowSequenceEnd] fuel
        let item ← add ⟨.map, .mapping [(key, value)]⟩
        return item :: (← flowItems false fuel)
      else do
        let item ← node .flow fuel
        return item :: (← flowItems false fuel)

def flowEntries (isFirst : Bool) : (fuel : Nat) → Parse (List (Nat × Nat))
  | 0 => refuse
  | fuel + 1 => do
    if (← skip? .flowMappingEnd) then return []
    else do
      if !isFirst then expect .flowEntry
      if (← skip? .flowMappingEnd) then return []
      else if (← skip? .key) then do
        let key ← nodeUnless .flow [.value, .flowEntry, .flowMappingEnd] fuel
        let value ← flowValue [.flowEntry, .flowMappingEnd] fuel
        return (key, value) :: (← flowEntries false fuel)
      else do
        let key ← node .flow fuel
        let value ← add .empty
        return (key, value) :: (← flowEntries false fuel)

end

/-! ### Documents -/

def defaultHandles : List (String × String) := [("!", "!"), ("!!", Tag.known)]

/-- Reads directives; the version may be given once, and has to be one of the first series. -/
def directives : (fuel : Nat) → (hasVersion : Bool) → (handles : List (String × String)) →
    Parse (List (String × String))
  | 0, _, _ => refuse
  | fuel + 1, hasVersion, handles => do
    match (← next) with
    | .version major =>
      if hasVersion ∨ major ≠ 1 then refuse
      else do
        skip
        directives fuel true handles
    | .handle name beginning =>
      if handles.any (·.1 = name) then refuse
      else do
        skip
        directives fuel hasVersion ((name, beginning) :: handles)
    | .directive => do
      skip
      directives fuel hasVersion handles
    | _ => return handles ++ defaultHandles

/-- Goes behind tokens that end a document. -/
def skipEnds : (fuel : Nat) → Parse Unit
  | 0 => refuse
  | fuel + 1 => do
    if (← skip? .documentEnd) then skipEnds fuel

/-- Whether a document begins or ends at a token. -/
def isBoundary : Token → Bool
  | .version _ | .handle _ _ | .directive | .documentStart | .documentEnd | .streamEnd => true
  | _ => false

/-- Reads the only document, if there is one, down to its root. -/
def document (fuel : Nat) : Parse (Option Nat) := do
  let first ← next
  if first = .streamEnd then return none
  else
    let isImplicit := !isBoundary first ∨ first = .documentEnd
    if isImplicit then modify fun r => { r with handles := defaultHandles }
    else do
      let handles ← directives fuel false []
      modify fun r => { r with handles }
      expect .documentStart
    let root ←
      if !isImplicit ∧ isBoundary (← next) then add .empty else node .block fuel
    skipEnds fuel
    if (← next) = .streamEnd then return some root
    else do
      let _ ← directives fuel false []
      expect .documentStart
      refuse

end Parse

/-- Reads the only document of a text, if there is one, as a graph and the number of its root. -/
def Graph.ofChars? (cs : List Char) : Except YamlError (Option (Graph × Nat)) := do
  let cut := Cut.ofChars cs
  let reader : Reader := { tokens := cut.tokens, error := cut.error }
  let (root, r) ← (Parse.document (4 * cut.tokens.length + 8)).run reader
  return root.map fun n => (r.graph, n)

end Socks5.Yaml
