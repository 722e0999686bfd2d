import Socks5.Yaml.Graph.Reading
import Socks5.Yaml.Scalar
import Socks5.Value.Equality
import Socks5.Value.Knot

/-!
# Values of documents

The value that a text denotes. A mapping takes in the entries of the mappings that are merged into
it, its own entries coming later and so prevailing. Of several things that are wrong the one nearest
to the root is reported, and of those at one level the first.
-/

namespace Socks5.Yaml

/-- What is known while the values of the vertices of a graph are made. -/
structure Making where
  /-- The graph, where merged entries are put in place of the keys that say so. -/
  graph : Graph
  /-- The values of vertices; those of sequences and mappings are links. -/
  known : Array (Option Value)
  values : Array Value
  /-- The sequences and mappings whose members have no value yet, the last one first. -/
  waiting : List Nat := []

/-- Makes something of a graph. -/
abbrev Make (α : Type) := StateT Making (Except YamlError) α

namespace Make

def refuse {α : Type} : Make α := fun _ => .error .malformed

/-! ### Merging -/

/-- The value of the first key of a mapping under which something is merged, and the entries
without that one. -/
def splitMerge? (g : Graph) : List (Nat × Nat) → Option (Nat × List (Nat × Nat))
  | [] => none
  | (key, value) :: rest =>
    if g.tag key = .merge then some (value, rest)
    else (splitMerge? g rest).map fun (n, others) => (n, (key, value) :: others)

/-- A graph in which the key of the default value is a text among some entries. -/
def defaultsAsText (entries : List (Nat × Nat)) (g : Graph) : Graph :=
  entries.foldl (fun g e => if g.tag e.1 = .value then g.setTag e.1 .str else g) g

/-- Merges into a mapping what its keys say, behind the given entries, and returns its entries. The
fuel is more than the number of such keys in the graph, each of which is used once. -/
def merge (before : List (Nat × Nat)) (n : Nat) : (fuel : Nat) → Make (List (Nat × Nat))
  | 0 => refuse
  | fuel + 1 => do
    let g := (← get).graph
    match splitMerge? g (g.entries n) with
    | none => do
      let entries := before ++ g.entries n
      modify fun m => { m with graph := defaultsAsText entries (g.setEntries n entries) }
      return entries
    | some (value, others) => do
      modify fun m => { m with graph := g.setEntries n others }
      let more ← match (g.vertex value).content with
        | .mapping _ => merge [] value fuel
        | .sequence items => do
          let parts ← items.mapM fun i => match (g.vertex i).content with
            | .mapping _ => merge [] i fuel
            | _ => refuse
          -- Of several mappings the first one prevails, so it comes last.
          pure parts.reverse.flatten
        | .scalar _ => refuse
      merge (before ++ more) n fuel

/-! ### Scalars -/

/-- The text of a scalar, or of the default value of a mapping. -/
def text? (g : Graph) (n : Nat) : (fuel : Nat) → Option Text
  | 0 => none
  | fuel + 1 => match (g.vertex n).content with
    | .scalar text => some text
    | .sequence _ => none
    | .mapping entries => match entries.find? fun e => g.tag e.1 = .value with
      | some (_, value) => text? g value fuel
      | none => none

/-- The value of a vertex with a tag for scalars; a mapping is no date even by its default value. -/
def plainValue (g : Graph) (n : Nat) : Except YamlError Value :=
  let v := g.vertex n
  match text? g n (g.size + 1) with
  | some text =>
    if v.tag = .timestamp ∧ v.content ≠ .scalar text then .error (.fault ⟨.type, "no text"⟩)
    else scalarValue v.tag text
  | none => .error .malformed

/-! ### Sequences and mappings -/

/-- The brackets around what a tag for sequences or mappings denotes. -/
def brackets? : Tag → Option Brackets
  | .seq | .omap | .pairs => some .square
  | .map | .set => some .curly
  | _ => none

/-- The value of a vertex. The members of sequences and mappings have to wait. -/
def value (n : Nat) : Make Value := do
  let m ← get
  match m.known.getD n none with
  | some v => return v
  | none => do
    let v ← match brackets? (m.graph.tag n) with
      | some brackets => do
        modify fun m => { m with waiting := n :: m.waiting }
        pure (.link ⟨n, brackets⟩)
      | none => plainValue m.graph n
    modify fun m => { m with known := m.known.setIfInBounds n (some v) }
    return v

/-- An entry of a mapping, whose key may not be a sequence or mapping. -/
def entry (key value : Nat) : Make (Value × Value) := do
  let k ← Make.value key
  if k.isKey then return (k, ← Make.value value) else refuse

def entries (fuel n : Nat) : Make (List (Value × Value)) := do
  let own ← merge [] n fuel
  return Value.putAll (← own.mapM fun (key, value) => entry key value)

/-- The pair that is written as a mapping with one entry. -/
def pair (n : Nat) : Make Value := do
  match ((← get).graph.vertex n).content with
  | .mapping [(key, value)] => do
    let k ← Make.value key
    let v ← Make.value value
    modifyGet fun m =>
      (.link ⟨m.values.size, .round⟩, { m with values := m.values.push (.tuple [k, v]) })
  | _ => refuse

/-- Gives values to the members of a sequence or mapping. -/
def members (fuel n : Nat) : Make Unit := do
  let vertex := (← get).graph.vertex n
  let v ← match vertex.tag, vertex.content with
    | .seq, .sequence items => Value.list <$> items.mapM value
    | .omap, .sequence items => Value.list <$> items.mapM pair
    | .pairs, .sequence items => Value.list <$> items.mapM pair
    | .map, .mapping _ => Value.dict <$> entries fuel n
    | .set, .mapping _ => (fun es => Value.set (es.map (·.1))) <$> entries fuel n
    | _, _ => refuse
  modify fun m => { m with values := m.values.setIfInBounds n v }

/-- Gives values to the members of what is waiting, level by level. -/
def levels (fuel : Nat) : (steps : Nat) → Make Unit
  | 0 => refuse
  | steps + 1 => do
    let level := (← get).waiting
    if level.isEmpty then return
    else do
      modify fun m => { m with waiting := [] }
      level.reverse.forM (members fuel)
      levels fuel steps

end Make

/-- The value that a vertex of a graph denotes. -/
def Graph.value (g : Graph) (n : Nat) : Except YamlError Value := do
  let start : Making :=
    { graph := g, known := .replicate g.size none, values := .replicate g.size .null }
  let (v, m) ← (Make.value n <* Make.levels (g.entryCount + 1) (g.size + 1)).run start
  return v.tied m.values

/-- The value that a text denotes; an empty text denotes nothing. -/
def parse (cs : List Char) : Except YamlError Value := do
  match (← Graph.ofChars? cs) with
  | some (g, root) => g.value root
  | none => return .null

end Socks5.Yaml
