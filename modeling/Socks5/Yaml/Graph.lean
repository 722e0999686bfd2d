import Socks5.Text.CodePoint
import Socks5.Yaml.Tag

/-!
# Graphs

What is written in a document: scalars, sequences and mappings, each with its tag. As a name may
stand for a node in several places, even inside that node, the nodes are the vertices of a graph,
and the members of a sequence or mapping are given by their numbers.
-/

namespace Socks5.Yaml

/-- What a vertex is besides its tag. -/
inductive Content where
  | scalar (text : Text)
  | sequence (items : List Nat)
  | mapping (entries : List (Nat × Nat))
  deriving DecidableEq, Repr

/-- A scalar, sequence or mapping with its tag. -/
structure Vertex where
  tag : Tag
  content : Content
  deriving DecidableEq, Repr

def Vertex.empty : Vertex := ⟨.null, .scalar []⟩

/-- Vertices, which are numbered from 0. -/
abbrev Graph := Array Vertex

namespace Graph

def vertex (g : Graph) (n : Nat) : Vertex := g.getD n .empty

def tag (g : Graph) (n : Nat) : Tag := (g.vertex n).tag

def entries (g : Graph) (n : Nat) : List (Nat × Nat) :=
  match (g.vertex n).content with
  | .mapping entries => entries
  | _ => []

def setEntries (g : Graph) (n : Nat) (entries : List (Nat × Nat)) : Graph :=
  g.setIfInBounds n ⟨g.tag n, .mapping entries⟩

def setTag (g : Graph) (n : Nat) (tag : Tag) : Graph :=
  g.setIfInBounds n { g.vertex n with tag }

/-- How many entries all mappings have. -/
def entryCount (g : Graph) : Nat :=
  g.foldl (fun count v => match v.content with
    | .mapping entries => count + entries.length
    | _ => count) 0

end Graph

end Socks5.Yaml
