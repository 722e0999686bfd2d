import Socks5.Fault
import Socks5.Yaml.Character

/-!
# Tokens of YAML texts

The tokens into which a YAML text is cut. Where blocks begin and end is told by the indentation, so
tokens for that stand between those that are written out.
-/

namespace Socks5.Yaml

/-- Why a text is not read. -/
inductive YamlError where
  | malformed
  | fault (f : Fault)
  deriving DecidableEq, Repr

/-- A token. -/
inductive Token where
  /-- A directive that gives the version, of which only the major number counts. -/
  | version (major : Int)
  /-- A directive that lets a handle stand for the beginning of tags. -/
  | handle (name beginning : String)
  | directive
  | documentStart
  | documentEnd
  | streamEnd
  | blockSequenceStart
  | blockMappingStart
  | blockEnd
  | flowSequenceStart
  | flowMappingStart
  | flowSequenceEnd
  | flowMappingEnd
  | key
  | value
  | blockEntry
  | flowEntry
  | alias (name : String)
  | anchor (name : String)
  | tag (handle : Option String) (suffix : String)
  | scalar (text : Text) (isPlain : Bool)
  deriving DecidableEq, Repr

end Socks5.Yaml
