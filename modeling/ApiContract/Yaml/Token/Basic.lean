import ApiContract.Yaml.Scalar

/-!
# YAML tokens

A text is read as a list of tokens first.  Indentation and simple keys, which have no
characters of their own, are tokens too.
-/

namespace ApiContract
namespace Yaml

/-- A token of a YAML text. -/
inductive Token where
  | version (major minor : Nat)
  /-- What a tag handle stands for. -/
  | tagHandle (handle expansion : String)
  | documentStart
  | documentEnd
  | blockSequenceStart
  | blockMappingStart
  | blockEnd
  | flowSequenceStart
  | flowSequenceEnd
  | flowMappingStart
  | flowMappingEnd
  | blockEntry
  | flowEntry
  | key
  | value
  | alias (name : String)
  | anchor (name : String)
  | tag (handle suffix : String)
  | scalar (text : String) (style : Style)
  deriving DecidableEq, Repr

end Yaml
end ApiContract
