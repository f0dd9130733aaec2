/-!
The tokens of block-structured documents. Indentation and the keys of maps are tokens too, so that
the structure of a document can be read off the tokens alone.
-/
namespace PageCheck.Yaml

structure ScalarToken where
  text : String
  plain : Bool
  deriving DecidableEq, Repr, Inhabited

inductive Token where
  | versionDirective (major minor : Nat)
  | tagDirective (handle start : String)
  | documentStart | documentEnd
  | blockSequenceStart | blockMappingStart | blockEnd
  | flowSequenceStart | flowSequenceEnd | flowMappingStart | flowMappingEnd
  | blockEntry | flowEntry | key | value
  | alias (name : String)
  | anchor (name : String)
  | tag (handle ending : String)
  | scalar (scalar : ScalarToken)
  deriving DecidableEq, Repr, Inhabited

end PageCheck.Yaml
