-- The tokens of YAML text. Indentation is told by tokens of its own, so that
-- block style and flow style look alike from here on.

namespace ServingOperator.Yaml

inductive Token where
  | streamEnd
  | versionDirective (major minor : Nat)
  /-- A handle for tags, and what it stands for. -/
  | tagDirective (handle meaning : List Char)
  | documentStart
  | documentEnd
  | blockSequenceStart
  | blockMappingStart
  | blockEnd
  | flowSequenceStart
  | flowSequenceEnd
  | flowMappingStart
  | flowMappingEnd
  /-- The hyphen before an item of a block sequence. -/
  | blockEntry
  /-- The comma between the items of a flow collection. -/
  | flowEntry
  | key
  | value
  | anchor (name : List Char)
  | reference (name : List Char)
  | tag (handle suffix : List Char)
  /-- A scalar, and whether it is written without quotation marks and
  without an indicator before it. -/
  | scalar (text : List Char) (plain : Bool)
  deriving DecidableEq, Repr

end ServingOperator.Yaml
