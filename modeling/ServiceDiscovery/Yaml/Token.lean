import ServiceDiscovery.Text.Points

/-!
Tokens of a YAML stream. Collections that are laid out by indentation have tokens for their
beginning and their end like those in brackets, and the key of a mapping has a token in front of it
even where only the colon behind it tells that it is one.
-/

namespace ServiceDiscovery.Yaml

/-- The tag of a node as it is written. A verbatim tag has no handle. -/
structure TagWord where
  handle : Option String
  suffix : String
  deriving DecidableEq, Repr

inductive Directive where
  | version (major : Nat)
  | tagHandle (handle pre : String)
  /-- Directives that mean nothing here. -/
  | other
  deriving DecidableEq, Repr

inductive Token where
  | directive (directive : Directive)
  | documentStart
  | documentEnd
  | blockSequenceStart
  | blockMappingStart
  | blockEnd
  | flowSequenceStart
  | flowSequenceEnd
  | flowMappingStart
  | flowMappingEnd
  | blockEntry
  | flowEntry
  | key
  | value
  | alias (name : String)
  | anchor (name : String)
  | tag (word : TagWord)
  /-- A scalar is plain if it is neither quoted nor written as a block. -/
  | scalar (text : Text.Points) (plain : Bool)
  deriving DecidableEq, Repr

end ServiceDiscovery.Yaml
