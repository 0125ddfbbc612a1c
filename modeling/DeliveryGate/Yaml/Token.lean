import DeliveryGate.Document.Lexeme

/-!
# Tokens of YAML

The marks, properties and scalars of a YAML text, together with the marks that its indentation
stands for.
-/

namespace DeliveryGate

namespace Yaml

/-- A mark, a property or a scalar of a text. -/
inductive Token where
  | version (major minor : Nat)
  | tagHandle (handle uri : String)
  | documentStart
  | documentEnd
  | blockSequence
  | blockMapping
  | blockEnd
  | flowSequenceStart
  | flowSequenceEnd
  | flowMappingStart
  | flowMappingEnd
  | blockEntry
  | flowEntry
  | key
  | value
  | alias (name : String)
  | anchor (name : String)
  | tag (handle suffix : String)
  | scalar (text : String) (style : LexemeStyle)
  deriving DecidableEq

end Yaml

end DeliveryGate
