import InputBindings.Yaml.Fault

/-!
# Tokens

The marks and scalars of a document. Block structure, which the text shows by indentation, has
tokens of its own. A text that is faulty has tokens up to the one that cannot be read.
-/

namespace InputBindings.Yaml

inductive Token where
  /-- The directive that names the version of the language. -/
  | version (major : Nat)
  /-- The directive that says what a tag handle stands for. -/
  | handle (name stem : String)
  /-- Any other directive. -/
  | directive
  | documentStart
  | documentEnd
  | streamEnd
  | blockSequence
  | blockMapping
  | blockEnd
  | flowSequence
  | flowSequenceEnd
  | flowMapping
  | flowMappingEnd
  /-- The dash of an item. -/
  | item
  /-- The comma of a flow collection. -/
  | comma
  | key
  | value
  | alias (name : String)
  | anchor (name : String)
  /-- A tag: a handle, unless the tag is written out, and what follows it. -/
  | tag (handle : Option String) (rest : String)
  | scalar (text : String) (plain : Bool)
  /-- Here the text cannot be read on. -/
  | broken (fault : Fault)
  deriving DecidableEq, Repr

/-- The fault of a list of tokens that does not go on as it must. -/
def faultAt : List Token → Fault
  | .broken fault :: _ => fault
  | _ => .malformed

end InputBindings.Yaml
