import InputBindings.Error

/-!
# Faults

What can be wrong with a document. Text is read, tokens are put together and values are built from
the front on and only as far as needed, so of several faults the one that is met first counts.
-/

namespace InputBindings.Yaml

/-- Why a document has no value. -/
inductive Fault where
  /-- The text is no document. -/
  | malformed
  /-- The bytes of the file are no text. -/
  | notUnicode
  /-- Something in the document has no value of the kind that it is said to have. -/
  | content (fault : ContentFault)
  deriving DecidableEq, Repr

end InputBindings.Yaml
