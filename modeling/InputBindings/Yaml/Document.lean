import InputBindings.Yaml.Node.Reader
import InputBindings.Yaml.Node.Value
import InputBindings.Yaml.Token.Lexer

/-!
# Documents

A text holds at most one document, and its value is that of the document's root; an empty text
stands for null.
-/

namespace InputBindings.Yaml

/-- The value of a document. -/
def Document.value (d : Document) : Except Fault Value := do
  let build := Build.ofNodes d.nodes
  let (part, build) ← (Build.part d.root).run build
  let (_, build) ← (Build.rounds d.nodes.size).run build
  return build.value part

/-- The value of the document that a source holds. -/
def value (source : Source) : Except Fault Value := do
  match ← Document.ofTokens? (tokens source) with
  | none => return .null
  | some d => d.value

end InputBindings.Yaml
