import InputBindings.Error
import InputBindings.Identifier
import InputBindings.NativeType

/-!
# Target types

The type that a raw input value is converted to in the generated code. A spelling that was given
wins; a container is an array of its elements, of one dimension if it is a row or a column; a model
is called by the identifier left of its native spelling.
-/

namespace InputBindings

/-- The element types of containers that have a target type. -/
def elementTarget? : String → Option String
  | "double" => some "Float64"
  | "float" => some "Float32"
  | "size_t" => some "UInt"
  | "int" => some "Int"
  | _ => none

namespace NativeType

/-- The array type of a container. -/
def arrayTarget? (t : NativeType) : Option String :=
  if t.container then
    (t.element.bind elementTarget?).map fun element =>
      "Array\x7b" ++ element ++ (if t.isRow || t.isColumn then ", 1\x7d" else ", 2\x7d")
  else none

/-- The identifier of a model, unless nothing is left of its spelling. -/
def modelTarget? (t : NativeType) : Option String :=
  if t.serializable && !t.container then
    let identifier := Identifier.ofSpelling t.name
    if identifier = "" then none else some identifier
  else none

/-- The target type of a native type. -/
def targetType (t : NativeType) : Except Error Value :=
  if t.target.isGiven then pure t.target
  else
    match t.arrayTarget? with
    | some spelling => pure (.str spelling)
    | none =>
      match t.modelTarget? with
      | some spelling => pure (.str spelling)
      | none => throw (.noTargetType t.name)

end NativeType

end InputBindings
