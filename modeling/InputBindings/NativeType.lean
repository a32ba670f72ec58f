import InputBindings.Value.Basic

/-!
# Native types

The static type of a parameter on the native side: its spelling and what it is capable of. A
container without an element type, one that is a row and a column at once, and a container that
cannot be serialized can all be described here; `Family` says what is wrong with them.
-/

namespace InputBindings

structure NativeType where
  /-- The spelling on the native side. -/
  name : String
  /-- The type supports structured serialization. -/
  serializable : Bool := false
  /-- The type is a numeric container. -/
  container : Bool := false
  /-- The spelling of a container's element type. -/
  element : Option String := none
  /-- The container has a single row. -/
  isRow : Bool := false
  /-- The container has a single column. -/
  isColumn : Bool := false
  /-- The spelling in the generated code, as it was given; null if it was not. -/
  target : Value := .null
  deriving Repr, Inhabited

namespace NativeType

/-- A scalar, a text, an enumerated option or a flag. -/
def plain (name : String) (target : Value) : NativeType := { name, target }

/-- A numeric container. Containers always support serialization. -/
def numeric (name : String) (element : Option String) (isRow isColumn : Bool) (target : Value) :
    NativeType :=
  { name, serializable := true, container := true, element, isRow, isColumn, target }

/-- A model, which supports serialization and is no container. -/
def model (name : String) (target : Value) : NativeType :=
  { name, serializable := true, target }

/-- Whether two descriptions are the same. -/
def same (a b : NativeType) : Bool :=
  a.name == b.name && a.serializable == b.serializable && a.container == b.container &&
    a.element == b.element && a.isRow == b.isRow && a.isColumn == b.isColumn &&
    Value.same a.target b.target

end NativeType

end InputBindings
