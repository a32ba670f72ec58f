import InputBindings.NativeType
import InputBindings.Settings

/-!
# Families of types

A parameter is passed in one of three ways, by the family of its type. The three families are
defined by what a type is capable of, each on its own, and a well-formed type belongs to exactly
one: a type that belongs to several is refused, and so is a container with inconsistent shape.
-/

namespace InputBindings

/-- The elements of a container. -/
inductive Element where
  | unsigned
  | other
  deriving DecidableEq, Repr

/-- The shape of a container. -/
inductive Shape where
  | general
  | row
  | column
  deriving DecidableEq, Repr

inductive Family where
  /-- Passed by value. -/
  | plain
  /-- A numeric container. -/
  | container (element : Element) (shape : Shape)
  /-- A serializable object, passed by reference. -/
  | model (typeName : String)
  deriving DecidableEq, Repr

/-- The family without what it says about the type. -/
inductive Category where
  | plain
  | container
  | model
  deriving DecidableEq, Repr

/-- The name of a category in tables and messages. -/
def Category.name : Category → String
  | .plain => "PLAIN"
  | .container => "MATRIX_LIKE"
  | .model => "OBJECT_LIKE"

def Family.category : Family → Category
  | .plain => .plain
  | .container .. => .container
  | .model _ => .model

namespace NativeType

/-- Whether the type belongs to the category. -/
def belongs (t : NativeType) : Category → Bool
  | .plain => !t.serializable
  | .container => t.container
  | .model => t.serializable && !t.container

/-- The categories that the type belongs to. -/
def categories (t : NativeType) : List Category :=
  [.plain, .container, .model].filter t.belongs

/-- The shape of a container; a row that is also a column counts as a row. -/
def shape (t : NativeType) : Shape :=
  if t.isRow then .row else if t.isColumn then .column else .general

/-- The family of a container. -/
def containerFamily (s : Settings) (t : NativeType) : Except Error Family :=
  match t.element with
  | none => throw (.noElementType t.name)
  | some element =>
    if t.isRow && t.isColumn then throw (.rowAndColumn t.name)
    else
      let kind := if element ∈ s.unsignedElements then Element.unsigned else .other
      pure (.container kind t.shape)

/-- The one family of a type. -/
def family (s : Settings) (t : NativeType) : Except Error Family :=
  match t.categories with
  | [.plain] => pure .plain
  | [.container] => t.containerFamily s
  | [.model] => pure (.model t.name)
  | many => throw (.ambiguousType t.name (many.map Category.name))

end NativeType

/-- The part of a container's accessor after the prefix: the unsigned marker, then the shape. -/
def accessorSuffix (marker : String) (element : Element) (shape : Shape) : String :=
  (match element with
    | .unsigned => marker
    | .other => "") ++
  match shape with
    | .general => ""
    | .row => "Row"
    | .column => "Col"

end InputBindings
