import InputBindings.Family
import InputBindings.Parameter
import InputBindings.Sink

/-!
# Store calls

A parameter becomes one call of the parameter store: an accessor chosen by the family of its type,
the name, and the value converted to the target type. An optional parameter is only stored if its
value differs from the absent one, so its call stands in a block:

    if lambda !== nothing
      Store("lambda", convert(Float64, lambda))
    end

Whether a call can be made does not depend on the sink that it is written to.
-/

namespace InputBindings

structure StoreCall where
  accessor : String
  name : String
  target : String
  deriving DecidableEq, Repr

namespace StoreCall

/-- The call as it is written. -/
def text (c : StoreCall) : String :=
  c.accessor ++ "(\"" ++ c.name ++ "\", convert(" ++ c.target ++ ", " ++ c.name ++ "))"

/-- The header of the block around an optional call. -/
def guard (c : StoreCall) (s : Settings) : String := "if " ++ c.name ++ " !== " ++ s.absent

/-- The footer of that block. -/
def guardEnd : String := "end"

/-- Writes a call, inside its guard unless the parameter is required. -/
def write (c : StoreCall) (s : Settings) (required : Bool) : Writing Unit :=
  if required then Writing.line c.text
  else Writing.block (c.guard s) guardEnd (Writing.line c.text)

end StoreCall

namespace Parameter

/-- The accessor of a parameter that is passed as a member of the family. -/
def accessor (p : Parameter) (s : Settings) : Family → Except Error String
  | .plain => pure s.storePrefix
  | .container element shape =>
    pure (s.storePrefix ++ accessorSuffix s.unsignedMarker element shape)
  | .model _ => do
    let identifier ← p.identifier
    pure (s.storePrefix ++ identifier ++ s.objectSuffix)

/-- The call of a parameter that is passed as a member of the family. -/
def storeCall (p : Parameter) (s : Settings) (family : Family) : Except Error StoreCall := do
  p.checkName
  let accessor ← p.accessor s family
  let target ← p.targetType
  return { accessor, name := p.name, target := ← target.written }

/-- Writes a parameter as a member of the family. -/
def emitAs (p : Parameter) (s : Settings) (family : Family) : Writing Unit := do
  let call ← p.storeCall s family
  call.write s p.required

/-- Writes a parameter as a member of a family that may be none. -/
def emitGiven (p : Parameter) (s : Settings) : Value ⊕ Family → Writing Unit
  | .inl given => throw (.noFamily given)
  | .inr family => p.emitAs s family

/-- Writes a parameter as a member of the category. Of what was made out for it only the elements
and the shape of a container matter. -/
def emitIn (p : Parameter) (s : Settings) (category : Category) (given : Value ⊕ Family) :
    Writing Unit :=
  match category, given with
  | .plain, _ => p.emitAs s .plain
  | .model, _ => p.emitAs s (.model p.type.name)
  | .container, .inr (.container element shape) => p.emitAs s (.container element shape)
  | .container, _ => do
    p.checkName
    throw .noShape

/-- Writes a parameter. -/
def emit (p : Parameter) (s : Settings) : Writing Unit := do
  let family ← p.type.family s
  p.emitAs s family

end Parameter

end InputBindings
