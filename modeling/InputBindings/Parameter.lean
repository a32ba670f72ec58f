import InputBindings.TargetType

/-!
# Parameters

A parameter of a program as it is described: its name, its native type, whether it must be given,
and what else the description says of it. The free fields hold whatever value the description has,
null if it has none; a spelling that is not text only matters to the one who reads it.
-/

namespace InputBindings

structure Parameter where
  name : String
  type : NativeType
  /-- An optional parameter is guarded in the generated code. -/
  required : Bool := false
  /-- The native spelling that a model's accessor is built from, instead of the type's. -/
  nativeSpelling : Value := .null
  /-- The target type, instead of the type's. -/
  target : Value := .null
  /-- Free text for a reader. -/
  description : Value := .str ""
  deriving Repr, Inhabited

namespace Parameter

/-- The native spelling that a model's accessor is built from. -/
def underlying (p : Parameter) : Value :=
  match p.nativeSpelling with
  | .null => .str p.type.name
  | v => v

/-- The type that the raw value is converted to: the parameter's own if it has one. -/
def targetType (p : Parameter) : Except Error Value :=
  if p.target.isGiven then pure p.target else p.type.targetType

/-- Refuses a name that generated code cannot use. -/
def checkName (p : Parameter) : Except Error Unit :=
  if p.name = "" then throw (.noName "")
  else if Text.isNameLine p.name.toList then pure ()
  else throw (.notIdentifier p.name)

/-- The identifier of a model parameter's native spelling. -/
def identifier (p : Parameter) : Except Error String :=
  match p.underlying with
  | .str spelling =>
    let identifier := Identifier.ofSpelling spelling
    if identifier = "" then throw (.noUsableIdentifier p.name spelling) else pure identifier
  | _ => throw .spellingNotText

end Parameter

end InputBindings
