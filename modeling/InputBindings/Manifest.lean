import InputBindings.Catalog
import InputBindings.Program
import InputBindings.Settings

/-!
# Manifests

A manifest maps the names of programs to lists of parameter entries. An entry is a mapping with a
fixed set of keys; its type is one of the catalog unless the entry says that it is a model. Entries
are read in order and the first defect is reported. Within an entry the name is looked at first,
then its keys, its type and its flags, and the catalog last.
-/

namespace InputBindings.Manifest

/-- The keys of a parameter entry. -/
def entryKeys : List String :=
  ["name", "type", "required", "model", "cpp_type", "julia_type", "description"]

/-- The name of an entry. -/
def readName (entries : List (Value × Value)) : Except Error String :=
  match Value.lookup entries "name" with
  | .str s => if s = "" then throw (.noName "") else pure s
  | v => do throw (.noName (← if v.isGiven then v.written else pure ""))

/-- Refuses keys that no entry has. -/
def checkKeys (name : String) (entries : List (Value × Value)) : Except Error Unit := do
  let other := Settings.otherKeys entryKeys entries
  unless other.isEmpty do
    throw (.unknownKeys name (← Settings.textKeys other))

/-- The spelling of the native type. -/
def readType (name : String) (entries : List (Value × Value)) : Except Error String :=
  match Value.lookup entries "type" with
  | .str s => if s = "" then throw (.noType name) else pure s
  | _ => throw (.noType name)

/-- A flag, which is false unless it is given. -/
def readFlag (name flag : String) (entries : List (Value × Value)) : Except Error Bool :=
  match Value.lookup? entries flag with
  | none => pure false
  | some (.bool b) => pure b
  | some v => throw (.flagNotTruth name flag v)

/-- A parameter from the entries of its mapping. -/
def readParameter (catalog : Catalog) (entries : List (Value × Value)) :
    Except Error Parameter := do
  let name ← readName entries
  checkKeys name entries
  let spelling ← readType name entries
  let required ← readFlag name "required" entries
  let model ← readFlag name "model" entries
  let target := Value.lookup entries "julia_type"
  let type ← if model then pure (NativeType.model spelling target) else catalog.resolve spelling
  return {
    name
    type
    required
    nativeSpelling := Value.lookup entries "cpp_type"
    target
    description := (Value.lookup? entries "description").getD (.str "") }

/-- A parameter from one item of a program's list. -/
def readEntry (catalog : Catalog) (v : Value) : Except Error Parameter :=
  match v.opened with
  | .mapping entries => readParameter catalog entries
  | _ => throw (.entryNotMapping v)

/-- A program from its key and what stands under it. -/
def readProgram (catalog : Catalog) (key v : Value) : Except Error Program := do
  match v.opened with
  | .list items =>
    let name ← key.written
    let params ← items.mapM (readEntry catalog)
    Program.ofParams name params
  | _ => throw (.programNotList (← key.written))

/-- The mapping of programs in a manifest. -/
def programEntries (manifest : Value) : Except Error (List (Value × Value)) :=
  match manifest.opened with
  | .mapping entries =>
    match (Value.lookup entries "programs").opened with
    | .mapping programs => pure programs
    | _ => throw .noPrograms
  | _ => throw .noPrograms

/-- The programs of a manifest, in its order. -/
def programs (catalog : Catalog) (manifest : Value) : Except Error (List Program) := do
  let entries ← programEntries manifest
  entries.mapM fun (key, value) => readProgram catalog key value

end InputBindings.Manifest
