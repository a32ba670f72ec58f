import InputBindings.Error

/-!
# Settings

The options of the generator. They decide how the generated code is spelled and indented and which
element types count as unsigned, and nothing else. Settings are read from a mapping in which each
option may be missing; a key that is no option is refused before any option is looked at. An
indentation that is read is not negative; settings made in another way may have any.
-/

namespace InputBindings

structure Settings where
  /-- The name that every accessor starts with. -/
  storePrefix : String := "Store"
  /-- The mark of a container with unsigned elements. -/
  unsignedMarker : String := "U"
  /-- The end of a model's accessor. -/
  objectSuffix : String := "Ptr"
  /-- The columns in front of a statement. -/
  baseIndent : Int := 2
  /-- The further columns inside a guard. -/
  indentStep : Int := 2
  /-- The value of a parameter that was not given. -/
  absent : String := "nothing"
  /-- The element types that count as unsigned. -/
  unsignedElements : List String := ["size_t"]
  deriving DecidableEq, Repr, Inhabited

namespace Settings

/-- The options by name, in their order. -/
def items (s : Settings) : List (String × Value) :=
  [("store_prefix", .str s.storePrefix), ("unsigned_marker", .str s.unsignedMarker),
   ("object_suffix", .str s.objectSuffix), ("base_indent", .int s.baseIndent),
   ("indent_step", .int s.indentStep), ("absent", .str s.absent),
   ("unsigned_elem_types", .tuple (s.unsignedElements.map .str))]

/-- The names of the options. -/
def names : List String := ({} : Settings).items.map (·.1)

/-- The settings on one line, each option as `name=value`. -/
def summary (s : Settings) : Except Error String := do
  let texts ← s.items.mapM fun (name, value) => do return name ++ "=" ++ (← value.written)
  return " & ".intercalate texts

/-! ## Reading settings -/

/-- The keys in ascending order if all of them are text. -/
def textKeys (keys : List Value) : Except Error (List String) := do
  let names ← keys.mapM fun key => match key.text? with
    | some s => pure s
    | none => throw .keysNotText
  return names.mergeSort (· ≤ ·)

/-- The keys of a mapping that are not among the names. -/
def otherKeys (names : List String) (entries : List (Value × Value)) : List Value :=
  (entries.map (·.1)).filter fun key => !names.any fun name => key.same (.str name)

/-- The texts in a list or a tuple of texts. A collection that holds itself holds more than texts.
-/
def texts? : Value → Option (List String)
  | .list items => items.mapM Value.text?
  | .tuple items => items.mapM Value.text?
  | _ => none

/-- A list of element types: null is the empty list and a text is a list of one. -/
def readTypeNames (option : String) : Value → Except Error (List String)
  | .null => pure []
  | .str s => pure [s]
  | v =>
    match texts? v with
    | some names => pure names
    | none => throw (.optionNotTypeNames option v)

def readText (option : String) : Value → Except Error String
  | .str s => pure s
  | v => throw (.optionNotText option v)

/-- An indentation. A truth value is no integer here. -/
def readIndent (option : String) : Value → Except Error Int
  | .int n => if n < 0 then throw (.optionNotIndent option (.int n)) else pure n
  | v => throw (.optionNotIndent option v)

/-- Reads the option if the mapping has it. -/
def readOption (entries : List (Value × Value)) (read : String → Value → Except Error α)
    (option : String) (standard : α) : Except Error α :=
  match Value.lookup? entries option with
  | some v => read option v
  | none => pure standard

/-- Settings from the entries of a mapping. -/
def ofEntries (entries : List (Value × Value)) : Except Error Settings := do
  let other := otherKeys names entries
  unless other.isEmpty do
    throw (.unknownOptions (← textKeys other) (names.mergeSort (· ≤ ·)))
  let standard : Settings := {}
  let unsignedElements ←
    readOption entries readTypeNames "unsigned_elem_types" standard.unsignedElements
  let storePrefix ← readOption entries readText "store_prefix" standard.storePrefix
  let unsignedMarker ← readOption entries readText "unsigned_marker" standard.unsignedMarker
  let objectSuffix ← readOption entries readText "object_suffix" standard.objectSuffix
  let absent ← readOption entries readText "absent" standard.absent
  let baseIndent ← readOption entries readIndent "base_indent" standard.baseIndent
  let indentStep ← readOption entries readIndent "indent_step" standard.indentStep
  return { storePrefix, unsignedMarker, objectSuffix, baseIndent, indentStep, absent,
           unsignedElements }

/-- Settings from the data of a settings file; null stands for an empty mapping. -/
def ofValue? (v : Value) : Except Error (Option Settings) :=
  match v.opened with
  | .null => some <$> ofEntries []
  | .mapping entries => some <$> ofEntries entries
  | _ => pure none

end Settings

end InputBindings
