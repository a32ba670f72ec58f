import InputBindings.Value.Text

/-!
# Wording

The sentences that errors and progress messages are put together from. Names stand between single
quotes as they are, without escaping.
-/

namespace InputBindings.Wording

/-- The name of a parameter, a type or a program in a message. -/
def named (name : String) : String := "'" ++ name ++ "'"

/-- An offending value in a message: text between single quotes, anything else in its plain form if
it has one. -/
def shown : Value → Option String
  | .str s => some (named s)
  | v => v.text

def commaSeparated (items : List String) : String := ", ".intercalate items

/-- A list in running text, each item in the style if there is one, or the word for an empty list.
-/
def enumerated (items : List String) (style : Option String) (empty : String) : String :=
  let styled := fun item => match style with
    | none => item
    | some s => "[" ++ s ++ "]" ++ item ++ "[/" ++ s ++ "]"
  match items.map styled with
  | [] => styled empty
  | [a] => a
  | [a, b] => a ++ " and " ++ b
  | many => commaSeparated many.dropLast ++ ", and " ++ many.getLastD ""

/-- The word for an empty list where no other is given. -/
def nothing : String := "nothing"

/-! ## Types -/

/-- A type that belongs to no family or to several. -/
def ambiguousType (type : String) (families : List String) : String :=
  if families.isEmpty then "Type " ++ named type ++ " matches no category"
  else "Type " ++ named type ++ " matches more than one category: " ++ commaSeparated families

/-- A type whose parts do not fit together. -/
def badShape (type requirement : String) : String :=
  "Type " ++ named type ++ ": " ++ requirement

/-- A type that is not known, with the known ones that resemble it. -/
def unknownType (type : String) (suggestions : List String) : String :=
  let base := "Unknown type " ++ named type
  if suggestions.isEmpty then base
  else base ++ ". Did you mean one of: " ++ commaSeparated (suggestions.map named) ++ "?"

/-! ## Parameters -/

/-- What is wrong with a parameter. -/
def badParameter (name problem : String) : String := "Parameter " ++ named name ++ " " ++ problem

/-- What is wrong with a parameter, and the value that is wrong unless it is null. -/
def badParameterGot (name problem : String) (got : Value) : Option String :=
  match got with
  | .null => some (badParameter name problem)
  | v => (shown v).map fun s => badParameter name problem ++ ", got " ++ s

/-- A parameter that occurs twice, in a program that may have no name. -/
def duplicate (name program : String) : String :=
  if program = "" then "Duplicate parameter " ++ named name
  else "Duplicate parameter " ++ named name ++ " in program " ++ named program

end InputBindings.Wording
