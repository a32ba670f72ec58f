import InputBindings.Number.Integer
import InputBindings.Number.Layout
import InputBindings.Text.Quoted
import InputBindings.Value.Basic

/-!
# The text of a value

A value has a literal form, in which text is quoted, and a plain form, which differs from it in that
text at the top stands for itself and that dates are written as a calendar shows them. Where a
collection occurs inside itself dots stand between its brackets. An integer of more than 4300 digits
has no text, nor has what it is part of. A value may be as deep as it likes: that collections inside
collections can be too deep to be shown is left out.
-/

namespace InputBindings.Value

/-- The least natural number that is too long to be written. -/
def unwritable : Nat := Nat.pow 10 Number.maxDigits

/-- The digits of an integer. -/
def digits (n : Int) : Option String := if n.natAbs < unwritable then some (toString n) else none

/-- The parts of a tuple; a comma follows a single one. -/
def tupleText : List String → String
  | [part] => "(" ++ part ++ ",)"
  | parts => "(" ++ ", ".intercalate parts ++ ")"

/-- The elements of a set. -/
def setText : List String → String
  | [] => "set()"
  | parts => "\x7b" ++ ", ".intercalate parts ++ "\x7d"

/-- What a collection is written as inside itself. -/
def ellipsis : Value → String
  | .mapping _ => "\x7b...\x7d"
  | _ => "[...]"

mutual

/-- The literal form of a value, given what the collections around it are written as. -/
def literalIn (around : List (Nat × String)) : Value → Option String
  | .null => some "None"
  | .bool b => some (if b then "True" else "False")
  | .int n => digits n
  | .float x => some x.text
  | .str s => some (Text.quoted s)
  | .bytes bs => some (Text.quotedBytes bs)
  | .date d => some d.literal
  | .moment m => some m.literal
  | .list items => do return "[" ++ ", ".intercalate (← literalsIn around items) ++ "]"
  | .tuple items => tupleText <$> literalsIn around items
  | .set items => setText <$> literalsIn around items
  | .mapping entries => do
    return "\x7b" ++ ", ".intercalate (← entryLiteralsIn around entries) ++ "\x7d"
  | .knot label held =>
    match around.lookup label with
    | some inside => some inside
    | none => literalIn ((label, ellipsis held) :: around) held
  | .back label => some ((around.lookup label).getD "...")

def literalsIn (around : List (Nat × String)) : List Value → Option (List String)
  | [] => some []
  | v :: vs => do return (← literalIn around v) :: (← literalsIn around vs)

def entryLiteralsIn (around : List (Nat × String)) : List (Value × Value) → Option (List String)
  | [] => some []
  | (k, v) :: rest => do
    let entry := (← literalIn around k) ++ ": " ++ (← literalIn around v)
    return entry :: (← entryLiteralsIn around rest)

end

/-- The literal form of a value. -/
def literal (v : Value) : Option String := literalIn [] v

/-- The plain form of a value. -/
def text : Value → Option String
  | .str s => some s
  | .date d => some d.text
  | .moment m => some m.text
  | v => literal v

end InputBindings.Value
