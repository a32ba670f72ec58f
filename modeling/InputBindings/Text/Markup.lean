/-!
# Console markup

The console reads `[name]` as a style. Text that is to be shown as it is has such a bracket escaped
by a backslash, and the backslashes before it are doubled so that they do not escape the escape.
-/

namespace InputBindings.Text

/-- Whether the rest of a tag is closed before another bracket opens. -/
def closesTag : List Char → Bool
  | [] => false
  | c :: cs => if c = ']' then true else if c = '[' then false else closesTag cs

/-- Whether what follows an opening bracket makes it a tag. -/
def opensTag : List Char → Bool
  | [] => false
  | c :: cs => (c.isLower || c == '#' || c == '/' || c == '@') && closesTag cs

/-- Escapes the tags of a text that `slashes` backslashes stand in front of. -/
def escapeTags (slashes : Nat) : List Char → List Char
  | [] => List.replicate slashes '\\'
  | c :: cs =>
    if c = '\\' then escapeTags (slashes + 1) cs
    else if c = '[' ∧ opensTag cs then
      List.replicate (2 * slashes + 1) '\\' ++ c :: escapeTags 0 cs
    else List.replicate slashes '\\' ++ c :: escapeTags 0 cs

/-- Whether the text ends in a backslash with no other before it. -/
def endsInSingleSlash (cs : List Char) : Bool :=
  match cs.reverse with
  | '\\' :: '\\' :: _ => false
  | '\\' :: _ => true
  | _ => false

/-- The text with its tags escaped. A single backslash at the end is doubled, since it would escape
whatever is written next. -/
def escapeMarkup (s : String) : String :=
  let cs := escapeTags 0 s.toList
  String.ofList (if endsInSingleSlash cs then cs ++ ['\\'] else cs)

end InputBindings.Text
