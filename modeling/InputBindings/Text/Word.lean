import InputBindings.Text.Letter
import InputBindings.Text.Numeral

/-!
# Words and names

A word is a run of letters, numerals and underscores of any script. A name is what generated code
may use as an identifier: ASCII letters, digits and underscores, no digit first.
-/

namespace InputBindings.Text

/-- A character of a word. -/
def isWord (c : Char) : Bool := isLetter c || isNumeral c || c == '_'

/-- A character that a name may start with. -/
def isNameStart (c : Char) : Bool := c.isAlpha || c == '_'

/-- A character of a name. -/
def isNameChar (c : Char) : Bool := c.isAlphanum || c == '_'

/-- Whether the text is a name. -/
def isName : List Char → Bool
  | [] => false
  | c :: cs => isNameStart c && cs.all isNameChar

/-- Whether the text is a name, possibly followed by one line end. -/
def isNameLine (cs : List Char) : Bool :=
  isName cs || (cs.getLast? == some '\n' && isName cs.dropLast)

end InputBindings.Text
