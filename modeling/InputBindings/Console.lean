import InputBindings.Error
import InputBindings.Text.Lines

/-!
# The console

Messages for the user go to a console, which sees text before styles in it are interpreted, tables,
and unexpected failures. A stack of indentations stands in front of every line of a message. Handing
something over always succeeds: that a screen reads styles in a text, and may fail at that, is left
out.
-/

namespace InputBindings

/-- A table of texts. -/
structure Table where
  title : String
  columns : List String
  rows : List (List String)
  deriving DecidableEq, Repr

/-- What is handed to the console. -/
inductive Notice where
  | text (s : String)
  | table (t : Table)
  | failure (e : Error)
  deriving Repr

structure Console where
  /-- The indentations, the outermost first. -/
  indents : List String := []
  /-- What was handed over, in order. -/
  notices : List Notice := []
  deriving Repr, Inhabited

namespace Console

/-- The indentation where no other is given. -/
def standardIndent : String := "  "

def reset (c : Console) : Console := { c with indents := [] }

def indent (c : Console) (blanks : String := standardIndent) : Console :=
  { c with indents := c.indents ++ [blanks] }

/-- Takes back that many indentations. If there are fewer, all are gone and the step fails. -/
def unindent (c : Console) (times : Int := 1) : Except Error Unit × Console :=
  if times ≤ c.indents.length then
    (.ok (), { c with indents := c.indents.take (c.indents.length - times.toNat) })
  else (.error .noIndent, { c with indents := [] })

def hand (c : Console) (notice : Notice) : Console := { c with notices := c.notices ++ [notice] }

/-- Hands a message over, each of its lines indented unless that is not wanted. -/
def print (c : Console) (message : String) (flat : Bool := false) : Console :=
  c.hand (.text (if flat then message else Text.leadLines (String.join c.indents) message))

end Console

end InputBindings
