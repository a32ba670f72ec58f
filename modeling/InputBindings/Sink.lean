import InputBindings.Error
import InputBindings.Text.Lines

/-!
# Sinks: where generated lines go

A sink collects lines in the order in which they are written. Its depth, in columns, is moved by
blocks alone: a block writes its header, indents by one step, and on closing returns to the depth at
which it was opened and writes its footer. An action on a sink may fail, and then the sink is what
the action has made of it so far.
-/

namespace InputBindings

structure Sink where
  /-- The depth of a new sink. -/
  base : Int
  /-- What a block adds to the depth. -/
  step : Int
  /-- The depth of the next line. -/
  depth : Int
  lines : List String
  /-- The depths at which the open blocks were opened, the innermost first. -/
  opened : List Int
  deriving DecidableEq, Repr, Inhabited

/-- An action on a sink: it may fail, and what it has written stays. -/
abbrev Writing (α : Type) : Type := ExceptT Error (StateM Sink) α

/-- The widest indentation, which is the greatest machine integer. -/
def maxIndentation : Int := 9223372036854775807

/-- The blanks in front of a line. There is taken to be memory for as many as the widest indentation
has. -/
def indentation (level : Int) : Except Error String :=
  if level < 0 then throw (.negativeIndent level)
  else if maxIndentation < level then throw .indentOutOfRange
  else pure (String.ofList (List.replicate level.toNat ' '))

namespace Sink

/-- A sink without lines. -/
def new (base step : Int) : Sink := { base, step, depth := base, lines := [], opened := [] }

/-- Whether some block is open. -/
def isOpen (w : Sink) : Bool := !w.opened.isEmpty

/-- The chunk of text, which exists once every block is closed. -/
def text (w : Sink) : Except Error String :=
  if w.isOpen then throw (.blocksOpen w.opened.length) else pure (Text.closedLines w.lines)

end Sink

namespace Writing

/-- Runs an action. -/
def run (action : Writing α) (w : Sink) : Except Error α × Sink := (ExceptT.run action).run w

/-- An action given by what it does to each sink. -/
def ofRun (f : Sink → Except Error α × Sink) : Writing α := ExceptT.mk f

/-- Writes a line at the current depth. -/
def line (statement : String) : Writing Unit := do
  let w ← get
  let blanks ← indentation w.depth
  set { w with lines := w.lines ++ [blanks ++ statement] }

/-- Opens a block. -/
def openBlock (header : String) : Writing Unit := do
  line header
  modify fun w => { w with opened := w.depth :: w.opened, depth := w.depth + w.step }

/-- Closes the innermost block. -/
def closeBlock (footer : String) : Writing Unit := do
  let w ← get
  match w.opened with
  | [] => throw .unmatchedClose
  | depth :: outer =>
    set { w with depth := depth, opened := outer }
    line footer

/-- Runs an action and then closes the innermost block, whether or not the action has failed. If
closing fails as well, that failure is the result. -/
def closing (footer : String) (action : Writing α) : Writing α := ofRun fun w =>
  let (result, w) := action.run w
  match (closeBlock footer).run w with
  | (.ok _, w) => (result, w)
  | (.error e, w) => (.error e, w)

/-- Runs an action inside a block. -/
def block (header footer : String) (body : Writing α) : Writing α := do
  openBlock header
  closing footer body

/-- Appends the lines of a sink without open blocks, as they are. -/
def extend (other : Sink) : Writing Unit := do
  if other.isOpen then throw .spliceOpen
  else modify fun w => { w with lines := w.lines ++ other.lines }

end Writing

end InputBindings
