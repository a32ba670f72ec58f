import InputBindings.Yaml.Source

/-!
# Reading position

A cursor stands in a text and knows its line and column. Line ends are the line feed, the next line
control and the two Unicode separators; a carriage return does not occur, since texts are read with
every line end spelled as a line feed. Where the characters run out the text ends, or it is cut off
by a fault of its source.

Loops over a cursor end because the count of characters left goes down.
-/

namespace InputBindings.Yaml

/-! ## Characters -/

def isBreak (c : Char) : Bool :=
  c == '\n' || c == '\u0085' || c == '\u2028' || c == '\u2029'

def isSpace (c : Char) : Bool := c == ' ' || c == '\t'

/-- The byte order mark, which takes no column. -/
def byteOrderMark : Char := '\uFEFF'

/-- What a line end stands for in a scalar. -/
def breakText (c : Char) : Char := if c == '\u0085' then '\n' else c

/-- A character of an anchor, a directive or a tag handle. -/
def isHandleChar (c : Char) : Bool := c.isAlphanum || c == '-' || c == '_'

/-- A hexadecimal digit. -/
def isHexDigit (c : Char) : Bool :=
  c.isDigit || ('a' ≤ c && c ≤ 'f') || ('A' ≤ c && c ≤ 'F')

/-- The value of a hexadecimal digit. -/
def hexValue (c : Char) : Nat :=
  if c.isDigit then c.toNat - '0'.toNat
  else if 'a' ≤ c && c ≤ 'f' then c.toNat - 'a'.toNat + 10
  else c.toNat - 'A'.toNat + 10

/-- The number that hexadecimal digits stand for. -/
def hexNumber (cs : List Char) : Nat := cs.foldl (fun n c => 16 * n + hexValue c) 0

/-! ## What a text starts with -/

/-- The text is at the end of a line. -/
def atLineEnd : List Char → Bool
  | [] => true
  | c :: _ => isBreak c

/-- The text is at a space or at the end of a line. -/
def atSpaceOrEnd : List Char → Bool
  | [] => true
  | c :: _ => c == ' ' || isBreak c

/-- The text is at a space, a tab or the end of a line. -/
def atBlankOrEnd : List Char → Bool
  | [] => true
  | c :: _ => isSpace c || isBreak c

/-- The text is at a mark between documents: three dashes or three dots that end there. -/
def atDocumentMark : List Char → Bool
  | '-' :: '-' :: '-' :: rest => atBlankOrEnd rest
  | '.' :: '.' :: '.' :: rest => atBlankOrEnd rest
  | _ => false

/-! ## Cursors -/

structure Cursor where
  rest : List Char
  /-- The count of characters in `rest`. -/
  left : Nat
  line : Nat := 0
  column : Nat := 0
  /-- Why the text cannot be read on behind its characters, if it does not end there. -/
  cut : Option Fault := none
  deriving Repr, Inhabited

namespace Cursor

/-- The start of a text; a byte order mark there is passed over. -/
def ofSource (source : Source) : Cursor :=
  let cs := match source.chars with
    | c :: rest => if c == byteOrderMark then rest else c :: rest
    | [] => []
  { rest := cs, left := cs.length, cut := source.cut }

/-- The fault of a text that is wrong here: if it is cut off here, that is why. -/
def fault (c : Cursor) : Fault :=
  match c.rest with
  | [] => c.cut.getD .malformed
  | _ :: _ => .malformed

/-- Refuses to stand where the text is cut off. -/
def hold (c : Cursor) : Except Fault Unit :=
  match c.rest, c.cut with
  | [], some fault => throw fault
  | _, _ => pure ()

/-- One character further. -/
def next (c : Cursor) : Cursor :=
  match c.rest with
  | [] => c
  | x :: rest =>
    if isBreak x then { c with rest, left := c.left - 1, line := c.line + 1, column := 0 }
    else
      let width := if x == byteOrderMark then 0 else 1
      { c with rest, left := c.left - 1, column := c.column + width }

/-- Some characters further. -/
def skip : Nat → Cursor → Cursor
  | 0, c => c
  | n + 1, c => skip n c.next

/-- The characters of a class from here on. -/
def taken (p : Char → Bool) (c : Cursor) : List Char := c.rest.takeWhile p

/-- Past the characters of a class. -/
def skipWhile (p : Char → Bool) (c : Cursor) : Cursor := c.skip (c.taken p).length

def skipSpaces (c : Cursor) : Cursor := c.skipWhile (· == ' ')

/-- Past a comment, if there is one here. -/
def skipComment (c : Cursor) : Cursor :=
  match c.rest with
  | '#' :: _ => c.skipWhile fun x => !isBreak x
  | _ => c

/-- Past the rest of a line that may only hold a comment, and past its end. -/
def skipEmptyRest (c : Cursor) : Except Fault Cursor :=
  let c := c.skipSpaces.skipComment
  if atLineEnd c.rest then pure c.next else throw .malformed

end Cursor

end InputBindings.Yaml
