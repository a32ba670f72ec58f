import InputBindings.Yaml.Property
import InputBindings.Yaml.Scalar

/-!
# From text to tokens

Block structure is read off the columns: a token further to the right than the collection around it
may open a collection, and a token further to the left closes all that are deeper. The key of a
mapping shows itself only at the colon after it, so the place where a key may have started is
remembered, one for each open flow collection and one for the block around them; at a colon the key
mark is put in front of what was remembered. A place is forgotten at the end of its line. One that
must start a key, because it stands where a key of the block mapping stands, may not be forgotten
before its colon.

Text is read no further than the next token needs: what may be a key is read on from until its colon
has come or it is too far back, and everything else is known as soon as it is read. A fault shows at
the token for whose sake the text was read on.

A step reads at least one character, so reading ends with the text.
-/

namespace InputBindings.Yaml

/-- A place where a key may have started. -/
structure Candidate where
  /-- The count of tokens before the place. -/
  index : Nat
  /-- A key must start here. -/
  required : Bool
  /-- The count of characters from the place on. -/
  left : Nat
  line : Nat
  column : Nat
  deriving Repr, Inhabited

/-- The greatest length of a key that is found at its colon. -/
def maxKeyLength : Nat := 1024

structure Lexer where
  cursor : Cursor
  /-- The column of the innermost block collection; -1 outside of all. -/
  indent : Int := -1
  /-- The columns of the block collections around it. -/
  outer : List Int := []
  /-- A key may start at the next token. -/
  keyAllowed : Bool := true
  /-- For the innermost flow collection, those around it and the block: where a key may have
  started. -/
  candidates : List (Option Candidate) := [none]
  /-- The tokens so far, the last one first. -/
  tokens : List Token := []
  /-- The count of tokens. -/
  size : Nat := 0

namespace Lexer

/-- Whether no flow collection is open. -/
def inBlock (s : Lexer) : Bool := s.candidates.length ≤ 1

def emit (token : Token) (s : Lexer) : Lexer :=
  { s with tokens := token :: s.tokens, size := s.size + 1 }

/-- Puts a token after the first `index` ones. -/
def emitAt (index : Nat) (token : Token) (s : Lexer) : Lexer :=
  let after := s.size - index
  { s with tokens := s.tokens.take after ++ token :: s.tokens.drop after, size := s.size + 1 }

def allow (keyAllowed : Bool) (s : Lexer) : Lexer := { s with keyAllowed }

def moveTo (cursor : Cursor) (s : Lexer) : Lexer := { s with cursor }

/-! ## Candidates -/

/-- Whether the place is too far back for a key. -/
def isStale (s : Lexer) (k : Candidate) : Bool :=
  k.line != s.cursor.line || maxKeyLength < k.left - s.cursor.left

/-- Forgets the places that are too far back. -/
def dropStale (s : Lexer) : Except Fault Lexer :=
  if s.candidates.any fun k => k.any fun k => k.required && s.isStale k then throw .malformed
  else pure { s with candidates := s.candidates.map fun k => k.filter fun k => !s.isStale k }

/-- Forgets the place of the innermost collection. -/
def forget (s : Lexer) : Except Fault Lexer :=
  match s.candidates with
  | some k :: rest =>
    if k.required then throw .malformed else pure { s with candidates := none :: rest }
  | _ => pure s

/-- Remembers the place of the next token if a key may start there. -/
def remember (s : Lexer) : Except Fault Lexer :=
  if s.keyAllowed then do
    let s ← s.forget
    let k : Candidate := {
      index := s.size
      required := s.inBlock && s.indent == s.cursor.column
      left := s.cursor.left
      line := s.cursor.line
      column := s.cursor.column }
    return { s with candidates := some k :: s.candidates.drop 1 }
  else pure s

/-! ## Block collections -/

/-- Closes the block collections beyond the column, given those around the innermost one. -/
def closeBlocks (column : Int) (outer : List Int) (s : Lexer) : Lexer :=
  if s.indent ≤ column then s
  else
    match outer with
    | [] => s
    | around :: rest =>
      closeBlocks column rest { s.emit .blockEnd with indent := around, outer := rest }

/-- Closes the block collections beyond the column, unless a flow collection is open. -/
def unwind (column : Int) (s : Lexer) : Lexer :=
  if s.inBlock then s.closeBlocks column s.outer else s

/-- Opens a block collection at the column, its mark put after the first `index` tokens, unless one
is open there. -/
def openBlock (index : Nat) (token : Token) (column : Nat) (s : Lexer) : Lexer :=
  if s.inBlock && s.indent < column then
    { s with indent := column, outer := s.indent :: s.outer }.emitAt index token
  else s

/-! ## Steps -/

/-- Past spaces, comments and line ends. After a line end in block context a key may start. -/
def skipGap (s : Lexer) : Lexer :=
  let here := s.cursor.skipSpaces.skipComment
  match here.rest with
  | x :: _ =>
    if isBreak x then
      if _h : here.next.left < s.cursor.left then
        skipGap { s with cursor := here.next, keyAllowed := s.inBlock || s.keyAllowed }
      else s.moveTo here
    else s.moveTo here
  | [] => s.moveTo here
termination_by s.cursor.left

/-- What ends all block collections: the end of the text, a directive or a document mark. -/
def closeAll (s : Lexer) : Except Fault Lexer := do
  return (← (s.unwind (-1)).forget).allow false

/-- A mark of three characters between documents. -/
def documentMark (token : Token) (s : Lexer) : Except Fault Lexer := do
  let s ← s.closeAll
  return (s.emit token).moveTo (s.cursor.skip 3)

def directive (s : Lexer) : Except Fault Lexer := do
  let s ← s.closeAll
  let (token, cursor) ← Yaml.directive s.cursor
  return (s.emit token).moveTo cursor

/-- The bracket that opens a flow collection. -/
def openFlow (token : Token) (s : Lexer) : Except Fault Lexer := do
  let s ← s.remember
  let s := { s with candidates := none :: s.candidates }
  return ((s.allow true).emit token).moveTo s.cursor.next

/-- The bracket that closes a flow collection. -/
def closeFlow (token : Token) (s : Lexer) : Except Fault Lexer := do
  let s ← s.forget
  if s.inBlock then throw s.cursor.next.fault
  let s := { s with candidates := s.candidates.drop 1 }
  return ((s.allow false).emit token).moveTo s.cursor.next

def comma (s : Lexer) : Except Fault Lexer := do
  let s ← (s.allow true).forget
  return (s.emit .comma).moveTo s.cursor.next

/-- The dash of an item. -/
def item (s : Lexer) : Except Fault Lexer := do
  if s.inBlock && !s.keyAllowed then throw s.cursor.next.fault
  let s := s.openBlock s.size .blockSequence s.cursor.column
  let s ← (s.allow true).forget
  return (s.emit .item).moveTo s.cursor.next

/-- The question mark before a key. -/
def key (s : Lexer) : Except Fault Lexer := do
  if s.inBlock && !s.keyAllowed then throw s.cursor.next.fault
  let s := s.openBlock s.size .blockMapping s.cursor.column
  let s ← (s.allow s.inBlock).forget
  return (s.emit .key).moveTo s.cursor.next

/-- The colon before a value: what was remembered is the key, or the key was marked before. -/
def value (s : Lexer) : Except Fault Lexer := do
  let s ← match s.candidates with
    | some k :: rest =>
      let s := { s with candidates := none :: rest }.emitAt k.index .key
      pure ((s.openBlock k.index .blockMapping k.column).allow false)
    | _ =>
      if s.inBlock && !s.keyAllowed then throw s.cursor.next.fault
      let s := s.openBlock s.size .blockMapping s.cursor.column
      pure (s.allow s.inBlock)
  return (s.emit .value).moveTo s.cursor.next

/-- A token that may be the start of a key. -/
def content (read : Cursor → Except Fault (Token × Cursor)) (s : Lexer) : Except Fault Lexer := do
  let s ← s.remember
  let (token, cursor) ← read s.cursor
  return ((s.allow false).emit token).moveTo cursor

/-- A scalar in quotes. -/
def quoted (double : Bool) (s : Lexer) : Except Fault Lexer :=
  s.content fun c => do
    let (text, done) ← quotedScalar double c
    return (.scalar text false, done)

/-- A block of lines, after which a key may start. -/
def block (fold : Bool) (s : Lexer) : Except Fault Lexer := do
  let s ← (s.allow true).forget
  let (text, cursor) ← blockScalar fold s.indent s.cursor
  return (s.emit (.scalar text false)).moveTo cursor

/-- A plain scalar; a key may start on a later line. Where that line starts, there may be a document
mark. -/
def plain (s : Lexer) : Except Fault Lexer := do
  let s ← s.remember
  let done := plainWords (!s.inBlock) (s.indent + 1) s.cursor
  if done.broken then
    let needed := if atDocumentMark done.cursor.rest then 3 else 2
    (done.cursor.skip (needed - done.cursor.column)).hold
  return ((s.allow done.broken).emit (.scalar (String.ofList done.text) true)).moveTo done.cursor

/-- The characters that have a meaning of their own at the start of a token. -/
def isIndicator (c : Char) : Bool := "-?:,[]\x7b\x7d#&*!|>'\"%@\x60".toList.contains c

/-- Whether a plain scalar may start with the character, given what follows. -/
def startsPlain (inBlock : Bool) (x : Char) (rest : List Char) : Bool :=
  !(isSpace x || isIndicator x) ||
    (!atBlankOrEnd rest && (x == '-' || (inBlock && (x == '?' || x == ':'))))

/-- Reads the token that starts with a character. -/
def token (x : Char) (rest : List Char) (s : Lexer) : Except Fault Lexer := do
  let atMargin := s.cursor.column == 0
  let marks := !s.inBlock || atBlankOrEnd rest
  if atMargin && (x == '-' || x == '.') then (s.cursor.skip 2).hold
  if x == '%' && atMargin then s.directive
  else if x == '-' && atMargin && atDocumentMark (x :: rest) then s.documentMark .documentStart
  else if x == '.' && atMargin && atDocumentMark (x :: rest) then s.documentMark .documentEnd
  else if x == '[' then s.openFlow .flowSequence
  else if x == '\x7b' then s.openFlow .flowMapping
  else if x == ']' then s.closeFlow .flowSequenceEnd
  else if x == '\x7d' then s.closeFlow .flowMappingEnd
  else if x == ',' then s.comma
  else if x == '-' && atBlankOrEnd rest then s.item
  else if x == '?' && marks then s.key
  else if x == ':' && marks then s.value
  else if x == '*' then s.content fun c => do
    let (name, done) ← Yaml.name c
    return (.alias name, done)
  else if x == '&' then s.content fun c => do
    let (name, done) ← Yaml.name c
    return (.anchor name, done)
  else if x == '!' then s.content tag
  else if x == '|' && s.inBlock then s.block false
  else if x == '>' && s.inBlock then s.block true
  else if x == '\'' then s.quoted false
  else if x == '"' then s.quoted true
  else if startsPlain s.inBlock x rest then s.plain
  else throw s.cursor.next.fault

/-- Where reading on leads. -/
inductive Progress where
  /-- To the end of the text: these are its tokens. -/
  | finished (tokens : List Token)
  | going (s : Lexer)

/-- Reads on by one token. A token is not known before the text behind it. -/
def step (s : Lexer) : Except Fault Progress := do
  let s := s.skipGap
  s.cursor.hold
  let s ← s.dropStale
  let here := s.unwind s.cursor.column
  match here.cursor.rest with
  | [] =>
    let done ← here.closeAll
    return .finished (done.emit .streamEnd).tokens.reverse
  | x :: rest =>
    let next ← here.token x rest
    next.cursor.hold
    return .going (← next.dropStale)

/-- The count of tokens that are known before the text has to be read on. -/
def known (s : Lexer) : Nat :=
  (s.candidates.filterMap fun k => k.map (·.index)).min?.getD s.size

/-- The tokens of a text that cannot be read on. -/
def broken (fault : Fault) (s : Lexer) : List Token :=
  s.tokens.reverse.take s.known ++ [.broken fault]

/-- Reads all tokens from here on. -/
def run (s : Lexer) : List Token :=
  match s.step with
  | .error fault => s.broken fault
  | .ok (.finished tokens) => tokens
  | .ok (.going next) =>
    if _h : next.cursor.left < s.cursor.left then next.run else s.broken .malformed
termination_by s.cursor.left

end Lexer

/-- The tokens of what can be read of a file. -/
def tokens (source : Source) : List Token := Lexer.run { cursor := Cursor.ofSource source }

end InputBindings.Yaml
