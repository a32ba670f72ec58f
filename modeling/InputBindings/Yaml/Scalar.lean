import InputBindings.Yaml.Cursor

/-!
# Scalars as they are written

A scalar is written plainly, between single or double quotes, or as a block of lines. In all but the
literal block a line end between two lines of text stands for a space, and of several line ends in a
row the first is dropped; only the line feed folds, the Unicode separators stay.

Each reader takes the cursor at the start of the scalar and returns its text and the cursor behind
it.
-/

namespace InputBindings.Yaml

/-- What line ends between two lines fold into: `first` is the end of the line of text, `more` are
the ends of the empty lines after it. -/
def folded (first : Char) (more : List Char) : List Char :=
  if first != '\n' then first :: more else if more.isEmpty then [' '] else more

/-! ## Quoted scalars -/

/-- The characters that a backslash and one character stand for. -/
def escape? : Char → Option Char
  | '0' => some '\x00'
  | 'a' => some '\x07'
  | 'b' => some '\x08'
  | 't' => some '\t'
  | '\t' => some '\t'
  | 'n' => some '\n'
  | 'v' => some '\x0b'
  | 'f' => some '\x0c'
  | 'r' => some '\r'
  | 'e' => some '\x1b'
  | ' ' => some ' '
  | '"' => some '"'
  | '\\' => some '\\'
  | '/' => some '/'
  | 'N' => some '\u0085'
  | '_' => some '\u00a0'
  | 'L' => some '\u2028'
  | 'P' => some '\u2029'
  | _ => none

/-- The count of hexadecimal digits after a backslash and this character. -/
def escapeWidth? : Char → Option Nat
  | 'x' => some 2
  | 'u' => some 4
  | 'U' => some 8
  | _ => none

/-- The character of a code point that an escape names. Texts with half a code point (`\ud800` up to
`\udfff`) are left out: no text here can hold one, so its escape counts as malformed. -/
def escapedChar (n : Nat) : Except Fault Char :=
  if h : n.isValidChar then pure (Char.ofNatAux n h)
  else if n ≤ 0x10FFFF then throw .malformed
  else if n < 0x80000000 then throw (.content .beyondUnicode)
  else throw (.content .beyondRange)

/-- The line ends from here on, with the blanks between them passed over. A document mark must not
occur inside a quoted scalar. -/
def quotedBreaks (c : Cursor) : Except Fault (List Char × Cursor) := do
  (c.skip 2).hold
  if atDocumentMark c.rest then throw (c.skip 3).fault
  else
    let here := c.skipWhile isSpace
    match here.rest with
    | x :: _ =>
      if isBreak x then
        let after := here.next
        if _h : after.left < c.left then do
          let (more, done) ← quotedBreaks after
          return (breakText x :: more, done)
        else throw .malformed
      else pure ([], here)
    | [] => pure ([], here)
termination_by c.left

/-- One piece of a quoted scalar, or nothing at the closing quote. -/
def quotedPiece (double : Bool) (c : Cursor) : Except Fault (Option (List Char × Cursor)) :=
  match c.rest with
  | [] => throw c.fault
  | x :: rest =>
    if isSpace x || isBreak x then
      let here := c.skipWhile isSpace
      match here.rest with
      | [] => throw here.fault
      | y :: _ =>
        if isBreak y then do
          let (more, done) ← quotedBreaks here.next
          return some (folded (breakText y) more, done)
        else pure (some (c.taken isSpace, here))
    else if double then
      if x = '"' then pure none
      else if x = '\\' then
        match rest with
        | [] => throw c.next.fault
        | e :: digits =>
          match escape? e, escapeWidth? e with
          | some y, _ => pure (some ([y], c.skip 2))
          | none, some width =>
            let number := (digits.take width).takeWhile isHexDigit
            if number.length = width then do
              let y ← escapedChar (hexNumber number)
              return some ([y], c.skip (2 + width))
            else throw (c.skip (2 + number.length)).fault
          | none, none =>
            if isBreak e then some <$> quotedBreaks (c.skip 2) else throw .malformed
      else pure (some ([x], c.next))
    else if x = '\'' then
      match rest with
      | '\'' :: _ => pure (some (['\''], c.skip 2))
      | _ => pure none
    else pure (some ([x], c.next))

/-- The pieces up to the closing quote. -/
def quotedPieces (double : Bool) (c : Cursor) : Except Fault (List Char × Cursor) := do
  match ← quotedPiece double c with
  | none => pure ([], c.next)
  | some (piece, after) =>
    if _h : after.left < c.left then
      let (more, done) ← quotedPieces double after
      return (piece ++ more, done)
    else throw .malformed
termination_by c.left

/-- A quoted scalar. -/
def quotedScalar (double : Bool) (c : Cursor) : Except Fault (String × Cursor) := do
  let (text, done) ← quotedPieces double c.next
  return (String.ofList text, done)

/-! ## Plain scalars -/

/-- Whether a plain scalar goes on at the first character, given the ones from it on. -/
def plainGoesOn (flow : Bool) : List Char → Bool
  | [] => false
  | x :: rest =>
    if isSpace x || isBreak x then false
    else if x = ':' then
      !(atBlankOrEnd rest || (flow && match rest with
        | y :: _ => y == ',' || y == '[' || y == ']' || y == '\x7b' || y == '\x7d'
        | [] => false))
    else !(flow && (x == ',' || x == '?' || x == '[' || x == ']' || x == '\x7b' || x == '\x7d'))

/-- The characters of a plain scalar up to a blank or an indicator. -/
def plainWord (flow : Bool) : List Char → List Char
  | [] => []
  | x :: rest => if plainGoesOn flow (x :: rest) then x :: plainWord flow rest else []

/-- The ends of empty lines, or nothing if a document mark comes first. -/
def plainBreaks (c : Cursor) : Option (List Char × Cursor) :=
  if c.column = 0 ∧ atDocumentMark c.rest then none
  else
    let here := c.skipSpaces
    match here.rest with
    | x :: _ =>
      if isBreak x then
        let after := here.next
        if _h : after.left < c.left then
          (plainBreaks after).map fun (more, done) => (breakText x :: more, done)
        else none
      else some ([], here)
    | [] => some ([], here)
termination_by c.left

/-- What stands between two words of a plain scalar. -/
structure Gap where
  /-- The text of the gap; none if no word can follow. -/
  text : Option (List Char)
  cursor : Cursor
  /-- The gap goes over the end of a line. -/
  broken : Bool

/-- The gap after a word. -/
def plainGap (c : Cursor) : Gap :=
  let here := c.skipSpaces
  let blanks := c.taken (· == ' ')
  match here.rest with
  | x :: _ =>
    if isBreak x then
      match plainBreaks here.next with
      | none => ⟨none, here.next, true⟩
      | some (more, done) => ⟨some (folded (breakText x) more), done, true⟩
    else ⟨if blanks.isEmpty then none else some blanks, here, false⟩
  | [] => ⟨if blanks.isEmpty then none else some blanks, here, false⟩

/-- A plain scalar and where it ends. -/
structure PlainText where
  text : List Char
  cursor : Cursor
  /-- The text is followed by the end of a line. -/
  broken : Bool

/-- The words of a plain scalar. In block context a word must stand at column `indent` or beyond. -/
def plainWords (flow : Bool) (indent : Int) (c : Cursor) : PlainText :=
  let word := plainWord flow c.rest
  let gap := plainGap (c.skip word.length)
  match gap.text with
  | none => ⟨word, gap.cursor, gap.broken⟩
  | some blanks =>
    let next := gap.cursor
    if next.rest.head? == some '#' || (!flow && decide ((next.column : Int) < indent)) ||
        (plainWord flow next.rest).isEmpty then
      ⟨word, next, gap.broken⟩
    else if _h : next.left < c.left then
      let more := plainWords flow indent next
      ⟨word ++ blanks ++ more.text, more.cursor, more.broken⟩
    else ⟨word, next, gap.broken⟩
termination_by c.left

/-! ## Block scalars -/

/-- Which line ends at the end of a block are kept. -/
inductive Chomping where
  | strip
  | clip
  | keep
  deriving DecidableEq, Repr

/-- The chomping that a mark stands for. -/
def chomping? : Char → Option Chomping
  | '+' => some .keep
  | '-' => some .strip
  | _ => none

/-- The indentation that a digit stands for. -/
def increment? (x : Char) : Option Nat := if x.isDigit then some (x.toNat - '0'.toNat) else none

/-- The header of a block: its chomping and, if given, its indentation, in any order. -/
def blockHeader (c : Cursor) : Except Fault (Chomping × Option Nat × Cursor) := do
  let (chomp, digit, c) := match c.rest with
    | x :: rest =>
      match chomping? x with
      | some chomp =>
        match rest.head?.bind increment? with
        | some n => (chomp, some n, c.skip 2)
        | none => (chomp, none, c.next)
      | none =>
        match increment? x with
        | some n =>
          match rest.head?.bind chomping? with
          | some chomp => (chomp, some n, c.skip 2)
          | none => (.clip, some n, c.next)
        | none => (.clip, none, c)
    | [] => (.clip, none, c)
  if digit = some 0 ∨ !atSpaceOrEnd c.rest then throw .malformed
  return (chomp, digit, ← c.skipEmptyRest)

/-- The empty lines before the first line of text, and the greatest column that spaces reach. -/
def blockLead (reached : Nat) (c : Cursor) : List Char × Nat × Cursor :=
  match c.rest with
  | x :: _ =>
    if x = ' ' then
      let here := c.skipSpaces
      if _h : here.left < c.left then blockLead (max reached here.column) here
      else ([], reached, c)
    else if isBreak x then
      if _h : c.next.left < c.left then
        let (more, reached, done) := blockLead reached c.next
        (breakText x :: more, reached, done)
      else ([], reached, c)
    else ([], reached, c)
  | [] => ([], reached, c)
termination_by c.left

/-- Past the indentation of a line, as far as it goes. -/
def skipIndent (indent : Nat) (c : Cursor) : Cursor :=
  c.skip (min (indent - c.column) (c.taken (· == ' ')).length)

/-- The empty lines from here on, and the start of the text after them. -/
def blockBreaks (indent : Nat) (c : Cursor) : List Char × Cursor :=
  let here := skipIndent indent c
  match here.rest with
  | x :: _ =>
    if isBreak x then
      if _h : here.next.left < c.left then
        let (more, done) := blockBreaks indent here.next
        (breakText x :: more, done)
      else ([], here)
    else ([], here)
  | [] => ([], here)
termination_by c.left

/-- The text of a block from a line on, its last line end, and the ends of the empty lines after it.
`c` stands behind the indentation of the line. -/
def blockLines (fold : Bool) (indent : Nat) (c : Cursor) :
    List Char × List Char × List Char × Cursor :=
  let line := c.taken fun x => !isBreak x
  let atEnd := c.skip line.length
  let first := (atEnd.rest.head?.map breakText).toList
  let (more, next) := blockBreaks indent atEnd.next
  if next.column = indent ∧ next.rest ≠ [] then
    let indented := fun (cs : List Char) => (cs.head?.map isSpace).getD false
    let joint :=
      if fold && first == ['\n'] && !indented c.rest && !indented next.rest then
        if more.isEmpty then [' '] else []
      else first
    if _h : next.left < c.left then
      let (text, last, tail, done) := blockLines fold indent next
      (line ++ joint ++ more ++ text, last, tail, done)
    else (line, first, more, next)
  else (line, first, more, next)
termination_by c.left

/-- A block scalar inside a collection that is indented by `outer` columns. -/
def blockScalar (fold : Bool) (outer : Int) (c : Cursor) : Except Fault (String × Cursor) := do
  let (chomp, digit, c) ← blockHeader c.next
  let least := (max 1 (outer + 1)).toNat
  let (lead, indent, start) := match digit with
    | some n =>
      let indent := least + n - 1
      let (lead, start) := blockBreaks indent c
      (lead, indent, start)
    | none =>
      let (lead, reached, start) := blockLead 0 c
      (lead, max least reached, start)
  if start.column = indent ∧ start.rest ≠ [] then
    let (text, last, tail, done) := blockLines fold indent start
    let ending := match chomp with
      | .strip => []
      | .clip => last
      | .keep => last ++ tail
    return (String.ofList (lead ++ text ++ ending), done)
  else
    let ending := match chomp with
      | .keep => lead
      | _ => []
    return (String.ofList ending, start)

end InputBindings.Yaml
