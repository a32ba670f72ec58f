import InputBindings.Number.Integer
import InputBindings.Yaml.Cursor
import InputBindings.Yaml.Token

/-!
# Names, tags and directives as they are written

Anchors and aliases are names. A tag is a handle and a suffix, or a suffix alone if it is written
out between angle brackets or is a single exclamation mark. A directive names the version of the
language or says what a handle stands for; any other directive is read over.

Each reader takes the cursor at the indicator and returns the token and the cursor behind it.
-/

namespace InputBindings.Yaml

/-- The text is at a character of the list or at the end. -/
def atEndOr (p : Char → Bool) : List Char → Bool
  | [] => true
  | c :: _ => p c

/-! ## Anchors and aliases -/

/-- A character that may follow a name besides blanks and line ends. -/
def closesName (c : Char) : Bool := "?:,]\x7d%@\x60".toList.contains c

/-- The name of an anchor or an alias, after its indicator. -/
def name (c : Cursor) : Except Fault (String × Cursor) :=
  let start := c.next
  let name := start.taken isHandleChar
  let done := start.skip name.length
  if name.isEmpty || !atEndOr (fun x => isSpace x || isBreak x || closesName x) done.rest then
    throw done.fault
  else pure (String.ofList name, done)

/-! ## Tags -/

/-- A character of a tag suffix that stands for itself. -/
def isTagChar (c : Char) : Bool := c.isAlphanum || "-;/?:@&=+$,_.!~*'()[]".toList.contains c

/-- Bytes escaped by a percent sign and two hexadecimal digits each. -/
def percentBytes (c : Cursor) : Except Fault (List UInt8 × Cursor) :=
  match c.rest with
  | '%' :: rest =>
    let digits := (rest.take 2).takeWhile isHexDigit
    let after := c.skip (1 + digits.length)
    if digits.length = 2 then
      if _h : after.left < c.left then do
        let (more, done) ← percentBytes after
        return (UInt8.ofNat (hexNumber digits) :: more, done)
      else throw .malformed
    else throw after.fault
  | _ => pure ([], c)
termination_by c.left

/-- The characters of a tag suffix, escaped bytes read as UTF-8. -/
def suffixChars (c : Cursor) : Except Fault (List Char × Cursor) := do
  let plain := c.taken isTagChar
  let here := c.skip plain.length
  match here.rest with
  | '%' :: _ =>
    let (bytes, after) ← percentBytes here
    match String.fromUTF8? ⟨bytes.toArray⟩ with
    | none => throw after.fault
    | some s =>
      if _h : after.left < c.left then
        let (more, done) ← suffixChars after
        return (plain ++ s.toList ++ more, done)
      else throw .malformed
  | _ => pure (plain, here)
termination_by c.left

/-- A tag suffix, which is not empty. -/
def tagSuffix (c : Cursor) : Except Fault (String × Cursor) := do
  let (cs, done) ← suffixChars c
  if done.left < c.left then pure (String.ofList cs, done) else throw done.fault

/-- A handle: an exclamation mark alone, or a name between two. -/
def tagHandle (c : Cursor) : Except Fault (String × Cursor) :=
  match c.rest with
  | '!' :: ' ' :: _ => pure ("!", c.next)
  | '!' :: rest =>
    let name := rest.takeWhile isHandleChar
    match rest.drop name.length with
    | '!' :: _ => pure (String.ofList ('!' :: name ++ ['!']), c.skip (name.length + 2))
    | _ => throw (c.skip (name.length + 1)).fault
  | _ => throw c.fault

/-- Whether a second exclamation mark ends a handle in a tag, before a space or a line end. -/
def hasHandle (rest : List Char) : Bool :=
  (rest.takeWhile fun x => !(x == ' ' || isBreak x)).contains '!'

/-- A tag without what must follow it. -/
def tagParts (c : Cursor) : Except Fault (Option String × String × Cursor) :=
  match c.rest.drop 1 with
  | '<' :: _ => do
    let (suffix, done) ← tagSuffix (c.skip 2)
    match done.rest with
    | '>' :: _ => pure (none, suffix, done.next)
    | _ => throw done.fault
  | rest =>
    if atBlankOrEnd rest then pure (none, "!", c.next)
    else if hasHandle rest then do
      let (handle, after) ← tagHandle c
      let (suffix, done) ← tagSuffix after
      return (some handle, suffix, done)
    else do
      let (suffix, done) ← tagSuffix c.next
      return (some "!", suffix, done)

/-- A tag. -/
def tag (c : Cursor) : Except Fault (Token × Cursor) := do
  let (handle, suffix, done) ← tagParts c
  if atSpaceOrEnd done.rest then pure (.tag handle suffix, done) else throw .malformed

/-! ## Directives -/

/-- One part of a version. -/
def versionPart (c : Cursor) : Except Fault (Nat × Cursor) := do
  let digits := c.taken Char.isDigit
  if digits.isEmpty then throw c.fault
  match Number.natural? 10 digits with
  | some n => pure (n, c.skip digits.length)
  | none => throw (.content .longVersion)

/-- The version of the language, of which only the part before the point counts. -/
def versionDirective (c : Cursor) : Except Fault (Token × Cursor) := do
  let (major, point) ← versionPart c.skipSpaces
  unless point.rest.head? == some '.' do throw point.fault
  let (_, done) ← versionPart point.next
  unless atSpaceOrEnd done.rest do throw .malformed
  return (.version major, done)

/-- A handle and what it stands for. -/
def handleDirective (c : Cursor) : Except Fault (Token × Cursor) := do
  let (handle, after) ← tagHandle c.skipSpaces
  unless after.rest.head? == some ' ' do throw after.fault
  let (stem, done) ← tagSuffix after.skipSpaces
  unless atSpaceOrEnd done.rest do throw .malformed
  return (.handle handle stem, done)

/-- A directive and the rest of its line. -/
def directive (c : Cursor) : Except Fault (Token × Cursor) := do
  let start := c.next
  let name := start.taken isHandleChar
  let after := start.skip name.length
  if name.isEmpty || !atSpaceOrEnd after.rest then throw after.fault
  let (token, done) ← match String.ofList name with
    | "YAML" => versionDirective after
    | "TAG" => handleDirective after
    | _ => pure (.directive, after.skipWhile fun x => !isBreak x)
  return (token, ← done.skipEmptyRest)

end InputBindings.Yaml
