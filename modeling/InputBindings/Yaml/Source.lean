import InputBindings.Text.Lines
import InputBindings.Yaml.Fault

/-!
# Sources

What can be read of a file. Its bytes are read in portions, and what is complete of a portion is
decoded at once. The characters are handed on in blocks, the first two together, and a block is
looked through before it is handed on. A file is read as far as it is needed, so a fault of its
bytes or its characters counts only if nothing before that block is wrong.

Reading ends because the count of bytes or of characters that are left goes down.
-/

namespace InputBindings.Yaml

/-- A character that a document may hold. -/
def isAllowed (c : Char) : Bool :=
  let n := c.toNat
  n == 0x9 || n == 0xA || n == 0xD || (0x20 ≤ n && n ≤ 0x7E) || n == 0x85 ||
    (0xA0 ≤ n && n ≤ 0xFFFD) || 0x10000 ≤ n

structure Source where
  /-- The characters, up to the end or to the first block that cannot be had. -/
  chars : List Char
  /-- Why that block cannot be had, if there is one. -/
  cut : Option Fault := none
  deriving Repr, Inhabited

namespace Source

/-! ## Decoding -/

/-- The characters from a byte on, after some others in reverse, and the byte at which no character
starts. -/
def charsFrom (bytes : ByteArray) (start : Nat) (before : List Char) : List Char × Nat :=
  match bytes.utf8DecodeChar? start with
  | none => (before.reverse, start)
  | some c =>
    if _h : start < bytes.size then charsFrom bytes (start + c.utf8Size) (c :: before)
    else (before.reverse, start)
termination_by bytes.size - start
decreasing_by
  have := c.utf8Size_pos
  omega

/-- The first two of the three bytes that would stand for a surrogate. -/
def startsSurrogate : List UInt8 → Bool
  | [lead, next] => lead == 0xED && 0xA0 ≤ next && next ≤ 0xBF
  | _ => false

/-- Whether some bytes are the first ones of a character, or of a surrogate. -/
def startsChar (bytes : List UInt8) : Bool :=
  startsSurrogate bytes || [0x80, 0xBF].any fun filler =>
    (ByteArray.utf8DecodeChar? ⟨(bytes ++ List.replicate 3 filler).toArray⟩ 0).isSome

/-- How many of some bytes at which no character starts are needed to see that; none if the end of
the bytes must be seen. -/
def neededBytes (bytes : List UInt8) : Option Nat :=
  [1, 2, 3, 4].find? fun n => n ≤ bytes.length && !startsChar (bytes.take n)

/-! ## Portions -/

/-- The least size of a portion in bytes. -/
def portionSize : Nat := 8192

/-- The size of a block in characters. -/
def blockSize : Nat := 4096

/-- A file that is being read. -/
structure Reader where
  /-- The size of the file in bytes. -/
  size : Nat
  /-- How many bytes show a fault of the file; one more than there are if its end does. -/
  limit : Option Nat
  /-- How many bytes are read; one more than there are if the end has been seen. -/
  read : Nat := 0
  /-- The bytes in front of `coming`. -/
  decoded : Nat := 0
  /-- The characters that are not decoded. -/
  coming : List Char
  /-- The characters that are decoded and not handed on. -/
  ready : List Char := []
  /-- How many bytes the last portion was, and how many characters it gave. -/
  last : Nat × Nat := (0, 0)

namespace Reader

def ofBytes (bytes : ByteArray) : Reader :=
  let (coming, stop) := charsFrom bytes 0 []
  let limit :=
    if stop < bytes.size then
      some (((neededBytes (bytes.toList.drop stop)).map (stop + ·)).getD (bytes.size + 1))
    else none
  { size := bytes.size, limit, coming }

/-- The characters that lie in so many bytes, after some others in reverse, and the rest. A carriage
return waits for the character after it, unless the end has been seen. -/
def complete (atEnd : Bool) (room : Nat) (before : List Char) : List Char → List Char × List Char
  | [] => (before.reverse, [])
  | c :: rest =>
    let follows := atEnd || c != '\r' || rest.head?.any fun d => c.utf8Size + d.utf8Size ≤ room
    if c.utf8Size ≤ room && follows then complete atEnd (room - c.utf8Size) (c :: before) rest
    else (before.reverse, c :: rest)

/-- Reads a portion, for whose size it counts how many characters are wanted; nothing if the bytes
show a fault. -/
def portion (wanted : Nat) (r : Reader) : Option Reader :=
  let count := max portionSize (wanted * r.last.1 / r.last.2)
  let read := if r.read < r.size then min r.size (r.read + count) else r.size + 1
  if r.limit.any (· ≤ read) then none
  else
    let (now, coming) := complete (r.size < read) (read - r.decoded) [] r.coming
    let chars := Text.unifyEnds now
    some { r with
      read
      decoded := r.decoded + now.foldl (fun n c => n + c.utf8Size) 0
      coming
      ready := r.ready ++ chars
      last := (min r.size read - r.read, chars.length) }

/-- The count of bytes that are not read, and one more until the end has been seen. -/
def unread (r : Reader) : Nat := r.size + 1 - r.read

/-- Reads portions until a block is ready or the end has been seen. -/
def fill (r : Reader) : Option Reader :=
  if r.ready.length < blockSize ∧ 0 < r.unread then
    match r.portion (blockSize - r.ready.length) with
    | none => none
    | some next => if _h : next.unread < r.unread then next.fill else some next
  else some r
termination_by r.unread

/-- The next block, empty at the end; nothing if the bytes show a fault. -/
def block (r : Reader) : Option (List Char × Reader) :=
  r.fill.map fun r => (r.ready.take blockSize, { r with ready := r.ready.drop blockSize })

/-- The count of characters that are not handed on. -/
def left (r : Reader) : Nat := r.ready.length + r.coming.length

/-- The source of the characters that are not handed on. -/
def rest (r : Reader) : Source :=
  match r.block with
  | none => ⟨[], some .notUnicode⟩
  | some (block, next) =>
    if block.isEmpty then ⟨[], none⟩
    else if block.all isAllowed then
      if _h : next.left < r.left then
        let more := next.rest
        ⟨block ++ more.chars, more.cut⟩
      else ⟨block, none⟩
    else ⟨[], some .malformed⟩
termination_by r.left

end Reader

/-- What can be read of a file. -/
def ofBytes (bytes : ByteArray) : Source :=
  let blocks := do
    let (first, r) ← (Reader.ofBytes bytes).block
    let (second, r) ← r.block
    return (first ++ second, r)
  match blocks with
  | none => ⟨[], some .notUnicode⟩
  | some (chars, r) =>
    if chars.all isAllowed then
      let more := r.rest
      ⟨chars ++ more.chars, more.cut⟩
    else ⟨[], some .malformed⟩

end Source

end InputBindings.Yaml
