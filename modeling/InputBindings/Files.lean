import InputBindings.Error
import InputBindings.Keyed
import InputBindings.Text.Lines

/-!
# Files

A tree of files and directories around a working directory, by the names on the way to them. Files
hold bytes; as text they are read in UTF-8, with every line end as a line feed, and written in UTF-8
as they are.

A path is a list of names between slashes, of which empty ones do not count. A single dot is the
directory that it stands in, and two dots are the one around it, so what they follow must be a
directory; so must what a slash follows. Two dots also lead out of the working directory, to
directories of which nothing else is known. Names and paths have a greatest length, and a path with
a zero character is none.
-/

namespace InputBindings

/-- What stands at a place. -/
inductive Entry where
  | file (content : ByteArray)
  | directory
  deriving Inhabited

/-- The names on the way from the working directory to a place: first two dots for each directory
that is left, or a slash for the root of all, and then the names from there on. -/
abbrev Place : Type := List String

/-- The files and directories by their places. -/
structure Files where
  entries : List (Place × Entry) := []
  deriving Inhabited

namespace Files

/-! ## Places -/

/-- The greatest length of a name in bytes. -/
def maxNameLength : Nat := 255

/-- The greatest length of a path in bytes. -/
def maxPathLength : Nat := 4095

/-- The parts of a path between slashes. -/
def parts (path : String) : List String := path.splitOn "/"

/-- Whether a path ends in a slash. -/
def endsInSlash (path : String) : Bool := (parts path).getLast? == some ""

def isAbsolute (path : String) : Bool := path.toList.head? == some '/'

/-- Where a path starts. -/
def origin (path : String) : Place := if isAbsolute path then ["/"] else []

/-- The names of a path. -/
def namesOf (path : String) : List String := (parts path).filter (· ≠ "")

/-- Whether a name stands for a directory by itself. -/
def isDots (name : String) : Bool := name == "." || name == ".."

/-- Whether two dots or the root are all that a place is made of. -/
def isOutside (place : Place) : Bool := place.all (· == "..") || place == ["/"]

/-- What stands at a place. -/
def entry? (fs : Files) (place : Place) : Option Entry :=
  if isOutside place then some .directory else Keyed.get? fs.entries place

/-- The place of a name in a directory. -/
def within (here : Place) (name : String) : Place :=
  if name == "." || (name == ".." && here == ["/"]) then here
  else if name == ".." && !isOutside here then here.dropLast
  else here ++ [name]

/-- One name further, from what must be a directory. -/
def enter (fs : Files) (here : Place) (name : String) : Except FileFault Place :=
  match fs.entry? here with
  | none => throw .missing
  | some (.file _) => throw .notDirectory
  | some .directory =>
    if maxNameLength < name.utf8ByteSize then throw .nameTooLong else pure (within here name)

/-- The place that names lead to from a directory. -/
def walk (fs : Files) (here : Place) (names : List String) : Except FileFault Place :=
  names.foldlM fs.enter here

/-- The last name of a path and the place of the directory that it stands in; the root has no name.
-/
def splitLast (fs : Files) (path : String) : Except FileFault (Place × Option String) := do
  if path.contains '\x00' then throw .zeroCharacter
  if path = "" then throw .missing
  if maxPathLength < path.utf8ByteSize then throw .nameTooLong
  let names := namesOf path
  return (← fs.walk (origin path) names.dropLast, names.getLast?)

/-- The place of a path. -/
def place (fs : Files) (path : String) : Except FileFault Place := do
  let (here, last) ← fs.splitLast path
  fs.walk here last.toList

/-! ## Reading -/

/-- The bytes of a file. -/
def read (fs : Files) (path : String) : Except FileFault ByteArray := do
  let place ← fs.place path
  match fs.entry? place with
  | none => throw .missing
  | some .directory => throw .isDirectory
  | some (.file content) => if endsInSlash path then throw .notDirectory else pure content

/-- The text of some bytes, with every line end as a line feed. -/
def decode (content : ByteArray) : Except Error String :=
  match String.fromUTF8? content with
  | some s => pure (String.ofList (Text.unifyEnds s.toList))
  | none => throw .notUnicode

/-! ## Writing -/

/-- Sets an entry at the place of a path, with directories on the way to it where nothing stands. -/
def put (fs : Files) (path : String) (entry : Entry) : Files :=
  let place := (namesOf path).foldl within (origin path)
  let onTheWay := ((List.range place.length).map fun n => place.take n).filter fun p =>
    (fs.entry? p).isNone
  ⟨Keyed.put (fs.entries ++ onTheWay.map fun p => (p, .directory)) place entry⟩

/-- The tree of some entries by their paths. -/
def ofList (entries : List (String × Entry)) : Files :=
  entries.foldl (fun fs entry => fs.put entry.1 entry.2) {}

/-- Writes bytes to a file, which need not be there yet. A path that ends in a slash is refused
before its last name is looked up, unless that stands for a directory by itself. -/
def write (fs : Files) (path : String) (content : ByteArray) : Except FileFault Files := do
  let (here, last) ← fs.splitLast path
  if endsInSlash path ∧ !last.all isDots then
    let _ ← fs.walk here ["."]
    throw .isDirectory
  let place ← fs.walk here last.toList
  match fs.entry? place with
  | some .directory => throw .isDirectory
  | _ => pure ⟨Keyed.put fs.entries place (.file content)⟩

/-- Writes text to a file. -/
def writeText (fs : Files) (path text : String) : Except Error Files :=
  match fs.write path text.toUTF8 with
  | .ok fs => pure fs
  | .error fault => throw (.unwritable path fault)

/-- Whether a file holds the text, with every line end as a line feed. -/
def holds (fs : Files) (path text : String) : Except Error Bool :=
  match fs.read path with
  | .error _ => pure false
  | .ok content => return (← decode content) == text

/-- Writes text to a file unless it holds the text already. Line ends are compared as line feeds, so
text with line ends of another spelling is always written. -/
def writeChanged (fs : Files) (path text : String) : Except Error Files := do
  if ← fs.holds path text then pure fs else fs.writeText path text

end Files

end InputBindings
