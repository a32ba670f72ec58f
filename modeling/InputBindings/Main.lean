import InputBindings.Session

/-!
# The command line

Looks up the files that a request names, performs it, prints what was handed to the console on the
standard error stream and the code on the standard output, and writes the output file if its content
has changed.
-/

namespace InputBindings.CommandLine

/-- The shortest help: what a command line looks like. -/
def usage : String :=
  "usage: generate [-c CONFIG] [-o OUTPUT] [-p PROGRAM ...] [-j JOBS] MANIFEST\n" ++
    "       types [-c CONFIG]"

/-- The files that a request names. -/
def paths : Request → List String
  | .generate r => r.manifest :: (r.config.toList ++ r.output.toList).filterMap Given.value?
  | .types r => r.config.toList.filterMap Given.value?

/-- The paths on the way to a path, and the path itself. -/
def ancestors (path : String) : List String :=
  let parts := Files.parts path
  ((List.range parts.length).map fun n => "/".intercalate (parts.take (n + 1))).filter (· ≠ "")

/-- What stands at a path, if anything does. -/
def look (path : String) : IO (Option Entry) := do
  try
    if ← (← IO.FS.realPath path).isDir then return some .directory
    return some (.file (← IO.FS.readBinFile path))
  catch _ => return none

/-- The part of the file system that a request is about. -/
def gather (request : Request) : IO Files := do
  let mut files : Files := {}
  for path in (paths request).flatMap ancestors do
    if let some entry ← look path then files := files.put path entry
  return files

/-- The lines of a notice. -/
def lines : Notice → List String
  | .text s => [s]
  | .table t => t.title :: (t.columns :: t.rows).map ("\t".intercalate ·)
  | .failure e => [e.message.getD "unexpected failure"]

/-- Writes the output file of a request if its content has changed. -/
def store (request : Request) (before after : Files) : IO Unit := do
  if let .generate { output := some (.value path), .. } := request then
    if let .ok content := after.read path then
      if (before.read path).toOption != some content then IO.FS.writeBinFile path content

/-- Performs a request. -/
def perform (request : Request) : IO UInt32 := do
  let files ← gather request
  let (session, code) := Session.perform request { files }
  store request files session.files
  for notice in session.console.notices do
    for line in lines notice do IO.eprintln line
  IO.print session.output
  return UInt32.ofNat (code % 256).toNat

/-- Runs a command line. -/
def run (arguments : List String) : IO UInt32 := do
  match Request.ofArguments arguments with
  | .ok request => perform request
  | .error leave =>
    IO.eprintln usage
    return UInt32.ofNat (leave.code % 256).toNat

end InputBindings.CommandLine

def main (arguments : List String) : IO UInt32 := InputBindings.CommandLine.run arguments
