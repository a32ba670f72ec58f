import InputBindings.Files
import InputBindings.Manifest
import InputBindings.Yaml.Document

/-!
# Loading manifests and settings

A file is read and parsed before anything in it is looked at, and what fails first is what is
reported. A document that holds a scalar without a value is no defect that is reported to the user.
How documents are written is left to a loader, which turns the bytes of a file into a value.
-/

namespace InputBindings

/-- The failure of a document at a path. -/
def Yaml.Fault.error (path : String) : Yaml.Fault → Error
  | .malformed => .malformedDocument path
  | .notUnicode => .notUnicode
  | .content fault => .badContent fault

/-- What comes of the bytes of the file at a path. -/
abbrev Loader : Type := String → ByteArray → Except Error Value

/-- The loader of YAML documents. -/
def Loader.yaml : Loader := fun path content =>
  match Yaml.value (Yaml.Source.ofBytes content) with
  | .ok value => pure value
  | .error fault => throw (fault.error path)

/-- The value of the document in a file. -/
def Files.document (fs : Files) (path : String) (loader : Loader := Loader.yaml) :
    Except Error Value :=
  match fs.read path with
  | .error fault => throw (.unreadable path fault)
  | .ok content => loader path content

/-- The settings in a file, or the standard ones if there is no path. -/
def Settings.load (fs : Files) (path : Option String) (loader : Loader := Loader.yaml) :
    Except Error Settings :=
  match path with
  | none => pure {}
  | some path => do
    match ← Settings.ofValue? (← fs.document path loader) with
    | some settings => pure settings
    | none => throw (.settingsNotMapping path)

/-- The programs of the manifest in a file. -/
def Manifest.load (fs : Files) (catalog : Catalog) (path : String)
    (loader : Loader := Loader.yaml) : Except Error (List Program) := do
  Manifest.programs catalog (← fs.document path loader)

end InputBindings
