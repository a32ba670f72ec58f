import InputBindings.Catalog.Standard
import InputBindings.Console
import InputBindings.Generation
import InputBindings.Loading
import InputBindings.Request
import InputBindings.Text.Markup

/-!
# Sessions

A session is what one run of the program works on: the files, the console and the standard output. A
command may fail half way, and then the session is what it has made of it so far. Generating prints
which programs it is about to generate, and only after that renders them, so nothing is written
unless all of them render.
-/

namespace InputBindings

structure Session where
  files : Files
  console : Console := {}
  /-- What was written to the standard output. -/
  output : String := ""
  deriving Inhabited

/-- An action on a session. -/
abbrev Command (α : Type) : Type := ExceptT Error (StateM Session) α

namespace Command

/-- Something that needs no session. -/
def ofExcept (result : Except Error α) : Command α := ExceptT.mk (pure result)

/-- Changes the console. -/
def onConsole (change : Console → Console) : Command Unit :=
  modify fun s => { s with console := change s.console }

def print (message : String) : Command Unit := onConsole fun c => c.print message

/-! ## Generating -/

/-- The programs that are selected, all if nothing is; all that is selected must be there. -/
def select (selection : List String) (programs : List Program) : Except Error (List Program) :=
  if selection.isEmpty then pure programs
  else
    let known := programs.map (·.name)
    let missing := selection.filter fun name => !known.contains name
    if missing.isEmpty then pure (programs.filter fun p => selection.contains p.name)
    else throw (.unknownPrograms missing known)

/-- The line that announces the programs. -/
def announcement (programs : List Program) : String :=
  "Generating input processing for " ++
    Wording.enumerated (programs.map (·.name)) (some "magenta") "no programs"

/-- The line about a program. -/
def programLine (p : Program) : String :=
  "[bold]" ++ p.name ++ "[/bold]: " ++ toString p.params.length ++ " parameter(s)"

/-- Announces the programs and what they hold. -/
def announce (programs : List Program) : Command Unit :=
  onConsole fun c =>
    let inner := (programs.map programLine).foldl (fun c line => c.print line)
      (c.print (announcement programs)).indent
    inner.unindent.2

/-- Writes the code to the output file if there is one, else to the standard output. -/
def deliver (code : String) : Option (Given String) → Command Unit
  | none => modify fun s => { s with output := s.output ++ code }
  | some given => do
    let path ← ofExcept given.get
    let files ← ofExcept ((← get).files.writeChanged path code)
    modify fun s => { s with files }
    print ("[green]Generated[/green] " ++ path)

/-- Generates the code of a manifest. -/
def generate (settings : Settings) (r : GenerateRequest) (loader : Loader := Loader.yaml) :
    Command Unit := do
  let programs ← ofExcept (Manifest.load (← get).files Catalog.standard r.manifest loader)
  let programs ← ofExcept (select (r.programs.getD []) programs)
  announce programs
  let jobs ← ofExcept r.jobs.get
  let texts ← ofExcept (Generation.texts .inOrder jobs settings (Generation.byName programs))
  deliver (Generation.render texts) r.output

/-! ## Listing types -/

/-- The cell for the target type of a native type; only text can be shown. -/
def targetCell (t : NativeType) : Except Error String :=
  match t.target with
  | .str s => pure s
  | v => if v.isGiven then throw .cellNotText else pure ""

/-- The statement that stores a required parameter `x` of the type. -/
def sampleCall (s : Settings) (t : NativeType) (family : Family) : Except Error String :=
  let x : Parameter := { name := "x", type := t, required := true }
  match (x.emitAs s family).run (Sink.new 0 2) with
  | (.ok _, w) => pure (w.lines.headD "")
  | (.error e, _) => throw e

/-- The row of a type: a type without a family is shown with what is wrong with it. -/
def typeRow (s : Settings) (name : String) (t : NativeType) : Except Error (List String) :=
  match t.family s with
  | .ok family => do
    let call ← sampleCall s t family
    return [name, ← targetCell t, family.category.name, call]
  | .error e => return [name, ← targetCell t, "[red]invalid[/red]", e.message.getD ""]

/-- The table of the types in a catalog. -/
def typesTable (s : Settings) (catalog : Catalog) : Except Error Table := do
  let rows ← catalog.entries.mapM fun (name, t) => typeRow s name t
  return {
    title := "Static types"
    columns := ["C++ type", "Julia type", "Category", "Store call"]
    rows }

/-- Lists the types of a catalog. -/
def types (s : Settings) (catalog : Catalog) : Command Unit := do
  let table ← ofExcept (typesTable s catalog)
  onConsole fun c => c.hand (.table table)

/-! ## Runs -/

/-- Does what is asked for. -/
def run (request : Request) (loader : Loader := Loader.yaml) : Command Unit := do
  let path ← ofExcept (request.config.mapM Given.get)
  let settings ← ofExcept (Settings.load (← get).files path loader)
  match request with
  | .generate r => generate settings r loader
  | .types _ => types settings Catalog.standard

end Command

namespace Session

/-- What is said about a failure that is no defect of the input. -/
def unexpectedText : String :=
  "If you believe this is an issue with jlbind rather than with your manifest, please file an " ++
    "issue together with the manifest that triggered it."

def failureTitle : String := "--- [bold red]FATAL jlbind ERROR[/bold red] ---"

/-- Prints a failure: its text if it is reported to the user, or the failure itself. -/
def report (e : Error) (c : Console) : Console :=
  let c := c.reset
  if e.isReported then
    c.print (failureTitle ++ "\n\n" ++ Text.escapeMarkup (e.message.getD "") ++ "\n")
  else
    (c.hand (.failure e)).print
      ("\n" ++ failureTitle ++ "\n\nAn unexpected exception occurred.\n" ++ unexpectedText ++ "\n")

/-- Does what is asked for: the session after it, and the exit code. -/
def perform (request : Request) (s : Session) (loader : Loader := Loader.yaml) : Session × Int :=
  match (ExceptT.run (Command.run request loader)).run s with
  | (.ok _, s) => (s, 0)
  | (.error e, s) => ({ s with console := report e s.console }, 1)

end Session

end InputBindings
