import InputBindings.Arguments
import InputBindings.Error
import InputBindings.Number.Integer

/-!
# Requests

What the command line asks for. There are two commands: one generates the code for a manifest, the
other lists the known types; each has options of its own. An option that is given several times has
what it was given last.
-/

namespace InputBindings

/-- What an option that takes one value is given. -/
inductive Given (α : Type) where
  | value (a : α)
  /-- The end mark was attached to the option instead of a value. -/
  | nothing
  deriving DecidableEq, Repr, Inhabited

namespace Given

/-- The value, which a step that needs one cannot do without. -/
def get : Given α → Except Error α
  | .value a => pure a
  | .nothing => throw .nothingGiven

/-- The value if there is one. -/
def value? : Given α → Option α
  | .value a => some a
  | .nothing => none

/-- What is given by the values behind an option that takes one. -/
def ofList : List α → Given α
  | [] => .nothing
  | a :: _ => .value a

end Given

structure GenerateRequest where
  manifest : String
  /-- The settings file. -/
  config : Option (Given String) := none
  /-- The file to write, instead of the standard output. -/
  output : Option (Given String) := none
  /-- The programs to generate, all if there are none. -/
  programs : Option (List String) := none
  /-- The greatest count of workers. -/
  jobs : Given Int := .value 1
  deriving DecidableEq, Repr, Inhabited

structure TypesRequest where
  /-- The settings file. -/
  config : Option (Given String) := none
  deriving DecidableEq, Repr, Inhabited

inductive Request where
  | generate (r : GenerateRequest)
  | types (r : TypesRequest)
  deriving DecidableEq, Repr, Inhabited

namespace Request

open Arguments (Switch Grammar)

/-- The settings file. -/
def config : Request → Option (Given String)
  | .generate r => r.config
  | .types r => r.config

/-! ## Options -/

/-- What options stand for. -/
inductive Key where
  | help
  | config
  | output
  | programs
  | jobs
  deriving DecidableEq, Repr

def helpSwitch : Switch Key := ⟨.help, 'h', "help", .nothing⟩

def configSwitch : Switch Key := ⟨.config, 'c', "config", .one⟩

def generateSwitches : List (Switch Key) :=
  [helpSwitch, configSwitch, ⟨.output, 'o', "output", .one⟩, ⟨.programs, 'p', "programs", .several⟩,
   ⟨.jobs, 'j', "jobs", .one⟩]

def typesSwitches : List (Switch Key) := [helpSwitch, configSwitch]

/-- A count of workers. -/
def readJobs (text : String) : Except Leave Int :=
  match Number.integer? text with
  | some n => pure n
  | none => throw .misuse

/-- What an option does to a request to generate. -/
def applyGenerate (key : Key) (values : List String) (r : GenerateRequest) :
    Except Leave GenerateRequest :=
  match key with
  | .help => throw .help
  | .config => pure { r with config := some (.ofList values) }
  | .output => pure { r with output := some (.ofList values) }
  | .programs => pure { r with programs := some values }
  | .jobs => do return { r with jobs := .ofList (← values.mapM readJobs) }

/-- What an option does to a request for the types. -/
def applyTypes (key : Key) (values : List String) (r : TypesRequest) : Except Leave TypesRequest :=
  match key with
  | .help => throw .help
  | .config => pure { r with config := some (.ofList values) }
  | _ => pure r

def generateGrammar : Grammar Key GenerateRequest :=
  ⟨generateSwitches, applyGenerate, some fun text r => { r with manifest := text }⟩

def typesGrammar : Grammar Key TypesRequest := ⟨typesSwitches, applyTypes, none⟩

/-! ## Command lines -/

/-- The request of a command and its arguments. -/
def ofCommand (command : String) (arguments : List String) : Except Leave Request :=
  match command with
  | "generate" => .generate <$> generateGrammar.run { manifest := "" } arguments
  | "types" => .types <$> typesGrammar.run {} arguments
  | _ => throw .misuse

/-- The request of a command line. The command takes everything that follows it; before it only help
can be asked for, and anything else there is left over. -/
def parse (leftOver : Bool) : List String → Except Leave Request
  | [] => throw (if leftOver then .misuse else .noCommand)
  | argument :: rest =>
    if argument = "--" then throw .misuse
    else do
      match ← Arguments.wordOf [helpSwitch] argument with
      | .operand command =>
        let request ← ofCommand command rest
        if leftOver then throw .misuse else pure request
      | .use u =>
        let _ ← u.letters [helpSwitch]
        throw .help
      | _ => parse true rest

/-- The request of a command line. -/
def ofArguments (arguments : List String) : Except Leave Request := parse false arguments

/-! ## Arguments by name -/

/-- What is given as a value; nothing is the empty list. -/
def givenValue (toValue : α → Value) : Given α → Value
  | .value a => toValue a
  | .nothing => .list []

def optionalText : Option (Given String) → Value
  | none => .null
  | some given => givenValue .str given

/-- The arguments by name. -/
def arguments : Request → List (String × Value)
  | .generate r =>
    [("command", .str "generate"), ("config", optionalText r.config),
     ("manifest", .str r.manifest), ("output", optionalText r.output),
     ("programs", (r.programs.map fun names => Value.list (names.map .str)).getD .null),
     ("jobs", givenValue .int r.jobs)]
  | .types r => [("command", .str "types"), ("config", optionalText r.config)]

/-- The argument of a name, or a value to take its place unless that is null. -/
def argument (arguments : List (String × Value)) (name : String) (standard : Value) :
    Except Error Value :=
  match arguments.lookup name, standard with
  | some v, _ => pure v
  | none, .null => throw (.noArgument name)
  | none, v => pure v

end Request

end InputBindings
