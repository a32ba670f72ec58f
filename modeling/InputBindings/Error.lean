import InputBindings.Wording

/-!
# Errors

Every way in which describing, generating or writing can fail, as a cause with what it is about. The
text of a cause is in `Error.message`; a cause without one is not a defect of the user's input that
this library puts into words, and stands for a value that a step was never meant to take. So does a
cause that would show a value which has no text.
-/

namespace InputBindings

/-- Why a file cannot be opened. -/
inductive FileFault where
  | missing
  | notDirectory
  | isDirectory
  | nameTooLong
  /-- A path with a zero character is no path. -/
  | zeroCharacter
  deriving DecidableEq, Repr

/-- The text of a fault at a path. -/
def FileFault.text (path : String) : FileFault → Option String
  | .missing => some ("[Errno 2] No such file or directory: " ++ Text.quoted path)
  | .notDirectory => some ("[Errno 20] Not a directory: " ++ Text.quoted path)
  | .isDirectory => some ("[Errno 21] Is a directory: " ++ Text.quoted path)
  | .nameTooLong => some ("[Errno 36] File name too long: " ++ Text.quoted path)
  | .zeroCharacter => none

/-- Why a document of the right form has no value all the same. -/
inductive ContentFault where
  /-- Tagged as a number, and no number. -/
  | notNumber
  /-- Tagged as a truth value, and none of its words. -/
  | notTruth
  /-- Tagged as a number, and empty. -/
  | empty
  /-- A digit of base sixty whose weight is no finite number. -/
  | tooHeavy
  /-- A version of more than 4300 digits. -/
  | longVersion
  /-- An escape beyond the last code point. -/
  | beyondUnicode
  /-- An escape beyond the range of code points altogether. -/
  | beyondRange
  /-- Tagged as a date, and not written like one. -/
  | notDate
  /-- A mapping that is tagged as a date. -/
  | dateInMapping
  /-- Written like a date, and none of the calendar. -/
  | noSuchDate
  /-- A mapping that stands for a scalar and leads to itself, or nodes inside nodes too deep. -/
  | endless
  deriving DecidableEq, Repr

inductive Error where
  -- native types
  | ambiguousType (type : String) (families : List String)
  | noElementType (type : String)
  | rowAndColumn (type : String)
  | unknownType (type : String) (suggestions : List String)
  | noTargetType (type : String)
  -- parameters
  | noName (given : String)
  | notIdentifier (name : String)
  | noUsableIdentifier (name spelling : String)
  | duplicateParameter (name program : String)
  | entryNotMapping (entry : Value)
  | unknownKeys (name : String) (keys : List String)
  | noType (name : String)
  | flagNotTruth (name flag : String) (given : Value)
  -- manifests
  | noPrograms
  | programNotList (program : String)
  | unknownPrograms (missing known : List String)
  -- settings
  | unknownOptions (options valid : List String)
  | optionNotTypeNames (option : String) (given : Value)
  | optionNotText (option : String) (given : Value)
  | optionNotIndent (option : String) (given : Value)
  | settingsNotMapping (path : String)
  -- files
  | unreadable (path : String) (fault : FileFault)
  | malformedDocument (path : String)
  | unwritable (path : String) (fault : FileFault)
  -- sinks
  | negativeIndent (level : Int)
  | unmatchedClose
  | spliceOpen
  | blocksOpen (count : Nat)
  -- catalogs
  | frozenCatalog (type : String)
  | conflictingType (type : String)
  -- calls that name what is not there
  | noFamily (given : Value)
  | noArgument (name : String)
  -- causes without words
  | keysNotText
  | spellingNotText
  | noShape
  | frozenTable
  | noIndent
  | noSink
  | notUnicode
  | badContent (fault : ContentFault)
  /-- A value without a text, where its text is wanted. -/
  | noText
  /-- An indentation beyond the range of machine integers. -/
  | indentOutOfRange
  /-- An option was given nothing, where its value is wanted. -/
  | nothingGiven
  /-- A cell of a table that is no text. -/
  | cellNotText
  | abandoned
  deriving Repr

namespace Error

/-- What a cause is a failure of. -/
inductive Kind where
  | general
  | configuration
  | descriptor
  | frozen
  | value
  | state
  | type
  | key
  | attribute
  | index
  | encoding
  | range
  | depth
  | rendering
  | abandoned
  deriving DecidableEq, Repr

/-- The kind of a cause that shows a value: without a text it is a failure of the value. -/
def showing (v : Value) (kind : Kind) : Kind := if v.literal.isSome then kind else .value

/-- The kind of a cause at a path: what is no path is a failure of the value. -/
def onPath : FileFault → Kind
  | .zeroCharacter => .value
  | _ => .general

def contentKind : ContentFault → Kind
  | .notNumber | .beyondUnicode | .noSuchDate | .longVersion => .value
  | .notTruth => .key
  | .empty => .index
  | .beyondRange | .tooHeavy => .range
  | .notDate => .attribute
  | .dateInMapping => .type
  | .endless => .depth

def kind : Error → Kind
  | .ambiguousType .. | .noElementType _ | .rowAndColumn _ | .unknownType .. | .noTargetType _ =>
    .configuration
  | .noName _ | .notIdentifier _ | .noUsableIdentifier .. | .duplicateParameter ..
  | .unknownKeys .. | .noType _ => .descriptor
  | .entryNotMapping v | .flagNotTruth _ _ v => showing v .descriptor
  | .noPrograms | .programNotList _ | .unknownPrograms .. | .unknownOptions ..
  | .settingsNotMapping _ | .malformedDocument _ => .general
  | .optionNotTypeNames _ v | .optionNotText _ v | .optionNotIndent _ v => showing v .general
  | .unreadable _ fault | .unwritable _ fault => onPath fault
  | .negativeIndent _ | .conflictingType _ | .noText => .value
  | .unmatchedClose | .spliceOpen | .blocksOpen _ => .state
  | .frozenCatalog _ => .frozen
  | .noFamily v => showing v .type
  | .keysNotText | .spellingNotText | .frozenTable | .nothingGiven => .type
  | .noArgument _ => .key
  | .noShape => .attribute
  | .noIndent | .noSink => .index
  | .notUnicode => .encoding
  | .badContent fault => contentKind fault
  | .indentOutOfRange => .range
  | .cellNotText => .rendering
  | .abandoned => .abandoned

/-- The text of a cause. -/
def message : Error → Option String
  | .ambiguousType type families => some (Wording.ambiguousType type families)
  | .noElementType type => some (Wording.badShape type "container has no element type")
  | .rowAndColumn type => some (Wording.badShape type "cannot be both a row and a column")
  | .unknownType type suggestions => some (Wording.unknownType type suggestions)
  | .noTargetType type => some ("No Julia type known for " ++ Wording.named type)
  | .noName given => some (Wording.badParameter given "has no name")
  | .notIdentifier name => some (Wording.badParameter name "is not a valid identifier")
  | .noUsableIdentifier name spelling =>
    Wording.badParameterGot name "has a model type with no usable identifier" (.str spelling)
  | .duplicateParameter name program => some (Wording.duplicate name program)
  | .entryNotMapping entry => entry.literal.map ("Parameter entries must be mappings, got " ++ ·)
  | .unknownKeys name keys =>
    some (Wording.badParameter name ("has unknown key(s): " ++ Wording.commaSeparated keys))
  | .noType name => some (Wording.badParameter name "has no type")
  | .flagNotTruth name flag given =>
    Wording.badParameterGot name ("has a non-boolean " ++ Wording.named flag ++ " flag") given
  | .noPrograms => some "A manifest must have a top-level 'programs' mapping."
  | .programNotList program =>
    some ("Program " ++ Wording.named program ++ " must list its parameters.")
  | .unknownPrograms missing known =>
    some ("Unknown program(s) " ++ Wording.enumerated missing none Wording.nothing ++
      ". The manifest defines " ++ Wording.enumerated known none Wording.nothing ++ ".")
  | .unknownOptions options valid =>
    some ("Unknown generator option(s): " ++ Wording.commaSeparated options ++
      ". Valid options are: " ++ Wording.commaSeparated valid ++ ".")
  | .optionNotTypeNames option given =>
    given.literal.map fun shown =>
      "Generator option " ++ Wording.named option ++ " must be a list of type names, got " ++
        shown ++ "."
  | .optionNotText option given =>
    given.literal.map fun shown =>
      "Generator option " ++ Wording.named option ++ " must be a string, got " ++ shown ++ "."
  | .optionNotIndent option given =>
    given.literal.map fun shown =>
      "Generator option " ++ Wording.named option ++ " must be a non-negative integer, got " ++
        shown ++ "."
  | .settingsNotMapping path =>
    some ("Generator configuration \"" ++ path ++ "\" must be a mapping.")
  | .unreadable path fault =>
    (fault.text path).map ("Failed to load YAML from \"" ++ path ++ "\": " ++ ·)
  | .malformedDocument path => some ("Failed to load YAML from \"" ++ path ++ "\": <yaml>")
  | .unwritable path fault =>
    (fault.text path).map ("Failed to write to \"" ++ path ++ "\": " ++ ·)
  | .negativeIndent level => some ("Indentation level must be >= 0, got " ++ toString level)
  | .unmatchedClose => some "close_block() without a matching open_block()"
  | .spliceOpen => some "Cannot splice a writer with an unclosed block"
  | .blocksOpen count => some (toString count ++ " block(s) left open")
  | .frozenCatalog type =>
    some ("Cannot register " ++ Wording.named type ++ ": registry is frozen.")
  | .conflictingType type => some ("Conflicting definitions for " ++ Wording.named type)
  | .noFamily given => given.literal.map ("Unknown classification " ++ ·)
  | .noArgument name => some (name ++ " is not an argument.")
  | .keysNotText | .spellingNotText | .noShape | .frozenTable | .noIndent | .noSink
  | .notUnicode | .badContent _ | .noText | .indentOutOfRange | .nothingGiven | .cellNotText
  | .abandoned => none

/-- A defect of the input that is reported to the user; any other failure is unexpected. -/
def isReported (e : Error) : Bool :=
  match e.kind with
  | .general | .configuration | .descriptor => true
  | _ => false

end Error

/-- The plain form of a value, where it is wanted. -/
def Value.written (v : Value) : Except Error String :=
  match v.text with
  | some s => pure s
  | none => throw .noText

end InputBindings
