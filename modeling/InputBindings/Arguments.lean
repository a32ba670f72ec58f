import InputBindings.Text.Numeral

/-!
# Reading argument lists

An argument list holds options and operands in any order. An option is a dash and a letter or two
dashes and a name, which may be cut short as long as it is the start of one name only. What an
option takes follows it, or is attached: behind an equals sign, or directly behind the letter.
Letters that take nothing may stand together behind one dash, and an equals sign between them does
not count. After two dashes alone everything is an operand, and so is a dash alone, a negative
number, and whatever holds a space and is no option. Two dashes that are attached to an option are
no value, so the option is given nothing.

The list is first cut into words, each an option, an operand or the end mark, and then read from
left to right; what an option does is done when it is read, so of two defects the first one shows.
-/

namespace InputBindings

/-- Why reading arguments ends without a request. -/
inductive Leave where
  | help
  | misuse
  | noCommand
  deriving DecidableEq, Repr

/-- The exit code. -/
def Leave.code : Leave → Int
  | .help => 0
  | .misuse => 2
  | .noCommand => -1

namespace Arguments

/-- What an option takes. -/
inductive Arity where
  | nothing
  | one
  /-- One or more, up to the next option or the end mark. -/
  | several
  deriving DecidableEq, Repr

/-- An option, which stands for something of type `κ`. -/
structure Switch (κ : Type) where
  key : κ
  letter : Char
  name : String
  arity : Arity
  deriving DecidableEq, Repr

namespace Switch

def short (s : Switch κ) : List Char := ['-', s.letter]

def long (s : Switch κ) : List Char := '-' :: '-' :: s.name.toList

end Switch

/-- An option as it is written: which one, by its letter or its name, and what is attached. -/
structure Use (κ : Type) where
  switch : Switch κ
  byLetter : Bool
  attached : Option (List Char) := none
  deriving DecidableEq, Repr

inductive Word (κ : Type) where
  | operand (text : String)
  | endMark
  | use (u : Use κ)
  /-- An option that there is not. -/
  | unknown
  deriving DecidableEq, Repr

/-! ## Words -/

/-- The option of exactly this spelling. -/
def spelled? (switches : List (Switch κ)) (attached : Option (List Char)) (spelling : List Char) :
    Option (Use κ) :=
  (switches.find? fun s => s.short == spelling || s.long == spelling).map
    fun s => ⟨s, s.short == spelling, attached⟩

/-- The text before the first equals sign and the text after it. -/
def cutAtEquals (cs : List Char) : List Char × Option (List Char) :=
  match cs.dropWhile (· != '=') with
  | [] => (cs, none)
  | _ :: rest => (cs.takeWhile (· != '='), some rest)

/-- The options that the text may stand for: those whose name it starts, or that of its letter. -/
def readings (switches : List (Switch κ)) (cs : List Char) : List (Use κ) :=
  match cs with
  | '-' :: '-' :: _ =>
    let (stem, attached) := cutAtEquals cs
    (switches.filter fun s => stem.isPrefixOf s.long).map fun s => ⟨s, false, attached⟩
  | '-' :: c :: rest => (switches.filter (·.letter == c)).map fun s => ⟨s, true, some rest⟩
  | _ => []

/-- A decimal digit of any script. -/
def isDecimal (c : Char) : Bool := (Text.digitValue? c).isSome

/-- A dash and digits, possibly with a point before the last of them; a line end may follow. -/
def isNegativeNumber (cs : List Char) : Bool :=
  let body := fun (cs : List Char) => match cs with
    | '-' :: rest =>
      match rest.dropWhile isDecimal with
      | [] => !rest.isEmpty
      | '.' :: places => !places.isEmpty && places.all isDecimal
      | _ => false
    | _ => false
  body cs || (cs.getLast? == some '\n' && body cs.dropLast)

/-- The word that an argument is, unless it is the end mark. -/
def wordOf (switches : List (Switch κ)) (argument : String) :
    Except Leave (Word κ) :=
  let cs := argument.toList
  let (stem, attached) := cutAtEquals cs
  if cs.head? != some '-' then pure (.operand argument)
  else
    match spelled? switches none cs with
    | some u => pure (.use u)
    | none =>
      if cs.length = 1 then pure (.operand argument)
      else
        match if attached.isSome then spelled? switches attached stem else none with
        | some u => pure (.use u)
        | none =>
          match readings switches cs with
          | [u] => pure (.use u)
          | _ :: _ :: _ => throw .misuse
          | [] =>
            if isNegativeNumber cs || cs.contains ' ' then pure (.operand argument)
            else pure .unknown

/-- The words of an argument list. -/
def words (switches : List (Switch κ)) :
    List String → Except Leave (List (Word κ))
  | [] => pure []
  | argument :: rest =>
    if argument = "--" then pure (.endMark :: rest.map .operand)
    else do
      let word ← wordOf switches argument
      return word :: (← words switches rest)

/-! ## Reading words -/

/-- What a command accepts, and what each part of it does to a state. -/
structure Grammar (κ σ : Type) where
  switches : List (Switch κ)
  apply : κ → List String → σ → Except Leave σ
  /-- The one operand of the command, if it has one. -/
  operand : Option (String → σ → σ)

/-- What stands behind one dash: options that take nothing, and the last one with what is attached
to it. -/
structure Letters (κ : Type) where
  before : List κ
  last : Switch κ
  attached : Option (List Char)
  deriving DecidableEq, Repr

/-- The letters behind one that takes nothing. -/
def splitLetters (switches : List (Switch κ)) (s : Switch κ) :
    List Char → Except Leave (Letters κ)
  | [] => throw .misuse
  | c :: rest =>
    match switches.find? (·.letter == c) with
    | none => throw .misuse
    | some next =>
      if rest = [] then pure ⟨[s.key], next, none⟩
      else if next.arity = .nothing then do
        let letters ← splitLetters switches next rest
        return { letters with before := s.key :: letters.before }
      else pure ⟨[s.key], next, some rest⟩

/-- The options in a use. -/
def Use.letters (switches : List (Switch κ)) (u : Use κ) : Except Leave (Letters κ) :=
  match u.attached with
  | some attached =>
    if u.switch.arity = .nothing then
      if u.byLetter then splitLetters switches u.switch attached else throw .misuse
    else pure ⟨[], u.switch, some attached⟩
  | none => pure ⟨[], u.switch, none⟩

/-- The operands that the words start with. -/
def leadingOperands : List (Word κ) → List String
  | .operand text :: rest => text :: leadingOperands rest
  | _ => []

/-- What an option takes of the words after it. -/
def following (arity : Arity) (rest : List (Word κ)) : Except Leave (List String) :=
  match arity, leadingOperands rest with
  | .nothing, _ => pure []
  | _, [] => throw .misuse
  | .one, text :: _ => pure [text]
  | .several, texts => pure texts

/-- The values in what is attached to an option: the end mark is none. -/
def attachedValues (cs : List Char) : List String :=
  if cs = ['-', '-'] then [] else [String.ofList cs]

/-- What an option is given, and the words behind that. -/
def valuesOf (arity : Arity) (attached : Option (List Char)) (rest : List (Word κ)) :
    Except Leave (List String × List (Word κ)) :=
  match attached with
  | some cs => pure (attachedValues cs, rest)
  | none => do
    let values ← following arity rest
    return (values, rest.drop values.length)

theorem length_valuesOf {arity : Arity} {attached : Option (List Char)} {rest rest' : List (Word κ)}
    {values : List String} (h : valuesOf arity attached rest = .ok (values, rest')) :
    rest'.length ≤ rest.length := by
  unfold valuesOf at h
  cases attached with
  | some cs =>
    cases h
    exact Nat.le_refl _
  | none =>
    simp only [bind, Except.bind] at h
    split at h
    · cases h
    · cases h
      simp

/-- Whether the word is an option. -/
def Word.isOption : Word κ → Bool
  | .use _ => true
  | .unknown => true
  | _ => false

def Word.isEndMark : Word κ → Bool
  | .endMark => true
  | _ => false

/-- The operand that the words start with, and what follows it; end marks around it do not count. -/
def operand? (ws : List (Word κ)) : Option (String × List (Word κ)) :=
  match ws.dropWhile Word.isEndMark with
  | .operand text :: rest => some (text, rest.dropWhile Word.isEndMark)
  | _ => none

theorem length_operand {ws rest : List (Word κ)} {text : String}
    (h : operand? ws = some (text, rest)) : rest.length < ws.length := by
  unfold operand? at h
  have h₁ := (List.dropWhile_suffix (l := ws) Word.isEndMark).length_le
  split at h
  · rename_i t rest' heq
    cases h
    have h₂ := (List.dropWhile_suffix (l := rest') Word.isEndMark).length_le
    rw [heq] at h₁
    simp only [List.length_cons] at h₁
    omega
  · cases h

/-- Reads words: the state after them, whether the operand is missing still, and whether something
was left over. -/
def read (g : Grammar κ σ) (wanted : Option (String → σ → σ)) (leftOver : Bool) (state : σ)
    (ws : List (Word κ)) : Except Leave (σ × Bool × Bool) :=
  match ws with
  | [] => pure (state, wanted.isSome, leftOver)
  | .unknown :: rest => read g wanted true state rest
  | .use u :: rest => do
    let letters ← u.letters g.switches
    match _h : valuesOf letters.last.arity letters.attached rest with
    | .error leave => throw leave
    | .ok (values, rest') =>
      let state ← letters.before.foldlM (fun state key => g.apply key [] state) state
      let state ← g.apply letters.last.key values state
      read g wanted leftOver state rest'
  | w :: rest =>
    match wanted, _h : operand? (w :: rest) with
    | some put, some (text, after) => read g none leftOver (put text state) after
    | wanted, _ => read g wanted true state (rest.dropWhile fun w => !w.isOption)
termination_by ws.length
decreasing_by
  · simp
  · have := length_valuesOf _h
    simp only [List.length_cons]
    omega
  · exact length_operand _h
  · have := (List.dropWhile_suffix (l := rest) fun w : Word κ => !w.isOption).length_le
    simp only [List.length_cons]
    omega

/-- The state that an argument list leads to. Nothing may be missing or left over. -/
def Grammar.run (g : Grammar κ σ) (state : σ) (arguments : List String) :
    Except Leave σ := do
  let ws ← words g.switches arguments
  let (state, missing, leftOver) ← read g g.operand false state ws
  if missing || leftOver then throw .misuse else pure state

end Arguments

end InputBindings
