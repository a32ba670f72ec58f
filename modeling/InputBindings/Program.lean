import InputBindings.StoreCall

/-!
# Programs

The parameters of a program are written in order into a sink of their own. Only when all of them
have been written are the lines handed on, so a failure leaves no trace; a name that occurs twice is
such a failure.
-/

namespace InputBindings

structure Program where
  name : String
  params : List Parameter
  deriving Repr, Inhabited

/-- The first name that occurs again, given the names that have occurred. -/
def repeatedName (seen : List String) : List String → Option String
  | [] => none
  | name :: rest => if name ∈ seen then some name else repeatedName (name :: seen) rest

/-- A program of the given parameters, whose names must differ. -/
def Program.ofParams (name : String) (params : List Parameter) : Except Error Program :=
  match repeatedName [] (params.map (·.name)) with
  | some again => throw (.duplicateParameter again name)
  | none => pure { name, params }

namespace Parameter

/-- Writes parameters in order, given the names that have occurred. -/
def emitEach (s : Settings) (program : String) (seen : List String) :
    List Parameter → Writing Unit
  | [] => pure ()
  | p :: rest => do
    if p.name ∈ seen then throw (.duplicateParameter p.name program)
    p.emit s
    emitEach s program (p.name :: seen) rest

/-- The sink that parameters are written into before their lines are handed on. -/
def buffer (s : Settings) (program : String) (params : List Parameter) :
    Except Error Sink :=
  match (emitEach s program [] params).run (Sink.new s.baseIndent s.indentStep) with
  | (.ok _, w) => pure w
  | (.error e, _) => throw e

/-- The text of a parameter list. -/
def emitText (s : Settings) (program : String) (params : List Parameter) : Except Error String := do
  let w ← buffer s program params
  w.text

/-- Writes a parameter list all or not at all, and gives its text. -/
def emitAll (s : Settings) (program : String) (params : List Parameter) : Writing String := do
  let w ← buffer s program params
  Writing.extend w
  w.text

end Parameter

end InputBindings
