import InputBindings.Program

/-!
# Several sinks at once

A desk holds numbered sinks, and a script of steps works on them in turn. A step inside the body of
a block may work on any of the sinks. A step that fails leaves the block around it, which still
closes; a step at the top leaves the script to go on.
-/

namespace InputBindings

/-- The sinks, by number. -/
abbrev Desk : Type := List Sink

/-- An action on a desk. -/
abbrev DeskAction (α : Type) : Type := ExceptT Error (StateM Desk) α

namespace Desk

inductive Step where
  /-- Adds a sink. -/
  | add (base step : Int)
  | line (sink : Nat) (statement : String)
  | openBlock (sink : Nat) (header : String)
  | closeBlock (sink : Nat) (footer : String)
  | block (sink : Nat) (header footer : String) (body : List Step)
  | extend (sink source : Nat)
  | text (sink : Nat)
  | lines (sink : Nat)
  | emit (sink : Nat) (settings : Settings) (param : Parameter)
  | emitAll (sink : Nat) (settings : Settings) (program : String) (params : List Parameter)
  /-- Fails: what the step was to write could not be made. -/
  | fail (cause : Error)
  deriving Inhabited

/-- What a step gives back. -/
inductive Answer where
  | done
  | text (s : String)
  | lines (ls : List String)
  deriving DecidableEq, Repr

/-- Runs an action on one of the sinks. -/
def on (sink : Nat) (action : Writing α) : DeskAction α := ExceptT.mk fun desk =>
  match desk[sink]? with
  | none => (.error .noSink, desk)
  | some w =>
    let (result, w) := action.run w
    (result, desk.set sink w)

/-- One of the sinks as it is. -/
def sinkAt (sink : Nat) : DeskAction Sink := do
  match (← get)[sink]? with
  | some w => pure w
  | none => throw .noSink

/-- Runs an action and then closes the innermost block of a sink, whether or not it has failed. -/
def closing (sink : Nat) (footer : String) (action : DeskAction α) : DeskAction α :=
  ExceptT.mk fun desk =>
    let (result, desk) := (ExceptT.run action).run desk
    match (ExceptT.run (on sink (Writing.closeBlock footer))).run desk with
    | (.ok _, desk) => (result, desk)
    | (.error e, desk) => (.error e, desk)

mutual

def Step.run : Step → DeskAction Answer
  | .add base step => do modify (· ++ [Sink.new base step]); pure .done
  | .line sink statement => do on sink (Writing.line statement); pure .done
  | .openBlock sink header => do on sink (Writing.openBlock header); pure .done
  | .closeBlock sink footer => do on sink (Writing.closeBlock footer); pure .done
  | .block sink header footer body => do
    on sink (Writing.openBlock header)
    closing sink footer (runBody body)
    pure .done
  | .extend sink source => do
    let other ← sinkAt source
    on sink (Writing.extend other)
    pure .done
  | .text sink => do
    let w ← sinkAt sink
    return .text (← w.text)
  | .lines sink => do return .lines (← sinkAt sink).lines
  | .emit sink settings param => do on sink (param.emit settings); pure .done
  | .emitAll sink settings program params => do
    return .text (← on sink (Parameter.emitAll settings program params))
  | .fail cause => throw cause

/-- Runs the steps of a body until one fails. -/
def runBody : List Step → DeskAction Unit
  | [] => pure ()
  | step :: rest => do
    let _ ← step.run
    runBody rest

end

/-- Runs a script: what each step gave or how it failed, and the desk after it. -/
def runScript (desk : Desk) : List Step → List (Except Error Answer × Desk)
  | [] => []
  | step :: rest =>
    let (result, after) := (ExceptT.run step.run).run desk
    (result, after) :: runScript after rest

end Desk

end InputBindings
