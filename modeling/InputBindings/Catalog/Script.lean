import InputBindings.Catalog

/-!
# Steps on a catalog

A catalog is worked on in steps: types are registered, looked up and suggested, the table is written
to directly, and at some point the catalog is frozen. A step may fail; the next one goes on with the
catalog that it has left.
-/

namespace InputBindings.Catalog

/-- An action on a catalog: it may fail, and what it has changed stays. -/
abbrev Action (α : Type) : Type := ExceptT Error (StateM Catalog) α

inductive Step where
  | register (t : NativeType)
  /-- Writes to the table that the catalog shows at that time; a table that it has shown earlier and
  that somebody has kept is left out. -/
  | put (key : String) (t : NativeType)
  | resolve (name : String)
  | suggest (name : String) (limit : Nat) (least : Int)
  | freeze
  deriving Inhabited

/-- What a step gives back. -/
inductive Answer where
  | done
  | type (t : NativeType)
  | names (ns : List String)
  deriving Inhabited

def Step.run : Step → Action Answer
  | .register t => do
    set (← (← get).register t)
    pure .done
  | .put key t => do
    set (← (← get).put key t)
    pure .done
  | .resolve name => do return .type (← (← get).resolve name)
  | .suggest name limit least => do return .names ((← get).suggest name limit least)
  | .freeze => do
    modify Catalog.freeze
    pure .done

/-- What a step comes to on a catalog, and the catalog after it. -/
def Step.outcome (step : Step) (c : Catalog) : Except Error Answer × Catalog :=
  (ExceptT.run step.run).run c

/-- Takes steps one after another: what each came to, and the catalog after it. -/
def runScript (c : Catalog) : List Step → List (Except Error Answer × Catalog)
  | [] => []
  | step :: rest => step.outcome c :: runScript (step.outcome c).2 rest

/-- The catalog that some steps leave. -/
def afterSteps (c : Catalog) (steps : List Step) : Catalog :=
  steps.foldl (fun c step => (step.outcome c).2) c

end InputBindings.Catalog
