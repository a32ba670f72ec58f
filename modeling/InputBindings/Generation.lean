import InputBindings.Keyed
import InputBindings.Program

/-!
# Generating the code of several programs

Programs are rendered one after another or in batches. The workers of a batch finish in any order,
and each puts its outcome into its own slot; when all have finished the slots are looked at in the
order of the programs. So neither the size of a batch nor the order of finishing shows in the
result, and the error that is reported is that of the first program that has one.
-/

namespace InputBindings

/-- For each batch, by its number and its size, the order in which its workers finish: each of
them once. -/
structure Schedule where
  order : Nat → Nat → List Nat
  perm : ∀ number size, (order number size).Perm (List.range size)

/-- Workers finish in the order in which they were started. -/
def Schedule.inOrder : Schedule := ⟨fun _ => List.range, fun _ _ => .refl _⟩

/-- The outcome of a worker that has finished. -/
abbrev Slot (α : Type) : Type := Option (Except Error α)

namespace Generation

/-- One worker of a batch finishes and puts its outcome into its own slot. -/
def fill (work : α → Except Error β) (batch : List α) (slots : List (Slot β)) (i : Nat) :
    List (Slot β) :=
  match batch[i]? with
  | some task => slots.set i (some (work task))
  | none => slots

/-- Lets the workers of a batch finish in the given order. -/
def finish (work : α → Except Error β) (batch : List α) (order : List Nat) : List (Slot β) :=
  order.foldl (fill work batch) (List.replicate batch.length none)

/-- The results of a batch, or its first error. -/
def collect : List (Slot β) → Except Error (List β)
  | [] => pure []
  | some (.error e) :: _ => throw e
  | some (.ok b) :: rest => do return b :: (← collect rest)
  | none :: rest => collect rest

/-- Cuts a list into pieces of `size + 1` and a shorter rest. -/
def batches (size : Nat) (tasks : List α) : List (List α) :=
  match tasks with
  | [] => []
  | task :: rest => (task :: rest.take size) :: batches size (rest.drop size)
termination_by tasks.length
decreasing_by
  simp only [List.length_drop, List.length_cons]
  omega

/-- Runs one batch after another from the given number on, none after a batch that has failed. -/
def runBatches (schedule : Schedule) (work : α → Except Error β) (number : Nat) :
    List (List α) → Except Error (List β)
  | [] => pure []
  | batch :: rest => do
    let done ← collect (finish work batch (schedule.order number batch.length))
    return done ++ (← runBatches schedule work (number + 1) rest)

/-- The text of each program, one after another. -/
def sequential (s : Settings) (programs : List (String × List Parameter)) :
    Except Error (List (String × String)) :=
  programs.mapM fun (name, params) => do return (name, ← Parameter.emitText s name params)

/-- The text of each program, in batches of `size + 1`. -/
def batched (schedule : Schedule) (size : Nat) (s : Settings)
    (programs : List (String × List Parameter)) : Except Error (List (String × String)) := do
  let work := fun (program : String × List Parameter) => Parameter.emitText s program.1 program.2
  let texts ← runBatches schedule work 0 (batches size programs)
  return (programs.map (·.1)).zip texts

/-- The text of each program, on up to `jobs` workers. -/
def texts (schedule : Schedule) (jobs : Int) (s : Settings)
    (programs : List (String × List Parameter)) : Except Error (List (String × String)) :=
  if jobs ≤ 1 then sequential s programs else batched schedule (jobs.toNat - 1) s programs

/-- The programs under their names: of a repeated name the first place and the last parameters. -/
def byName (programs : List Program) : List (String × List Parameter) :=
  Keyed.ofList (programs.map fun p => (p.name, p.params))

/-- The code of all programs, each after a line with its name. -/
def render (texts : List (String × String)) : String :=
  "\n".intercalate (texts.map fun (name, code) => "# " ++ name ++ "\n" ++ code)

end Generation

end InputBindings
