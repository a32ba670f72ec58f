import InputBindings.Yaml.Node

/-!
# Merging mappings

The entries under a merge key are those of another mapping, or of several of which the last one
comes first. They are put in front of the entries of the mapping that merges them, in place of the
merge key, and so it is in the mappings that are merged themselves. A mapping may lead to itself;
then its entries count as far as they are put together at the time.

A merge key disappears before what it merges is looked at, and what is merged has none left, so the
count of merge keys bounds how often one is met on the way.
-/

namespace InputBindings.Yaml

/-- An action on the table of nodes. -/
abbrev Merging (α : Type) : Type := StateT Nodes (Except Fault) α

namespace Nodes

/-- How many entries of a node are merged. -/
def mergeCount (ns : Nodes) (node : Node) : Nat :=
  match node.content with
  | .mapping entries => entries.countP fun entry => ns.kind entry.1 = .merge
  | _ => 0

/-- How many entries of all nodes are merged. -/
def mergeTotal (ns : Nodes) : Nat := ns.foldl (fun n node => n + ns.mergeCount node) 0

/-- The entries of a node that must be a mapping. -/
def entries (ns : Nodes) (place : Nat) : Except Fault (List (Nat × Nat)) :=
  match ns.content place with
  | .mapping entries => pure entries
  | _ => throw .malformed

/-- Puts what was merged in front of the entries of a mapping. A key that is an equals sign is text
there. -/
def finishMerge (place : Nat) (merged : List (Nat × Nat)) : Merging Unit := do
  let entries ← Nodes.entries (← get) place
  for (key, _) in entries do
    modify fun ns => if ns.kind key = .equals then ns.setKind key .str else ns
  modify fun ns => ns.setContent place (.mapping (merged ++ entries))

mutual

/-- Merges into a mapping what is under its merge keys, after what was merged before. -/
def mergeInto (bound place : Nat) (merged : List (Nat × Nat)) : Merging Unit := do
  let ns ← get
  let entries ← Nodes.entries ns place
  match entries.span fun entry => ns.kind entry.1 ≠ .merge with
  | (_, []) => finishMerge place merged
  | (before, (_, source) :: after) =>
    match bound with
    | 0 => throw .malformed
    | bound + 1 =>
      set (ns.setContent place (.mapping (before ++ after)))
      let more ← mergeFrom bound source
      mergeInto bound place (merged ++ more)

/-- The entries that a node under a merge key brings in. -/
def mergeFrom (bound source : Nat) : Merging (List (Nat × Nat)) := do
  match (← get).content source with
  | .mapping _ =>
    mergeInto bound source []
    Nodes.entries (← get) source
  | .list items =>
    let all ← items.mapM fun item => do
      let _ ← Nodes.entries (← get) item
      mergeInto bound item []
      Nodes.entries (← get) item
    return all.reverse.flatten
  | .scalar _ => throw .malformed

end

end Nodes

end InputBindings.Yaml
