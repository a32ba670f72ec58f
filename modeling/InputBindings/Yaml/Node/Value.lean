import InputBindings.Value.Members
import InputBindings.Yaml.Node.Build

/-!
# Values of built nodes

The value of a collection is put together from what it holds, down to where a collection occurs
inside itself: there stands a way back to it. Every collection that has such a way inside becomes a
knot, so each of those that lead to one another keeps its label wherever the value is opened. The
value of a collection that leads to none of these is put together once.
-/

namespace InputBindings.Yaml.Build

/-- A value, and the labels of its ways back to collections around it. -/
structure Woven where
  value : Value
  loose : List Nat := []
  /-- There is a knot in the value, or a way back. -/
  knotted : Bool := false
  deriving Inhabited

/-- What is put together so far of what stands by itself, by places. -/
abbrev Weaving (α : Type) : Type := StateM (Array (Option Value)) α

/-- What several values are part of, given the value of the whole. -/
def whole (value : Value) (parts : List Woven) : Woven :=
  { value
    loose := (parts.flatMap (·.loose)).eraseDups
    knotted := parts.any (·.knotted) }

/-- A collection is a knot if there is a way back inside. -/
def tied (place : Nat) (w : Woven) : Woven :=
  if w.loose.isEmpty then w
  else { value := .knot place w.value, loose := w.loose.filter (· ≠ place), knotted := true }

/-- The collection of what it holds, each part put together by `weave`. -/
def collect (weave : Part → Weaving Woven) : Holding → Weaving Woven
  | .list items => do
    let parts ← items.mapM weave
    return whole (.list (parts.map (·.value))) parts
  | .pairs items => do
    let parts ← items.mapM fun (k, v) => do return (← weave k, ← weave v)
    let pair := fun (p : Woven × Woven) => Value.tuple [p.1.value, p.2.value]
    return whole (.list (parts.map pair)) (parts.flatMap fun p => [p.1, p.2])
  | .mapping entries => do
    let parts ← entries.mapM fun (_, v) => weave v
    return whole (.mapping ((entries.map (·.1.value)).zip (parts.map (·.value)))) parts
  | .set keys => return { value := .set (Value.listed (keys.map (·.value))) }

/-- Puts a part together, inside the collections at the places `around`. Their places differ, so
there are fewer of them than nodes. -/
def weave (b : Build) : Nat → List Nat → Part → Weaving Woven
  | _, _, .value v _ => return { value := v }
  | bound, around, .collection place => do
    if let some v := (← get).getD place none then return { value := v }
    if around.contains place then
      return { value := .back place, loose := [place], knotted := true }
    match bound with
    | 0 => return { value := .null }
    | bound + 1 =>
      let holding := (b.holdings.getD place none).getD (.list [])
      let woven := tied place (← collect (weave b bound (place :: around)) holding)
      unless woven.knotted do modify fun done => done.setIfInBounds place (some woven.value)
      return woven

/-- The value of a part. -/
def value (b : Build) (part : Part) : Value :=
  let size := b.nodes.size
  (Id.run ((weave b (size + 1) [] part).run (Array.replicate size none))).1.value

end InputBindings.Yaml.Build
