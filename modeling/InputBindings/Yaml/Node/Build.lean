import InputBindings.Yaml.Constant
import InputBindings.Yaml.Node.Merge

/-!
# Building values from nodes

A scalar is built when it is met. A collection is first only promised, and what it holds is built in
a later round, after what all collections promised before it hold; so a collection can hold itself,
and of several faults the one in the earliest round counts. Every node is built once, however often
it is met.

Of a repeated key the first place and the last value count. A key is a scalar: a collection can be
no key.
-/

namespace InputBindings.Yaml

/-- What a node is built into: a value, or a collection that is known by its place. -/
inductive Part where
  /-- A value; `own` is set for a value that is no number, and then no other one equals it. -/
  | value (v : Value) (own : Option Nat)
  | collection (place : Nat)
  deriving Repr, Inhabited

/-- A key and what tells it apart from keys that look the same. -/
structure Key where
  value : Value
  own : Option Nat
  deriving Repr, Inhabited

def Key.same (a b : Key) : Bool := a.own == b.own && a.value.same b.value

/-- What a collection holds. -/
inductive Holding where
  | list (items : List Part)
  | pairs (items : List (Part × Part))
  | mapping (entries : List (Key × Part))
  | set (keys : List Key)
  deriving Repr, Inhabited

/-- What has been built so far. -/
structure Build where
  nodes : Nodes
  parts : Array (Option Part)
  holdings : Array (Option Holding)
  /-- How many merge keys there are at most. -/
  merges : Nat
  /-- The collections that are promised, the last one first. -/
  promised : List Nat := []

/-- An action that builds. -/
abbrev Building (α : Type) : Type := StateT Build (Except Fault) α

namespace Build

def ofNodes (nodes : Nodes) : Build :=
  { nodes
    parts := Array.replicate nodes.size none
    holdings := Array.replicate nodes.size none
    merges := nodes.mergeTotal }

/-! ## Parts -/

/-- The value of a node of a scalar kind. -/
def scalarPart (nodes : Nodes) (place : Nat) : Except Fault Part := do
  let plain := fun (v : Value) => Part.value v none
  match nodes.kind place with
  | .null => let _ ← nodes.text place; return plain .null
  | .bool => return plain (.bool (← truth (← nodes.text place)))
  | .int => return plain (.int (← integer (← nodes.text place)))
  | .float =>
    let x ← number (← nodes.text place)
    return .value (.float x.value) (if x.value = .nan ∧ !x.isPointed then some place else none)
  | .str => return plain (.str (← nodes.text place))
  | .bytes => return plain (.bytes (← bytes (← nodes.text place)))
  | .date =>
    let text ← nodes.text place
    match nodes.content place with
    | .scalar _ => return plain (← dateValue text)
    | _ => throw (.content .dateInMapping)
  | _ => throw .malformed

/-- Whether nodes of a kind are collections. -/
def isCollection : Kind → Bool
  | .list | .mapping | .pairs | .set => true
  | _ => false

/-- What a node is built into. -/
def part (place : Nat) : Building Part := do
  let b ← get
  match b.parts.getD place none with
  | some part => return part
  | none =>
    if isCollection (b.nodes.kind place) then
      let part := Part.collection place
      modify fun b => { b with
        parts := b.parts.setIfInBounds place (some part)
        promised := place :: b.promised }
      return part
    else
      let part ← scalarPart b.nodes place
      modify fun b => { b with parts := b.parts.setIfInBounds place (some part) }
      return part

/-- The key that a node is built into. -/
def key (place : Nat) : Building Key := do
  match ← part place with
  | .value v own => return ⟨v, own⟩
  | .collection _ => throw .malformed

/-! ## Collections -/

/-- Sets the value under a key: an equal key keeps its place, a new one goes to the end. -/
def putKey (entries : List (Key × α)) (key : Key) (value : α) : List (Key × α) :=
  match entries with
  | [] => [(key, value)]
  | (k, v) :: rest =>
    if k.same key then (k, value) :: rest else (k, v) :: putKey rest key value

/-- Sets entries one after another. -/
def putEntries (done : List (Key × Part)) : List (Nat × Nat) → Building (List (Key × Part))
  | [] => return done
  | (keyPlace, place) :: rest => do
    let k ← key keyPlace
    let v ← part place
    putEntries (putKey done k v) rest

/-- The entries of a mapping, after it has been merged. -/
def entries (place : Nat) : Building (List (Key × Part)) := do
  let b ← get
  let _ ← Nodes.entries b.nodes place
  let (_, nodes) ← (Nodes.mergeInto b.merges place []).run b.nodes
  modify fun b => { b with nodes }
  putEntries [] (← Nodes.entries nodes place)

/-- The one entry of a mapping, as it is written. -/
def pair (place : Nat) : Building (Part × Part) := do
  match (← get).nodes.content place with
  | .mapping [(keyPlace, valuePlace)] => return (← part keyPlace, ← part valuePlace)
  | _ => throw .malformed

/-- What a collection holds. -/
def holding (place : Nat) : Building Holding := do
  let nodes := (← get).nodes
  match nodes.kind place, nodes.content place with
  | .list, .list items => return .list (← items.mapM part)
  | .pairs, .list items => return .pairs (← items.mapM pair)
  | .mapping, _ => return .mapping (← entries place)
  | .set, _ => return .set ((← entries place).map (·.1))
  | _, _ => throw .malformed

/-- Builds what a promised collection holds. -/
def keep (place : Nat) : Building Unit := do
  let h ← holding place
  modify fun b => { b with holdings := b.holdings.setIfInBounds place (some h) }

/-- Builds in rounds until nothing is promised. A round that is not the last one builds a node that
has not been built before. -/
def rounds : Nat → Building Unit
  | 0 => pure ()
  | bound + 1 => do
    let promised := (← get).promised.reverse
    if promised.isEmpty then return
    modify fun b => { b with promised := [] }
    promised.forM keep
    rounds bound

end Build

end InputBindings.Yaml
