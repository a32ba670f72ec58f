import InputBindings.Yaml.Kind

/-!
# Nodes

A document is a table of nodes, of which one is the root. A node has a kind, and its content is the
text of a scalar or the places of other nodes in the table. An alias is the place of the node that
it stands for, so nodes can be shared, and a node can lead to itself.
-/

namespace InputBindings.Yaml

/-- What a node holds; nodes are given by their places. -/
inductive Content where
  | scalar (text : String)
  | list (items : List Nat)
  | mapping (entries : List (Nat × Nat))
  deriving DecidableEq, Repr, Inhabited

structure Node where
  kind : Kind
  content : Content
  deriving DecidableEq, Repr, Inhabited

/-- The nodes by their places. -/
abbrev Nodes : Type := Array Node

structure Document where
  nodes : Nodes
  root : Nat
  deriving Repr, Inhabited

namespace Nodes

/-- The node at a place; a place outside of the table has an empty scalar. -/
def node (ns : Nodes) (place : Nat) : Node := ns.getD place ⟨.null, .scalar ""⟩

def kind (ns : Nodes) (place : Nat) : Kind := (ns.node place).kind

def content (ns : Nodes) (place : Nat) : Content := (ns.node place).content

def setContent (ns : Nodes) (place : Nat) (content : Content) : Nodes :=
  ns.modify place fun node => { node with content }

def setKind (ns : Nodes) (place : Nat) (kind : Kind) : Nodes :=
  ns.modify place fun node => { node with kind }

/-- The text of a node where a scalar is expected: a mapping stands for the value under its first
key that is an equals sign. Following more mappings than there are nodes leads round in a circle. -/
def textFrom (ns : Nodes) : Nat → Nat → Except Fault String
  | 0, _ => throw (.content .endless)
  | bound + 1, place =>
    match ns.content place with
    | .scalar text => pure text
    | .list _ => throw .malformed
    | .mapping entries =>
      match entries.find? fun entry => ns.kind entry.1 = .equals with
      | some entry => ns.textFrom bound entry.2
      | none => throw .malformed

def text (ns : Nodes) (place : Nat) : Except Fault String := ns.textFrom (ns.size + 1) place

end Nodes

end InputBindings.Yaml
