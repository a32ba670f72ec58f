import InputBindings.Yaml.Node
import InputBindings.Yaml.Token

/-!
# From tokens to nodes

The grammar of a document. A node is not empty except after its properties; in an item, a key or a
value where no node can start there is an empty scalar. In a block mapping the items of a list need
no deeper column than the key, and then nothing marks where the list starts or ends.

A node gets its place in the table, and its anchor, before what it holds is read, so an alias inside
it can stand for it. An alias stands for a node before it, no anchor is set twice, and nodes are not
nested deeper than a bound.

What is read is returned with the tokens that are left, which are fewer, so reading ends.
-/

namespace InputBindings.Yaml

/-- The nodes so far, and the places that anchors stand for. -/
structure Drafts where
  nodes : Nodes := #[]
  anchors : List (String × Nat) := []

/-- An action that reads nodes. -/
abbrev Reading (α : Type) : Type := StateT Drafts (Except Fault) α

/-- What was read, and the tokens that are left of fewer than `bound`. -/
structure Taken (α : Type) (bound : Nat) where
  value : α
  rest : List Token
  fewer : rest.length < bound

/-- Where a node stands. -/
inductive Place where
  | flow
  | block
  /-- The key or the value of a block mapping. -/
  | entry
  deriving DecidableEq, Repr

/-- What tag handles stand for. -/
abbrev Handles : Type := List (String × String)

/-- The handles that need no directive. -/
def standardHandles : Handles := [("!", "!"), ("!!", standardStem)]

/-- What holds for all that is inside a node. -/
structure Scope where
  handles : Handles
  /-- How many more nodes may be nested. -/
  room : Nat

/-- How deep nodes may be nested, as it was measured; the exact limit depends on where a document
is loaded from. -/
def maxDepth : Nat := 489

/-- The scope inside one more node. -/
def Scope.inner (scope : Scope) : Except Fault Scope :=
  match scope.room with
  | 0 => throw (.content .endless)
  | room + 1 => pure { scope with room }

/-! ## Nodes -/

/-- What is written in front of the content of a node. -/
structure Properties where
  anchor : Option String := none
  /-- The tag with its handle replaced. -/
  tag : Option String := none
  deriving DecidableEq, Repr, Inhabited

/-- The kind of a node with a tag, or the kind that it has without one. A single exclamation mark is
no tag. -/
def Properties.kindOr (properties : Properties) (standard : Kind) : Kind :=
  match properties.tag with
  | none => standard
  | some tag => if tag = "!" then standard else Kind.ofTag tag

/-- The kind of a scalar: a single exclamation mark makes it plain. -/
def Properties.scalarKind (properties : Properties) (text : String) (plain : Bool) : Kind :=
  if plain || properties.tag == some "!" then properties.kindOr (Kind.ofPlain text)
  else properties.kindOr .str

/-- Sets the anchor of the next node, if it has one. -/
def setAnchor (properties : Properties) : Reading Unit := do
  let drafts ← get
  match properties.anchor with
  | none => pure ()
  | some name =>
    if (drafts.anchors.lookup name).isSome then throw .malformed
    else set { drafts with anchors := (name, drafts.nodes.size) :: drafts.anchors }

/-- Puts a node into the table: its place. -/
def addNode (properties : Properties) (node : Node) : Reading Nat := do
  setAnchor properties
  modifyGet fun drafts => (drafts.nodes.size, { drafts with nodes := drafts.nodes.push node })

/-- Puts a scalar into the table. -/
def addScalar (properties : Properties) (text : String) (plain : Bool) : Reading Nat :=
  addNode properties ⟨properties.scalarKind text plain, .scalar text⟩

/-- The node that stands where nothing is written. -/
def addEmpty (properties : Properties) : Reading Nat := addScalar properties "" true

/-- Puts a list into the table whose items are read afterwards. -/
def addList (properties : Properties) : Reading Nat :=
  addNode properties ⟨properties.kindOr .list, .list []⟩

/-- Puts a mapping into the table whose entries are read afterwards. -/
def addMapping (properties : Properties) : Reading Nat :=
  addNode properties ⟨properties.kindOr .mapping, .mapping []⟩

/-- Sets what a node holds. -/
def fill (place : Nat) (content : Content) : Reading Unit :=
  modify fun drafts => { drafts with nodes := drafts.nodes.setContent place content }

/-! ## Properties -/

/-- A tag with its handle replaced. -/
def fullTag (handles : Handles) (handle : Option String) (suffix : String) : Except Fault String :=
  match handle with
  | none => pure suffix
  | some handle =>
    match handles.lookup handle with
    | some stem => pure (stem ++ suffix)
    | none => throw .malformed

/-- The properties in front of a node. What follows a tag without an anchor in front of it is looked
at before its handle. -/
def readProperties (handles : Handles) (ts : List Token) :
    Except Fault (Taken Properties (ts.length + 1)) :=
  match ts with
  | .anchor name :: .tag handle suffix :: rest => do
    let tag ← fullTag handles handle suffix
    return ⟨⟨some name, some tag⟩, rest, by simp only [List.length_cons]; omega⟩
  | .tag handle suffix :: .anchor name :: rest => do
    let tag ← fullTag handles handle suffix
    return ⟨⟨some name, some tag⟩, rest, by simp only [List.length_cons]; omega⟩
  | .anchor name :: rest => pure ⟨⟨some name, none⟩, rest, by simp only [List.length_cons]; omega⟩
  | .tag _ _ :: .broken fault :: _ => throw fault
  | .tag handle suffix :: rest => do
    let tag ← fullTag handles handle suffix
    return ⟨⟨none, some tag⟩, rest, by simp only [List.length_cons]; omega⟩
  | ts => pure ⟨{}, ts, by omega⟩

/-- Whether the first token is one of those at which nothing is left to read. -/
def stopsAt (stops : List Token) (ts : List Token) : Bool := ts.head?.any (stops.contains ·)

mutual

/-- A node: its place. -/
def readNode (scope : Scope) (place : Place) (ts : List Token) :
    Reading (Taken Nat ts.length) :=
  match ts with
  | .alias name :: rest => do
    match (← get).anchors.lookup name with
    | some node => return ⟨node, rest, by simp⟩
    | none => throw .malformed
  | ts => do
    let ⟨properties, here, h⟩ ← readProperties scope.handles ts
    match here, h with
    | .scalar text plain :: rest, h =>
      let node ← addScalar properties text plain
      return ⟨node, rest, by simp only [List.length_cons] at h; omega⟩
    | .flowSequence :: rest, h =>
      let node ← addList properties
      let ⟨items, after, h'⟩ ← readFlowItems (← scope.inner) rest
      fill node (.list items)
      return ⟨node, after, by simp only [List.length_cons] at h; omega⟩
    | .flowMapping :: rest, h =>
      let node ← addMapping properties
      let ⟨entries, after, h'⟩ ← readFlowEntries (← scope.inner) rest
      fill node (.mapping entries)
      return ⟨node, after, by simp only [List.length_cons] at h; omega⟩
    | here, h =>
      match here, h, place with
      | .item :: rest, h, .entry =>
        let node ← addList properties
        let ⟨items, after, h'⟩ ← readLooseItems (← scope.inner) rest
        fill node (.list items)
        return ⟨node, after, by simp only [List.length_cons] at h; omega⟩
      | .blockSequence :: rest, h, .block | .blockSequence :: rest, h, .entry =>
        let node ← addList properties
        let ⟨items, after, h'⟩ ← readBlockItems (← scope.inner) rest
        fill node (.list items)
        return ⟨node, after, by simp only [List.length_cons] at h; omega⟩
      | .blockMapping :: rest, h, .block | .blockMapping :: rest, h, .entry =>
        let node ← addMapping properties
        let ⟨entries, after, h'⟩ ← readBlockEntries (← scope.inner) rest
        fill node (.mapping entries)
        return ⟨node, after, by simp only [List.length_cons] at h; omega⟩
      | .broken fault :: _, _, _ => throw fault
      | here, _, _ =>
        if h : here.length < ts.length then
          return ⟨← addEmpty properties, here, h⟩
        else throw .malformed
termination_by (ts.length, 0)
decreasing_by all_goals (simp only [List.length_cons] at *; omega)

/-- A node, or the empty one if there is nothing left to read. -/
def readSlot (scope : Scope) (place : Place) (stops : List Token) (ts : List Token) :
    Reading (Taken Nat (ts.length + 1)) :=
  if stopsAt stops ts then do
    return ⟨← addEmpty {}, ts, by omega⟩
  else do
    let ⟨node, rest, h⟩ ← readNode scope place ts
    return ⟨node, rest, by omega⟩
termination_by (ts.length, 1)

/-- The value of an entry, or the empty node if there is none. -/
def readValue (scope : Scope) (place : Place) (stops : List Token) (ts : List Token) :
    Reading (Taken Nat (ts.length + 1)) :=
  match ts with
  | .value :: rest => do
    let ⟨node, after, h⟩ ← readSlot scope place stops rest
    return ⟨node, after, by simp only [List.length_cons]; omega⟩
  | .broken fault :: _ => throw fault
  | ts => do
    return ⟨← addEmpty {}, ts, by omega⟩
termination_by (ts.length, 2)

/-- The items of a flow sequence after its bracket or a comma. -/
def readFlowItems (scope : Scope) (ts : List Token) :
    Reading (Taken (List Nat) ts.length) :=
  match ts with
  | .flowSequenceEnd :: rest => pure ⟨[], rest, by simp⟩
  | .key :: rest => do
    let node ← addMapping {}
    let inner ← scope.inner
    let ⟨key, after, h⟩ ← readSlot inner .flow [.value, .comma, .flowSequenceEnd] rest
    let ⟨value, after', h'⟩ ← readValue inner .flow [.comma, .flowSequenceEnd] after
    fill node (.mapping [(key, value)])
    let ⟨items, done, h''⟩ ← readMoreFlowItems scope after'
    return ⟨node :: items, done, by simp only [List.length_cons]; omega⟩
  | ts => do
    let ⟨item, after, h⟩ ← readNode scope .flow ts
    let ⟨items, done, h'⟩ ← readMoreFlowItems scope after
    return ⟨item :: items, done, by omega⟩
termination_by (ts.length, 1)

/-- The items of a flow sequence after one of them. -/
def readMoreFlowItems (scope : Scope) (ts : List Token) :
    Reading (Taken (List Nat) ts.length) :=
  match ts with
  | .flowSequenceEnd :: rest => pure ⟨[], rest, by simp⟩
  | .comma :: rest => do
    let ⟨items, done, h⟩ ← readFlowItems scope rest
    return ⟨items, done, by simp only [List.length_cons]; omega⟩
  | ts => throw (faultAt ts)
termination_by (ts.length, 0)

/-- The entries of a flow mapping after its bracket or a comma. -/
def readFlowEntries (scope : Scope) (ts : List Token) :
    Reading (Taken (List (Nat × Nat)) ts.length) :=
  match ts with
  | .flowMappingEnd :: rest => pure ⟨[], rest, by simp⟩
  | .key :: rest => do
    let ⟨key, after, h⟩ ← readSlot scope .flow [.value, .comma, .flowMappingEnd] rest
    let ⟨value, after', h'⟩ ← readValue scope .flow [.comma, .flowMappingEnd] after
    let ⟨entries, done, h''⟩ ← readMoreFlowEntries scope after'
    return ⟨(key, value) :: entries, done, by simp only [List.length_cons]; omega⟩
  | ts => do
    let ⟨key, after, h⟩ ← readNode scope .flow ts
    let value ← addEmpty {}
    let ⟨entries, done, h'⟩ ← readMoreFlowEntries scope after
    return ⟨(key, value) :: entries, done, by omega⟩
termination_by (ts.length, 1)

/-- The entries of a flow mapping after one of them. -/
def readMoreFlowEntries (scope : Scope) (ts : List Token) :
    Reading (Taken (List (Nat × Nat)) ts.length) :=
  match ts with
  | .flowMappingEnd :: rest => pure ⟨[], rest, by simp⟩
  | .comma :: rest => do
    let ⟨entries, done, h⟩ ← readFlowEntries scope rest
    return ⟨entries, done, by simp only [List.length_cons]; omega⟩
  | ts => throw (faultAt ts)
termination_by (ts.length, 0)

/-- The items of a block sequence up to its end. -/
def readBlockItems (scope : Scope) (ts : List Token) :
    Reading (Taken (List Nat) ts.length) :=
  match ts with
  | .blockEnd :: rest => pure ⟨[], rest, by simp⟩
  | .item :: rest => do
    let ⟨item, after, h⟩ ← readSlot scope .block [.item, .blockEnd] rest
    let ⟨items, done, h'⟩ ← readBlockItems scope after
    return ⟨item :: items, done, by simp only [List.length_cons]; omega⟩
  | ts => throw (faultAt ts)
termination_by (ts.length, 0)

/-- The items of a list in a block mapping, after the dash of one. -/
def readLooseItems (scope : Scope) (ts : List Token) :
    Reading (Taken (List Nat) (ts.length + 1)) := do
  let ⟨item, after, h⟩ ← readSlot scope .block [.item, .key, .value, .blockEnd] ts
  match after, h with
  | .item :: rest, h =>
    let ⟨items, done, h'⟩ ← readLooseItems scope rest
    return ⟨item :: items, done, by simp only [List.length_cons] at h; omega⟩
  | .broken fault :: _, _ => throw fault
  | after, h => return ⟨[item], after, h⟩
termination_by (ts.length, 2)
decreasing_by
  · decreasing_tactic
  · simp only [List.length_cons] at h
    decreasing_tactic

/-- The entries of a block mapping up to its end. -/
def readBlockEntries (scope : Scope) (ts : List Token) :
    Reading (Taken (List (Nat × Nat)) ts.length) :=
  match ts with
  | .blockEnd :: rest => pure ⟨[], rest, by simp⟩
  | .key :: rest => do
    let ⟨key, after, h⟩ ← readSlot scope .entry [.key, .value, .blockEnd] rest
    let ⟨value, after', h'⟩ ← readValue scope .entry [.key, .value, .blockEnd] after
    let ⟨entries, done, h''⟩ ← readBlockEntries scope after'
    return ⟨(key, value) :: entries, done, by simp only [List.length_cons]; omega⟩
  | ts => throw (faultAt ts)
termination_by (ts.length, 0)

end

/-! ## Documents -/

/-- What a document declares in front of it. -/
structure Declarations where
  /-- The version has been named. -/
  versioned : Bool := false
  handles : Handles := []

/-- Reads the directives, of which none may be repeated. -/
def readDirectives (declared : Declarations) : List Token → Except Fault (Declarations × List Token)
  | .version major :: rest =>
    if declared.versioned || major != 1 then throw .malformed
    else readDirectives { declared with versioned := true } rest
  | .handle name stem :: rest =>
    if (declared.handles.lookup name).isSome then throw .malformed
    else readDirectives { declared with handles := declared.handles ++ [(name, stem)] } rest
  | .directive :: rest => readDirectives declared rest
  | .broken fault :: _ => throw fault
  | ts => pure (declared, ts)

/-- Nothing but marks of document ends may follow the one document. What does follow it is read as
the start of another one. -/
def readEnd : List Token → Except Fault Unit
  | [.streamEnd] => pure ()
  | .documentEnd :: rest => readEnd rest
  | ts => do
    let _ ← readDirectives {} ts
    throw .malformed

/-- Whether a token stands between documents. -/
def isBoundary : Token → Bool
  | .version _ | .handle .. | .directive | .documentStart | .documentEnd | .streamEnd => true
  | _ => false

/-- The node of a document that a mark starts. -/
def readMarked (handles : Handles) (ts : List Token) : Reading Nat :=
  if ts.head?.any isBoundary then do
    readEnd ts
    addEmpty {}
  else do
    let ⟨node, rest, _⟩ ← readNode ⟨handles, maxDepth⟩ .block ts
    readEnd rest
    return node

/-- The root of the one document of a stream; nothing if the stream is empty. -/
def readRoot (ts : List Token) : Reading (Option Nat) := do
  if ts == [.streamEnd] then return none
  let (declared, rest) ← readDirectives {} ts
  match rest with
  | .documentStart :: rest => some <$> readMarked (declared.handles ++ standardHandles) rest
  | _ =>
    if rest.length < ts.length then throw .malformed
    else
      let ⟨node, rest, _⟩ ← readNode ⟨standardHandles, maxDepth⟩ .block ts
      readEnd rest
      return some node

/-- The one document of a stream; nothing if the stream is empty. -/
def Document.ofTokens? (ts : List Token) : Except Fault (Option Document) := do
  let (root, drafts) ← (readRoot ts).run {}
  return root.map fun root => { nodes := drafts.nodes, root }

end InputBindings.Yaml
