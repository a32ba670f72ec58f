import InputBindings.Error
import InputBindings.Keyed
import InputBindings.NativeType
import InputBindings.Similarity

/-!
# The catalog of known types

A catalog lists native types by their spelling, in the order in which they were registered. Until it
is frozen types can be registered and the table can be written to directly; from then on it never
changes. Registering a type again is allowed if the definition is the same.
-/

namespace InputBindings

structure Catalog where
  entries : List (String × NativeType) := []
  frozen : Bool := false
  deriving Repr, Inhabited

namespace Catalog

/-- The spellings in the catalog, in order. -/
def names (c : Catalog) : List String := c.entries.map (·.1)

def find? (c : Catalog) (name : String) : Option NativeType :=
  Keyed.get? c.entries name

/-- From here on the catalog does not change. -/
def freeze (c : Catalog) : Catalog := { c with frozen := true }

/-- Adds a type under its spelling. -/
def register (c : Catalog) (t : NativeType) : Except Error Catalog :=
  if c.frozen then throw (.frozenCatalog t.name)
  else
    match c.find? t.name with
    | some known => if known.same t then pure c else throw (.conflictingType t.name)
    | none => pure { c with entries := c.entries ++ [(t.name, t)] }

/-- Writes to the table directly, under any key. -/
def put (c : Catalog) (key : String) (t : NativeType) : Except Error Catalog :=
  if c.frozen then throw .frozenTable
  else pure { c with entries := Keyed.put c.entries key t }

/-- The known spellings most similar to a name on a scale, best first: the `limit` best of them as
far as they score at least `least`. -/
def suggestBy (scale : Similarity.Scale σ) (c : Catalog) (name : String) (limit : Nat)
    (least : Int) : List String :=
  if name = "" then []
  else
    let best := (Similarity.ranked scale name c.names).take limit
    (best.filter fun entry => scale.reaches entry.1 least).map (·.2)

/-- The known spellings most similar to a name. -/
def suggest (c : Catalog) (name : String) (limit : Nat := 3) (least : Int := 60) : List String :=
  c.suggestBy Similarity.doubles name limit least

/-- The type of that spelling. -/
def resolve (c : Catalog) (name : String) : Except Error NativeType :=
  match c.find? name with
  | some t => pure t
  | none => throw (.unknownType name (c.suggest name))

/-- A catalog of the given types. -/
def ofTypes (types : List NativeType) : Except Error Catalog :=
  types.foldlM register {}

end Catalog

end InputBindings
