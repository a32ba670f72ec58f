import InputBindings.Value.Basic

/-!
# Members of a set

The order in which a set lists its members. A number goes to the first free slot on its way through
a table of slots, and the slots are listed from the front on, so the order depends on the numbers
and a little on the order in which they came. Other members have no order of their own: a set with
one of them lists all as they came.
-/

namespace InputBindings

open Number (Double)

/-! ## Residues -/

/-- Numbers that are equal have equal residues for this modulus. -/
def residueModulus : Nat := 2305843009213693951

/-- A residue with a sign; -1 stands for no residue. -/
def signedResidue (negative : Bool) (n : Nat) : Int :=
  let residue : Int := n % residueModulus
  let signed := if negative then -residue else residue
  if signed = -1 then -2 else signed

/-- The residue of an infinite number. -/
def infiniteResidue : Nat := 314159

namespace Value

/-- The residue of a number. Doubling a residue 61 times leads back to it. -/
def residue? : Value → Option Int
  | .bool b => some (ofTruth b)
  | .int n => some (signedResidue (n < 0) n.natAbs)
  | .float (.finite negative mantissa exponent) =>
    some (signedResidue negative (mantissa * Nat.pow 2 (exponent % 61).toNat))
  | .float (.infinite negative) => some (signedResidue negative infiniteResidue)
  | _ => none

end Value

/-! ## Slots -/

/-- How many slots next to one are tried with it, if the table has so many behind it. -/
def slotRun : Nat := 9

/-- A count of slots beyond twice the count of members, or the least count for a few members. -/
def slotCount (members : Nat) : Nat :=
  if members < 5 then 8 else Nat.pow 2 (Nat.log2 (2 * members) + 1)

/-- The free slot for a residue, from a slot on. What is left of the residue tells which slot to try
next. -/
def freeSlot (slots : Array (Option Value)) : Nat → Nat → Nat → Option Nat
  | 0, _, _ => none
  | tries + 1, slot, left =>
    let run := if slot + slotRun < slots.size then slotRun + 1 else 1
    match ((List.range run).map (slot + ·)).find? fun n => (slots.getD n none).isNone with
    | some n => some n
    | none =>
      let left := left / 32
      freeSlot slots tries ((slot * 5 + 1 + left) % slots.size) left

/-- Puts a member with a residue into the table. In as many tries as there are slots, after the
residue is used up, each slot is tried. -/
def putSlot (slots : Array (Option Value)) (member : Value × Int) : Array (Option Value) :=
  let start := (member.2 % Nat.pow 2 64).toNat
  match freeSlot slots (slots.size + 13) (start % slots.size) start with
  | some n => slots.setIfInBounds n (some member.1)
  | none => slots

/-- The order in which a set lists its members, which differ from each other. -/
def Value.listed (members : List Value) : List Value :=
  match members.mapM fun v => v.residue?.map (v, ·) with
  | none => members
  | some numbers =>
    (numbers.foldl putSlot (Array.replicate (slotCount members.length) none)).toList.filterMap id

end InputBindings
