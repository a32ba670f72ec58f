import InputBindings.Calendar
import InputBindings.Number.Double

/-!
# Values

The data that manifests and settings are made of, before it is known to describe anything: null,
truth values, integers, double-precision numbers, text, bytes, dates, lists, tuples, sets and
mappings. A mapping keeps the order of its entries, and its keys are told apart by value: an
integer, a number and a truth value that are numerically equal are one key.

A collection may hold itself, directly or inside what it holds. Such a collection is a `knot`, and
where it occurs again inside itself there is a way `back` to it.
-/

namespace InputBindings

open Number (Double)

inductive Value where
  | null
  | bool (b : Bool)
  | int (n : Int)
  | float (x : Double)
  | str (s : String)
  | bytes (bs : List UInt8)
  | date (d : Date)
  | moment (m : Moment)
  | list (items : List Value)
  | tuple (items : List Value)
  | set (items : List Value)
  | mapping (entries : List (Value × Value))
  /-- A collection that holds itself, under a label of its own. -/
  | knot (label : Nat) (held : Value)
  /-- The collection of that label around this place. -/
  | back (label : Nat)
  deriving Repr, Inhabited

namespace Value

/-! ## Equality by value -/

/-- A truth value counts as zero or one. -/
def ofTruth (b : Bool) : Int := if b then 1 else 0

mutual

/-- Whether two values are equal; numbers of any kind are compared by their value, and collections
that hold themselves by their labels. -/
def same : Value → Value → Bool
  | .null, .null => true
  | .bool a, .bool b => a == b
  | .bool a, .int n => ofTruth a == n
  | .int n, .bool a => n == ofTruth a
  | .bool a, .float x => x.isInt (ofTruth a)
  | .float x, .bool a => x.isInt (ofTruth a)
  | .int m, .int n => m == n
  | .int n, .float x => x.isInt n
  | .float x, .int n => x.isInt n
  | .float x, .float y => x.same y
  | .str s, .str t => s == t
  | .bytes s, .bytes t => s == t
  | .date a, .date b => a == b
  | .moment a, .moment b => a.same b
  | .list xs, .list ys => sameItems xs ys
  | .tuple xs, .tuple ys => sameItems xs ys
  | .set xs, .set ys => xs.length == ys.length && sameMembers xs ys
  | .mapping xs, .mapping ys => xs.length == ys.length && sameEntries xs ys
  | .knot k _, .knot l _ => k == l
  | .back k, .back l => k == l
  | _, _ => false

def sameItems : List Value → List Value → Bool
  | [], [] => true
  | x :: xs, y :: ys => same x y && sameItems xs ys
  | _, _ => false

/-- Whether each of the first items is among the second ones, in any place. -/
def sameMembers : List Value → List Value → Bool
  | [], _ => true
  | x :: xs, ys => ys.any (fun y => same x y) && sameMembers xs ys

/-- Whether each entry of the first mapping is an entry of the second one, in any place. -/
def sameEntries : List (Value × Value) → List (Value × Value) → Bool
  | [], _ => true
  | (k, v) :: rest, ys => ys.any (fun y => same k y.1 && same v y.2) && sameEntries rest ys

end

/-! ## Collections that hold themselves -/

mutual

/-- Puts a collection where there is a way back to its label. -/
def tie (label : Nat) (whole : Value) : Value → Value
  | .list items => .list (tieAll label whole items)
  | .tuple items => .tuple (tieAll label whole items)
  | .mapping entries => .mapping (tieEntries label whole entries)
  | .knot l held => if l = label then .knot l held else .knot l (tie label whole held)
  | .back l => if l = label then whole else .back l
  | v => v

def tieAll (label : Nat) (whole : Value) : List Value → List Value
  | [] => []
  | v :: rest => tie label whole v :: tieAll label whole rest

def tieEntries (label : Nat) (whole : Value) : List (Value × Value) → List (Value × Value)
  | [] => []
  | (k, v) :: rest => (k, tie label whole v) :: tieEntries label whole rest

end

/-- A collection as it shows itself: what it holds, with the collection itself where there was a way
back to it. -/
def opened : Value → Value
  | .knot label held => tie label (.knot label held) held
  | v => v

/-! ## Truth -/

/-- Whether the value counts as given: null, false, zero and all that is empty do not. -/
def isGiven : Value → Bool
  | .null => false
  | .bool b => b
  | .int n => n != 0
  | .float x => !x.isZero
  | .str s => s != ""
  | .bytes bs => !bs.isEmpty
  | .list items => !items.isEmpty
  | .tuple items => !items.isEmpty
  | .set items => !items.isEmpty
  | .mapping entries => !entries.isEmpty
  | _ => true

/-- The text of a value that is text. -/
def text? : Value → Option String
  | .str s => some s
  | _ => none

/-- The truth value of a value that is one. -/
def bool? : Value → Option Bool
  | .bool b => some b
  | _ => none

/-! ## Mappings -/

/-- The value under a text key. -/
def lookup? (entries : List (Value × Value)) (key : String) : Option Value :=
  (entries.find? fun entry => same entry.1 (.str key)).map (·.2)

/-- The value under a text key, or null. -/
def lookup (entries : List (Value × Value)) (key : String) : Value :=
  (lookup? entries key).getD .null

/-- Sets the value under a key: an equal key keeps its place, a new one goes to the end. -/
def put (entries : List (Value × Value)) (key value : Value) : List (Value × Value) :=
  match entries with
  | [] => [(key, value)]
  | (k, v) :: rest => if same k key then (k, value) :: rest else (k, v) :: put rest key value

end Value

end InputBindings
