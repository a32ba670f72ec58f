import InputBindings.Number.Double

/-!
# The shortest decimal of a double-precision number

Every number owns the decimals that are nearer to it than to its neighbours; a decimal halfway
between belongs to the one with the even mantissa. Of the decimals that a number owns, the shortest
are those with the fewest digits, and among these the nearest to the number is taken.

For each count of digits the only candidates are the two neighbours of the number on the decimal
grid of that many digits: a grid that meets the interval of a number meets it in one of them.
-/

namespace InputBindings.Number.Double

/-- A positive decimal: `digits * 10 ^ power`. -/
structure Decimal where
  digits : Nat
  power : Int
  deriving DecidableEq, Repr

/-- The fraction `num / den` divided by a power of ten. -/
def tenthsDown (num den : Nat) (power : Int) : Nat × Nat :=
  if 0 ≤ power then (num, den * Nat.pow 10 power.toNat)
  else (num * Nat.pow 10 (-power).toNat, den)

/-- The count of digits before the point: `10 ^ (p - 1) ≤ num / den < 10 ^ p`. -/
def pointOf (num den : Nat) : Int :=
  let guess : Int := (Nat.toDigits 10 num).length - (Nat.toDigits 10 den).length
  let scaled := tenthsDown num den guess
  if scaled.1 < scaled.2 then guess else guess + 1

/-- Four times the distance from `mantissa * 2 ^ exponent` to the ends of the interval that it owns,
in units of `2 ^ exponent`: a power of two has the lower neighbour half as near. -/
def margins (mantissa : Nat) (exponent : Int) : Nat × Nat :=
  (if mantissa = leastMantissa ∧ leastExponent < exponent then 1 else 2, 2)

/-- Whether the number `mantissa * 2 ^ exponent` owns the decimal. -/
def owns (mantissa : Nat) (exponent : Int) (d : Decimal) : Bool :=
  let margin := margins mantissa exponent
  -- the decimal as a fraction of a quarter of the unit of the mantissa
  let tens := tenthsDown d.digits 1 (-d.power)
  let quarters := scaleDown tens.1 tens.2 (exponent - 2)
  let low := (4 * mantissa - margin.1) * quarters.2
  let high := (4 * mantissa + margin.2) * quarters.2
  if mantissa % 2 = 0 then low ≤ quarters.1 && quarters.1 ≤ high
  else low < quarters.1 && quarters.1 < high

/-- The neighbours of the number on the grid of `count` digits, the nearer one first. -/
def candidates (mantissa : Nat) (exponent : Int) (count : Nat) : List Decimal :=
  let value := scaleDown mantissa 1 (-exponent)
  let power := pointOf value.1 value.2 - count
  let scaled := tenthsDown value.1 value.2 power
  let below := scaled.1 / scaled.2
  if nearest scaled.1 scaled.2 = below then [⟨below, power⟩, ⟨below + 1, power⟩]
  else [⟨below + 1, power⟩, ⟨below, power⟩]

/-- The shortest decimal of the number `mantissa * 2 ^ exponent`. Seventeen digits tell all numbers
apart, so the last grid always holds one. -/
def shortest (mantissa : Nat) (exponent : Int) : Decimal :=
  (((List.range 17).flatMap fun k => candidates mantissa exponent (k + 1)).find?
    (owns mantissa exponent)).getD ⟨mantissa, 0⟩

end InputBindings.Number.Double
