/-!
# Double-precision numbers

A number of 64-bit binary floating point is a sign, a mantissa below `2 ^ 53` and an exponent of two
from -1074 to 971; the mantissa reaches `2 ^ 52` unless the exponent is the least. So every number
has one form and equality is equality of forms. Arithmetic is exact on fractions of natural numbers
and rounded once, to nearest, ties to the even mantissa.
-/

namespace InputBindings.Number

/-- A double-precision number; a finite one stands for `± mantissa * 2 ^ exponent`. -/
inductive Double where
  | finite (negative : Bool) (mantissa : Nat) (exponent : Int)
  | infinite (negative : Bool)
  | nan
  deriving DecidableEq, Repr

namespace Double

/-- The least exponent of a number. -/
def leastExponent : Int := -1074

/-- The greatest exponent of a number. -/
def greatestExponent : Int := 971

/-- The mantissa of a power of two, unless the exponent is the least. -/
def leastMantissa : Nat := Nat.pow 2 52

def zero (negative : Bool) : Double := .finite negative 0 leastExponent

/-! ## Rounding: a fraction to the nearest number -/

/-- The fraction `num / den` divided by a power of two. -/
def scaleDown (num den : Nat) (exponent : Int) : Nat × Nat :=
  if 0 ≤ exponent then (num, den * Nat.pow 2 exponent.toNat)
  else (num * Nat.pow 2 (-exponent).toNat, den)

/-- The integer nearest to `num / den`, the even one of two. -/
def nearest (num den : Nat) : Nat :=
  let q := num / den
  let r := num % den
  if 2 * r < den then q else if den < 2 * r then q + 1 else q + q % 2

/-- The exponent that gives `num / den` a mantissa of 53 bits, or the least exponent. -/
def exponentOf (num den : Nat) : Int :=
  let guess : Int := (num.log2 : Int) - den.log2 - 52
  let scaled := scaleDown num den guess
  max leastExponent (if scaled.1 < leastMantissa * scaled.2 then guess - 1 else guess)

/-- The number nearest to `± num / den`. -/
def ofRatio (negative : Bool) (num den : Nat) : Double :=
  if num = 0 then zero negative
  else
    let exponent := exponentOf num den
    let scaled := scaleDown num den exponent
    let mantissa := nearest scaled.1 scaled.2
    let carried := decide (2 * leastMantissa ≤ mantissa)
    let mantissa := if carried then mantissa / 2 else mantissa
    let exponent := if carried then exponent + 1 else exponent
    if greatestExponent < exponent then .infinite negative
    else .finite negative mantissa exponent

/-- The number nearest to an integer. -/
def ofInt (n : Int) : Double := ofRatio (n < 0) n.natAbs 1

/-- The number nearest to `± digits * 10 ^ power`. Powers that are far out of range are not
computed: the result is infinite or zero. -/
def ofDecimal (negative : Bool) (digits : Nat) (power : Int) : Double :=
  let size : Int := (Nat.toDigits 10 digits).length
  if digits = 0 ∨ power + size < -400 then zero negative
  else if 400 < power + size then .infinite negative
  else if 0 ≤ power then ofRatio negative (digits * Nat.pow 10 power.toNat) 1
  else ofRatio negative digits (Nat.pow 10 (-power).toNat)

/-! ## Arithmetic -/

/-- The value of a finite number as a fraction. -/
def ratio (negative : Bool) (mantissa : Nat) (exponent : Int) : Int × Nat :=
  let magnitude := scaleDown mantissa 1 (-exponent)
  (if negative then -magnitude.1 else magnitude.1, magnitude.2)

def neg : Double → Double
  | .finite negative m e => .finite (!negative) m e
  | .infinite negative => .infinite (!negative)
  | .nan => .nan

/-- The sum. Numbers that cancel give the positive zero, two negative zeros the negative one. -/
def add : Double → Double → Double
  | .finite s m e, .finite t n f =>
    let a := ratio s m e
    let b := ratio t n f
    let sum := a.1 * b.2 + b.1 * a.2
    if sum = 0 then zero (s && t) else ofRatio (sum < 0) sum.natAbs (a.2 * b.2)
  | .infinite s, .infinite t => if s = t then .infinite s else .nan
  | .infinite s, .finite .. => .infinite s
  | .finite .., .infinite t => .infinite t
  | _, _ => .nan

def mul : Double → Double → Double
  | .finite s m e, .finite t n f =>
    let a := ratio s m e
    let b := ratio t n f
    ofRatio (s != t) (a.1 * b.1).natAbs (a.2 * b.2)
  | .infinite s, .infinite t => .infinite (s != t)
  | .infinite s, .finite t n _ => if n = 0 then .nan else .infinite (s != t)
  | .finite s m _, .infinite t => if m = 0 then .nan else .infinite (s != t)
  | _, _ => .nan

/-! ## Comparison: by value, and nothing compares with a number that is none -/

/-- Whether the first number is less than or equal to the second. -/
def le : Double → Double → Bool
  | .finite s m e, .finite t n f =>
    let a := ratio s m e
    let b := ratio t n f
    decide (a.1 * b.2 ≤ b.1 * a.2)
  | .infinite s, .infinite t => s || !t
  | .infinite s, .finite .. => s
  | .finite .., .infinite t => !t
  | _, _ => false

/-- Whether an integer is less than or equal to the number, without rounding it. -/
def intLe (n : Int) : Double → Bool
  | .finite s m e =>
    let a := ratio s m e
    decide (n * a.2 ≤ a.1)
  | .infinite s => !s
  | .nan => false

/-- Whether the number is exactly the integer. -/
def isInt (x : Double) (n : Int) : Bool :=
  match x with
  | .finite s m e =>
    let a := ratio s m e
    decide (n * a.2 = a.1)
  | _ => false

/-- Whether the number is a zero of either sign. -/
def isZero : Double → Bool
  | .finite _ m _ => m = 0
  | _ => false

/-- Whether two numbers have the same value. The zeros are one value, and so is what is none. -/
def same : Double → Double → Bool
  | .finite s m e, .finite t n f => (m == 0 && n == 0) || (s == t && m == n && e == f)
  | x, y => x == y

end Double

end InputBindings.Number
