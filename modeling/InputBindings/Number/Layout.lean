import InputBindings.Number.Shortest

/-!
# Writing numbers

A layout says which exponents are written out in positional notation and how wide an exponent is.
The standard layout writes the exponents -4 to 15 positionally, with at least one digit on either
side of the point, and other exponents with a sign and at least two digits.
-/

namespace InputBindings.Number

/-- How a decimal is laid out as text. -/
structure Layout where
  /-- The least exponent in positional notation. -/
  leastPositional : Int
  /-- The greatest exponent in positional notation. -/
  greatestPositional : Int
  /-- The least count of digits of an exponent. -/
  exponentWidth : Nat

/-- Exponents from -4 to 15 are written positionally, others with at least two digits. -/
def Layout.standard : Layout := ⟨-4, 15, 2⟩

/-- The digits without zeros at the end; zero keeps one digit. -/
def significant (digits : List Char) : List Char :=
  match (digits.reverse.dropWhile (· == '0')).reverse with
  | [] => ['0']
  | kept => kept

/-- Digits with the point after the first `point` of them, zeros filled in on either side. -/
def positional (digits : List Char) (point : Int) : List Char :=
  if point ≤ 0 then '0' :: '.' :: List.replicate (-point).toNat '0' ++ digits
  else
    let whole := point.toNat
    if digits.length ≤ whole then
      digits ++ List.replicate (whole - digits.length) '0' ++ ['.', '0']
    else digits.take whole ++ '.' :: digits.drop whole

/-- Digits with the point after the first one, and an exponent of at least `width` digits. -/
def scientific (width : Nat) (digits : List Char) (exponent : Int) : List Char :=
  let mark := Nat.toDigits 10 exponent.natAbs
  let padded := List.replicate (width - mark.length) '0' ++ mark
  let lead := match digits with
    | [] => []
    | [d] => [d]
    | d :: ds => d :: '.' :: ds
  lead ++ 'e' :: (if exponent < 0 then '-' else '+') :: padded

/-- A decimal in a layout. -/
def Layout.write (layout : Layout) (d : Double.Decimal) : List Char :=
  let all := Nat.toDigits 10 d.digits
  let point : Int := all.length + d.power
  let digits := significant all
  if d.digits = 0 then positional ['0'] 1
  else if layout.leastPositional ≤ point - 1 ∧ point - 1 ≤ layout.greatestPositional then
    positional digits point
  else scientific layout.exponentWidth digits (point - 1)

/-- The shortest text that reads back as the number. -/
def Double.text : Double → String
  | .finite negative m e =>
    let magnitude := Layout.standard.write (if m = 0 then ⟨0, 0⟩ else Double.shortest m e)
    String.ofList (if negative then '-' :: magnitude else magnitude)
  | .infinite negative => if negative then "-inf" else "inf"
  | .nan => "nan"

end InputBindings.Number
